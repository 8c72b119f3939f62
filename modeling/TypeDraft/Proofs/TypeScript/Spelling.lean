import TypeDraft.Proofs.TypeScript.Written

/-!
# The spelling of names, keys and values

What the writers make of names, of keys and of the values of enumerations is read back as what it
was made from.
-/

namespace TypeDraft.TypeScript

theorem spells_intercalate {α : Type} {c : Char} {sep : List Char} {us : List Token}
    (hc : isWordChar c = false) (hsep : SpellsFully (c :: sep) us) (chars : α → List Char)
    (toks : α → List Token) {xs : List α} (h : ∀ x ∈ xs, Spells (chars x) (toks x)) :
    Spells ((c :: sep).intercalate (xs.map chars)) (us.intercalate (xs.map toks)) := by
  induction xs with
  | nil => exact spellsFully_nil.spells
  | cons x xs ih =>
      have hx := h x List.mem_cons_self
      match xs with
      | [] =>
        simp only [List.map_cons, List.map_nil, List.intercalate_singleton]
        exact hx
      | y :: xs =>
        have ih := ih fun z hz => h z (List.mem_cons_of_mem x hz)
        simp only [List.map_cons, List.intercalate_cons_cons] at ih ⊢
        rw [List.append_assoc, List.append_assoc]
        exact hx.append_spells hc (hsep.append_spells ih)

theorem intercalate_nil_left {α : Type} (xs : List (List α)) : [].intercalate xs = xs.flatten := by
  induction xs with
  | nil => rfl
  | cons x xs ih =>
      match xs with
      | [] => simp
      | y :: xs => simp [List.intercalate_cons_cons, ih]

theorem spells_statements {α : Type} (text : α → String) (written : α → WrittenStatement)
    (isExported : Bool) {xs : List α}
    (h : ∀ x ∈ xs, Spells (text x).toList ((written x).tokens isExported)) :
    Spells ("\n\n".intercalate (xs.map text)).toList
      ((xs.map written).flatMap (·.tokens isExported)) := by
  have hbreaks : SpellsFully ['\n', '\n'] [] := fun _ => rfl
  have htexts := spells_intercalate (by decide) hbreaks (fun x => (text x).toList)
    (fun x => (written x).tokens isExported) h
  rw [intercalate_nil_left] at htexts
  simpa [String.toList_intercalate, List.map_map, Function.comp_def, List.flatMap_def] using htexts

theorem spells_header {name : String} (h : IsWord name) (style : Style) :
    SpellsFully (Declaration.header style name).toList (styleTokens style name) := by
  have hname := spells_word h
  have hinterface : SpellsFully "interface ".toList [.word "interface"] := fun _ => rfl
  have htype : SpellsFully "type ".toList [.word "type"] := fun _ => rfl
  have hbrace : SpellsFully [' ', '\x7b'] [.mark .openBrace] := fun _ => rfl
  have hequals : SpellsFully [' ', '=', ' ', '\x7b'] [.mark .equals, .mark .openBrace] :=
    fun _ => rfl
  cases style
  · simpa [Declaration.header, styleTokens] using hinterface.append (hname.append (by decide) hbrace)
  · simpa [Declaration.header, styleTokens] using htype.append (hname.append (by decide) hequals)

/-! ## Keys -/

/-- A key that does not run over a line. -/
def OnOneLine (s : String) : Prop := ∀ c ∈ s.toList, isLineBreak c = false

theorem withoutFinalBreak_of_onOneLine {s : String} (h : OnOneLine s) :
    Text.withoutFinalBreak s.toList = s.toList := by
  rw [Text.withoutFinalBreak, if_neg]
  intro hlast
  have hbreak := h '\n' (List.mem_of_getLast? hlast)
  exact absurd hbreak (by decide)

theorem isWord_of_isPropertyName {s : String} (h : OnOneLine s)
    (hs : Name.isPropertyName s = true) : IsWord s := by
  rwa [Name.isPropertyName, withoutFinalBreak_of_onOneLine h] at hs

theorem escapes_self {c : Char} (hquote : c ≠ '"') (hslash : c ≠ '\\')
    (hbreak : isLineBreak c = false) : Escapes [c] c := by
  intro before rest
  have hstep : LexMode.step (.quoted before) c = (.quoted (before ++ [c]), []) := by
    rw [LexMode.step, if_neg hquote, if_neg hslash, if_neg (by simp [hbreak])]
  rw [List.singleton_append, tokensFrom, hstep, List.nil_append]

theorem escapes_escapeQuoted {c : Char} (h : isLineBreak c = false) :
    Escapes (Name.escapeQuoted c) c := by
  by_cases hslash : c = '\\'
  · subst hslash
    exact fun _ _ => rfl
  by_cases hquote : c = '"'
  · subst hquote
    exact fun _ _ => rfl
  have hself : Name.escapeQuoted c = [c] := by simp [Name.escapeQuoted, hslash, hquote]
  rw [hself]
  exact escapes_self hquote hslash h

theorem spells_quoteProperty {key : String} (h : OnOneLine key) :
    Spells (Name.quoteProperty key).toList [keyToken key] := by
  rw [Name.quoteProperty, keyToken]
  split
  · rename_i hname
    exact spells_word (isWord_of_isPropertyName h hname)
  · rw [String.toList_ofList]
    exact (spellsFully_quoted fun c hc => escapes_escapeQuoted (h c hc)).spells

/-- The text of a property behind what may mark it as read-only. -/
def propertyText (key : String) (isOptional : Bool) (type : String) : String :=
  Name.quoteProperty key ++ (if isOptional then "?" else "") ++ ": " ++ type ++ ";"

theorem spells_propertyText {key type : String} {ts : List Token} (hkey : OnOneLine key)
    (htype : Spells type.toList ts) (isOptional : Bool) :
    SpellsFully (propertyText key isOptional type).toList
      (WrittenProperty.tokens ⟨key, false, isOptional, ts⟩) := by
  have hsemicolon : SpellsFully [';'] [.mark .semicolon] := fun _ => rfl
  have hend : SpellsFully (type.toList ++ [';']) (ts ++ [.mark .semicolon]) :=
    htype.append (by decide) hsemicolon
  have hcolon : SpellsFully [':', ' '] [.mark .colon] := fun _ => rfl
  have hoptional : SpellsFully ['?', ':', ' '] [.mark .question, .mark .colon] := fun _ => rfl
  cases isOptional
  · have h := (spells_quoteProperty hkey).append (by decide) (hcolon.append hend)
    simpa [propertyText, WrittenProperty.tokens, WrittenProperty.head] using h
  · have h := (spells_quoteProperty hkey).append (by decide) (hoptional.append hend)
    simpa [propertyText, WrittenProperty.tokens, WrittenProperty.head] using h

/-! ## Values of enumerations -/

theorem hexDigit?_digitChar {n : Nat} (h : n < 16) : hexDigit? (Nat.digitChar n) = some n := by
  have hall : ∀ m : Fin 16, hexDigit? (Nat.digitChar m) = some m.val := by decide
  exact hall ⟨n, h⟩

theorem escapes_escapeUnit {c : Char} (h : c.toNat < 0x20) :
    Escapes (Json.escapeUnit c.toNat) c := by
  intro before rest
  have hdigit : ∀ (m n left : Nat) (cs : List Char), m < 16 →
      tokensFrom (.code before n (left + 1)) (Nat.digitChar m :: cs) =
        tokensFrom (.code before (16 * n + m) left) cs := by
    intro m n left cs hm
    rw [tokensFrom]
    simp [LexMode.step, LexMode.stepCode, hexDigit?_digitChar hm]
  have hlast : ∀ (m n : Nat) (cs : List Char), m < 16 → 16 * n + m = c.toNat →
      tokensFrom (.code before n 0) (Nat.digitChar m :: cs) =
        tokensFrom (.quoted (before ++ [c])) cs := by
    intro m n cs hm hn
    have hvalid : c.toNat.isValidChar := c.valid
    rw [tokensFrom]
    simp [LexMode.step, LexMode.stepCode, hexDigit?_digitChar hm, hn, hvalid]
  have hopen : ∀ cs, tokensFrom (.quoted before) ('\\' :: 'u' :: cs) =
      tokensFrom (.code before 0 3) cs := fun _ => rfl
  rw [Json.escapeUnit, Json.hex4, List.cons_append, List.cons_append, hopen]
  simp only [List.map_cons, List.map_nil, List.cons_append, List.nil_append]
  rw [hdigit _ _ _ _ (Nat.mod_lt _ (by decide)), hdigit _ _ _ _ (Nat.mod_lt _ (by decide)),
    hdigit _ _ _ _ (Nat.mod_lt _ (by decide)), hlast _ _ _ (Nat.mod_lt _ (by decide)) (by omega)]

theorem escapes_escapeChar (c : Char) : Escapes (Json.escapeChar .unicode c) c := by
  unfold Json.escapeChar
  split
  any_goals exact fun _ _ => rfl
  rename_i hquote hslash hfeed hreturn _ _ _
  split
  · exact escapes_escapeUnit ‹_›
  · have hbreak : isLineBreak c = false := by
      rw [isLineBreak, Bool.or_eq_false_iff]
      exact ⟨beq_false_of_ne hfeed, beq_false_of_ne hreturn⟩
    rw [if_neg (by simp)]
    exact escapes_self hquote hslash hbreak

theorem spellsFully_quote (s : String) :
    SpellsFully (Json.quote .unicode s).toList [.quoted s] := by
  rw [Json.quote, String.toList_ofList]
  exact spellsFully_quoted fun c _ => escapes_escapeChar c

theorem spells_enumLine {m : String × String} (h : IsWord m.1) :
    Spells (Declaration.enumLine m).toList (enumMemberTokens m) := by
  have hblank : SpellsFully [' ', ' '] [] := fun _ => rfl
  have hequals : SpellsFully [' ', '=', ' '] [.mark .equals] := fun _ => rfl
  have hvalue := hequals.append (spellsFully_quote m.2)
  have hline := hblank.append ((spells_word h).append (by decide) hvalue)
  simpa [Declaration.enumLine, enumMemberTokens] using hline.spells

end TypeDraft.TypeScript
