import TypeDraft.Proofs.TypeScript.Spelling

/-!
# Reading the declarations of merged schemas

The text of each declaration has the tokens of a statement, and the text of several of them is
read as one statement for each.
-/

namespace TypeDraft.TypeScript

theorem occurs_append (pattern before after : List Char) :
    Text.occurs pattern (before ++ (pattern ++ after)) = true := by
  induction before with
  | nil =>
      cases pattern with
      | nil => cases after <;> rfl
      | cons c cs =>
          have hprefix : (c :: cs).isPrefixOf (c :: (cs ++ after)) = true :=
            List.isPrefixOf_iff_prefix.mpr (List.prefix_append (c :: cs) after)
          rw [List.nil_append, List.cons_append, Text.occurs, hprefix, Bool.true_or]
  | cons c cs ih => rw [List.cons_append, Text.occurs, ih, Bool.or_true]

namespace TypeExpr

def tokens : TypeExpr → List Token
  | primitive p => [.word p.text]
  | union ps => [.mark .bar].intercalate (ps.map fun p => [.word p.text])
  | annotated .date => [.word "Date", .mark .bar, .word "string"]
  | annotated _ => [.word "string"]
  | named name => [.word name]
  | array item =>
    if Text.occurs " | ".toList item.text.toList then
      .mark .openParen :: item.tokens ++ [.mark .closeParen, .mark .openBracket, .mark .closeBracket]
    else item.tokens ++ [.mark .openBracket, .mark .closeBracket]

/-- What a type is read as. -/
def alternatives : TypeExpr → List Ty
  | primitive p => [.named p.text]
  | union ps => ps.map fun p => .named p.text
  | annotated .date => [.named "Date", .named "string"]
  | annotated _ => [.named "string"]
  | named name => [.named name]
  | array item => [.array (.ofAlternatives item.alternatives)]

def ty (t : TypeExpr) : Ty := .ofAlternatives t.alternatives

/-- Whether the text of a type is one: names are words, and a union is not empty. -/
def IsReadable : TypeExpr → Prop
  | union ps => ps ≠ []
  | named name => IsWord name
  | array item => item.IsReadable
  | _ => True

theorem spells_primitive (p : Primitive) : Spells p.text.toList [.word p.text] := by
  apply spells_word
  cases p <;> decide

theorem spells_text {t : TypeExpr} (ht : t.IsReadable) : Spells t.text.toList t.tokens := by
  induction t with
  | primitive p => exact spells_primitive p
  | union ps =>
      have hbar : SpellsFully [' ', '|', ' '] [.mark .bar] := fun _ => rfl
      have h := spells_intercalate (by decide) hbar (fun p : Primitive => p.text.toList)
        (fun p => [.word p.text]) fun p (_ : p ∈ ps) => spells_primitive p
      simpa [text, tokens, String.toList_intercalate, List.map_map, Function.comp_def] using h
  | annotated p => cases p <;> exact fun _ _ => rfl
  | named name => exact spells_word ht
  | array item ih =>
      have ih := ih ht
      have hbrackets : SpellsFully ['[', ']'] [.mark .openBracket, .mark .closeBracket] :=
        fun _ => rfl
      have hclose : SpellsFully [')', '[', ']']
          [.mark .closeParen, .mark .openBracket, .mark .closeBracket] := fun _ => rfl
      have hopen : SpellsFully ['('] [.mark .openParen] := fun _ => rfl
      rw [text, arrayText, tokens]
      split
      · simpa using (hopen.append (ih.append (by decide) hclose)).spells
      · simpa using (ih.append (by decide) hbrackets).spells

/-- Where a text holds no bar, there is but one alternative. -/
theorem alternatives_eq_singleton {t : TypeExpr} (ht : t.IsReadable)
    (hbar : ¬ Text.occurs " | ".toList t.text.toList) : ∃ a, t.alternatives = [a] := by
  cases t with
  | primitive p => exact ⟨_, rfl⟩
  | named name => exact ⟨_, rfl⟩
  | array item => exact ⟨_, rfl⟩
  | annotated p =>
      cases p with
      | date => exact absurd (by decide) hbar
      | _ => exact ⟨_, rfl⟩
  | union ps =>
      match ps with
      | [] => exact absurd rfl ht
      | [p] => exact ⟨_, rfl⟩
      | p :: q :: ps =>
        refine absurd ?_ hbar
        rw [text, String.toList_intercalate, List.map_cons, List.map_cons, List.map_cons,
          List.map_cons, List.intercalate_cons_cons, List.append_assoc]
        exact occurs_append _ _ _

theorem readsAs_union {ps : List Primitive} (hps : ps ≠ []) :
    ReadsAs (union ps).tokens (union ps).alternatives := by
  rw [tokens, alternatives]
  induction ps with
  | nil => exact absurd rfl hps
  | cons p ps ih =>
      match ps with
      | [] => exact readsAs_word p.text
      | q :: ps =>
        have hrest := (readsAs_word p.text).bar (ih (List.cons_ne_nil q ps))
        simpa [List.intercalate_cons_cons] using hrest

theorem readsAs_tokens {t : TypeExpr} (ht : t.IsReadable) : ReadsAs t.tokens t.alternatives := by
  induction t with
  | primitive p => exact readsAs_word p.text
  | union ps => exact readsAs_union ht
  | annotated p => cases p <;> exact fun _ _ => rfl
  | named name => exact readsAs_word name
  | array item ih =>
      have ht : item.IsReadable := ht
      have hitem := ih ht
      rw [tokens, alternatives]
      split
      · exact hitem.arrayInParens
      · rename_i hbar
        obtain ⟨a, ha⟩ := alternatives_eq_singleton ht hbar
        rw [ha] at hitem ⊢
        exact hitem.array

theorem readType?_tokens {t : TypeExpr} (ht : t.IsReadable) : readType? t.tokens = some t.ty :=
  (readsAs_tokens ht).readType?_eq

theorem semicolon_not_mem_tokens (t : TypeExpr) : .mark .semicolon ∉ t.tokens := by
  induction t with
  | primitive p => simp [tokens]
  | union ps =>
      rw [tokens]
      induction ps with
      | nil => simp
      | cons p ps ih => cases ps <;> simp_all [List.intercalate_cons_cons]
  | annotated p => cases p <;> simp [tokens]
  | named name => simp [tokens]
  | array item ih =>
      rw [tokens]
      split <;> simp [ih]

theorem head?_tokens {t : TypeExpr} (ht : t.IsReadable) :
    t.tokens ≠ [] ∧ t.tokens.head? ≠ some (.mark .openBrace) := by
  induction t with
  | primitive p => simp [tokens]
  | union ps =>
      match ps with
      | [] => exact absurd rfl ht
      | [p] => simp [tokens]
      | p :: q :: ps => simp [tokens, List.intercalate_cons_cons]
  | annotated p => cases p <;> simp [tokens]
  | named name => simp [tokens]
  | array item ih =>
      obtain ⟨hne, hhead⟩ := ih ht
      obtain ⟨u, us, hus⟩ := List.exists_cons_of_ne_nil hne
      rw [tokens]
      split
      · simp
      · rw [hus] at hhead ⊢
        simpa using hhead

end TypeExpr

/-! ## Statements -/

namespace Member

def written (m : Member) : WrittenProperty := ⟨m.key, m.isReadonly, m.isOptional, m.type.tokens⟩

def property (m : Member) : Property := ⟨m.key, m.type.ty, m.isOptional⟩

def IsReadable (m : Member) : Prop := OnOneLine m.key ∧ m.type.IsReadable

theorem spells_text {m : Member} (hm : m.IsReadable) : Spells m.text.toList m.written.tokens := by
  obtain ⟨key, type, isOptional, isReadonly⟩ := m
  have hrest := spells_propertyText hm.1 (TypeExpr.spells_text hm.2) isOptional
  have hblank : SpellsFully [' ', ' '] [] := fun _ => rfl
  have hword : SpellsFully "  readonly ".toList [.word "readonly"] := fun _ => rfl
  cases isReadonly
  · simpa [text, propertyText, written, String.append_assoc] using (hblank.append hrest).spells
  · have htokens : (written ⟨key, type, isOptional, true⟩).tokens =
        [.word "readonly"] ++ WrittenProperty.tokens ⟨key, false, isOptional, type.tokens⟩ := rfl
    rw [htokens]
    simpa [text, propertyText, String.append_assoc] using (hword.append hrest).spells

theorem property?_written {m : Member} (hm : m.IsReadable) :
    m.written.property? = some m.property := by
  rw [WrittenProperty.property?, written, TypeExpr.readType?_tokens hm.2]
  rfl

theorem mapM_property?_written {members : List Member} (h : ∀ m ∈ members, m.IsReadable) :
    (members.map written).mapM WrittenProperty.property? = some (members.map property) := by
  induction members with
  | nil => rfl
  | cons m ms ih =>
      have ih := ih fun n hn => h n (List.mem_cons_of_mem m hn)
      rw [List.map_cons, List.mapM_cons, property?_written (h m List.mem_cons_self), ih]
      rfl

end Member

namespace Declaration

def written (style : Style) : Declaration → WrittenStatement
  | shape name members isOpen => .object style name (members.map Member.written) isOpen
  | synonym name type => .synonym name type.tokens
  | enum name members => .enumeration name members

def statement : Declaration → Statement
  | shape name members isOpen => ⟨name, .object (members.map Member.property) isOpen⟩
  | synonym name type => ⟨name, .synonym type.ty⟩
  | enum name members => ⟨name, .enumeration (members.map Prod.snd)⟩

@[simp] theorem statement_name (d : Declaration) : d.statement.name = d.name := by
  cases d <;> rfl

/-- Whether the text of a declaration is one. -/
def IsReadable : Declaration → Prop
  | shape name members isOpen =>
    IsWord name ∧ (∀ m ∈ members, m.IsReadable) ∧ (isOpen → members ≠ [])
  | synonym name type => IsWord name ∧ type.IsReadable
  | enum name members => IsWord name ∧ members ≠ [] ∧ ∀ m ∈ members, IsWord m.1

theorem isRegular_written {d : Declaration} (hd : d.IsReadable) (style : Style) :
    (d.written style).IsRegular := by
  cases d with
  | shape name members isOpen =>
      refine ⟨fun p hp => ?_, fun hopen h => hd.2.2 hopen (List.map_eq_nil_iff.mp h)⟩
      obtain ⟨m, _, rfl⟩ := List.mem_map.mp hp
      exact TypeExpr.semicolon_not_mem_tokens m.type
  | synonym name type =>
      obtain ⟨hne, hhead⟩ := TypeExpr.head?_tokens hd.2
      refine ⟨TypeExpr.semicolon_not_mem_tokens type, hne, fun us hus => ?_⟩
      exact absurd (by rw [hus, List.head?_cons]) hhead
  | enum name members => exact hd.2.1

theorem statement?_written {d : Declaration} (hd : d.IsReadable) (style : Style) :
    (d.written style).statement? = some d.statement := by
  cases d with
  | shape name members isOpen =>
      rw [written, WrittenStatement.statement?, Member.mapM_property?_written hd.2.1]
      rfl
  | synonym name type =>
      rw [written, WrittenStatement.statement?, TypeExpr.readType?_tokens hd.2]
      rfl
  | enum name members => rfl

/-- The lines between the braces of an object type, each with its tokens. -/
def lines (members : List Member) (isOpen : Bool) : List (List Char × List Token) :=
  members.map (fun m => (m.text.toList, m.written.tokens)) ++
    if isOpen then
      [("  [key: string]: unknown;".toList, .mark .openBracket :: signatureTokens)]
    else []

theorem spells_lines {members : List Member} (hm : ∀ m ∈ members, m.IsReadable) (isOpen : Bool) :
    ∀ l ∈ lines members isOpen, Spells l.1 l.2 := by
  intro l hl
  rw [lines, List.mem_append] at hl
  rcases hl with hl | hl
  · obtain ⟨m, hmem, rfl⟩ := List.mem_map.mp hl
    exact Member.spells_text (hm m hmem)
  · cases isOpen
    · cases hl
    · obtain rfl := List.mem_singleton.mp hl
      exact fun _ _ => rfl

theorem bodyTokens_eq (members : List Member) (isOpen : Bool) :
    WrittenStatement.bodyTokens (members.map Member.written) isOpen =
      [].intercalate ((lines members isOpen).map Prod.snd) ++ [.mark .closeBrace] := by
  rw [intercalate_nil_left, WrittenStatement.bodyTokens, lines]
  cases isOpen <;> simp [List.flatMap_map, List.flatten_eq_flatMap, List.map_map]

theorem spells_shape {name : String} {members : List Member} {isOpen : Bool}
    (hd : (shape name members isOpen).IsReadable) (style : Style) :
    SpellsFully ((shape name members isOpen).text style).toList
      (((shape name members isOpen).written style).tokens false) := by
  have hheader := spells_header hd.1 style
  have hclose : SpellsFully ['\x7d'] [.mark .closeBrace] := fun _ => rfl
  have hbreak : SpellsFully ['\n'] [] := fun _ => rfl
  have hend : SpellsFully ['\n', '\x7d'] [.mark .closeBrace] := fun _ => rfl
  have hlines := spells_intercalate (by decide) hbreak Prod.fst Prod.snd
    (spells_lines hd.2.1 isOpen)
  have hbody := hbreak.append (hlines.append (by decide) hend)
  have htokens : ((shape name members isOpen).written style).tokens false =
      styleTokens style name ++ WrittenStatement.bodyTokens (members.map Member.written) isOpen :=
    rfl
  obtain ⟨texts, htexts⟩ : ∃ texts, texts =
      members.map Member.text ++ if isOpen then ["  [key: string]: unknown;"] else [] := ⟨_, rfl⟩
  have hchars : (lines members isOpen).map Prod.fst = texts.map String.toList := by
    rw [htexts, lines]
    cases isOpen <;> simp
  have htext : (shape name members isOpen).text style =
      if texts.isEmpty then header style name ++ "\x7d"
      else header style name ++ "\n" ++ "\n".intercalate texts ++ "\n\x7d" := by rw [htexts]; rfl
  rw [htokens, bodyTokens_eq, htext]
  split
  · rename_i hempty
    have hnil : lines members isOpen = [] := by
      rw [List.isEmpty_iff.mp hempty] at hchars
      exact List.map_eq_nil_iff.mp hchars
    rw [hnil]
    simpa using hheader.append hclose
  · rw [hchars] at hbody
    simpa [String.toList_intercalate] using hheader.append hbody

theorem spells_text {d : Declaration} (hd : d.IsReadable) (style : Style) :
    SpellsFully (d.text style).toList ((d.written style).tokens false) := by
  cases d with
  | shape name members isOpen => exact spells_shape hd style
  | synonym name type =>
      have htype : SpellsFully "type ".toList [.word "type"] := fun _ => rfl
      have hequals : SpellsFully [' ', '=', ' '] [.mark .equals] := fun _ => rfl
      have hend : SpellsFully [';'] [.mark .semicolon] := fun _ => rfl
      have hrest := hequals.append ((TypeExpr.spells_text hd.2).append (by decide) hend)
      simpa [text, written, WrittenStatement.tokens] using
        htype.append ((spells_word hd.1).append (by decide) hrest)
  | enum name members =>
      have henum : SpellsFully "enum ".toList [.word "enum"] := fun _ => rfl
      have hopen : SpellsFully [' ', '\x7b', '\n'] [.mark .openBrace] := fun _ => rfl
      have hcomma : SpellsFully [',', '\n'] [.mark .comma] := fun _ => rfl
      have hend : SpellsFully ['\n', '\x7d'] [.mark .closeBrace] := fun _ => rfl
      have hmembers := spells_intercalate (by decide) hcomma
        (fun m : String × String => (enumLine m).toList) enumMemberTokens
        fun m hm => spells_enumLine (hd.2.2 m hm)
      have hrest := hopen.append (hmembers.append (by decide) hend)
      simpa [text, written, WrittenStatement.tokens, String.toList_intercalate, List.map_map,
        Function.comp_def] using henum.append ((spells_word hd.1).append (by decide) hrest)

/-- Declarations with empty lines between them are read as one statement each. -/
theorem readModule?_render {ds : List Declaration} (hds : ∀ d ∈ ds, d.IsReadable)
    (style : Style) :
    readModule? ("\n\n".intercalate (ds.map (text style))) = some (ds.map statement) := by
  have hspells := spells_statements (text style) (written style) false fun d hd =>
    (spells_text (hds d hd) style).spells
  have hregular : ∀ s ∈ ds.map (written style), s.IsRegular := by
    intro s hs
    obtain ⟨d, hd, rfl⟩ := List.mem_map.mp hs
    exact isRegular_written (hds d hd) style
  rw [readModule?_of_spells hregular hspells]
  clear hspells hregular
  induction ds with
  | nil => rfl
  | cons d ds ih =>
      rw [List.map_cons, List.mapM_cons, statement?_written (hds d List.mem_cons_self),
        ih fun e he => hds e (List.mem_cons_of_mem d he)]
      rfl

end Declaration

end TypeDraft.TypeScript
