import Mathlib.Data.List.Pairwise
import TypeDraft.Proofs.Name.Word
import TypeDraft.Proofs.TypeScript.Spelling
import TypeDraft.TypeScript.Advanced
import TypeDraft.TypeScript.Basic
import TypeDraft.Zod

/-!
# Keys of properties

A key is written as a word where it is one and between double quotes elsewhere, and it is read back
just if it stands on one line. A word with a line feed behind it is written as it is and read as the
word alone; any other line break ends a quoted string too early.
-/

namespace TypeDraft.TypeScript

open Name (quoteProperty escapeQuoted isPropertyName)

/-- The key that a token is. -/
def Token.key? : Token → Option String
  | .word s | .quoted s => some s
  | _ => none

/-- The key that a text is, if it is nothing else. -/
def readKey? (text : String) : Option String :=
  match tokens text.toList with
  | [t] => t.key?
  | _ => none

/-- A string between double quotes, on one line, that stands for some text. -/
structure IsLiteralOf (value text : String) : Prop where
  quotes : ∃ body, text.toList = '"' :: body ++ ['"']
  onOneLine : OnOneLine text
  tokens : TypeScript.tokens text.toList = [.quoted value]

/-- A text that can stand for a key in a declaration: the key itself, if it is a word, or a string
that stands for it. -/
def IsKeyText (key text : String) : Prop := IsWord text ∧ text = key ∨ IsLiteralOf key text

theorem IsKeyText.readKey? {key text : String} (h : IsKeyText key text) :
    readKey? text = some key := by
  rcases h with ⟨hword, rfl⟩ | h
  · rw [TypeScript.readKey?, (spells_word hword).tokens_eq]
    rfl
  · rw [TypeScript.readKey?, h.tokens]
    rfl

/-! ## Which keys are written as they are -/

theorem isPropertyName_iff {key : String} :
    isPropertyName key = true ↔ IsWord key ∨ ∃ word, IsWord word ∧ key = word ++ "\n" :=
  Name.headThenAll_withoutFinalBreak_iff (by decide) (by decide)

theorem not_isWordChar_of_isLineBreak {c : Char} (h : isLineBreak c = true) :
    isWordHead c = false ∧ isWordChar c = false := by
  rw [isLineBreak, Bool.or_eq_true, beq_iff_eq, beq_iff_eq] at h
  rcases h with rfl | rfl <;> decide

theorem IsWord.onOneLine {key : String} (h : IsWord key) : OnOneLine key := by
  intro c hc
  rw [Bool.eq_false_iff]
  intro hbreak
  obtain ⟨hhead, hlater⟩ := not_isWordChar_of_isLineBreak hbreak
  exact Name.not_mem_of_headThenAll h hhead hlater hc

theorem quoteProperty_of_word {word : String} (h : IsWord word) :
    quoteProperty word = word ∧ quoteProperty (word ++ "\n") = word ++ "\n" := by
  rw [quoteProperty, quoteProperty, if_pos (isPropertyName_iff.mpr (.inl h)),
    if_pos (isPropertyName_iff.mpr (.inr ⟨word, h, rfl⟩))]
  exact ⟨rfl, rfl⟩

theorem not_onOneLine_append_break (word : String) : ¬ OnOneLine (word ++ "\n") := by
  intro h
  have hbreak := h '\n' (by simp [String.toList_append])
  exact absurd hbreak (by decide)

/-- There are three sorts of keys: those on one line, words with a line feed behind them, and those
that are broken within quotes. -/
theorem key_cases (key : String) : OnOneLine key ∨ (∃ word, IsWord word ∧ key = word ++ "\n") ∨
    ¬ OnOneLine key ∧ isPropertyName key = false := by
  by_cases hline : OnOneLine key
  · exact .inl hline
  cases hname : isPropertyName key with
  | false => exact .inr (.inr ⟨hline, rfl⟩)
  | true =>
      rcases isPropertyName_iff.mp hname with hword | hword
      · exact absurd hword.onOneLine hline
      · exact .inr (.inl hword)

/-! ## How each is read -/

theorem isLineBreak_of_mem_escapeQuoted {c d : Char} (hd : isLineBreak d = false)
    (hc : c ∈ escapeQuoted d) : isLineBreak c = false := by
  rw [escapeQuoted] at hc
  split at hc
  · rcases List.mem_cons.mp hc with rfl | hc
    · decide
    · exact List.mem_singleton.mp hc ▸ hd
  · exact List.mem_singleton.mp hc ▸ hd

theorem isKeyText_quoteProperty {key : String} (h : OnOneLine key) :
    IsKeyText key (quoteProperty key) := by
  cases hname : isPropertyName key with
  | true =>
      have hword := isWord_of_isPropertyName h hname
      rw [(quoteProperty_of_word hword).1]
      exact .inl ⟨hword, rfl⟩
  | false =>
      have hchars : (quoteProperty key).toList =
          '"' :: key.toList.flatMap escapeQuoted ++ ['"'] := by
        rw [quoteProperty, hname, if_neg Bool.false_ne_true, String.toList_ofList]
      have hline : OnOneLine (quoteProperty key) := by
        intro c hc
        rw [hchars, List.mem_append, List.mem_cons, List.mem_singleton, List.mem_flatMap] at hc
        rcases hc with (rfl | ⟨d, hd, hc⟩) | rfl
        · decide
        · exact isLineBreak_of_mem_escapeQuoted (h d hd) hc
        · decide
      have htokens := (spells_quoteProperty h).tokens_eq
      rw [keyToken, hname, if_neg Bool.false_ne_true] at htokens
      exact .inr ⟨⟨_, hchars⟩, hline, htokens⟩

/-- A line break within quotes is no part of a string. -/
theorem tokensFrom_quoted_break {cs : List Char} (h : ∃ c ∈ cs, isLineBreak c = true)
    (before rest : List Char) :
    ∃ ts, tokensFrom (.quoted before) (cs.flatMap escapeQuoted ++ rest) = .stray :: ts := by
  induction cs generalizing before with
  | nil =>
      obtain ⟨c, hc, -⟩ := h
      cases hc
  | cons c cs ih =>
      rw [List.flatMap_cons, List.append_assoc]
      cases hbreak : isLineBreak c with
      | true =>
          have hstep : ∀ d, d = '\n' ∨ d = '\r' → ∀ rest,
              ∃ ts, tokensFrom (.quoted before) (escapeQuoted d ++ rest) = .stray :: ts := by
            rintro d (rfl | rfl) rest <;> exact ⟨tokensFrom .gap rest, rfl⟩
          rw [isLineBreak, Bool.or_eq_true, beq_iff_eq, beq_iff_eq] at hbreak
          exact hstep c hbreak _
      | false =>
          rw [escapes_escapeQuoted hbreak]
          obtain ⟨d, hd, hbreak'⟩ := h
          rcases List.mem_cons.mp hd with rfl | hd
          · rw [hbreak] at hbreak'
            cases hbreak'
          · exact ih ⟨d, hd, hbreak'⟩ _

theorem tokens_quoteProperty_broken {key : String} (hline : ¬ OnOneLine key)
    (hname : isPropertyName key = false) (rest : List Char) :
    ∃ ts, tokens ((quoteProperty key).toList ++ rest) = .stray :: ts := by
  have hbreak : ∃ c ∈ key.toList, isLineBreak c = true := by
    rw [OnOneLine] at hline
    push Not at hline
    obtain ⟨c, hc, hbreak⟩ := hline
    exact ⟨c, hc, by simpa using hbreak⟩
  rw [quoteProperty, hname, if_neg Bool.false_ne_true, String.toList_ofList, List.append_assoc]
  exact tokensFrom_quoted_break hbreak [] _

theorem spells_quoteProperty_break {word : String} (h : IsWord word) :
    Spells (quoteProperty (word ++ "\n")).toList [.word word] := by
  have hbreak : SpellsFully ['\n'] [] := fun _ => rfl
  rw [(quoteProperty_of_word h).2, String.toList_append]
  exact ((spells_word h).append (by decide) hbreak).spells

theorem readKey?_of_spells {text : String} {t : Token} (h : Spells text.toList [t]) :
    readKey? text = t.key? := by
  rw [readKey?, h.tokens_eq]

theorem readKey?_quoteProperty_broken {key : String} (hline : ¬ OnOneLine key)
    (hname : isPropertyName key = false) : readKey? (quoteProperty key) = none := by
  obtain ⟨ts, hts⟩ := tokens_quoteProperty_broken hline hname []
  rw [List.append_nil] at hts
  rw [readKey?, hts]
  cases ts <;> rfl

/-- What a key is read as, if anything: itself on one line, and a word without the line feed
behind it. -/
theorem readKey?_quoteProperty_eq_some_iff {key name : String} :
    readKey? (quoteProperty key) = some name ↔
      OnOneLine key ∧ name = key ∨ IsWord name ∧ key = name ++ "\n" := by
  rcases key_cases key with hline | ⟨word, hword, rfl⟩ | ⟨hline, hname⟩
  · rw [(isKeyText_quoteProperty hline).readKey?, Option.some.injEq]
    constructor
    · rintro rfl
      exact .inl ⟨hline, rfl⟩
    · rintro (⟨-, rfl⟩ | ⟨-, rfl⟩)
      · rfl
      · exact absurd hline (not_onOneLine_append_break name)
  · rw [readKey?_of_spells (spells_quoteProperty_break hword), Token.key?, Option.some.injEq]
    constructor
    · rintro rfl
      exact .inr ⟨hword, rfl⟩
    · rintro (⟨hline, -⟩ | ⟨-, heq⟩)
      · exact absurd hline (not_onOneLine_append_break word)
      · exact String.append_left_inj _ |>.mp heq
  · rw [readKey?_quoteProperty_broken hline hname]
    refine iff_of_false nofun ?_
    rintro (⟨h, -⟩ | ⟨hword, rfl⟩)
    · exact hline h
    · rw [isPropertyName_iff.mpr (.inr ⟨name, hword, rfl⟩)] at hname
      cases hname

/-! ## Keys of members -/

/-- The key that stands before a colon, or before a question mark and a colon. -/
def keyBeforeColon? : List Token → Option String
  | t :: .mark .colon :: _ => t.key?
  | t :: .mark .question :: .mark .colon :: _ => t.key?
  | _ => none

/-- The key of the member that a line begins with; it may be marked as read-only. -/
def memberKey? (line : String) : Option String :=
  let ts := tokens line.toList
  (keyBeforeColon? ts).or
    (if ts.head? = some (.word "readonly") then keyBeforeColon? ts.tail else none)

/-- The marks between the key of a member and its type. -/
def markTokens (isOptional : Bool) : List Token :=
  (if isOptional then [.mark .question] else []) ++ [.mark .colon]

theorem keyBeforeColon?_marked (t : Token) (isOptional : Bool) (ts : List Token) :
    keyBeforeColon? (t :: (markTokens isOptional ++ ts)) = t.key? := by
  cases isOptional <;> rfl

theorem keyBeforeColon?_stray (ts : List Token) : keyBeforeColon? (.stray :: ts) = none := by
  unfold keyBeforeColon?
  split
  · rename_i heq
    obtain ⟨rfl, -⟩ := List.cons.inj heq
    rfl
  · rename_i heq
    obtain ⟨rfl, -⟩ := List.cons.inj heq
    rfl
  · rfl

theorem keyBeforeColon?_modifier (t : Token) {u : Token} (hu : ∀ m, u ≠ .mark m)
    (ts : List Token) : keyBeforeColon? (t :: u :: ts) = none := by
  unfold keyBeforeColon?
  split
  · rename_i heq
    exact absurd (List.cons.inj (List.cons.inj heq).2).1 (hu _)
  · rename_i heq
    exact absurd (List.cons.inj (List.cons.inj heq).2).1 (hu _)
  · rfl

/-- The tokens before the key of a member. -/
def modifierTokens (isReadonly : Bool) : List Token :=
  if isReadonly then [.word "readonly"] else []

/-- Whether a member is marked as read-only or not, its key is read in its place. -/
theorem memberKey?_of_tokens {line : String} {isReadonly : Bool} {t : Token} {ts : List Token}
    (h : tokens line.toList = modifierTokens isReadonly ++ t :: ts) (ht : ∀ m, t ≠ .mark m)
    (hkey : keyBeforeColon? (t :: ts) = t.key?) : memberKey? line = t.key? := by
  rw [memberKey?, h]
  cases isReadonly with
  | true =>
      have hmodifier := keyBeforeColon?_modifier (.word "readonly") ht ts
      simp [modifierTokens, hmodifier, hkey]
  | false =>
      -- the word `readonly` with marks behind it is a key
      cases t with
      | word s => simp [modifierTokens, hkey, Token.key?]
      | quoted s => simp [modifierTokens, hkey, Token.key?]
      | stray => simp [modifierTokens, hkey, Token.key?]
      | mark m => exact absurd rfl (ht m)

/-- The marks between the key of a member and its type, with a blank. -/
def markText (isOptional : Bool) : List Char := (if isOptional then ['?'] else []) ++ [':', ' ']

theorem exists_tokens_markText (isOptional : Bool) (rest : List Char) :
    Separated (markText isOptional ++ rest) ∧
      tokens (markText isOptional ++ rest) = markTokens isOptional ++ tokens rest := by
  cases isOptional <;> exact ⟨separated_cons (by decide), rfl⟩

/-- The key of a member is read as the key alone is. -/
theorem memberKey?_eq {before : List Char} {isReadonly : Bool}
    (hbefore : SpellsFully before (modifierTokens isReadonly)) (isOptional : Bool)
    (rest : List Char) {key line : String} (hline : line.toList =
      before ++ ((quoteProperty key).toList ++ (markText isOptional ++ rest))) :
    memberKey? line = readKey? (quoteProperty key) := by
  obtain ⟨hseparated, hmarks⟩ := exists_tokens_markText isOptional rest
  have hspelled : ∀ t, Spells (quoteProperty key).toList [t] → (∀ m, t ≠ .mark m) →
      memberKey? line = readKey? (quoteProperty key) := by
    intro t ht hmark
    have htokens : tokens line.toList =
        modifierTokens isReadonly ++ t :: (markTokens isOptional ++ tokens rest) := by
      rw [hline, hbefore, ht _ hseparated, hmarks]
      rfl
    rw [readKey?_of_spells ht]
    exact memberKey?_of_tokens htokens hmark (keyBeforeColon?_marked t isOptional (tokens rest))
  rcases key_cases key with honeLine | ⟨word, hword, rfl⟩ | ⟨hbroken, hname⟩
  · refine hspelled _ (spells_quoteProperty honeLine) fun m => ?_
    rw [keyToken]
    split <;> simp
  · exact hspelled _ (spells_quoteProperty_break hword) (by simp)
  · obtain ⟨ts, hts⟩ := tokens_quoteProperty_broken hbroken hname (markText isOptional ++ rest)
    have htokens : tokens line.toList = modifierTokens isReadonly ++ .stray :: ts := by
      rw [hline, hbefore, hts]
    rw [readKey?_quoteProperty_broken hbroken hname]
    exact memberKey?_of_tokens htokens (by simp) (keyBeforeColon?_stray ts)

/-! ## Members of objects -/

theorem Basic.Field.memberKey?_text (f : Basic.Field) :
    memberKey? f.text = readKey? (quoteProperty f.key) := by
  have hblank : SpellsFully "    ".toList (modifierTokens false) := fun _ => rfl
  refine memberKey?_eq hblank f.isOptional (f.type.text.toList ++ [';']) ?_
  rw [Basic.Field.text]
  cases f.isOptional <;> simp [markText]

theorem Member.memberKey?_text (m : Member) :
    memberKey? m.text = readKey? (quoteProperty m.key) := by
  obtain ⟨key, type, isOptional, isReadonly⟩ := m
  have hbefore : SpellsFully ("  " ++ if isReadonly then "readonly " else "").toList
      (modifierTokens isReadonly) := by
    cases isReadonly <;> exact fun _ => rfl
  refine memberKey?_eq hbefore isOptional (type.text.toList ++ [';']) ?_
  rw [Member.text]
  cases isOptional <;> simp [markText]

end TypeDraft.TypeScript

namespace TypeDraft.Zod

open Name (quoteProperty)
open TypeScript (SpellsFully modifierTokens memberKey? memberKey?_eq markText readKey?)

/-- The line of a member in a validator; the validator of its value may go on below. -/
def memberLine (depth : Nat) (field : String × Value) : String :=
  String.ofList (indent depth ++ (quoteProperty field.1).toList ++ ": ".toList ++
    validator depth field.2)

theorem memberKey?_memberLine (depth : Nat) (field : String × Value) :
    memberKey? (memberLine depth field) = readKey? (quoteProperty field.1) := by
  have hindent : SpellsFully (indent depth) (modifierTokens false) := by
    intro rest
    rw [indent]
    induction 2 * depth with
    | zero => rfl
    | succ n ih => exact ih
  refine memberKey?_eq hindent false (validator depth field.2) ?_
  simp [memberLine, markText]

theorem fieldValidators_eq (depth : Nat) (fields : List (String × Value)) :
    fieldValidators depth fields =
      ",\n".toList.intercalate (fields.map fun f => (memberLine depth f).toList) := by
  induction fields with
  | nil => rfl
  | cons field fields ih =>
      cases fields with
      | nil => simp [fieldValidators, memberLine]
      | cons f fields =>
          rw [fieldValidators, ih]
          · simp [memberLine, List.intercalate_cons_cons]
          · simp

end TypeDraft.Zod

namespace TypeDraft.TypeScript

open Name (quoteProperty)

theorem Basic.map_key_fieldsOf (required : List String) : (fields : List (String × List Alternative)) →
    (d : Basic.Drafting) →
      (Basic.fieldsOf required fields d).value.map Basic.Field.key = fields.map Prod.fst
  | [], _ => rfl
  | (key, _) :: fields, _ => congrArg (key :: ·) (Basic.map_key_fieldsOf required fields _)

theorem Advanced.map_key_membersOf (o : Options) (fields : List (String × Facts × Option Schema))
    (h : Hoisted Declaration) :
    (Advanced.membersOf o fields h).1.map Member.key = fields.map Prod.fst := by
  induction fields generalizing h with
  | nil => rfl
  | cons field fields ih => exact congrArg (field.1 :: ·) (ih _)

/-- The keys of an object, and the lines that its members are written on: in a definition for one
sample, in a declaration for a merged schema, and in a validator. -/
inductive AreMemberLines : List String → List String → Prop
  | basic (required : List String) (fields : List (String × List Alternative))
      (d : Basic.Drafting) : AreMemberLines (fields.map Prod.fst)
        ((Basic.fieldsOf required fields d).value.map Basic.Field.text)
  | advanced (o : Options) (fields : List (String × Facts × Option Schema))
      (h : Hoisted Declaration) : AreMemberLines (fields.map Prod.fst)
        ((Advanced.membersOf o fields h).1.map Member.text)
  | validator (depth : Nat) (fields : List (String × Value)) :
      AreMemberLines (fields.map Prod.fst) (fields.map (Zod.memberLine depth))

theorem map_memberKey?_of {α : Type} {text key : α → String}
    (h : ∀ m, memberKey? (text m) = readKey? (quoteProperty (key m))) (members : List α) :
    (members.map text).map memberKey? =
      (members.map key).map fun key => readKey? (quoteProperty key) := by
  rw [List.map_map, List.map_map]
  exact List.map_congr_left fun m _ => by rw [Function.comp, h m, Function.comp]

theorem AreMemberLines.map_memberKey? {keys lines : List String} (h : AreMemberLines keys lines) :
    lines.map memberKey? = keys.map fun key => readKey? (quoteProperty key) := by
  cases h with
  | basic required fields d =>
      rw [← Basic.map_key_fieldsOf required fields d]
      exact map_memberKey?_of Basic.Field.memberKey?_text _
  | advanced o fields h =>
      rw [← Advanced.map_key_membersOf o fields h]
      exact map_memberKey?_of Member.memberKey?_text _
  | validator depth fields => exact map_memberKey?_of (Zod.memberKey?_memberLine depth) fields

/-- Different keys that are read as one: a word, and the same word with a line feed behind it. -/
theorem readKey?_quoteProperty_clash_iff {key key' : String} (hne : key ≠ key') :
    (∃ name, readKey? (quoteProperty key) = some name ∧ readKey? (quoteProperty key') = some name) ↔
      IsWord key ∧ key' = key ++ "\n" ∨ IsWord key' ∧ key = key' ++ "\n" := by
  constructor
  · rintro ⟨name, hkey, hkey'⟩
    rw [readKey?_quoteProperty_eq_some_iff] at hkey hkey'
    rcases hkey with ⟨-, rfl⟩ | ⟨hword, rfl⟩ <;> rcases hkey' with ⟨-, rfl⟩ | ⟨hword', rfl⟩
    · exact absurd rfl hne
    · exact .inl ⟨hword', rfl⟩
    · exact .inr ⟨hword, rfl⟩
    · exact absurd rfl hne
  · rintro (⟨hword, rfl⟩ | ⟨hword, rfl⟩)
    · exact ⟨key, readKey?_quoteProperty_eq_some_iff.mpr (.inl ⟨hword.onOneLine, rfl⟩),
        readKey?_quoteProperty_eq_some_iff.mpr (.inr ⟨hword, rfl⟩)⟩
    · exact ⟨key', readKey?_quoteProperty_eq_some_iff.mpr (.inr ⟨hword, rfl⟩),
        readKey?_quoteProperty_eq_some_iff.mpr (.inl ⟨hword.onOneLine, rfl⟩)⟩

/-- No two members of an object are read under one key, unless one of its keys is another one with
a line feed behind it. -/
theorem nodup_filterMap_memberKey?_iff {keys lines : List String} (h : AreMemberLines keys lines)
    (hkeys : keys.Nodup) :
    (lines.filterMap memberKey?).Nodup ↔ ∀ word ∈ keys, IsWord word → word ++ "\n" ∉ keys := by
  have hread : lines.filterMap memberKey? = keys.filterMap fun key => readKey? (quoteProperty key) := by
    have hkeys := congrArg (List.filterMap id) h.map_memberKey?
    rwa [List.filterMap_map, List.filterMap_map, Function.id_comp, Function.id_comp] at hkeys
  rw [hread, List.Nodup, List.pairwise_filterMap]
  constructor
  · intro hdistinct word hword hisWord hbroken
    have hne : word ≠ word ++ "\n" := fun heq =>
      not_onOneLine_append_break word (heq ▸ hisWord.onOneLine)
    obtain ⟨name, hkey, hkey'⟩ :=
      (readKey?_quoteProperty_clash_iff hne).mpr (.inl ⟨hisWord, rfl⟩)
    have hsymm : Std.Symm fun key key' : String =>
        ∀ name, readKey? (quoteProperty key) = some name →
          ∀ name', readKey? (quoteProperty key') = some name' → name ≠ name' :=
      ⟨fun _ _ h name hname name' hname' => (h name' hname' name hname).symm⟩
    exact hdistinct.forall hword hbroken hne name hkey name hkey' rfl
  · intro hwords
    refine List.Pairwise.imp_of_mem (fun {key key'} hmem hmem' hne => ?_) hkeys
    rintro name hname _ hname' rfl
    rcases (readKey?_quoteProperty_clash_iff hne).mp ⟨name, hname, hname'⟩ with
      ⟨hword, rfl⟩ | ⟨hword, rfl⟩
    · exact hwords key hmem hword hmem'
    · exact hwords key' hmem' hword hmem

/-! ## What becomes of keys -/

/-- A key is written as a text that stands for it, and is read again, just if it is on one line. Two
keys are read as one just if one of them is a word and the other one is that word with a line feed
behind it, and the members of an object are read as its keys are. -/
theorem quoteProperty_survives_reading (key : String) :
    (OnOneLine key ↔ IsKeyText key (quoteProperty key)) ∧
    (OnOneLine key ↔ readKey? (quoteProperty key) = some key) ∧
    (∀ key', key ≠ key' →
      ((∃ name, readKey? (quoteProperty key) = some name ∧
          readKey? (quoteProperty key') = some name) ↔
        IsWord key ∧ key' = key ++ "\n" ∨ IsWord key' ∧ key = key' ++ "\n")) ∧
    (∀ depth fields, Zod.fieldValidators depth fields =
      ",\n".toList.intercalate (fields.map fun f => (Zod.memberLine depth f).toList)) ∧
    ∀ keys lines, AreMemberLines keys lines →
      lines.map memberKey? = keys.map (fun key => readKey? (quoteProperty key)) ∧
      (keys.Nodup → ((lines.filterMap memberKey?).Nodup ↔
        ∀ word ∈ keys, IsWord word → word ++ "\n" ∉ keys)) := by
  have hread : OnOneLine key ↔ readKey? (quoteProperty key) = some key := by
    refine ⟨fun hline => (isKeyText_quoteProperty hline).readKey?, fun hkey => ?_⟩
    rcases readKey?_quoteProperty_eq_some_iff.mp hkey with ⟨hline, -⟩ | ⟨hword, -⟩
    · exact hline
    · exact hword.onOneLine
  refine ⟨⟨isKeyText_quoteProperty, fun h => hread.mpr h.readKey?⟩, hread,
    fun _ => readKey?_quoteProperty_clash_iff, Zod.fieldValidators_eq, fun keys lines h => ?_⟩
  exact ⟨h.map_memberKey?, nodup_filterMap_memberKey?_iff h⟩

theorem quoteProperty_survives_reading_quotes :
    IsKeyText "say \"hi\"\\" (quoteProperty "say \"hi\"\\") ∧
    (((Basic.fieldsOf [] [("readonly", []), ("say \"hi\"\\", [])] {}).value.map
      Basic.Field.text).filterMap memberKey?).Nodup := by
  obtain ⟨htext, -, -, -, hmembers⟩ := quoteProperty_survives_reading "say \"hi\"\\"
  have hline : OnOneLine "say \"hi\"\\" := by
    rw [OnOneLine]
    decide
  refine ⟨htext.mp hline, ((hmembers _ _ (.basic [] _ {})).2 (by decide)).mpr ?_⟩
  exact fun word hword _ => (by decide : ∀ word ∈ ["readonly", "say \"hi\"\\"],
    word ++ "\n" ∉ ["readonly", "say \"hi\"\\"]) word hword

/-- A line feed behind a word is lost, so that two keys become one member; any other one leaves a
string open. -/
theorem quoteProperty_breaks_lines :
    ((Basic.fieldsOf [] [("abc", []), ("abc\n", []), ("a b\nc", [])] {}).value.map
      Basic.Field.text).map memberKey? = [some "abc", some "abc", none] := by
  rw [(AreMemberLines.basic [] _ {}).map_memberKey?]
  rfl

end TypeDraft.TypeScript
