import TypeDraft.Proofs.Json.Brackets
import TypeDraft.Proofs.Json.Mending
import TypeDraft.Proofs.Json.Writing
import TypeDraft.Proofs.Text.Trim

/-!
# Records in an array

Objects that are read back from their own texts are read back as the items of an array too, if the
array is not too deep: the lexemes of the texts are those of the array, and the brackets of a text
say how deep it is.
-/

namespace TypeDraft.Json

/-! ## White space before a value -/

/-- Lexemes with more white space before the first one. -/
def indent (g : List Char) : List Lexeme → List Lexeme
  | l :: ls => ⟨g ++ l.gap, l.token⟩ :: ls
  | [] => []

theorem textOf_indent (g : List Char) {ls : List Lexeme} (hne : ls ≠ []) :
    textOf (indent g ls) = g ++ textOf ls := by
  obtain ⟨l, ls, rfl⟩ := List.exists_cons_of_ne_nil hne
  simp [indent, Lexeme.text]

theorem isStrict_indent {g : List Char} {ls : List Lexeme} (h : IsStrict ls) :
    IsStrict (indent g ls) := by
  cases ls with
  | nil => exact h
  | cons l ls => simpa [indent] using h

theorem Writes.indent {IsAtom : List Char → Value → Prop} {IsBody : List Char → String → Prop}
    {s : Setting} {v : Value} {ls : List Lexeme} {g : List Char} (h : Writes IsAtom IsBody s v ls)
    (hg : IsGap g) : Writes IsAtom IsBody s v (indent g ls) := by
  have happend : ∀ {g' : List Char}, IsGap g' → IsGap (g ++ g') := fun hg' =>
    List.forall_mem_append.mpr ⟨hg, hg'⟩
  cases h with
  | word hg' ha => exact .word (happend hg') ha
  | string hg' hb => exact .string (happend hg') hb
  | emptyArray hg' hg'' => exact .emptyArray (happend hg') hg''
  | array hg' hv hvs => exact .array (happend hg') hv hvs
  | emptyObject hg' hg'' => exact .emptyObject (happend hg') hg''
  | object hg' hg'' hgap hform hk hv hfs =>
      exact .object (happend hg') hg'' hgap hform hk hv hfs

/-! ## Records -/

/-- An object that is read back from its own text. -/
structure IsRecord (charset : Charset) (v : Value) : Prop where
  object : ∃ fields, v = .obj fields
  readsBack : decode (encode charset v) = .ok v

namespace IsRecord

variable {charset : Charset} {v : Value}

theorem head? (h : IsRecord charset v) : (encode charset v).head? = some '\x7b' := by
  obtain ⟨fields, rfl⟩ := h.object
  exact head?_encode_obj fields

theorem getLast? (h : IsRecord charset v) : (encode charset v).getLast? = some '\x7d' := by
  obtain ⟨fields, rfl⟩ := h.object
  exact getLast?_encode_obj fields

theorem trim_encode (h : IsRecord charset v) : Text.trim (encode charset v) = encode charset v :=
  Text.trim_eq_self (by simp [h.head?]; decide) (by simp [h.getLast?]; decide)

theorem isNormal (h : IsRecord charset v) : v.isNormal = true := isNormal_of_decode h.readsBack

/-- The text of a record is one of strict lexemes, and what these write is as deep as the
record. -/
theorem exists_writes (h : IsRecord charset v) :
    ∃ u ls, Writes IsAtom Escapes .item u ls ∧ IsStrict ls ∧ textOf ls = encode charset v ∧
      u.normalize = v ∧ u.levels = v.levels := by
  obtain ⟨u, ls, g, hls, hstrict, hg, htext, hv, -⟩ := exists_writes_of_decode h.readsBack
  have hrun := hls.isValueRun atomsAreWords_isAtom
  have hunindented := hls.unindent
  have hstrict' : IsStrict (unindent ls) := by
    obtain ⟨l, ls, rfl⟩ := List.exists_cons_of_ne_nil hrun.nonempty
    simpa [unindent] using hstrict
  have htext' : textOf (unindent ls) = encode charset v := by
    rw [← trim_textOf hrun.proper hrun.nonempty hg, ← htext, h.trim_encode]
  have hproper := (hunindented.isValueRun atomsAreWords_isAtom).proper
  have hskeleton : u.skeleton = v.skeleton := by
    have hencode := brackets_encode charset v h.isNormal []
    rw [List.append_nil, ← htext', brackets_textOf hproper hstrict'
      (hunindented.forall_body fun _ s hs => ⟨s, hs⟩), hunindented.brackets_eq] at hencode
    rw [hencode]
    exact List.append_nil _
  exact ⟨u, unindent ls, hunindented, hstrict', htext', hv.symm,
    Value.levels_eq_of_skeleton hskeleton⟩

end IsRecord

/-! ## Arrays of records -/

variable {charset : Charset} {v : Value} {vs : List Value}

theorem encodeItems_cons (v : Value) (vs : List Value) :
    encodeItems charset (v :: vs) =
      encode charset v ++ vs.flatMap fun w => ',' :: ' ' :: encode charset w := by
  induction vs generalizing v with
  | nil => simp [encodeItems]
  | cons w vs ih =>
      rw [encodeItems, ih, List.flatMap_cons]
      · rfl
      · exact List.cons_ne_nil w vs

theorem exists_writesItemsAfter (h : ∀ v ∈ vs, IsRecord charset v) :
    ∃ us ms, WritesItemsAfter IsAtom Escapes us ms ∧ IsStrict ms ∧
      textOf ms = (vs.flatMap fun w => ',' :: ' ' :: encode charset w) ++ [']'] ∧
      Value.normalizeItems us = vs ∧ Value.itemLevels us = Value.itemLevels vs := by
  have hnil : IsGap [] := List.forall_mem_nil _
  have hblank : IsGap [' '] := by decide
  induction vs with
  | nil =>
      exact ⟨[], [⟨[], .mark .closeArray⟩], .close hnil, by simp [Token.IsStrict], rfl, rfl, rfl⟩
  | cons v vs ih =>
      obtain ⟨hv, hvs⟩ := List.forall_mem_cons.mp h
      obtain ⟨us, ms, hus, hstrict, htext, hnormal, hlevels⟩ := ih hvs
      obtain ⟨u, ls, hu, hstrict', htext', hnormal', hlevels'⟩ := hv.exists_writes
      refine ⟨u :: us, ⟨[], .mark .comma⟩ :: (indent [' '] ls ++ ms),
        .next hnil (hu.indent hblank) hus, ?_, ?_, ?_, ?_⟩
      · simpa [Token.IsStrict, hstrict] using isStrict_indent hstrict'
      · rw [textOf_cons, textOf_append,
          textOf_indent [' '] (hu.isValueRun atomsAreWords_isAtom).nonempty, htext, htext',
          List.flatMap_cons]
        simp [Lexeme.text, Token.text, Mark.char]
      · rw [Value.normalizeItems, hnormal', hnormal]
      · rw [Value.itemLevels, Value.itemLevels, hlevels', hlevels]

/-- An array of records is read back if it is not too deep. -/
theorem decode_encode_array (hne : vs ≠ []) (h : ∀ v ∈ vs, IsRecord charset v)
    (hdepth : (Value.arr vs).levels ≤ nestingLimit) :
    decode (encode charset (.arr vs)) = .ok (.arr vs) := by
  obtain ⟨v, vs, rfl⟩ := List.exists_cons_of_ne_nil hne
  obtain ⟨hv, hvs⟩ := List.forall_mem_cons.mp h
  obtain ⟨u, ls, hu, hstrict, htext, rfl, hlevels⟩ := hv.exists_writes
  obtain ⟨us, ms, hus, hstrict', htext', rfl, hlevels'⟩ := exists_writesItemsAfter hvs
  have hwrites : Writes IsAtom Escapes .item (.arr (u :: us))
      (⟨[], .mark .openArray⟩ :: (ls ++ ms)) :=
    .array (List.forall_mem_nil _) hu hus
  have hfits : (Value.arr (u :: us)).levels ≤ nestingLimit := by
    rwa [Value.levels, Value.itemLevels, hlevels, hlevels']
  have hread := (decode_textOf hwrites (List.forall_mem_nil _ : IsGap [])
    (exceeds_of_levels_le _ _ hfits)).1 (by simpa [Token.IsStrict, hstrict] using hstrict')
  have hencode : textOf (⟨[], .mark .openArray⟩ :: (ls ++ ms)) =
      encode charset (.arr (u.normalize :: Value.normalizeItems us)) := by
    rw [encode, encodeItems_cons, textOf_cons, textOf_append, htext, htext']
    simp [Lexeme.text, Token.text, Mark.char]
  rwa [List.append_nil, hencode] at hread

/-! ## Arrays in one another -/

/-- An empty array within some arrays. -/
def nest : Nat → Value
  | 0 => .arr []
  | n + 1 => .arr [nest n]

theorem levels_nest (n : Nat) : (nest n).levels = n + 1 := by
  induction n with
  | zero => rfl
  | succ n ih => simp [nest, Value.levels, Value.itemLevels, ih]

theorem isNormal_nest (n : Nat) : (nest n).isNormal = true := by
  induction n with
  | zero => rfl
  | succ n ih => simp [nest, Value.isNormal, Value.areNormal, ih]

theorem encode_nest (n : Nat) :
    encode charset (nest n) = List.replicate (n + 1) '[' ++ List.replicate (n + 1) ']' := by
  induction n with
  | zero => rfl
  | succ n ih =>
      rw [nest, encode, encodeItems, ih, List.replicate_succ (n := n + 1) (a := '['),
        List.replicate_succ' (n := n + 1) (a := ']')]
      simp only [List.cons_append, List.append_assoc]

theorem literals_encode_nest (n : Nat) : literals (encode charset (nest n)) = [] := by
  have hquote : '"' ∉ encode charset (nest n) := by simp [encode_nest, List.mem_replicate]
  rw [literals, ← List.append_nil (encode charset (nest n)), literalsFrom_outside hquote]
  rfl

theorem exists_writes_nest (charset : Charset) (s : Setting) (n : Nat) :
    ∃ ls, Writes IsAtom Escapes s (nest n) ls ∧ IsStrict ls ∧
      textOf ls = encode charset (nest n) := by
  have hnil : IsGap [] := List.forall_mem_nil _
  induction n generalizing s with
  | zero =>
      exact ⟨[⟨[], .mark .openArray⟩, ⟨[], .mark .closeArray⟩], .emptyArray hnil hnil,
        by simp [Token.IsStrict], rfl⟩
  | succ n ih =>
      obtain ⟨ls, hls, hstrict, htext⟩ := ih .item
      refine ⟨⟨[], .mark .openArray⟩ :: (ls ++ [⟨[], .mark .closeArray⟩]),
        .array hnil hls (.close hnil), by simpa [Token.IsStrict] using hstrict, ?_⟩
      rw [nest, encode, encodeItems, ← htext]
      simp [Lexeme.text, Token.text, Mark.char]

theorem decode_nest {n : Nat} (h : n < nestingLimit) :
    decode (encode charset (nest n)) = .ok (nest n) := by
  obtain ⟨ls, hls, hstrict, htext⟩ := exists_writes_nest charset .item n
  have hfits : (nest n).levels ≤ nestingLimit := by rwa [levels_nest]
  have hread := (decode_textOf hls (List.forall_mem_nil _ : IsGap [])
    (exceeds_of_levels_le _ _ hfits)).1 hstrict
  rwa [List.append_nil, htext, Value.normalize_of_isNormal _ (isNormal_nest n)] at hread

/-- An object that holds arrays in one another is a record if it can be read at all. -/
theorem isRecord_nest {n : Nat} (h : n + 1 < nestingLimit) :
    IsRecord charset (.obj [("a", nest n)]) := by
  refine ⟨⟨_, rfl⟩, ?_⟩
  have hnil : IsGap [] := List.forall_mem_nil _
  obtain ⟨ls, hls, hstrict, htext⟩ := exists_writes_nest charset .field n
  have hwrites : Writes IsAtom Escapes .item (.obj [("a", nest n)])
      (⟨[], .mark .openObject⟩ :: ⟨[], .key (.quoted .double) ['a'] []⟩ ::
        (indent [' '] ls ++ [⟨[], .mark .closeObject⟩])) :=
    .object hnil hnil hnil trivial (.plain (by decide) (by decide) (by decide) .done)
      (hls.indent (by decide)) (.close hnil)
  have hfits : (Value.obj [("a", nest n)]).levels ≤ nestingLimit := by
    simp only [Value.levels, Value.fieldLevels, levels_nest]
    omega
  have hnormal : (Value.obj [("a", nest n)]).isNormal = true := by
    simp [Value.isNormal, Value.areNormalFields, isNormal_nest]
  have hread := (decode_textOf hwrites hnil (exceeds_of_levels_le _ _ hfits)).1
    (by simpa [Token.IsStrict] using isStrict_indent hstrict)
  have hencode : textOf (⟨[], .mark .openObject⟩ :: ⟨[], .key (.quoted .double) ['a'] []⟩ ::
      (indent [' '] ls ++ [⟨[], .mark .closeObject⟩])) =
        encode charset (.obj [("a", nest n)]) := by
    have hkey : quoteChars charset ("a" : String).toList = ['"', 'a', '"'] := by
      cases charset <;> rfl
    rw [encode, encodeFields, hkey, textOf_cons, textOf_cons, textOf_append,
      textOf_indent [' '] (hls.isValueRun atomsAreWords_isAtom).nonempty, htext]
    simp [Lexeme.text, Token.text, Mark.char, KeyForm.text, inQuotes, QuoteMark.char]
  rwa [List.append_nil, hencode, Value.normalize_of_isNormal _ hnormal] at hread

end TypeDraft.Json
