import TypeDraft.Proofs.Json.Encoding
import TypeDraft.Proofs.Json.Literals

/-!
# The brackets of a text of JSON

The brackets and braces outside quotes show how deeply a text nests, without its values being read.
A text that is read and a value that is written both have the brackets of their value, so that the
two nest alike if the texts are the same.
-/

namespace TypeDraft

namespace Json

def isBracket (c : Char) : Bool := ['[', ']', '\x7b', '\x7d'].contains c

/-- The brackets and braces of a text outside its quotes. -/
def bracketsFrom : (inside : Bool) → List Char → List Char
  | false, '"' :: cs => bracketsFrom true cs
  | false, c :: cs => if isBracket c then c :: bracketsFrom false cs else bracketsFrom false cs
  | true, '"' :: cs => bracketsFrom false cs
  | true, '\\' :: _ :: cs => bracketsFrom true cs
  | true, _ :: cs => bracketsFrom true cs
  | _, [] => []

def brackets (cs : List Char) : List Char := bracketsFrom false cs

variable {cs : List Char}

theorem brackets_append (h : '"' ∉ cs) (rest : List Char) :
    brackets (cs ++ rest) = cs.filter isBracket ++ brackets rest := by
  induction cs with
  | nil => rfl
  | cons c cs ih =>
      rw [List.mem_cons, not_or] at h
      have hstep : brackets (c :: (cs ++ rest)) =
          if isBracket c then c :: brackets (cs ++ rest) else brackets (cs ++ rest) := by
        rw [brackets, bracketsFrom]
        · rfl
        · exact fun heq => h.1 heq.symm
      rw [List.cons_append, hstep, ih h.2, List.filter_cons]
      split <;> rfl

/-- Characters that are neither quotes nor brackets are passed over. -/
theorem brackets_between (h : ∀ c ∈ cs, c ≠ '"' ∧ isBracket c = false) (rest : List Char) :
    brackets (cs ++ rest) = brackets rest := by
  have hnone : cs.filter isBracket = [] :=
    List.filter_eq_nil_iff.mpr fun c hc => by simp [(h c hc).2]
  rw [brackets_append (fun hmem => (h _ hmem).1 rfl), hnone, List.nil_append]

theorem brackets_plain (h : ∀ c ∈ cs, isPlain c = true) (rest : List Char) :
    brackets (cs ++ rest) = brackets rest := by
  refine brackets_between (fun c hc => ⟨ne_of_isPlain (h c hc) (by decide), ?_⟩) rest
  have hplain : ∀ d ∈ ['[', ']', '\x7b', '\x7d'], isPlain d = false := by decide
  by_contra hbracket
  have hmem := List.contains_iff_mem.mp (Bool.not_eq_false _ ▸ hbracket)
  exact Bool.false_ne_true ((hplain c hmem).symm.trans (h c hc))

/-! ## Between quotes -/

theorem bracketsFrom_plain {c : Char} (hquote : c ≠ '"') (hslash : c ≠ '\\') (cs : List Char) :
    bracketsFrom true (c :: cs) = bracketsFrom true cs := by
  rw [bracketsFrom]
  · exact fun heq => hquote heq
  · exact fun _ _ heq => absurd heq hslash

theorem EscapesFrom.bracketsFrom_append {out body : List Char} {s : String}
    (h : EscapesFrom out body s) (rest : List Char) :
    bracketsFrom true (body ++ '"' :: rest) = brackets rest := by
  induction h with
  | done => rfl
  | plain hquote hslash _ _ ih => rw [List.cons_append, bracketsFrom_plain hquote hslash, ih]
  | simple _ _ ih => rw [List.cons_append, List.cons_append, bracketsFrom, ih]
  | unit hunit _ ih =>
      obtain ⟨ha, hb, hc, hd⟩ := ne_of_codeUnit? hunit (x := '"') (by decide)
      obtain ⟨ha', hb', hc', hd'⟩ := ne_of_codeUnit? hunit (x := '\\') (by decide)
      simp only [List.cons_append]
      rw [bracketsFrom, bracketsFrom_plain ha ha', bracketsFrom_plain hb hb',
        bracketsFrom_plain hc hc', bracketsFrom_plain hd hd', ih]

theorem bracketsFrom_escapeUnit (n : Nat) (rest : List Char) :
    bracketsFrom true (escapeUnit n ++ rest) = bracketsFrom true rest := by
  have hdigit : ∀ k < 16, Nat.digitChar k ≠ '"' ∧ Nat.digitChar k ≠ '\\' := by decide
  have hpass : ∀ k cs, bracketsFrom true (Nat.digitChar (k % 16) :: cs) = bracketsFrom true cs :=
    fun k cs => by
      obtain ⟨hquote, hslash⟩ := hdigit (k % 16) (Nat.mod_lt k (by decide))
      exact bracketsFrom_plain hquote hslash cs
  simp only [escapeUnit, hex4, List.map_cons, List.map_nil, List.cons_append, List.nil_append]
  rw [bracketsFrom, hpass, hpass, hpass, hpass]

theorem bracketsFrom_escapeChar (charset : Charset) (c : Char) (rest : List Char) :
    bracketsFrom true (escapeChar charset c ++ rest) = bracketsFrom true rest := by
  have hunits : ∀ ns : List Nat,
      bracketsFrom true (ns.flatMap escapeUnit ++ rest) = bracketsFrom true rest := by
    intro ns
    induction ns with
    | nil => rfl
    | cons n ns ih => rw [List.flatMap_cons, List.append_assoc, bracketsFrom_escapeUnit, ih]
  unfold escapeChar
  split
  any_goals rfl
  rename_i hquote hslash _ _ _ _ _
  split
  · exact bracketsFrom_escapeUnit _ rest
  split
  · exact hunits _
  · exact bracketsFrom_plain hquote hslash rest

theorem brackets_quoteChars (charset : Charset) (cs rest : List Char) :
    brackets (quoteChars charset cs ++ rest) = brackets rest := by
  have hbody : ∀ cs : List Char,
      bracketsFrom true (cs.flatMap (escapeChar charset) ++ '"' :: rest) = brackets rest := by
    intro cs
    induction cs with
    | nil => rfl
    | cons c cs ih => rw [List.flatMap_cons, List.append_assoc, bracketsFrom_escapeChar, ih]
  have hclosed := hbody cs
  simp only [quoteChars, List.cons_append, List.append_assoc, List.nil_append, brackets,
    bracketsFrom] at hclosed ⊢
  exact hclosed

/-! ## Lexemes -/

/-- The bracket or brace that a token is. -/
def Token.bracket? : Token → Option Char
  | mark m => if isBracket m.char then some m.char else none
  | _ => none

theorem Lexeme.brackets_append {l : Lexeme} (hl : l.IsProper) (hstrict : l.token.IsStrict)
    (hbody : ∀ body ∈ l.token.body?, ∃ s, Escapes body s) (rest : List Char) :
    brackets (l.text ++ rest) = l.token.bracket?.toList ++ brackets rest := by
  obtain ⟨g, t⟩ := l
  have hgap : ∀ {g : List Char}, IsGap g → ∀ rest, brackets (g ++ rest) = brackets rest :=
    fun hg => brackets_plain fun c hc => by simp [isPlain, hg c hc]
  rw [Lexeme.text, List.append_assoc, hgap hl.1]
  cases t with
  | mark m => cases m <;> rfl
  | key form body gap =>
      cases hstrict
      obtain ⟨s, hs⟩ := hbody body rfl
      have htext : Token.text (.key (.quoted .double) body gap) ++ rest =
          '"' :: (body ++ '"' :: (gap ++ ([':'] ++ rest))) := by
        simp [Token.text, KeyForm.text, inQuotes, QuoteMark.char]
      rw [htext, brackets, bracketsFrom, hs.bracketsFrom_append, hgap hl.2.1]
      exact brackets_between (by decide) rest
  | string setting q body =>
      cases hstrict
      obtain ⟨s, hs⟩ := hbody body rfl
      have htext : Token.text (.string setting .double body) ++ rest =
          '"' :: (body ++ '"' :: rest) := by
        simp [Token.text, inQuotes, QuoteMark.char]
      rw [htext, brackets, bracketsFrom, hs.bracketsFrom_append]
      rfl
  | word cs => exact brackets_plain (fun c hc => isPlain_of_isWordPart (hl.2.2 c hc)) rest

theorem brackets_textOf {ls : List Lexeme} (hls : ∀ l ∈ ls, l.IsProper) (hstrict : IsStrict ls)
    (hbody : ∀ l ∈ ls, ∀ body ∈ l.token.body?, ∃ s, Escapes body s) :
    brackets (textOf ls) = ls.flatMap fun l => l.token.bracket?.toList := by
  induction ls with
  | nil => rfl
  | cons l ls ih =>
      rw [List.forall_mem_cons] at hls hbody
      rw [isStrict_cons] at hstrict
      rw [textOf_cons, l.brackets_append hls.1 hstrict.1 hbody.1, ih hls.2 hstrict.2 hbody.2,
        List.flatMap_cons]

end Json

/-! ## Values -/

namespace Value

mutual

/-- How the collections of a value stand in one another, as brackets and braces. -/
def skeleton : Value → List Char
  | arr items | tuple items | set items => '[' :: (itemSkeletons items ++ [']'])
  | obj fields => '\x7b' :: (fieldSkeletons fields ++ ['\x7d'])
  | map entries => '\x7b' :: (entrySkeletons entries ++ ['\x7d'])
  | _ => []
termination_by structural v => v

def itemSkeletons : List Value → List Char
  | [] => []
  | v :: vs => skeleton v ++ itemSkeletons vs
termination_by structural vs => vs

def fieldSkeletons : List (String × Value) → List Char
  | [] => []
  | (_, v) :: fs => skeleton v ++ fieldSkeletons fs
termination_by structural fs => fs

def entrySkeletons : List (Value × Value) → List Char
  | [] => []
  | (_, v) :: es => skeleton v ++ entrySkeletons es
termination_by structural es => es

end

/-- The greatest number of brackets that are open at once, `opened` being open at the head. -/
def deepest : (opened : Nat) → List Char → Nat
  | opened, [] => opened
  | opened, c :: cs =>
    if c = '[' ∨ c = '\x7b' then deepest (opened + 1) cs else max opened (deepest (opened - 1) cs)

theorem le_deepest (opened : Nat) (cs : List Char) : opened ≤ deepest opened cs := by
  induction cs generalizing opened with
  | nil => exact le_rfl
  | cons c cs ih =>
      rw [deepest]
      split
      · exact Nat.le_of_succ_le (ih (opened + 1))
      · exact Nat.le_max_left ..

/-- What stands between two brackets counts for a level less than they do. -/
theorem deepest_enclosed {o c : Char} (ho : o = '[' ∨ o = '\x7b') (hc : ¬ (c = '[' ∨ c = '\x7b'))
    {cs rest : List Char} {opened n : Nat}
    (h : deepest (opened + 1) (cs ++ c :: rest) =
      max (opened + 1 + n) (deepest (opened + 1) (c :: rest))) :
    deepest opened (o :: (cs ++ [c]) ++ rest) = max (opened + (n + 1)) (deepest opened rest) := by
  rw [List.cons_append, List.append_assoc, List.singleton_append, deepest, if_pos ho, h, deepest,
    if_neg hc, Nat.add_sub_cancel]
  omega

mutual

theorem deepest_skeleton : (v : Value) → (opened : Nat) → (rest : List Char) →
    deepest opened (skeleton v ++ rest) = max (opened + v.levels) (deepest opened rest)
  | null, opened, rest | bool _, opened, rest | int _, opened, rest | float _, opened, rest
  | str _, opened, rest | bytes _, opened, rest | moment _, opened, rest
  | decimal _, opened, rest => (Nat.max_eq_right (le_deepest opened rest)).symm
  | arr items, opened, rest | tuple items, opened, rest | set items, opened, rest => by
    rw [skeleton, levels]
    exact deepest_enclosed (by decide) (by decide) (deepest_itemSkeletons items _ _)
  | obj fields, opened, rest => by
    rw [skeleton, levels]
    exact deepest_enclosed (by decide) (by decide) (deepest_fieldSkeletons fields _ _)
  | map entries, opened, rest => by
    rw [skeleton, levels]
    exact deepest_enclosed (by decide) (by decide) (deepest_entrySkeletons entries _ _)

theorem deepest_itemSkeletons : (vs : List Value) → (opened : Nat) → (rest : List Char) →
    deepest opened (itemSkeletons vs ++ rest) = max (opened + itemLevels vs) (deepest opened rest)
  | [], opened, rest => (Nat.max_eq_right (le_deepest opened rest)).symm
  | v :: vs, opened, rest => by
    rw [itemSkeletons, List.append_assoc, deepest_skeleton v, deepest_itemSkeletons vs, itemLevels]
    omega

theorem deepest_fieldSkeletons : (fs : List (String × Value)) → (opened : Nat) →
    (rest : List Char) →
    deepest opened (fieldSkeletons fs ++ rest) = max (opened + fieldLevels fs) (deepest opened rest)
  | [], opened, rest => (Nat.max_eq_right (le_deepest opened rest)).symm
  | (_, v) :: fs, opened, rest => by
    rw [fieldSkeletons, List.append_assoc, deepest_skeleton v, deepest_fieldSkeletons fs,
      fieldLevels]
    omega

theorem deepest_entrySkeletons : (es : List (Value × Value)) → (opened : Nat) →
    (rest : List Char) →
    deepest opened (entrySkeletons es ++ rest) = max (opened + entryLevels es) (deepest opened rest)
  | [], opened, rest => (Nat.max_eq_right (le_deepest opened rest)).symm
  | (_, v) :: es, opened, rest => by
    rw [entrySkeletons, List.append_assoc, deepest_skeleton v, deepest_entrySkeletons es,
      entryLevels]
    omega

end

/-- Values with the same skeleton are equally deep. -/
theorem levels_eq_of_skeleton {v w : Value} (h : v.skeleton = w.skeleton) :
    v.levels = w.levels := by
  have hlevels : ∀ u : Value, deepest 0 (skeleton u) = u.levels := fun u => by
    have hu := deepest_skeleton u 0 []
    rwa [List.append_nil, deepest, Nat.zero_add, Nat.max_zero] at hu
  rw [← hlevels v, h, hlevels w]

end Value

/-! ## What is read and what is written -/

namespace Json

open Value (fieldSkeletons itemSkeletons skeleton)

mutual

theorem Writes.brackets_eq {s : Setting} {v : Value} {ls : List Lexeme} :
    Writes IsAtom Escapes s v ls → (ls.flatMap fun l => l.token.bracket?.toList) = skeleton v
  | .word _ ha => by
    cases ha with
    | number h =>
        cases h with
        | mk => unfold numberValue; split <;> rfl
    | _ => rfl
  | .string _ _ | .emptyArray _ _ | .emptyObject _ _ => rfl
  | .array _ hv hvs => by
    rw [List.flatMap_cons, List.flatMap_append, hv.brackets_eq, hvs.brackets_eq, skeleton,
      itemSkeletons, List.append_assoc]
    rfl
  | .object _ _ _ _ _ hv hfs => by
    rw [List.flatMap_cons, List.flatMap_cons, List.flatMap_append, hv.brackets_eq,
      hfs.brackets_eq, skeleton, fieldSkeletons, List.append_assoc]
    rfl

theorem WritesItemsAfter.brackets_eq {vs : List Value} {ms : List Lexeme} :
    WritesItemsAfter IsAtom Escapes vs ms →
    (ms.flatMap fun l => l.token.bracket?.toList) = itemSkeletons vs ++ [']']
  | .close _ | .trailing _ _ => rfl
  | .next _ hv hvs => by
    rw [List.flatMap_cons, List.flatMap_append, hv.brackets_eq, hvs.brackets_eq, itemSkeletons,
      List.append_assoc]
    rfl

theorem WritesFieldsAfter.brackets_eq {fs : List (String × Value)} {ms : List Lexeme} :
    WritesFieldsAfter IsAtom Escapes fs ms →
    (ms.flatMap fun l => l.token.bracket?.toList) = fieldSkeletons fs ++ ['\x7d']
  | .close _ | .trailing _ _ => rfl
  | .next _ _ _ _ _ hv hfs => by
    rw [List.flatMap_cons, List.flatMap_cons, List.flatMap_append, hv.brackets_eq,
      hfs.brackets_eq, fieldSkeletons, List.append_assoc]
    rfl

end

variable {charset : Charset}

theorem isWordPart_of_isNumberText {s : String} (h : Double.IsNumberText s) :
    ∀ c ∈ s.toList, isWordPart c = true := by
  intro c hc
  have hchar := List.all_eq_true.mp h c hc
  rw [Double.isNumberChar, Bool.or_eq_true, List.contains_iff_mem] at hchar
  rcases hchar with hdigit | hmem
  · simp [isWordPart, Char.isAlphanum, hdigit]
  · have hall : ∀ d ∈ "+-.aefin".toList, isWordPart d = true := by decide
    exact hall c hmem

theorem isWordPart_of_mem_floatText (x : Double) :
    ∀ c ∈ (floatText x).toList, isWordPart c = true := by
  unfold floatText
  split
  · decide
  split
  · split <;> decide
  · exact isWordPart_of_isNumberText x.isNumberText_text

theorem brackets_word (cs : List Char) (h : ∀ c ∈ cs, isWordPart c = true) (rest : List Char) :
    brackets (cs ++ rest) = brackets rest :=
  brackets_plain (fun c hc => isPlain_of_isWordPart (h c hc)) rest

theorem brackets_comma (rest : List Char) : brackets ([',', ' '] ++ rest) = brackets rest :=
  brackets_between (by decide) rest

theorem brackets_colon (rest : List Char) : brackets ([':', ' '] ++ rest) = brackets rest :=
  brackets_between (by decide) rest

variable (charset)

mutual

/-- A value of the normal tree is written with its own brackets. -/
theorem brackets_encode : (v : Value) → v.isNormal = true → (rest : List Char) →
    brackets (encode charset v ++ rest) = skeleton v ++ brackets rest
  | .null, _, rest => brackets_word "null".toList (by decide) rest
  | .bool false, _, rest => brackets_word "false".toList (by decide) rest
  | .bool true, _, rest => brackets_word "true".toList (by decide) rest
  | .int n, _, rest =>
    brackets_word _ (isWordPart_of_isNumberText (Double.isNumberText_intText n)) rest
  | .float x, _, rest => brackets_word _ (isWordPart_of_mem_floatText x) rest
  | .str s, _, rest => brackets_quoteChars charset s.toList rest
  | .arr items, h, rest => by
    have hitems := brackets_encodeItems items h (']' :: rest)
    simp only [encode, skeleton, List.cons_append, List.append_assoc, List.nil_append]
    exact congrArg ('[' :: ·) hitems
  | .obj fields, h, rest => by
    rw [Value.isNormal, Bool.and_eq_true] at h
    have hfields := brackets_encodeFields fields h.2 ('\x7d' :: rest)
    simp only [encode, skeleton, List.cons_append, List.append_assoc, List.nil_append]
    exact congrArg ('\x7b' :: ·) hfields

theorem brackets_encodeItems : (vs : List Value) → Value.areNormal vs = true →
    (rest : List Char) →
    brackets (encodeItems charset vs ++ rest) = itemSkeletons vs ++ brackets rest
  | [], _, rest => rfl
  | [v], h, rest => by
    rw [Value.areNormal, Bool.and_eq_true] at h
    rw [encodeItems, brackets_encode v h.1, itemSkeletons, itemSkeletons, List.append_nil]
  | v :: w :: vs, h, rest => by
    rw [Value.areNormal, Bool.and_eq_true] at h
    have hrest := brackets_encodeItems (w :: vs) h.2 rest
    have hcomma := brackets_comma (encodeItems charset (w :: vs) ++ rest)
    rw [encodeItems, List.append_assoc, brackets_encode v h.1, itemSkeletons, List.append_assoc,
      ← hrest, ← hcomma]
    · rfl
    · exact List.cons_ne_nil w vs

theorem brackets_encodeFields : (fs : List (String × Value)) → Value.areNormalFields fs = true →
    (rest : List Char) →
    brackets (encodeFields charset fs ++ rest) = fieldSkeletons fs ++ brackets rest
  | [], _, rest => rfl
  | [(k, v)], h, rest => by
    rw [Value.areNormalFields, Bool.and_eq_true] at h
    have hcolon := brackets_colon (encode charset v ++ rest)
    rw [encodeFields, List.append_assoc, brackets_quoteChars, fieldSkeletons, fieldSkeletons,
      List.append_nil, ← brackets_encode v h.1, ← hcolon]
    rfl
  | (k, v) :: f :: fs, h, rest => by
    rw [Value.areNormalFields, Bool.and_eq_true] at h
    have hrest := brackets_encodeFields (f :: fs) h.2 rest
    have hcomma := brackets_comma (encodeFields charset (f :: fs) ++ rest)
    have hcolon := brackets_colon
      (encode charset v ++ ([',', ' '] ++ (encodeFields charset (f :: fs) ++ rest)))
    rw [brackets_encode v h.1, hcomma, hrest] at hcolon
    rw [encodeFields, List.append_assoc, List.append_assoc, brackets_quoteChars, fieldSkeletons,
      List.append_assoc, ← hcolon]
    · simp
    · exact List.cons_ne_nil f fs

end

end Json

end TypeDraft
