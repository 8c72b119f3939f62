import TypeDraft.Input.Detection
import TypeDraft.Proofs.Json.Literals
import TypeDraft.Proofs.Json.Mending
import TypeDraft.Proofs.Json.Writing

/-!
# What repair leaves alone

Repair changes nothing but the white space around a text of JSON as long as no string in it holds
what a rule is looking for. Whether one does can be told from each string alone.
-/

namespace TypeDraft.Json

variable {rule : RepairRule}

/-! ## Misleading strings -/

/-- Whether the head of a text inside quotes looks like something that a rule changes: a trailing
comma, a bare key, or a single quote where one would open or close a string. -/
def startsMisleading (cs : List Char) : Bool :=
  (dropTrailingComma cs).isSome || (quoteBareKey cs).isSome ||
    match cs with
    | '\'' :: ':' :: _ => true
    | c :: rest => (c == ':' || c == '[' || c == ',') && (afterBlanks rest).head? == some '\''
    | [] => false

def isMisleading (body : List Char) : Bool := anywhere startsMisleading body

theorem isMisleading_cons {c : Char} {cs : List Char} (h : isMisleading (c :: cs) = false) :
    startsMisleading (c :: cs) = false ∧ isMisleading cs = false := by
  rwa [isMisleading, anywhere, Bool.or_eq_false_iff] at h

/-- A rule that a quote stops is quiet on a text that does not mislead. -/
theorem quiet_of_not_isMisleading {body rest : List Char} (h : isMisleading body = false)
    (hrule : ∀ c cs, startsMisleading (c :: cs) = false → rule (c :: (cs ++ '"' :: rest)) = none) :
    Quiet rule body ('"' :: rest) := by
  induction body with
  | nil => trivial
  | cons c cs ih =>
      obtain ⟨hc, hcs⟩ := isMisleading_cons h
      exact ⟨hrule c cs hc, ih hcs⟩

theorem dropWhile_append_cons {p : Char → Bool} {d : Char} (hd : p d = false)
    (cs rest : List Char) : (cs ++ d :: rest).dropWhile p = cs.dropWhile p ++ d :: rest := by
  rw [List.dropWhile_append]
  split
  · next hnil =>
      rw [List.isEmpty_iff.mp hnil, List.dropWhile_cons_of_neg (by simp [hd]), List.nil_append]
  · rfl

theorem afterBlanks_append_quote (cs rest : List Char) :
    afterBlanks (cs ++ '"' :: rest) = afterBlanks cs ++ '"' :: rest :=
  dropWhile_append_cons (by decide) cs rest

theorem startsMisleading_eq_false {c : Char} {cs : List Char}
    (h : startsMisleading (c :: cs) = false) :
    dropTrailingComma (c :: cs) = none ∧ quoteBareKey (c :: cs) = none ∧
      (c = '\'' → cs.head? ≠ some ':') ∧
      (c ∈ [':', '[', ','] → (afterBlanks cs).head? ≠ some '\'') := by
  unfold startsMisleading at h
  rw [Bool.or_eq_false_iff, Bool.or_eq_false_iff, Option.isSome_eq_false_iff,
    Option.isSome_eq_false_iff, Option.isNone_iff_eq_none, Option.isNone_iff_eq_none] at h
  obtain ⟨⟨hcomma, hkey⟩, hquote⟩ := h
  refine ⟨hcomma, hkey, ?_, ?_⟩
  · rintro rfl
    cases cs with
    | nil => simp
    | cons d cs =>
        intro hd
        obtain rfl : d = ':' := Option.some.inj hd
        cases hquote
  · intro hc hhead
    have hne : c ≠ '\'' := by
      rintro rfl
      simp at hc
    split at hquote
    · next heq => exact hne (List.cons.inj heq).1
    · simp_all
    · simp_all

theorem head?_append_quote {cs : List Char} {d : Char} (hd : d ≠ '"') (h : cs.head? ≠ some d)
    (rest : List Char) : (cs ++ '"' :: rest).head? ≠ some d := by
  cases cs with
  | nil => simpa using hd.symm
  | cons e cs => exact h

theorem quoted?_of_head {cs : List Char} (h : cs.head? ≠ some '\'') : quoted? cs = none := by
  cases cs with
  | nil => rfl
  | cons c cs => exact quoted?_eq_none (fun hc => h (congrArg some hc)) cs

section

variable {c : Char} {cs : List Char} (h : startsMisleading (c :: cs) = false) (rest : List Char)

include h

theorem dropTrailingComma_before_quote : dropTrailingComma (c :: (cs ++ '"' :: rest)) = none := by
  by_cases hc : c = ','
  · subst hc
    have hcomma := (startsMisleading_eq_false h).1
    simp only [dropTrailingComma, afterBlanks_append_quote] at hcomma ⊢
    cases hafter : afterBlanks cs with
    | nil => simp
    | cons d ds =>
        simp only [hafter, List.cons_append] at hcomma ⊢
        split at hcomma
        · cases hcomma
        · next hd => exact if_neg hd
  · exact appliesAt_dropTrailingComma c (by simpa using hc) _

theorem requoteValue_before_quote : requoteValue (c :: (cs ++ '"' :: rest)) = none := by
  by_cases hc : c = ':'
  · subst hc
    have hhead := (startsMisleading_eq_false h).2.2.2 (by decide)
    simp only [requoteValue, afterBlanks_append_quote,
      quoted?_of_head (head?_append_quote (by decide) hhead rest)]
  · exact appliesAt_requoteValue c (by simpa using hc) _

theorem requoteElement_before_quote : requoteElement (c :: (cs ++ '"' :: rest)) = none := by
  by_cases hc : c ∈ ['[', ',']
  · have hhead := (startsMisleading_eq_false h).2.2.2 (List.mem_cons_of_mem _ hc)
    simp only [requoteElement, afterBlanks_append_quote,
      quoted?_of_head (head?_append_quote (by decide) hhead rest), ite_self]
  · exact appliesAt_requoteElement c hc _

theorem quoteBareKey_before_quote : quoteBareKey (c :: (cs ++ '"' :: rest)) = none := by
  by_cases hc : c ∈ ['\x7b', ',']
  · have hkey := (startsMisleading_eq_false h).2.1
    refine quoteBareKey_eq_none fun d ds hafter hstart => ?_
    rw [afterBlanks_append_quote] at hafter
    cases hcs : afterBlanks cs with
    | nil =>
        rw [hcs] at hafter
        obtain ⟨rfl, -⟩ := List.cons.inj hafter
        exact absurd hstart (by decide)
    | cons e es =>
        rw [hcs] at hafter
        obtain ⟨rfl, rfl⟩ := List.cons.inj hafter
        have hquote : isBarePart '"' = false := by decide
        have hcond : (c == '\x7b' || c == ',') = true := by
          simpa using hc
        rw [List.append_eq, dropWhile_append_cons hquote, afterBlanks_append_quote]
        refine head?_append_quote (by decide) (fun hcolon => ?_) rest
        obtain ⟨ds, hds⟩ := List.head?_eq_some_iff.mp hcolon
        simp [quoteBareKey, hcs, hstart, hds] at hkey
        simp_all
  · exact appliesAt_quoteBareKey c hc _

end

/-! ## Single quotes before colons -/

/-- A single quote with a colon behind it, which is where a single-quoted key may end. -/
def endOfKey : RepairRule
  | '\'' :: ':' :: _ => some ([], 2)
  | _ => none

theorem appliesAt_endOfKey : AppliesAt endOfKey ['\''] := by
  intro c hc cs
  unfold endOfKey
  split <;> simp_all

/-- Where no colon stands behind a single quote there are no single-quoted keys. -/
theorem quiet_requoteKey {cs : List Char} (h : Quiet endOfKey cs []) : Quiet requoteKey cs [] := by
  induction cs with
  | nil => trivial
  | cons c cs ih =>
      refine ⟨?_, ih h.2⟩
      rw [List.append_nil]
      by_cases hc : c = '\''
      · subst hc
        refine requoteKey_eq_none fun inside rest hquoted => ?_
        rw [quoted?] at hquoted
        split at hquoted
        · next d rest' hdrop =>
            obtain ⟨-, rfl⟩ := Prod.mk.inj (Option.some.inj hquoted)
            have hsplit : cs = cs.takeWhile (· ≠ '\'') ++ d :: rest' := by
              rw [← hdrop, List.takeWhile_append_dropWhile]
            have hrest := h.2
            rw [hsplit, quiet_append] at hrest
            have hd : d = '\'' := by
              have hhead := List.head?_dropWhile_not (· ≠ '\'') cs
              rw [hdrop] at hhead
              simpa using hhead
            subst hd
            intro hcolon
            obtain ⟨r, rfl⟩ := List.head?_eq_some_iff.mp hcolon
            cases hrest.2.1
        · cases hquoted
      · exact appliesAt_requoteKey c (by simpa using hc) _

theorem endOfKey_before_quote {c : Char} {cs : List Char} (h : startsMisleading (c :: cs) = false)
    (rest : List Char) : endOfKey (c :: (cs ++ '"' :: rest)) = none := by
  by_cases hc : c = '\''
  · subst hc
    have hhead := head?_append_quote (by decide) ((startsMisleading_eq_false h).2.2.1 rfl) rest
    unfold endOfKey
    split
    · next heq => exact absurd (congrArg List.head? (List.cons.inj heq).2) hhead
    · rfl
  · exact appliesAt_endOfKey c (by simpa using hc) _

/-! ## Harmless lexemes -/

/-- Strict lexemes whose quoted texts mislead no rule and have no line ends. -/
structure IsHarmless (ls : List Lexeme) : Prop extends WellPlaced ls where
  strict : IsStrict ls
  noBreak : ∀ l ∈ ls, l.token.HasNoBreak
  notMisleading : ∀ l ∈ ls, ∀ body ∈ l.token.body?, isMisleading body = false

section

variable {ls : List Lexeme} (h : IsHarmless ls)

include h

theorem IsHarmless.readyFor (hrule : ∀ {c cs}, startsMisleading (c :: cs) = false →
    ∀ rest, rule (c :: (cs ++ '"' :: rest)) = none) : ReadyFor rule ls where
  toWellPlaced := h.toWellPlaced
  inside l hl := by
    have hstrict := h.strict l hl
    have hbody := h.notMisleading l hl
    obtain ⟨g, t⟩ := l
    cases t with
    | key form body gap =>
        cases hstrict
        exact fun rest => quiet_of_not_isMisleading (hbody body rfl) fun c cs hc => hrule hc rest
    | string s q body =>
        cases hstrict
        exact fun rest => quiet_of_not_isMisleading (hbody body rfl) fun c cs hc => hrule hc rest
    | _ => trivial

theorem IsHarmless.replaceAll_requoteKey :
    replaceAll requoteKey (textOf ls) = textOf ls := by
  refine replaceAll_of_quiet (quiet_requoteKey (quiet_textOf
    (P := fun ls => ReadyFor endOfKey ls ∧ IsStrict ls) ?_ ls
    ⟨h.readyFor endOfKey_before_quote, h.strict⟩))
  rintro l ls ⟨h, hstrict⟩
  rw [isStrict_cons] at hstrict
  refine ⟨?_, h.tail, hstrict.2⟩
  have hnone : ∀ c, c ≠ '\'' → ∀ cs, endOfKey (c :: cs) = none :=
    fun c hc => appliesAt_endOfKey c (by simpa using hc)
  refine (h.proper l List.mem_cons_self).quiet appliesAt_endOfKey (by decide)
    (h.inside l List.mem_cons_self) ?_
  obtain ⟨g, t⟩ := l
  cases t with
  | mark m => cases m <;> simp [Token.edges, Mark.char, hnone]
  | key form body gap =>
      cases hstrict.1
      simp [Token.edges, inQuotes, QuoteMark.char, hnone]
  | string s q body =>
      cases hstrict.1
      simp [Token.edges, inQuotes, QuoteMark.char, hnone]
  | word cs => simp [Token.edges]

theorem IsHarmless.unindent : IsHarmless (unindent ls) := by
  cases ls with
  | nil => exact h
  | cons l ls =>
      have hl := h.proper l List.mem_cons_self
      exact ⟨h.tail.cons ⟨nofun, hl.2⟩ (List.isChain_cons.mp h.chain).1, by
        simpa [Json.unindent] using h.strict, by simpa [Json.unindent] using h.noBreak, by
        simpa [Json.unindent] using h.notMisleading⟩

/-- A lexeme that is strict already is left as it is by what changes quotes. -/
theorem map_eq_self_of_isStrict {f : Lexeme → Lexeme}
    (hf : ∀ l, l.token.IsStrict → f l = l) : ls.map f = ls :=
  (List.map_congr_left fun l hl => hf l (h.strict l hl)).trans (List.map_id' ls)

end

theorem Lexeme.requoteValue_of_isStrict (l : Lexeme) (h : l.token.IsStrict) :
    l.requoteValue = l := by
  refine Lexeme.requoteValue_eq_self fun body heq => ?_
  rw [heq] at h
  cases h

theorem Lexeme.requoteElement_of_isStrict (l : Lexeme) (h : l.token.IsStrict) :
    l.requoteElement = l := by
  refine Lexeme.requoteElement_eq_self fun body heq => ?_
  rw [heq] at h
  cases h

theorem Lexeme.quoteBareKey_of_isStrict (l : Lexeme) (h : l.token.IsStrict) :
    l.quoteBareKey = l := by
  refine Lexeme.quoteBareKey_eq_self fun body gap heq => ?_
  rw [heq] at h
  cases h

theorem dropTrailing_of_isStrict {ls : List Lexeme} (h : IsStrict ls) : dropTrailing ls = ls := by
  induction ls with
  | nil => rfl
  | cons l ls ih =>
      rw [isStrict_cons] at h
      have hl : l.token ≠ .mark .trailingComma := by
        intro heq
        rw [heq] at h
        exact h.1 rfl
      rw [dropTrailing_cons hl, ih h.2]

/-- Repair takes nothing but white space at the ends from a text of harmless lexemes. -/
theorem repair_of_isHarmless {ls : List Lexeme} {g : List Char} (h : IsHarmless ls) (hne : ls ≠ [])
    (hg : IsGap g) : repair (textOf ls ++ g) = textOf (unindent ls) := by
  have hls := h.unindent
  have hcomma := replaceAll_dropTrailingComma (hls.readyFor dropTrailingComma_before_quote)
  have hsingles : SinglesAreClosed (unindent ls) := by
    intro l hl s body heq
    have hstrict := hls.strict l hl
    rw [heq] at hstrict
    cases hstrict
  have hvalue := replaceAll_requoteValue (hls.readyFor requoteValue_before_quote) hsingles
    fun l hl => l.requoteValue_of_isStrict (hls.strict l (List.mem_of_mem_head? hl))
  have helement := replaceAll_requoteElement (hls.readyFor requoteElement_before_quote)
    (fun l hl body gap heq => by
      have hstrict := hls.strict l hl
      rw [heq] at hstrict
      cases hstrict)
    hsingles fun l hl => l.requoteElement_of_isStrict (hls.strict l (List.mem_of_mem_head? hl))
  have hbare := replaceAll_quoteBareKey (hls.readyFor quoteBareKey_before_quote)
    fun l hl => l.quoteBareKey_of_isStrict (hls.strict l (List.mem_of_mem_head? hl))
  rw [dropTrailing_of_isStrict hls.strict] at hcomma
  rw [map_eq_self_of_isStrict hls Lexeme.requoteValue_of_isStrict] at hvalue
  rw [map_eq_self_of_isStrict hls Lexeme.requoteElement_of_isStrict] at helement
  rw [map_eq_self_of_isStrict hls Lexeme.quoteBareKey_of_isStrict] at hbare
  simp only [repair, repairRules, List.foldl_cons, List.foldl_nil]
  rw [trim_textOf h.proper hne hg, hcomma, hls.replaceAll_requoteKey, hvalue, helement, hbare,
    replaceAll_separate_strings hls.toWellPlaced hls.noBreak,
    replaceAll_of_quiet (quiet_separate_objects hls.toWellPlaced hls.noBreak)]

/-! ## Texts without misleading strings -/

/-- Strict lexemes are harmless if no string of their text misleads a rule. -/
theorem Writes.isHarmless {s : Setting} {v : Value} {ls : List Lexeme} {g : List Char}
    (h : Writes IsAtom Escapes s v ls) (hstrict : IsStrict ls) (hg : IsGap g)
    (hliterals : ∀ body ∈ literals (textOf ls ++ g), isMisleading body = false) :
    IsHarmless ls where
  toWellPlaced := (h.isValueRun atomsAreWords_isAtom).toWellPlaced
  strict := hstrict
  noBreak l hl := Token.hasNoBreak_of_body
    (h.forall_body (fun _ _ hbody => EscapesFrom.not_mem_newline hbody) l hl)
  notMisleading := (h.forall_literals hstrict hg).mp hliterals

/-- Repair takes nothing but the white space at the ends from a text of JSON without misleading
strings. -/
theorem repair_eq_trim {cs : List Char} {v : Value} (h : decode cs = .ok v)
    (hliterals : ∀ body ∈ literals cs, isMisleading body = false) : repair cs = Text.trim cs := by
  obtain ⟨v, ls, g, hls, hstrict, hg, rfl, rfl, -⟩ := exists_writes_of_decode h
  have hharmless := hls.isHarmless hstrict hg hliterals
  have hne := (hls.isValueRun atomsAreWords_isAtom).nonempty
  rw [repair_of_isHarmless hharmless hne hg, trim_textOf hharmless.proper hne hg]

/-- A text of JSON without misleading strings stands for the same value after repair. -/
theorem decode_repair_of_literals {cs : List Char} {v : Value} (h : decode cs = .ok v)
    (hliterals : ∀ body ∈ literals cs, isMisleading body = false) :
    decode (repair cs) = .ok v := by
  obtain ⟨v, ls, g, hls, hstrict, hg, rfl, rfl, hdepth⟩ := exists_writes_of_decode h
  have hharmless := hls.isHarmless hstrict hg hliterals
  have hne := (hls.isValueRun atomsAreWords_isAtom).nonempty
  have hread := (decode_textOf hls.unindent (List.forall_mem_nil _ : IsGap []) hdepth).1
    hharmless.unindent.strict
  rw [List.append_nil] at hread
  rw [repair_of_isHarmless hharmless hne hg, hread]

/-! ## Clean strings -/

/-- What misleads a rule begins with a single quote, a comma or an opening brace, or there is a
single quote behind it. -/
theorem startsMisleading_of_not_mem {c : Char} {cs : List Char}
    (h : ∀ d ∈ c :: cs, d ∉ [',', '\'', '\x7b']) : startsMisleading (c :: cs) = false := by
  obtain ⟨hc, hcs⟩ := List.forall_mem_cons.mp h
  have hcomma : dropTrailingComma (c :: cs) = none :=
    appliesAt_dropTrailingComma c (by simp_all) cs
  have hkey : quoteBareKey (c :: cs) = none := appliesAt_quoteBareKey c (by simp_all) cs
  have hquote : (afterBlanks cs).head? ≠ some '\'' := by
    intro hhead
    have hmem : '\'' ∈ cs := (List.dropWhile_suffix _).subset (List.mem_of_head? hhead)
    exact hcs _ hmem (by decide)
  have hsingle : c ≠ '\'' := by
    rintro rfl
    exact hc (by decide)
  unfold startsMisleading
  rw [hcomma, hkey]
  split
  · next heq => exact absurd (List.cons.inj heq).1 hsingle
  · next heq =>
      obtain ⟨rfl, rfl⟩ := List.cons.inj heq
      simp [hquote]
  · rfl

theorem isMisleading_of_not_mem {body : List Char}
    (h : ∀ c ∈ body, c ∉ [',', '\'', '\x7b']) : isMisleading body = false := by
  rw [isMisleading]
  induction body with
  | nil => rfl
  | cons c body ih =>
      rw [anywhere, startsMisleading_of_not_mem h, ih (List.forall_mem_cons.mp h).2]
      rfl

/-- Repair leaves a text of JSON as it is but for the white space at its ends, if no string in it
holds a comma, a single quote or an opening brace. -/
theorem repair_keeps_clean_text {cs : List Char} {v : Value} (h : decode cs = .ok v)
    (hliterals : ∀ body ∈ literals cs, ',' ∉ body ∧ '\'' ∉ body ∧ '\x7b' ∉ body) :
    repair cs = Text.trim cs := by
  refine repair_eq_trim h fun body hbody => isMisleading_of_not_mem fun c hc hmem => ?_
  obtain ⟨hcomma, hquote, hbrace⟩ := hliterals body hbody
  simp only [List.mem_cons, List.not_mem_nil, or_false] at hmem
  rcases hmem with rfl | rfl | rfl
  · exact hcomma hc
  · exact hquote hc
  · exact hbrace hc

/-- Colons, closing brackets, escaped quotes and a bare word before a colon do no harm in strings, and
line ends none between tokens. -/
theorem repair_keeps_clean_text_layout :
    let cs := " \x7b\n\"k\\\": [\" :\r\n[-1.5e3 ,\n\"b: \\\"]\x7d\" ,\ntrue]\x7d\t".toList
    repair cs = Text.trim cs := by
  have h : decode " \x7b\n\"k\\\": [\" :\r\n[-1.5e3 ,\n\"b: \\\"]\x7d\" ,\ntrue]\x7d\t".toList =
      .ok (.obj [("k\": [", .arr [.float ⟨0xc097700000000000⟩, .str "b: \"]\x7d", .bool true])]) := by
    decide +kernel
  exact repair_keeps_clean_text h (by decide)

end TypeDraft.Json
