import TypeDraft.Proofs.Json.Rules
import TypeDraft.Proofs.Text.Ascii

/-!
# What each repair rule makes of lexemes

On lexemes that are well made and well placed, a rule applies where it is meant to and nowhere
else, as long as it is quiet inside the quotes.
-/

namespace TypeDraft.Json

variable {rule : RepairRule}

/-! ## How tokens begin -/

theorem isBlank_of_isSpace {c : Char} (h : isSpace c = true) : Text.isBlank c = true := by
  simp only [isSpace, Bool.or_eq_true, beq_iff_eq] at h
  rcases h with ((rfl | rfl) | rfl) | rfl <;> decide

theorem isBlank_eq_false_of_isAlphanum {c : Char} (h : c.isAlphanum = true) :
    Text.isBlank c = false := by
  rw [Text.isAlphanum_iff, Text.isUpper_iff, Text.isLower_iff, Text.isDigit_iff] at h
  simp [Text.isBlank, Text.inRanges, Text.blankRanges]
  omega

/-- What character a token may begin with. -/
def Token.Begins (c : Char) : Token → Prop
  | mark m => c = m.char
  | key (.quoted q) _ _ | string _ q _ => c = q.char
  | key .bare _ _ => isBareStart c = true
  | word _ => isWordPart c = true

theorem Token.IsProper.exists_begins {t : Token} (h : t.IsProper) :
    ∃ c cs, t.text = c :: cs ∧ t.Begins c := by
  cases t with
  | mark m => exact ⟨_, _, rfl, rfl⟩
  | key form body gap =>
      cases form with
      | quoted q => exact ⟨_, _, rfl, rfl⟩
      | bare =>
          cases body with
          | nil => exact h.2.elim
          | cons c cs => exact ⟨_, _, rfl, h.2.1⟩
  | string s q body => exact ⟨_, _, rfl, rfl⟩
  | word cs =>
      obtain ⟨c, cs, rfl⟩ := List.exists_cons_of_ne_nil h.1
      exact ⟨_, _, rfl, h.2 c List.mem_cons_self⟩

theorem Mark.isBlank_char (m : Mark) : Text.isBlank m.char = false := by cases m <;> decide

theorem QuoteMark.isBlank_char (q : QuoteMark) : Text.isBlank q.char = false := by
  cases q <;> decide

theorem isBlank_eq_false_of_isBarePart {c : Char} (h : isBarePart c = true) :
    Text.isBlank c = false := by
  rcases Bool.or_eq_true _ _ ▸ h with h | h
  · exact isBlank_eq_false_of_isAlphanum h
  · rw [eq_of_beq h]
    decide

theorem isBarePart_of_isBareStart {c : Char} (h : isBareStart c = true) : isBarePart c = true := by
  simp only [isBareStart, isBarePart, Char.isAlphanum, Bool.or_eq_true] at h ⊢
  tauto

theorem IsBareWord.isBarePart {cs : List Char} (h : IsBareWord cs) :
    ∀ c ∈ cs, isBarePart c = true := by
  cases cs with
  | nil => exact h.elim
  | cons c cs => exact List.forall_mem_cons.mpr ⟨isBarePart_of_isBareStart h.1, h.2⟩

theorem isBlank_eq_false_of_isWordPart {c : Char} (h : isWordPart c = true) :
    Text.isBlank c = false := by
  simp only [isWordPart, Bool.or_eq_true, beq_iff_eq] at h
  rcases h with ((h | rfl) | rfl) | rfl
  · exact isBlank_eq_false_of_isAlphanum h
  all_goals decide

theorem Token.Begins.isBlank_eq_false {t : Token} {c : Char} (h : t.Begins c) :
    Text.isBlank c = false := by
  cases t with
  | mark m => exact (congrArg Text.isBlank h).trans m.isBlank_char
  | key form body gap =>
      cases form with
      | quoted q => exact (congrArg Text.isBlank h).trans q.isBlank_char
      | bare => exact isBlank_eq_false_of_isBarePart (isBarePart_of_isBareStart h)
  | string s q body => exact (congrArg Text.isBlank h).trans q.isBlank_char
  | word cs => exact isBlank_eq_false_of_isWordPart h

theorem IsGap.isBlank {g : List Char} (hg : IsGap g) : ∀ c ∈ g, Text.isBlank c = true :=
  fun c hc => isBlank_of_isSpace (hg c hc)

/-- What stands before and behind the blanks at the head of a text that begins with a lexeme. -/
theorem Lexeme.IsProper.blanks {l : Lexeme} (h : l.IsProper) (rest : List Char) :
    ∃ c cs, l.token.text = c :: cs ∧ l.token.Begins c ∧ blanks (l.text ++ rest) = l.gap ∧
      afterBlanks (l.text ++ rest) = c :: (cs ++ rest) := by
  obtain ⟨c, cs, htext, hc⟩ := h.2.exists_begins
  have hhead : ∀ d ∈ (c :: (cs ++ rest)).head?, Text.isBlank d = false := by
    simpa using hc.isBlank_eq_false
  refine ⟨c, cs, htext, hc, ?_⟩
  rw [Lexeme.text, htext, List.append_assoc, List.cons_append]
  exact ⟨takeWhile_append_of_head h.1.isBlank hhead, dropWhile_append_of_head h.1.isBlank hhead⟩

/-! ## Where a rule can apply -/

/-- A rule applies nowhere between the quotes of a token. -/
def Token.IsQuietInside (rule : RepairRule) : Token → Prop
  | key (.quoted q) body _ | string _ q body => ∀ rest, Quiet rule body (q.char :: rest)
  | _ => True

/-- The ends of a token from its marks, quotes and colon on. -/
def Token.edges : Token → List (List Char)
  | mark m => [[m.char]]
  | key (.quoted q) body gap =>
    [inQuotes q body ++ (gap ++ [':']), q.char :: (gap ++ [':']), [':']]
  | key .bare _ _ => [[':']]
  | string _ q body => [inQuotes q body, [q.char]]
  | word _ => []

/-- The characters outside quotes that are no marks. -/
def isPlain (c : Char) : Bool := isSpace c || isWordPart c || isBarePart c

theorem isPlain_of_isBarePart {c : Char} (h : isBarePart c = true) : isPlain c = true := by
  simp [isPlain, h]

theorem isPlain_of_isWordPart {c : Char} (h : isWordPart c = true) : isPlain c = true := by
  simp [isPlain, h]

theorem ne_of_isPlain {c d : Char} (hc : isPlain c = true) (hd : isPlain d = false) : c ≠ d := by
  rintro rfl
  exact Bool.false_ne_true (hd.symm.trans hc)

theorem Token.IsProper.quiet {heads : List Char} {t : Token} {rest : List Char}
    (ht : t.IsProper) (hrule : AppliesAt rule heads) (hheads : ∀ c ∈ heads, isPlain c = false)
    (hinside : t.IsQuietInside rule) (hedges : ∀ e ∈ t.edges, rule (e ++ rest) = none) :
    Quiet rule t.text rest := by
  have hplain : ∀ cs : List Char, (∀ c ∈ cs, isPlain c = true) → ∀ rest, Quiet rule cs rest :=
    fun cs hcs => hrule.quiet fun c hc hmem =>
      Bool.false_ne_true ((hheads c hmem).symm.trans (hcs c hc))
  cases t with
  | mark m => exact ⟨hedges _ List.mem_cons_self, trivial⟩
  | key form body gap =>
      have hgap := hplain gap fun c hc => by simp [isPlain, ht.1 c hc]
      cases form with
      | quoted q =>
          simp only [Token.edges, List.forall_mem_cons, inQuotes, List.append_assoc,
            List.cons_append, List.nil_append] at hedges
          simp only [Token.text, KeyForm.text, inQuotes, List.cons_append, List.append_assoc, Quiet,
            quiet_append, List.nil_append]
          exact ⟨hedges.1, hinside _, hedges.2.1, hgap _, hedges.2.2.1, trivial⟩
      | bare =>
          have hbody := hplain body fun c hc => isPlain_of_isBarePart (ht.2.isBarePart c hc)
          simp only [Token.text, KeyForm.text, Quiet, quiet_append]
          exact ⟨hbody _, hgap _, hedges _ List.mem_cons_self, trivial⟩
  | string s q body =>
      simp only [Token.edges, List.forall_mem_cons, inQuotes, List.append_assoc,
        List.cons_append, List.nil_append] at hedges
      simp only [Token.text, inQuotes, List.cons_append, List.append_assoc, Quiet, quiet_append,
        List.nil_append]
      exact ⟨hedges.1, hinside _, hedges.2.1, trivial⟩
  | word cs => exact hplain cs (fun c hc => isPlain_of_isWordPart (ht.2 c hc)) rest

theorem IsGap.quiet {heads g : List Char} (hg : IsGap g) (hrule : AppliesAt rule heads)
    (hheads : ∀ c ∈ heads, isPlain c = false) (rest : List Char) : Quiet rule g rest :=
  hrule.quiet (fun c hc hmem => by simpa [isPlain, hg c hc] using hheads c hmem) rest

theorem Lexeme.IsProper.quiet {heads : List Char} {l : Lexeme} {rest : List Char}
    (hl : l.IsProper) (hrule : AppliesAt rule heads) (hheads : ∀ c ∈ heads, isPlain c = false)
    (hinside : l.token.IsQuietInside rule) (hedges : ∀ e ∈ l.token.edges, rule (e ++ rest) = none) :
    Quiet rule l.text rest :=
  quiet_append.mpr ⟨hl.1.quiet hrule hheads _, hl.2.quiet hrule hheads hinside hedges⟩

/-- Well placed lexemes that a rule changes nothing inside of. -/
structure ReadyFor (rule : RepairRule) (ls : List Lexeme) : Prop extends WellPlaced ls where
  inside : ∀ l ∈ ls, l.token.IsQuietInside rule

theorem ReadyFor.tail {l : Lexeme} {ls : List Lexeme} (h : ReadyFor rule (l :: ls)) :
    ReadyFor rule ls where
  toWellPlaced := h.toWellPlaced.tail
  inside := (List.forall_mem_cons.mp h.inside).2

/-- A rule that applies at marks only. -/
theorem Lexeme.IsProper.quiet_of_mark {heads : List Char} {l : Lexeme}
    (hl : l.IsProper) (hrule : AppliesAt rule heads)
    (hheads : ∀ c ∈ heads, isPlain c = false ∧ c ∉ ['"', '\'', ':'])
    (hinside : l.token.IsQuietInside rule) (rest : List Char)
    (hmark : ∀ m, l.token = .mark m → rule (m.char :: rest) = none) :
    Quiet rule l.text rest := by
  have hnone : ∀ c ∈ ['"', '\'', ':'], ∀ cs, rule (c :: cs) = none :=
    fun c hc => hrule c fun hmem => (hheads c hmem).2 hc
  have hquote : ∀ (q : QuoteMark) cs, rule (q.char :: cs) = none := fun q =>
    hnone q.char (by cases q <;> decide)
  refine hl.quiet hrule (fun c hc => (hheads c hc).1) hinside ?_
  obtain ⟨g, t⟩ := l
  cases t with
  | mark m => simpa [Token.edges] using hmark m rfl
  | key form body gap =>
      cases form <;> simp [Token.edges, inQuotes, hquote, hnone]
  | string s q body => simp [Token.edges, inQuotes, hquote]
  | word cs => simp [Token.edges]

/-! ## Trailing commas -/

theorem appliesAt_dropTrailingComma : AppliesAt dropTrailingComma [','] := by
  intro c hc cs
  unfold dropTrailingComma
  split <;> simp_all

section

variable {l : Lexeme} {ls : List Lexeme}

theorem dropTrailingComma_of_isClose (hl : l.IsProper) (hclose : l.role.isClose = true)
    (rest : List Char) :
    dropTrailingComma (',' :: (l.text ++ rest)) = some (l.text, l.text.length + 1) := by
  obtain ⟨c, cs, htext, -, hblanks, hafter⟩ := hl.blanks rest
  obtain ⟨g, t⟩ := l
  cases t with
  | mark m =>
      obtain ⟨rfl, rfl⟩ := List.cons.inj htext
      have hm : (m.char == '\x7d' || m.char == ']') = true := by
        cases m <;> first | decide | cases hclose
      simp only [dropTrailingComma, hafter, hblanks, if_pos hm]
      simp [Lexeme.text, Token.text]
  | key form body gap => cases hclose
  | string s q body => cases hclose
  | word cs => cases hclose

theorem not_closes_of_begins {t : Token} {c : Char} (h : t.Begins c)
    (hclose : t.role.isClose = false) : (c == '\x7d' || c == ']') = false := by
  have hplain : isPlain c = true → (c == '\x7d' || c == ']') = false := fun hc => by
    simp [ne_of_isPlain hc (d := '\x7d') (by decide), ne_of_isPlain hc (d := ']') (by decide)]
  cases t with
  | mark m => subst h; cases m <;> first | decide | cases hclose
  | key form body gap =>
      cases form with
      | quoted q => subst h; cases q <;> decide
      | bare => exact hplain (isPlain_of_isBarePart (isBarePart_of_isBareStart h))
  | string s q body => subst h; cases q <;> decide
  | word cs => exact hplain (isPlain_of_isWordPart h)

theorem dropTrailingComma_of_not_isClose (hl : l.IsProper) (hclose : l.role.isClose = false)
    (rest : List Char) : dropTrailingComma (',' :: (l.text ++ rest)) = none := by
  obtain ⟨c, cs, -, hc, -, hafter⟩ := hl.blanks rest
  simp only [dropTrailingComma, hafter, not_closes_of_begins hc hclose, Bool.false_eq_true,
    if_false]

end

/-- Takes the trailing commas out; the white space before one stays. -/
def dropTrailing : List Lexeme → List Lexeme
  | ⟨g, .mark .trailingComma⟩ :: m :: ls => ⟨g ++ m.gap, m.token⟩ :: dropTrailing ls
  | l :: ls => l :: dropTrailing ls
  | [] => []

theorem dropTrailing_cons {l : Lexeme} (h : l.token ≠ .mark .trailingComma) (ls : List Lexeme) :
    dropTrailing (l :: ls) = l :: dropTrailing ls := by
  obtain ⟨g, t⟩ := l
  rw [dropTrailing]
  rintro g m ms ⟨⟩ rfl
  exact h rfl

theorem replaceAll_dropTrailingComma {ls : List Lexeme} (h : ReadyFor dropTrailingComma ls) :
    replaceAll dropTrailingComma (textOf ls) = textOf (dropTrailing ls) := by
  refine replaceAll_textOf (P := ReadyFor dropTrailingComma) rfl ?_ ls h
  rintro ⟨g, t⟩ ls h
  have hl := h.proper _ List.mem_cons_self
  have hquiet := hl.quiet_of_mark appliesAt_dropTrailingComma (by decide)
    (h.inside _ List.mem_cons_self) (textOf ls)
  by_cases ht : t = .mark .trailingComma
  · subst ht
    cases ls with
    | nil => exact .inl ⟨rfl, hquiet (by rintro m ⟨⟩; rfl), h.tail⟩
    | cons m ls =>
        have hclose : m.role.isClose = true := (List.isChain_cons_cons.mp h.chain).1
        refine .inr ⟨ls, g, ',' :: m.text, m.text, Nat.le_succ _, h.tail.tail,
          List.cons_ne_nil _ _, ?_, hl.1.quiet appliesAt_dropTrailingComma (by decide) _,
          dropTrailingComma_of_isClose (h.tail.proper _ List.mem_cons_self) hclose _, ?_⟩
        · simp [Lexeme.text, Token.text, Mark.char]
        · simp [dropTrailing, Lexeme.text]
  · refine .inl ⟨dropTrailing_cons ht ls, hquiet ?_, h.tail⟩
    rintro m rfl
    by_cases hcomma : m = .comma
    · subst hcomma
      cases ls with
      | nil => rfl
      | cons m ls =>
          have hopen := Role.not_isClose_of_comma (List.isChain_cons_cons.mp h.chain).1
          exact dropTrailingComma_of_not_isClose (h.tail.proper _ List.mem_cons_self) hopen _
    · exact appliesAt_dropTrailingComma _ (by cases m <;> simp_all [Mark.char]) _

end TypeDraft.Json
