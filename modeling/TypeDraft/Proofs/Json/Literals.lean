import TypeDraft.Proofs.Json.Atoms
import TypeDraft.Proofs.Json.Passes

/-!
# The strings of a text of JSON

What stands between the double quotes of a text of JSON can be found without reading its values.
-/

namespace TypeDraft.Json

/-- What stands between the double quotes of a text. Between quotes, `inside` is what has been read
since the first of them, last character first. -/
def literalsFrom : (inside : Option (List Char)) → List Char → List (List Char)
  | none, '"' :: cs => literalsFrom (some []) cs
  | none, _ :: cs => literalsFrom none cs
  | some out, '"' :: cs => out.reverse :: literalsFrom none cs
  | some out, '\\' :: c :: cs => literalsFrom (some (c :: '\\' :: out)) cs
  | some out, c :: cs => literalsFrom (some (c :: out)) cs
  | _, [] => []

def literals (cs : List Char) : List (List Char) := literalsFrom none cs

theorem literalsFrom_outside {before : List Char} (h : '"' ∉ before) (rest : List Char) :
    literalsFrom none (before ++ rest) = literalsFrom none rest := by
  induction before with
  | nil => rfl
  | cons c before ih =>
      rw [List.mem_cons, not_or] at h
      rw [List.cons_append, literalsFrom]
      · exact ih h.2
      · exact fun heq => h.1 heq.symm

/-- The four characters of a code unit are hexadecimal digits. -/
theorem isSome_hexValue?_of_codeUnit? {a b c d : Char} {n : Nat} (h : codeUnit? a b c d = some n) :
    ∀ e ∈ [a, b, c, d], (Numeral.hexValue? e).isSome = true := by
  unfold codeUnit? at h
  split at h
  · next ha hb hc hd => simp [ha, hb, hc, hd]
  · cases h

theorem ne_of_codeUnit? {a b c d : Char} {n : Nat} (h : codeUnit? a b c d = some n) {x : Char}
    (hx : Numeral.hexValue? x = none) : a ≠ x ∧ b ≠ x ∧ c ≠ x ∧ d ≠ x := by
  have hsome := isSome_hexValue?_of_codeUnit? h
  simp only [List.forall_mem_cons] at hsome
  refine ⟨?_, ?_, ?_, ?_⟩ <;> rintro rfl <;> simp_all

theorem literalsFrom_plain {c : Char} (hquote : c ≠ '"') (hslash : c ≠ '\\')
    (inside cs : List Char) :
    literalsFrom (some inside) (c :: cs) = literalsFrom (some (c :: inside)) cs := by
  rw [literalsFrom]
  · exact fun heq => hquote heq
  · exact fun _ _ heq => absurd heq hslash

theorem EscapesFrom.literalsFrom_append {out body : List Char} {s : String}
    (h : EscapesFrom out body s) (inside rest : List Char) :
    literalsFrom (some inside) (body ++ '"' :: rest) =
      (inside.reverse ++ body) :: literalsFrom none rest := by
  induction h generalizing inside with
  | done => simp [literalsFrom]
  | plain hquote hslash _ _ ih =>
      rw [List.cons_append, literalsFrom_plain hquote hslash, ih]
      simp
  | simple _ _ ih =>
      rw [List.cons_append, List.cons_append, literalsFrom, ih]
      simp
  | unit hunit _ ih =>
      obtain ⟨ha, hb, hc, hd⟩ := ne_of_codeUnit? hunit (x := '"') (by decide)
      obtain ⟨ha', hb', hc', hd'⟩ := ne_of_codeUnit? hunit (x := '\\') (by decide)
      simp only [List.cons_append]
      rw [literalsFrom, literalsFrom_plain ha ha', literalsFrom_plain hb hb',
        literalsFrom_plain hc hc', literalsFrom_plain hd hd', ih]
      simp

theorem EscapesFrom.not_mem_newline {out body : List Char} {s : String}
    (h : EscapesFrom out body s) : '\n' ∉ body := by
  induction h with
  | done => exact nofun
  | plain _ _ hcontrol _ ih =>
      refine List.not_mem_cons_of_ne_of_not_mem ?_ ih
      rintro rfl
      exact absurd hcontrol (by decide)
  | simple hescape _ ih =>
      refine List.not_mem_cons_of_ne_of_not_mem (by decide)
        (List.not_mem_cons_of_ne_of_not_mem ?_ ih)
      rintro rfl
      cases hescape
  | unit hunit _ ih =>
      obtain ⟨ha, hb, hc, hd⟩ := ne_of_codeUnit? hunit (x := '\n') (by decide)
      simp only [List.mem_cons, not_or]
      exact ⟨by decide, by decide, ha.symm, hb.symm, hc.symm, hd.symm, ih⟩

theorem not_mem_quote {cs : List Char} (h : ∀ c ∈ cs, isPlain c = true) : '"' ∉ cs :=
  fun hmem => absurd (h _ hmem) (by decide)

theorem Lexeme.literalsFrom_append {l : Lexeme} (hl : l.IsProper) (hstrict : l.token.IsStrict)
    (hbody : ∀ body ∈ l.token.body?, ∃ s, Escapes body s) (rest : List Char) :
    literalsFrom none (l.text ++ rest) = l.token.body?.toList ++ literalsFrom none rest := by
  obtain ⟨g, t⟩ := l
  have hgap : ∀ g : List Char, IsGap g → '"' ∉ g := fun g hg =>
    not_mem_quote fun c hc => by simp [isPlain, hg c hc]
  rw [Lexeme.text, List.append_assoc, literalsFrom_outside (hgap g hl.1)]
  cases t with
  | mark m =>
      have hm : '"' ∉ [m.char] := by cases m <;> decide
      exact literalsFrom_outside hm rest
  | key form body gap =>
      cases hstrict
      obtain ⟨s, hs⟩ := hbody body rfl
      have hcolon : '"' ∉ gap ++ [':'] := by simp [hgap gap hl.2.1]
      have htext : Token.text (.key (.quoted .double) body gap) ++ rest =
          '"' :: (body ++ '"' :: (gap ++ [':'] ++ rest)) := by
        simp [Token.text, KeyForm.text, inQuotes, QuoteMark.char]
      rw [htext, literalsFrom, hs.literalsFrom_append, literalsFrom_outside hcolon]
      rfl
  | string setting q body =>
      cases hstrict
      obtain ⟨s, hs⟩ := hbody body rfl
      have htext : Token.text (.string setting .double body) ++ rest =
          '"' :: (body ++ '"' :: rest) := by
        simp [Token.text, inQuotes, QuoteMark.char]
      rw [htext, literalsFrom, hs.literalsFrom_append]
      rfl
  | word cs =>
      exact literalsFrom_outside
        (not_mem_quote fun c hc => isPlain_of_isWordPart (hl.2.2 c hc)) rest

/-- The strings of a text of strict lexemes are what the lexemes have in quotes. -/
theorem literals_textOf {ls : List Lexeme} {g : List Char} (hls : ∀ l ∈ ls, l.IsProper)
    (hstrict : IsStrict ls) (hbody : ∀ l ∈ ls, ∀ body ∈ l.token.body?, ∃ s, Escapes body s)
    (hg : IsGap g) : literals (textOf ls ++ g) = ls.flatMap fun l => l.token.body?.toList := by
  rw [literals]
  induction ls with
  | nil =>
      have hquote : '"' ∉ g := not_mem_quote fun c hc => by simp [isPlain, hg c hc]
      simpa [literalsFrom] using literalsFrom_outside hquote []
  | cons l ls ih =>
      rw [List.forall_mem_cons] at hls hbody
      rw [isStrict_cons] at hstrict
      rw [textOf_cons, List.append_assoc, l.literalsFrom_append hls.1 hstrict.1 hbody.1,
        ih hls.2 hstrict.2 hbody.2, List.flatMap_cons]

/-- What holds of the strings of a text holds of what the lexemes have in quotes. -/
theorem Writes.forall_literals {s : Setting} {v : Value} {ls : List Lexeme} {g : List Char}
    (h : Writes IsAtom Escapes s v ls) (hstrict : IsStrict ls) (hg : IsGap g)
    {P : List Char → Prop} : (∀ body ∈ literals (textOf ls ++ g), P body) ↔
      ∀ l ∈ ls, ∀ body ∈ l.token.body?, P body := by
  rw [literals_textOf (h.isValueRun atomsAreWords_isAtom).proper hstrict
    (h.forall_body fun _ s hs => ⟨s, hs⟩) hg]
  simp only [List.mem_flatMap, Option.mem_toList]
  exact ⟨fun h l hl body hbody => h body ⟨l, hl, hbody⟩,
    fun h body ⟨l, hl, hbody⟩ => h l hl body hbody⟩

end TypeDraft.Json
