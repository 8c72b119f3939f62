import TypeDraft.Proofs.Json.Literals
import TypeDraft.Proofs.Json.Reading

/-!
# The words of a text of JSON

The numbers and names of values in a text of JSON can be found without reading its values: they are
what stands together outside quotes.
-/

namespace TypeDraft.Json

/-- A word that has been read, last character first, if there is one. -/
def finished (out : List Char) : List (List Char) := if out.isEmpty then [] else [out.reverse]

/-- The words of a text outside its quotes, `out` being the characters of a word read before it,
last one first. Between quotes there is no word. -/
def wordsFrom : (inside : Bool) → (out : List Char) → List Char → List (List Char)
  | false, out, '"' :: cs => finished out ++ wordsFrom true [] cs
  | false, out, c :: cs =>
    if isWordPart c then wordsFrom false (c :: out) cs else finished out ++ wordsFrom false [] cs
  | true, _, '"' :: cs => wordsFrom false [] cs
  | true, _, '\\' :: _ :: cs => wordsFrom true [] cs
  | true, _, _ :: cs => wordsFrom true [] cs
  | false, out, [] => finished out
  | true, _, [] => []

def words (cs : List Char) : List (List Char) := wordsFrom false [] cs

section

variable {cs rest out : List Char}

/-- What stands outside quotes and words is passed over. -/
theorem wordsFrom_between (h : ∀ c ∈ cs, c ≠ '"' ∧ isWordPart c = false) (rest : List Char) :
    wordsFrom false [] (cs ++ rest) = wordsFrom false [] rest := by
  induction cs with
  | nil => rfl
  | cons c cs ih =>
      obtain ⟨⟨hquote, hword⟩, hcs⟩ := List.forall_mem_cons.mp h
      rw [List.cons_append, wordsFrom, hword, if_neg Bool.false_ne_true, ih hcs]
      · rfl
      · exact fun heq => hquote heq

theorem wordsFrom_word (h : ∀ c ∈ cs, isWordPart c = true) (out rest : List Char) :
    wordsFrom false out (cs ++ rest) = wordsFrom false (cs.reverse ++ out) rest := by
  induction cs generalizing out with
  | nil => rfl
  | cons c cs ih =>
      obtain ⟨hc, hcs⟩ := List.forall_mem_cons.mp h
      rw [List.cons_append, wordsFrom, hc, if_pos rfl, ih hcs]
      · simp
      · rintro rfl
        exact absurd hc (by decide)

theorem wordsFrom_end (h : EndsWord rest) (out : List Char) :
    wordsFrom false out rest = finished out ++ words rest := by
  cases rest with
  | nil => simp [words, wordsFrom, finished]
  | cons c rest =>
      by_cases hquote : c = '"'
      · subst hquote
        simp [words, wordsFrom, finished]
      · have hc : isWordPart c = false := h c rfl
        rw [words, wordsFrom, wordsFrom, hc]
        · simp [finished]
        all_goals exact fun heq => hquote heq

theorem wordsFrom_plain {c : Char} (hquote : c ≠ '"') (hslash : c ≠ '\\') (cs : List Char) :
    wordsFrom true [] (c :: cs) = wordsFrom true [] cs := by
  rw [wordsFrom]
  · exact fun heq => hquote heq
  · exact fun _ _ heq => absurd heq hslash

theorem EscapesFrom.wordsFrom_append {body : List Char} {s : String} (h : EscapesFrom out body s)
    (rest : List Char) : wordsFrom true [] (body ++ '"' :: rest) = words rest := by
  induction h with
  | done => rfl
  | plain hquote hslash _ _ ih => rw [List.cons_append, wordsFrom_plain hquote hslash, ih]
  | simple _ _ ih => rw [List.cons_append, List.cons_append, wordsFrom, ih]
  | unit hunit _ ih =>
      obtain ⟨ha, hb, hc, hd⟩ := ne_of_codeUnit? hunit (x := '"') (by decide)
      obtain ⟨ha', hb', hc', hd'⟩ := ne_of_codeUnit? hunit (x := '\\') (by decide)
      simp only [List.cons_append]
      rw [wordsFrom, wordsFrom_plain ha ha', wordsFrom_plain hb hb', wordsFrom_plain hc hc',
        wordsFrom_plain hd hd', ih]

end

/-- The word that a token is. -/
def Token.word? : Token → Option (List Char)
  | word cs => some cs
  | _ => none

/-- What neither is a word nor stands in quotes. -/
theorem words_gap {g : List Char} (hg : IsGap g) (rest : List Char) :
    words (g ++ rest) = words rest :=
  wordsFrom_between (fun c hc => ⟨fun heq => absurd (heq ▸ hg c hc) (by decide),
    isWordPart_eq_false_of_isSpace (hg c hc)⟩) rest

theorem Lexeme.words_append {l : Lexeme} (hl : l.IsProper) (hstrict : l.token.IsStrict)
    (hbody : ∀ body ∈ l.token.body?, ∃ s, Escapes body s) {rest : List Char}
    (hrest : l.role = .word → EndsWord rest) :
    words (l.text ++ rest) = l.token.word?.toList ++ words rest := by
  obtain ⟨g, t⟩ := l
  rw [Lexeme.text, List.append_assoc, words_gap hl.1]
  cases t with
  | mark m =>
      have hm : ∀ c ∈ [m.char], c ≠ '"' ∧ isWordPart c = false := by cases m <;> decide
      exact wordsFrom_between hm rest
  | key form body gap =>
      cases hstrict
      obtain ⟨s, hs⟩ := hbody body rfl
      have htext : Token.text (.key (.quoted .double) body gap) ++ rest =
          '"' :: (body ++ '"' :: (gap ++ ([':'] ++ rest))) := by
        simp [Token.text, KeyForm.text, inQuotes, QuoteMark.char]
      rw [htext, words, wordsFrom, hs.wordsFrom_append, words_gap hl.2.1]
      exact wordsFrom_between (by decide) rest
  | string setting q body =>
      cases hstrict
      obtain ⟨s, hs⟩ := hbody body rfl
      have htext : Token.text (.string setting .double body) ++ rest =
          '"' :: (body ++ '"' :: rest) := by
        simp [Token.text, inQuotes, QuoteMark.char]
      rw [htext, words, wordsFrom, hs.wordsFrom_append]
      rfl
  | word cs =>
      rw [words, Token.text, wordsFrom_word hl.2.2, List.append_nil, wordsFrom_end (hrest rfl)]
      simp [finished, hl.2.1, Token.word?]

/-- The words of a text of strict lexemes are those among the lexemes. -/
theorem words_textOf {ls : List Lexeme} {g : List Char} (hls : WellPlaced ls)
    (hstrict : IsStrict ls) (hbody : ∀ l ∈ ls, ∀ body ∈ l.token.body?, ∃ s, Escapes body s)
    (hg : IsGap g) : words (textOf ls ++ g) = ls.flatMap fun l => l.token.word?.toList := by
  induction ls with
  | nil =>
      have hnone := words_gap hg []
      rwa [List.append_nil] at hnone
  | cons l ls ih =>
      rw [List.forall_mem_cons] at hbody
      rw [isStrict_cons] at hstrict
      have hends : l.role = .word → EndsWord (textOf ls ++ g) := by
        intro hword
        cases ls with
        | nil => exact hg.endsWord
        | cons m ms =>
            have hbefore : l.role.precedes m.role = true := (List.isChain_cons.mp hls.chain).1 m rfl
            rw [hword] at hbefore
            exact m.endsWord (hls.proper m (by simp)) hbefore ms g
      rw [textOf_cons, List.append_assoc,
        l.words_append (hls.proper l List.mem_cons_self) hstrict.1 hbody.1 hends,
        ih hls.tail hstrict.2 hbody.2, List.flatMap_cons]

/-- What holds of the words of a text holds of those among its lexemes. -/
theorem Writes.forall_words {s : Setting} {v : Value} {ls : List Lexeme} {g : List Char}
    (h : Writes IsAtom Escapes s v ls) (hstrict : IsStrict ls) (hg : IsGap g)
    {P : List Char → Prop} : (∀ w ∈ words (textOf ls ++ g), P w) ↔
      ∀ l ∈ ls, ∀ w ∈ l.token.word?, P w := by
  rw [words_textOf (h.isValueRun atomsAreWords_isAtom).toWellPlaced hstrict
    (h.forall_body fun _ s hs => ⟨s, hs⟩) hg]
  simp only [List.mem_flatMap, Option.mem_toList]
  exact ⟨fun h l hl w hw => h w ⟨l, hl, hw⟩, fun h w ⟨l, hl, hw⟩ => h l hl w hw⟩

end TypeDraft.Json
