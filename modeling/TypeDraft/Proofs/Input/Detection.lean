import TypeDraft.Input.Parse
import TypeDraft.Proofs.Json.Harmless
import TypeDraft.Proofs.Json5.Agreement

/-!
# What JSON is taken for

JSON is never taken for lines of JSON, and on one line hardly for anything but JSON. If it is taken
for a table, a comma stands on its first line.
-/

namespace TypeDraft

open Json Text

/-! ## Lines -/

theorem trim_of_afterBlanks {cs rest : List Char} {c : Char} (h : afterBlanks cs = c :: rest) :
    ∃ rest', trim cs = c :: rest' := by
  rw [afterBlanks] at h
  have hc : isBlank c = false := by
    have hhead := List.head?_dropWhile_not isBlank cs
    rw [h] at hhead
    simpa using hhead
  refine ⟨(rest.reverse.dropWhile isBlank).reverse, ?_⟩
  rw [trim, h, List.reverse_cons, dropWhile_append_cons hc]
  simp

/-- The first line that is not blank begins with the first character that is not. -/
theorem exists_filled_line {cs rest : List Char} {c : Char} (h : afterBlanks cs = c :: rest) :
    ∃ line ∈ lines cs, ∃ rest', trim line = c :: rest' := by
  induction hn : cs.length using Nat.strongRecOn generalizing cs with | _ n ih
  by_cases hbreak : '\n' ∈ cs
  · obtain ⟨first, later, rfl, hfirst⟩ := List.eq_append_cons_of_mem hbreak
    rw [lines, splitAt_append hfirst]
    by_cases hblank : ∀ d ∈ first, isBlank d = true
    · have hlater : afterBlanks later = c :: rest := by
        rwa [afterBlanks, List.dropWhile_append_of_pos hblank,
          List.dropWhile_cons_of_pos (by decide)] at h
      have hlt : later.length < n := by
        rw [← hn, List.length_append, List.length_cons]
        omega
      obtain ⟨line, hline, htrim⟩ := ih _ hlt hlater rfl
      exact ⟨line, List.mem_cons_of_mem _ hline, htrim⟩
    · refine ⟨first, List.mem_cons_self, ?_⟩
      cases hafter : afterBlanks first with
      | nil => exact absurd (List.dropWhile_eq_nil_iff.mp hafter) hblank
      | cons d ds =>
          obtain ⟨rest', htrim⟩ := trim_of_afterBlanks hafter
          rw [afterBlanks, List.dropWhile_append, ← afterBlanks, hafter] at h
          obtain ⟨rfl, -⟩ := List.cons.inj h
          exact ⟨rest', htrim⟩
  · rw [lines, splitAt_of_not_mem hbreak]
    exact ⟨cs, List.mem_singleton_self cs, trim_of_afterBlanks h⟩

theorem exists_of_getLast?_trim {cs : List Char} {c : Char} (h : (trim cs).getLast? = some c) :
    ∃ before behind, cs = before ++ c :: behind ∧ ∀ d ∈ behind, isBlank d = true := by
  rw [trim, List.getLast?_reverse] at h
  obtain ⟨before, hdrop⟩ := List.head?_eq_some_iff.mp h
  obtain ⟨behind, hbehind, hblanks⟩ : ∃ behind, (cs.dropWhile isBlank).reverse =
      behind ++ c :: before ∧ ∀ d ∈ behind, isBlank d = true := by
    rw [← hdrop]
    exact ⟨_, (List.takeWhile_append_dropWhile ..).symm, fun d hd => List.mem_takeWhile_imp hd⟩
  refine ⟨cs.takeWhile isBlank ++ before.reverse, behind.reverse, ?_,
    fun d hd => hblanks d (List.mem_reverse.mp hd)⟩
  calc cs = cs.takeWhile isBlank ++ cs.dropWhile isBlank :=
        (List.takeWhile_append_dropWhile ..).symm
    _ = cs.takeWhile isBlank ++ (behind ++ c :: before).reverse := by
        rw [← hbehind, List.reverse_reverse]
    _ = _ := by simp

/-- The first of several lines is not blank if no white space stands before it. -/
theorem exists_trim_first {first later : List Char}
    (hhead : ∀ c ∈ (first ++ '\n' :: later).head?, isBlank c = false) :
    ∃ c first' rest, first = c :: first' ∧ trim first = c :: rest := by
  cases first with
  | nil => exact absurd (hhead '\n' rfl) (by decide)
  | cons c first =>
      have hstart : afterBlanks (c :: first) = c :: first :=
        List.dropWhile_cons_of_neg (by simp [hhead c rfl])
      obtain ⟨rest, htrim⟩ := trim_of_afterBlanks hstart
      exact ⟨c, first, rest, rfl, htrim⟩

/-- Some line after the first is not blank if no white space stands behind it. -/
theorem exists_afterBlanks_later {first later : List Char}
    (hlast : ∀ c ∈ (first ++ '\n' :: later).getLast?, isBlank c = false) :
    ∃ d ds, afterBlanks later = d :: ds := by
  cases hafter : afterBlanks later with
  | cons d ds => exact ⟨d, ds, rfl⟩
  | nil =>
      have hall := List.dropWhile_eq_nil_iff.mp hafter
      cases hend : later.getLast? with
      | none =>
          rw [List.getLast?_eq_none_iff] at hend
          subst hend
          exact absurd (hlast '\n' (by rw [List.getLast?_concat]; rfl)) (by decide)
      | some d =>
          have hd := hlast d (by simp [List.getLast?_append, List.getLast?_cons, hend])
          exact absurd (hall d (List.mem_of_getLast? hend)) (by simp [hd])

/-- A text in lines of an object each has an object on a line right after another. -/
theorem not_quiet_of_looksLikeJsonLines {cs : List Char}
    (hhead : ∀ c ∈ cs.head?, isBlank c = false) (hlast : ∀ c ∈ cs.getLast?, isBlank c = false)
    (h : looksLikeJsonLines cs ((lines cs).filter fun line => !(trim line).isEmpty) = true) :
    ¬ Quiet (separate '\x7d' '\x7b') cs [] := by
  intro hquiet
  rw [looksLikeJsonLines, Bool.and_eq_true, List.contains_iff_mem, List.all_eq_true] at h
  obtain ⟨hbreak, hbraced⟩ := h
  have hline : ∀ line ∈ lines cs, ∀ c rest, trim line = c :: rest →
      c = '\x7b' ∧ (trim line).getLast? = some '\x7d' := by
    intro line hline c rest htrim
    have h := hbraced line (List.mem_filter.mpr ⟨hline, by simp [htrim]⟩)
    rw [isBraced, Bool.and_eq_true, beq_iff_eq, beq_iff_eq, htrim] at h
    exact ⟨Option.some.inj h.1, htrim ▸ h.2⟩
  obtain ⟨first, later, rfl, hfirst⟩ := List.eq_append_cons_of_mem hbreak
  rw [lines, splitAt_append hfirst, List.forall_mem_cons] at hline
  -- The first line ends with a brace, and the next one that is not blank begins with one.
  obtain ⟨c, first', rest, rfl, htrim⟩ := exists_trim_first hhead
  obtain ⟨before, behind, heq, hblanks⟩ := exists_of_getLast?_trim (hline.1 _ _ htrim).2
  obtain ⟨d, ds, hafter⟩ := exists_afterBlanks_later hlast
  obtain ⟨line, hmem, rest', htrim'⟩ := exists_filled_line hafter
  obtain ⟨rfl, -⟩ := hline.2 line hmem d rest' htrim'
  have hblanks' : afterBlanks (behind ++ '\n' :: later) = '\x7b' :: ds := by
    rw [afterBlanks, List.dropWhile_append_of_pos hblanks,
      List.dropWhile_cons_of_pos (by decide), ← afterBlanks, hafter]
  have hbreaks : '\n' ∈ blanks (behind ++ '\n' :: later) := by
    rw [blanks, List.takeWhile_append_of_pos hblanks, List.takeWhile_cons_of_pos (by decide)]
    simp
  rw [heq, List.append_assoc, quiet_append] at hquiet
  have hnone := hquiet.2.1
  rw [List.append_nil] at hnone
  simp [separate, hblanks', hbreaks] at hnone

/-- The header of what looks like a table has a comma. -/
theorem exists_comma_of_looksLikeCsv {cs : List Char} (hhead : ∀ c ∈ cs.head?, isBlank c = false)
    (h : looksLikeCsv cs ((lines cs).filter fun line => !(trim line).isEmpty) = true) :
    ∃ before behind, cs = before ++ ',' :: behind ∧ '\n' ∉ before := by
  unfold looksLikeCsv at h
  rw [Bool.and_eq_true, Bool.and_eq_true, List.contains_iff_mem, List.contains_iff_mem] at h
  obtain ⟨⟨-, hbreak⟩, hcommas⟩ := h
  obtain ⟨first, later, rfl, hfirst⟩ := List.eq_append_cons_of_mem hbreak
  obtain ⟨c, first', rest, rfl, htrim⟩ := exists_trim_first hhead
  have hfilled : (!(trim (c :: first')).isEmpty) = true := by simp [htrim]
  simp only [lines, splitAt_append hfirst] at hcommas
  have hcomma : ',' ∈ c :: first' := by
    split at hcommas
    · next heq =>
        rw [List.filter_cons, if_pos hfilled] at heq
        obtain ⟨rfl, -⟩ := List.cons.inj heq
        simp only [Bool.and_eq_true, decide_eq_true_eq] at hcommas
        exact List.count_pos_iff.mp hcommas.1.1
    · cases hcommas
  obtain ⟨before, behind, heq⟩ := List.append_of_mem hcomma
  refine ⟨before, behind ++ '\n' :: later, by rw [heq]; simp, fun hmem => hfirst ?_⟩
  rw [heq]
  exact List.mem_append_left _ hmem

/-! ## Texts of JSON -/

theorem startsWithKey_of_isWord {cs : List Char} (h : ∀ c ∈ cs, isWordPart c = true) :
    startsWithKey cs = false := by
  cases cs with
  | nil => rfl
  | cons c cs =>
      rw [startsWithKey, Bool.and_eq_false_iff, beq_eq_false_iff_ne]
      refine .inr fun hcolon => ?_
      obtain ⟨rest, hdrop⟩ := List.head?_eq_some_iff.mp hcolon
      have hmem : ':' ∈ cs.dropWhile isBarePart := by simp [hdrop]
      have hpart := h ':' (List.mem_cons_of_mem c ((List.dropWhile_suffix _).subset hmem))
      exact absurd hpart (by decide)

theorem startsWithKey_cons {c : Char} (hc : isBareStart c = false) (cs : List Char) :
    startsWithKey (c :: cs) = false := by
  rw [startsWithKey, hc, Bool.false_and]

theorem startsWithKey_textOf {s : Setting} {v : Value} {ls : List Lexeme}
    (h : Writes IsAtom Escapes s v ls) (hstrict : IsStrict ls) :
    startsWithKey (textOf (unindent ls)) = false := by
  cases h with
  | word hg ha =>
      refine startsWithKey_of_isWord ?_
      simpa [unindent, Lexeme.text, Token.text] using (atomsAreWords_isAtom _ _ ha).2
  | string hg hb =>
      obtain rfl := (isStrict_cons.mp hstrict).1
      exact startsWithKey_cons (by decide) _
  | _ => exact startsWithKey_cons (by decide) _

/-- A text of JSON without the white space around it. -/
theorem exists_writes_trim {cs : List Char} {v : Value} (h : Json.decode cs = .ok v) :
    ∃ u ls, Writes IsAtom Escapes .item u ls ∧ IsStrict ls ∧ trim cs = textOf (unindent ls) := by
  obtain ⟨u, ls, g, hls, hstrict, hg, rfl, -, -⟩ := exists_writes_of_decode h
  have hrun := hls.isValueRun atomsAreWords_isAtom
  exact ⟨u, ls, hls, hstrict, trim_textOf hrun.proper hrun.nonempty hg⟩

theorem head?_trim {cs : List Char} {v : Value} (h : Json.decode cs = .ok v) :
    ∀ c ∈ (trim cs).head?, isBlank c = false := by
  obtain ⟨u, ls, hls, hstrict, htrim⟩ := exists_writes_trim h
  have hrun := hls.unindent.isValueRun atomsAreWords_isAtom
  obtain ⟨l, ms, rfl⟩ := List.exists_cons_of_ne_nil (hls.isValueRun atomsAreWords_isAtom).nonempty
  obtain ⟨c, rest, htext, hc⟩ := (hrun.proper _ List.mem_cons_self).2.exists_begins
  rw [htrim, unindent, textOf_cons, Lexeme.text, htext]
  simpa using hc.isBlank_eq_false

theorem looksLikeJsonLines_of_decode {cs : List Char} {v : Value} (h : Json.decode cs = .ok v) :
    looksLikeJsonLines (trim cs)
      ((lines (trim cs)).filter fun line => !(trim line).isEmpty) = false := by
  obtain ⟨u, ls, hls, hstrict, htrim⟩ := exists_writes_trim h
  have hrun := hls.unindent.isValueRun atomsAreWords_isAtom
  have hbreak : ∀ l ∈ unindent ls, l.token.HasNoBreak := fun l hl => Token.hasNoBreak_of_body
    (hls.unindent.forall_body (fun _ _ hbody => EscapesFrom.not_mem_newline hbody) l hl)
  have hhead := head?_trim h
  rw [htrim] at hhead ⊢
  by_contra hlines
  refine not_quiet_of_looksLikeJsonLines hhead ?_ (Bool.not_eq_false _ ▸ hlines)
    (quiet_separate_objects hrun.toWellPlaced hbreak)
  exact getLast?_textOf fun l hl => (hrun.proper l hl).2

/-- JSON is never taken for lines of JSON. -/
theorem detectFormat_ne_jsonLines {cs : List Char} {v : Value} (h : Json.decode cs = .ok v) :
    detectFormat cs ≠ .jsonLines := by
  unfold detectFormat
  simp only
  rw [looksLikeJsonLines_of_decode h, if_neg Bool.false_ne_true]
  split_ifs <;> decide

theorem occurs_eq_false {pattern cs : List Char} {c : Char} (hc : c ∈ pattern) (h : c ∉ cs) :
    occurs pattern cs = false := by
  induction cs with
  | nil =>
      cases pattern with
      | nil => cases hc
      | cons => rfl
  | cons d cs ih =>
      rw [occurs, ih (fun hmem => h (List.mem_cons_of_mem d hmem)), Bool.or_false]
      by_contra hpattern
      have hle := List.isPrefixOf_iff_prefix.mp (Bool.not_eq_false _ ▸ hpattern)
      exact h (hle.subset hc)

/-- JSON on one line is taken for JSON or JSON5 unless three hyphens stand in it. -/
theorem detectFormat_of_one_line {cs : List Char} {v : Value} (h : Json.decode cs = .ok v)
    (hline : '\n' ∉ trim cs) (hmark : occurs "---".toList (trim cs) = false) :
    detectFormat cs = .json ∨ detectFormat cs = .json5 := by
  obtain ⟨u, ls, hls, hstrict, htrim⟩ := exists_writes_trim h
  have hkey : startsWithKey (trim cs) = false := htrim ▸ startsWithKey_textOf hls hstrict
  have hcontains : (trim cs).contains '\n' = false := by simpa using hline
  have hcsv : ∀ filled, looksLikeCsv (trim cs) filled = false := fun filled => by
    unfold looksLikeCsv
    rw [hcontains, Bool.and_false, Bool.false_and]
  have hitem : occurs "\n- ".toList (trim cs) = false :=
    occurs_eq_false (c := '\n') (by simp) hline
  have hindented : occurs "\n  ".toList (trim cs) = false :=
    occurs_eq_false (c := '\n') (by simp) hline
  have hyaml : looksLikeYaml (trim cs) = false := by
    simp only [looksLikeYaml, hkey, hmark, hitem, hindented, Bool.or_false, Bool.and_false]
  unfold detectFormat
  simp only
  rw [looksLikeJsonLines_of_decode h, hcsv, hyaml]
  simp only [Bool.false_eq_true, if_false]
  split <;> simp

end TypeDraft
