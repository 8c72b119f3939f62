import TypeDraft.Proofs.Yaml.Quoted

/-!
# Reading what was written without quotes

A plain scalar is read word by word. What lies between two words is read as the blanks that it was
written for, and the line end behind the last word is passed together with the indentation of the
next line.
-/

namespace TypeDraft.Yaml

open Text (IsPlain IsPrintable)

section

variable {cs w rest tail : List Char} {after : Bool} {d : Char}

/-! ## Words -/

theorem not_endsWord_of_isVisible (h : IsVisible d) : endsWord (some d) = false := by
  simp [endsWord, h.1, h.2.1, h.2.2]

theorem hasInnerIndicator_of_append {a : Bool} (as : List Char)
    (h : hasInnerIndicator a (as ++ d :: cs) = false) : hasInnerIndicator (isGap d) cs = false := by
  induction as generalizing a with
  | nil =>
      simp only [List.nil_append, hasInnerIndicator, Bool.or_eq_false_iff] at h
      exact h.2
  | cons c as ih =>
      simp only [List.cons_append, hasInnerIndicator, Bool.or_eq_false_iff] at h
      exact ih h.2

/-- A word is taken up to its end: a colon in it stands before another character of it. -/
theorem plainRun_word (out : List Char) (hw : ∀ d ∈ w, IsVisible d)
    (hindicator : hasInnerIndicator after (w ++ rest) = false)
    (hrest : ∀ d ∈ rest.head?, isGap d = true) (htail : stopsPlain false tail = true) :
    plainRun false out (w ++ tail) = w.reverse ++ out := by
  induction w generalizing after out with
  | nil => exact plainRun_of_stopsPlain htail out
  | cons c w ih =>
      obtain ⟨hc, hw⟩ := List.forall_mem_cons.mp hw
      simp only [List.cons_append, hasInnerIndicator, Bool.or_eq_false_iff] at hindicator
      obtain ⟨⟨hcolon, -⟩, hindicator⟩ := hindicator
      have hgoes : stopsPlain false (c :: (w ++ tail)) = false := by
        rw [stopsPlain, not_endsWord_of_isVisible hc]
        cases w with
        | nil =>
            have hends : rest.head?.all isGap = true := by simpa [Option.all_eq_true] using hrest
            rw [List.nil_append, hends, Bool.and_true] at hcolon
            simp [hcolon]
        | cons d w =>
            have hd := not_endsWord_of_isVisible (hw d List.mem_cons_self)
            simp [hd]
      rw [List.cons_append, plainRun, hgoes, if_neg Bool.false_ne_true, ih _ hw hindicator]
      simp

/-- A folded text up to its first gap. -/
theorem Folded.exists_word {body : List Char} (h : Folded ['\''] cs body) :
    ∃ w cs' body', cs = w ++ cs' ∧ body = w ++ body' ∧ (∀ d ∈ w, IsInk d) ∧
      (cs' = [] ∧ body' = [] ∨ ∃ g g' cs'' body'', cs' = g ++ cs'' ∧ body' = g' ++ body'' ∧
        FoldedGap g g' ∧ (∀ d ∈ cs''.head?, IsInk d) ∧ Folded ['\''] cs'' body'') := by
  induction h with
  | nil => exact ⟨[], [], [], rfl, rfl, nofun, .inl ⟨rfl, rfl⟩⟩
  | @char c cs body hink _ ih =>
      obtain ⟨w, cs', body', rfl, rfl, hw, hrest⟩ := ih
      refine ⟨c :: w, cs', body', rfl, ?_, List.forall_mem_cons.mpr ⟨hink, hw⟩, hrest⟩
      split
      · next hquote => simp [hquote]
      · simp
  | gap hgap hhead hbody _ =>
      exact ⟨[], _, _, rfl, rfl, nofun, .inr ⟨_, _, _, _, rfl, rfl, hgap, hhead, hbody⟩⟩

theorem Folded.exists_cons {body : List Char} (h : Folded ['\''] (d :: cs) body) (hd : IsInk d) :
    ∃ body', body = d :: body' ∧ Folded ['\''] cs body' := by
  generalize htext : d :: cs = text at h
  cases h with
  | nil => cases htext
  | @char c cs body _ hbody =>
      obtain ⟨rfl, rfl⟩ := List.cons.inj htext
      split
      · next hquote => exact ⟨body, by simp [hquote], hbody⟩
      · exact ⟨body, rfl, hbody⟩
  | gap hgap _ _ =>
      cases hgap with
      | blanks n => exact absurd (List.cons.inj htext).1 hd.1
      | wrapped => exact absurd (List.cons.inj htext).1 hd.1
      | breaks n => exact absurd (List.cons.inj htext).1 hd.2

theorem FoldedGap.exists_blanks {g g' : List Char} (h : FoldedGap g g') (hflat : '\n' ∉ g) :
    ∃ n, g = List.replicate (n + 1) ' ' := by
  cases h with
  | blanks n => exact ⟨n, rfl⟩
  | wrapped => exact ⟨0, rfl⟩
  | breaks n => exact absurd (by simp [List.replicate_succ]) hflat

end

/-! ## Gaps -/

section

variable {c : Cursor} {out r : List Char} {d : Char} {fuel n : Nat}

theorem plainBreaks_of_blanks (out : List Char) (hrest : c.rest = List.replicate n ' ' ++ r)
    (hr : ∀ d ∈ r.head?, IsVisible d) (hfuel : n < fuel) :
    plainBreaks out fuel c = (false, out, c.advance n) := by
  induction n generalizing c fuel with
  | zero =>
      obtain ⟨fuel, rfl⟩ : ∃ m, fuel = m + 1 := Nat.exists_eq_succ_of_ne_zero (by omega)
      have hblank : (c.peek == some ' ') = false := by
        rw [Cursor.peek, hrest]
        simpa using fun h => (hr ' ' h).1 rfl
      have hnone : c.takeBreak = none := by
        refine Cursor.takeBreak_eq_none fun d hd => ?_
        rw [hrest] at hd
        exact (hr d hd).2.2
      rw [plainBreaks, hblank, if_neg Bool.false_ne_true, hnone]
      rfl
  | succ n ih =>
      obtain ⟨fuel, rfl⟩ : ∃ m, fuel = m + 1 := Nat.exists_eq_succ_of_ne_zero (by omega)
      rw [List.replicate_succ, List.cons_append] at hrest
      have hblank : (c.peek == some ' ') = true := by simp [Cursor.peek, hrest]
      rw [plainBreaks, hblank, if_pos rfl, ih (by rw [Cursor.rest_next, hrest]; rfl) (by omega),
        ← Cursor.advance_one, Cursor.advance_advance, Nat.add_comm]

theorem plainGap_of_blanks (fuel : Nat) (hrest : c.rest = List.replicate n ' ' ++ d :: r)
    (hd : IsVisible d) :
    plainGap fuel c = ⟨List.replicate n ' ', false, c.advance n⟩ := by
  have htake : c.takeWhile (· == ' ') = (List.replicate n ' ', c.advance n) := by
    rw [Cursor.takeWhile_of_append hrest (by simp) (by simpa using hd.1), List.length_replicate]
  have hnone : (c.advance n).takeBreak = none := by
    refine Cursor.takeBreak_eq_none ?_
    simpa [hrest] using hd.2.2
  simp only [plainGap, htake, hnone]

/-- A line feed and the blanks behind it are passed. -/
theorem plainGap_of_lineFeed (fuel : Nat)
    (hrest : c.rest = '\n' :: (List.replicate n ' ' ++ r))
    (hmark : c.next.atDocumentMark = false) (hr : ∀ d ∈ r.head?, IsVisible d) (hfuel : n < fuel) :
    plainGap fuel c = ⟨[' '], true, c.advance (n + 1)⟩ := by
  have htake : c.takeWhile (· == ' ') = ([], c) :=
    Cursor.takeWhile_of_append (l := []) hrest nofun (by simp)
  have hbreaks := plainBreaks_of_blanks [] (c := c.next) (by rw [Cursor.rest_next, hrest]; rfl) hr
    hfuel
  simp only [plainGap, htake, Cursor.takeBreak_of_lineFeed hrest, hmark, hbreaks]
  simp [foldBreaks, ← Cursor.advance_one, Nat.add_comm]

end

/-! ## Scalars -/

section

variable {cs w body r out gap : List Char} {c : Cursor} {indent : Int} {newLine : Bool}
  {fuel n : Nat} {d : Char}

/-- One word is read, and what stands behind it decides whether more are. -/
theorem readPlain_word {next : PlainGap} (hw : w ≠ []) (hhash : w.head? ≠ some '#')
    (hrest : c.rest = w ++ r) (hrun : plainRun false [] c.rest = w.reverse)
    (hnext : plainGap fuel (c.advance w.length) = next) :
    readPlain false indent out gap newLine (fuel + 1) c =
      if next.text.isEmpty || next.cursor.peek == some '#' || next.cursor.column < indent then
        ⟨String.ofList (w.reverse ++ gap ++ out).reverse, next.newLine, next.cursor⟩
      else
        readPlain false indent (w.reverse ++ gap ++ out) next.text next.newLine fuel
          next.cursor := by
  have hsign : (c.peek == some '#') = false := by
    obtain ⟨d, w, rfl⟩ := List.exists_cons_of_ne_nil hw
    simpa [Cursor.peek, hrest] using hhash
  have hempty : w.reverse.isEmpty = false := by simpa using hw
  rw [readPlain]
  simp only [hsign, hrun, hempty, Bool.false_eq_true, if_false, List.length_reverse, hnext,
    Bool.not_false, Bool.true_and]

/-- The gaps of a text without line feeds are read as they were. -/
theorem exists_plainGap_of_folded {g g' : List Char} (fuel : Nat) (hgap : FoldedGap g g')
    (hflat : '\n' ∉ g) (hrest : c.rest = g' ++ d :: r) (hd : IsVisible d)
    (hfuel : g'.length ≤ fuel) (hindent : indent ≤ c.column) (hwrap : '\n' ∈ g' → indent ≤ 2) :
    ∃ newLine, plainGap fuel c = ⟨g, newLine, c.advance g'.length⟩ ∧
      indent ≤ (c.advance g'.length).column := by
  cases hgap with
  | blanks n =>
      refine ⟨false, ?_, ?_⟩
      · rw [plainGap_of_blanks fuel hrest hd, List.length_replicate]
      · rw [Cursor.advance_of_flat hrest fun d hd => by
          rw [List.eq_of_mem_replicate hd]
          decide]
        simp only
        omega
  | wrapped =>
      have hline : c.rest = '\n' :: (List.replicate 2 ' ' ++ d :: r) := hrest
      have hnext : c.next = ⟨' ' :: ' ' :: d :: r, c.index + 1, c.line + 1, 0⟩ :=
        Cursor.next_of_lineFeed hline
      have hmark : c.next.atDocumentMark = false :=
        Cursor.atDocumentMark_eq_false (by rw [hnext]) (by decide) (by decide)
      have hlong : 3 ≤ fuel := hfuel
      refine ⟨true, plainGap_of_lineFeed fuel hline hmark (by simpa using hd) hlong, ?_⟩
      have hplace : (c.advance continued.length).column = 2 := by
        rw [continued, List.length_cons, Cursor.advance_succ, hnext,
          Cursor.advance_of_flat (l := [' ', ' ']) rfl (by decide)]
        rfl
      rw [hplace]
      exact hwrap (by decide)
  | breaks n => exact absurd (by simp [List.replicate_succ]) hflat

/-- The last word ends the scalar, since the next line stands too far to the left to go on. -/
theorem readPlain_lastWord (hw : w ≠ []) (hhash : w.head? ≠ some '#')
    (hvisible : ∀ d ∈ w, IsVisible d) (hindicator : hasInnerIndicator true w = false)
    (hrest : c.rest = w ++ '\n' :: (List.replicate n ' ' ++ r))
    (hmark : ∀ c' : Cursor, c'.rest = List.replicate n ' ' ++ r → c'.atDocumentMark = false)
    (hr : ∀ d ∈ r.head?, IsVisible d) (hn : n < indent) (hfuel : n < fuel) :
    readPlain false indent out gap newLine (fuel + 1) c =
      ⟨String.ofList ((gap ++ out).reverse ++ w), true, c.advance (w.length + 1 + n)⟩ := by
  have hline : (c.advance w.length).rest = '\n' :: (List.replicate n ' ' ++ r) :=
    Cursor.rest_advance_append hrest
  have hnext := plainGap_of_lineFeed fuel hline
    (hmark _ (by rw [Cursor.rest_next, hline, List.tail_cons])) hr hfuel
  have hrun : plainRun false [] c.rest = w.reverse := by
    rw [← List.append_nil w] at hindicator
    rw [hrest, plainRun_word [] hvisible hindicator nofun rfl, List.append_nil]
  have hcolumn : (c.advance (w.length + (n + 1))).column = n := by
    rw [← Cursor.advance_advance]
    exact Cursor.column_of_lineFeed hline
  rw [readPlain_word hw hhash hrest hrun hnext, if_pos (by simp [hcolumn, hn])]
  simp [Nat.add_comm, Nat.add_left_comm]

/-- A text whose lines are not its own is read as it was, whatever its first line goes on from. -/
theorem readPlain_folded (h : Folded ['\''] cs body) (hprintable : ∀ d ∈ cs, IsPrintable d)
    (hne : cs ≠ []) (hhead : cs.head? ≠ some ' ') (hlast : cs.getLast? ≠ some ' ')
    (hindicator : hasInnerIndicator true cs = false)
    (hrest : c.rest = body ++ '\n' :: (List.replicate n ' ' ++ r))
    (hmark : ∀ c' : Cursor, c'.rest = List.replicate n ' ' ++ r → c'.atDocumentMark = false)
    (hr : ∀ d ∈ r.head?, IsVisible d) (hindent : indent ≤ c.column)
    (hwrap : '\n' ∈ body → indent ≤ 2) (hn : n < indent) (hfuel : body.length + n + 1 < fuel) :
    readPlain false indent out gap newLine fuel c =
      ⟨String.ofList ((gap ++ out).reverse ++ cs), true, c.advance (body.length + 1 + n)⟩ := by
  induction fuel generalizing cs body c out gap newLine with
  | zero => omega
  | succ fuel ih =>
      obtain ⟨w, cs', body', rfl, rfl, hw, hcases⟩ := h.exists_word
      have hword : w ≠ [] := by
        rintro rfl
        rcases hcases with ⟨rfl, -⟩ | ⟨g, g', cs'', body'', rfl, rfl, hgap, -, -⟩
        · exact hne rfl
        · cases hgap with
          | blanks n => exact hhead (by simp [List.replicate_succ])
          | wrapped => exact hhead rfl
          | breaks n => exact absurd (hprintable '\n' (by simp [List.replicate_succ])) (by decide)
      have hhash : w.head? ≠ some '#' := by
        intro heq
        obtain ⟨w, rfl⟩ := List.head?_eq_some_iff.mp heq
        simp [hasInnerIndicator] at hindicator
      have hvisible : ∀ d ∈ w, IsVisible d := fun d hd =>
        isVisible_of_isInk (hw d hd) (hprintable d (List.mem_append_left _ hd)).isPlain
      have hflat : ∀ d ∈ w, isBreak d = false ∧ d ≠ '\ufeff' := fun d hd =>
        ⟨(hvisible d hd).2.2, (hprintable d (List.mem_append_left _ hd)).ne (by decide)⟩
      rcases hcases with ⟨rfl, rfl⟩ | ⟨g, g', cs, body, rfl, rfl, hgap, hink, hbody⟩
      · -- The last word: the next line does not go on with the scalar.
        rw [List.append_nil] at *
        exact readPlain_lastWord hword hhash hvisible hindicator hrest hmark hr hn (by omega)
      · -- Another word follows, since the text does not end with a blank.
        have hstops : ∀ after, stopsPlain false (g' ++ after) = true := by
          cases hgap <;> exact fun _ => rfl
        have hpos : 0 < g'.length := by cases hgap <;> simp [continued]
        obtain ⟨k, rfl⟩ := hgap.exists_blanks fun hmem =>
          absurd (hprintable '\n' (by simp [hmem])) (by decide)
        have htail : w ++ (List.replicate (k + 1) ' ' ++ cs) =
            (w ++ List.replicate k ' ') ++ ' ' :: cs := by
          rw [List.append_assoc, replicate_append_cons]
        obtain ⟨d, cs, rfl⟩ : ∃ d cs', cs = d :: cs' := by
          refine List.exists_cons_of_ne_nil ?_
          rintro rfl
          rw [htail] at hlast
          simp at hlast
        have hinner : hasInnerIndicator (isGap ' ') (d :: cs) = false :=
          hasInnerIndicator_of_append _ (htail ▸ hindicator)
        have hd : IsInk d := hink d rfl
        obtain ⟨body, rfl, -⟩ := hbody.exists_cons hd
        have hprintable' : ∀ e ∈ d :: cs, IsPrintable e := fun e he =>
          hprintable e (by simp only [List.mem_append]; exact .inr (.inr he))
        have hlater : (c.advance w.length).rest =
            g' ++ d :: (body ++ '\n' :: (List.replicate n ' ' ++ r)) := by
          rw [Cursor.rest_advance, hrest]
          simp
        have hcolumn : indent ≤ (c.advance w.length).column := by
          rw [Cursor.advance_of_flat (by rw [hrest, List.append_assoc]) hflat]
          simp only
          omega
        obtain ⟨newLine', hnext, hindent'⟩ := exists_plainGap_of_folded fuel hgap
          (by simp) hlater (isVisible_of_isInk hd (hprintable' d List.mem_cons_self).isPlain)
          (by simp at hfuel; omega) hcolumn fun hmem => hwrap (by simp [hmem])
        have hrun : plainRun false [] c.rest = w.reverse := by
          rw [hrest, List.append_assoc, List.append_assoc, plainRun_word [] hvisible hindicator
            (by simp [List.replicate_succ]; rfl) (hstops _), List.append_nil]
        have hgoes : ((c.advance w.length).advance g'.length).rest =
            d :: body ++ '\n' :: (List.replicate n ' ' ++ r) :=
          Cursor.rest_advance_append hlater
        have hhash' : d ≠ '#' := by
          rintro rfl
          cases hinner
        have hpeek : ((c.advance w.length).advance g'.length).peek ≠ some '#' := by
          rw [Cursor.peek, hgoes]
          simpa using hhash'
        rw [Cursor.advance_advance] at hnext hgoes hpeek hindent'
        rw [readPlain_word hword hhash (by rw [hrest, List.append_assoc]) hrun hnext,
          if_neg (by simp [hpeek, hindent']), ih hbody hprintable' (List.cons_ne_nil _ _)
            (by simpa using hd.1) (by simpa using hlast) hinner hgoes hindent'
            (fun hmem => hwrap (by simp [hmem])) (by simp at hfuel ⊢; omega)]
        simp [Nat.add_assoc, Nat.add_comm, Nat.add_left_comm]

end

end TypeDraft.Yaml
