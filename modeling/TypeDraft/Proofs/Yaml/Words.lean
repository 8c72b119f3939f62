import TypeDraft.Proofs.Yaml.Cursor

/-!
# Words of JSON as plain scalars

A number or a name of JSON is read whole as a plain scalar, with no more than the white space behind
it.
-/

namespace TypeDraft.Yaml

open Json (IsGap isWordPart)

section

variable {w rest : List Char} {c : Char} {flow : Bool}

theorem ne_of_isWordPart {d : Char} (hc : isWordPart c = true) (hd : isWordPart d = false) :
    c ≠ d := by
  rintro rfl
  exact Bool.false_ne_true (hd.symm.trans hc)

theorem not_isBreak_of_isWordPart (h : isWordPart c = true) : isBreak c = false := by
  simp [isBreak, ne_of_isWordPart h (d := '\n') (by decide),
    ne_of_isWordPart h (d := '\r') (by decide), ne_of_isWordPart h (d := '\u0085') (by decide),
    ne_of_isWordPart h (d := '\u2028') (by decide), ne_of_isWordPart h (d := '\u2029') (by decide)]

theorem not_endsWord_of_isWordPart (h : isWordPart c = true) : endsWord (some c) = false := by
  simp [endsWord, not_isBreak_of_isWordPart h, ne_of_isWordPart h (d := ' ') (by decide),
    ne_of_isWordPart h (d := '\t') (by decide)]

theorem stopsPlain_of_isWordPart (h : isWordPart c = true) :
    stopsPlain flow (c :: rest) = false := by
  simp [stopsPlain, not_endsWord_of_isWordPart h, ne_of_isWordPart h (d := ':') (by decide),
    ne_of_isWordPart h (d := ',') (by decide), ne_of_isWordPart h (d := '?') (by decide),
    ne_of_isWordPart h (d := '[') (by decide), ne_of_isWordPart h (d := ']') (by decide),
    ne_of_isWordPart h (d := '\x7b') (by decide), ne_of_isWordPart h (d := '\x7d') (by decide)]

theorem plainRun_of_stopsPlain (h : stopsPlain flow rest = true) (out : List Char) :
    plainRun flow out rest = out := by
  cases rest with
  | nil => rfl
  | cons c rest => rw [plainRun, if_pos h]

theorem plainRun_append (hw : ∀ c ∈ w, isWordPart c = true) (h : stopsPlain flow rest = true)
    (out : List Char) : plainRun flow out (w ++ rest) = w.reverse ++ out := by
  induction w generalizing out with
  | nil => exact plainRun_of_stopsPlain h out
  | cons c w ih =>
      rw [List.forall_mem_cons] at hw
      rw [List.cons_append, plainRun, stopsPlain_of_isWordPart hw.1, if_neg Bool.false_ne_true,
        ih hw.2]
      simp

theorem stopsPlain_of_isGap {g r : List Char} (hg : IsGap g) (hr : stopsPlain flow r = true) :
    stopsPlain flow (g ++ r) = true := by
  cases g with
  | nil => exact hr
  | cons e g =>
      have he := hg e List.mem_cons_self
      simp only [Json.isSpace, Bool.or_eq_true, beq_iff_eq] at he
      rcases he with ((rfl | rfl) | rfl) | rfl <;> simp [stopsPlain, endsWord, isBreak]

/-- A word is read as a plain scalar, with no more than the white space behind it. -/
theorem exists_readPlain (fuel : Nat) (indent : Int) {cur : Cursor} {g r : List Char}
    (hrest : cur.rest = w ++ (g ++ r)) (hne : w ≠ []) (hw : ∀ c ∈ w, isWordPart c = true)
    (hg : IsGap g) (hr : BeginsPlainly r) (hstop : stopsPlain flow r = true) :
    ∃ n ≤ g.length, (readPlain flow indent [] [] false (fuel + 1) cur).text = String.ofList w ∧
      (readPlain flow indent [] [] false (fuel + 1) cur).cursor =
        cur.advance (w.length + n) := by
  have hlater : (cur.advance w.length).rest = g ++ r := Cursor.rest_advance_append hrest
  obtain ⟨n, hn, hgap⟩ := exists_plainGap fuel hlater hg hr
  have hstops : ∀ c : Cursor, c.rest = g.drop n ++ r →
      (if c.peek == some '#' then [] else plainRun flow [] c.rest) = [] := by
    intro c hc
    rw [hc, plainRun_of_stopsPlain (stopsPlain_of_isGap (isGap_drop hg n) hstop), ite_self]
  have hpiece : (if cur.peek == some '#' then [] else plainRun flow [] cur.rest) =
      w.reverse := by
    obtain ⟨c, w, rfl⟩ := List.exists_cons_of_ne_nil hne
    have hc : c ≠ '#' := ne_of_isWordPart (hw c List.mem_cons_self) (by decide)
    rw [hrest, plainRun_append hw (stopsPlain_of_isGap hg hstop), List.append_nil, if_neg]
    simp [Cursor.peek, hrest, hc]
  have hempty : w.reverse.isEmpty = false := by simpa using hne
  refine ⟨n, hn, ?_⟩
  rw [readPlain]
  simp only [hpiece, hempty, Bool.false_eq_true, if_false, List.length_reverse, List.append_nil,
    hgap, Cursor.advance_advance]
  split
  · simp
  · -- What follows the gap is no further piece.
    cases fuel with
    | zero => simp [readPlain]
    | succ fuel =>
        rw [readPlain]
        simp only [hstops (cur.advance (w.length + n)) (by
          rw [← Cursor.advance_advance, Cursor.rest_advance, hlater,
            List.drop_append_of_le_length hn])]
        simp

end

end TypeDraft.Yaml
