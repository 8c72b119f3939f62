import Mathlib.Data.List.TakeWhile
import TypeDraft.Proofs.Json.Lexemes
import TypeDraft.Yaml.Token

/-!
# Moving over the white space of JSON

The white space of JSON is skipped up to the next token, or up to a tab: a tab may not stand between
the tokens of YAML.
-/

namespace TypeDraft.Yaml

open Json (IsGap isSpace)

namespace Cursor

variable {c : Cursor}

@[simp] theorem rest_next (c : Cursor) : c.next.rest = c.rest.tail := by
  unfold next
  split
  · next h => simp [h]
  · next h =>
      rw [h]
      split
      · rfl
      · split <;> rfl

@[simp] theorem advance_zero (c : Cursor) : c.advance 0 = c := rfl

theorem advance_succ (c : Cursor) (n : Nat) : c.advance (n + 1) = c.next.advance n := rfl

theorem advance_one (c : Cursor) : c.advance 1 = c.next := rfl

@[simp] theorem rest_advance (c : Cursor) (n : Nat) : (c.advance n).rest = c.rest.drop n := by
  induction n generalizing c with
  | zero => rfl
  | succ n ih => rw [advance_succ, ih, rest_next, List.drop_tail]

@[simp] theorem advance_advance (c : Cursor) (m n : Nat) :
    (c.advance m).advance n = c.advance (m + n) := by
  induction m generalizing c with
  | zero => rw [Nat.zero_add, advance_zero]
  | succ m ih => rw [Nat.succ_add, advance_succ, advance_succ, ih]

@[simp] theorem next_advance (c : Cursor) (n : Nat) : (c.advance n).next = c.advance (n + 1) :=
  advance_advance c n 1

theorem place_le_next (c : Cursor) : c.line ≤ c.next.line ∧ c.index ≤ c.next.index := by
  unfold next
  split
  · exact ⟨le_refl _, le_refl _⟩
  · split
    · exact ⟨le_refl _, Nat.le_succ _⟩
    · split
      · exact ⟨Nat.le_succ _, Nat.le_succ _⟩
      · exact ⟨le_refl _, Nat.le_succ _⟩

/-- A cursor that moves on comes neither to an earlier line nor to an earlier character. -/
theorem place_le_advance (c : Cursor) (n : Nat) :
    c.line ≤ (c.advance n).line ∧ c.index ≤ (c.advance n).index := by
  induction n generalizing c with
  | zero => exact ⟨le_refl _, le_refl _⟩
  | succ n ih =>
      obtain ⟨hline, hindex⟩ := c.place_le_next
      exact ⟨hline.trans (ih c.next).1, hindex.trans (ih c.next).2⟩

theorem rest_advance_append {l r : List Char} (h : c.rest = l ++ r) :
    (c.advance l.length).rest = r := by
  rw [rest_advance, h, List.drop_left]

theorem takeWhile_of_append {l r : List Char} {test : Char → Bool} (h : c.rest = l ++ r)
    (hl : ∀ d ∈ l, test d = true) (hr : ∀ d ∈ r.head?, test d = false) :
    c.takeWhile test = (l, c.advance l.length) := by
  simp only [Cursor.takeWhile, h, Json.takeWhile_append_of_head hl hr]

theorem skipWhile_of_append {l r : List Char} {test : Char → Bool} (h : c.rest = l ++ r)
    (hl : ∀ d ∈ l, test d = true) (hr : ∀ d ∈ r.head?, test d = false) :
    c.skipWhile test = c.advance l.length := by
  rw [skipWhile, takeWhile_of_append h hl hr]

theorem takeBreak_eq_none (h : ∀ d ∈ c.rest.head?, isBreak d = false) : c.takeBreak = none := by
  unfold takeBreak
  split
  · next heq => exact absurd (h '\r' (by rw [heq]; rfl)) (by decide)
  · next d _ _ heq =>
      have hd := h d (by rw [heq]; rfl)
      have hsame := hd
      simp only [isBreak, Bool.or_eq_false_iff] at hsame
      simp [hd, hsame]
  · rfl

/-- A line end inside white space is taken with no more than the white space. -/
theorem exists_takeBreak {d : Char} {g r : List Char} (h : c.rest = d :: (g ++ r))
    (hd : d = '\n' ∨ d = '\r') (hr : r.head? ≠ some '\n') :
    ∃ n ≤ g.length, c.takeBreak = some ('\n', c.advance (n + 1)) := by
  rcases hd with rfl | rfl
  · exact ⟨0, Nat.zero_le _, by simp [takeBreak, h, advance_one]⟩
  · cases g with
    | nil =>
        refine ⟨0, le_refl _, ?_⟩
        unfold takeBreak
        rw [h]
        split
        · next heq => exact absurd (by rw [← List.nil_append r, (List.cons.inj heq).2]; rfl) hr
        · next heq => simp [← (List.cons.inj heq).1, advance_one]
        · next heq => cases heq
    | cons e g =>
        by_cases he : e = '\n'
        · subst he
          exact ⟨1, by simp, by simp [takeBreak, h]⟩
        · refine ⟨0, Nat.zero_le _, ?_⟩
          unfold takeBreak
          rw [h]
          split
          · next heq =>
              rw [List.cons_append] at heq
              exact absurd (List.cons.inj (List.cons.inj heq).2).1 he
          · next heq => simp [← (List.cons.inj heq).1, advance_one]
          · next heq => cases heq

end Cursor

/-! ## White space -/

/-- A text that does not begin with white space, a line end or a comment. -/
def BeginsPlainly (r : List Char) : Prop :=
  ∀ d ∈ r.head?, isSpace d = false ∧ isBreak d = false ∧ d ≠ '#'

section

variable {c : Cursor} {g r : List Char}

theorem BeginsPlainly.head?_ne {d : Char} (h : BeginsPlainly r) (hd : isSpace d = true) :
    r.head? ≠ some d :=
  fun heq => Bool.false_ne_true ((h d heq).1.symm.trans hd)

theorem isGap_drop (hg : IsGap g) (n : Nat) : IsGap (g.drop n) :=
  fun d hd => hg d (List.mem_of_mem_drop hd)

/-- White space as the blanks at its head and the rest, which has none there. -/
theorem exists_blanks (hg : IsGap g) (hr : BeginsPlainly r) : ∃ bs g', g = bs ++ g' ∧
    (∀ d ∈ bs, (d == ' ') = true) ∧ IsGap g' ∧ (∀ d ∈ (g' ++ r).head?, (d == ' ') = false) := by
  refine ⟨g.takeWhile (· == ' '), g.dropWhile (· == ' '),
    (List.takeWhile_append_dropWhile ..).symm,
    fun d hd => List.mem_takeWhile_imp (p := (· == ' ')) hd,
    fun d hd => hg d ((List.dropWhile_suffix _).subset hd), ?_⟩
  have hhead := List.head?_dropWhile_not (· == ' ') g
  cases hdrop : g.dropWhile (· == ' ') with
  | nil =>
      rintro d hd
      by_contra hblank
      obtain rfl : d = ' ' := by simpa using hblank
      exact hr.head?_ne (by decide) hd
  | cons e g' =>
      rw [hdrop] at hhead
      simpa using hhead

/-- Where white space stands, a line end is taken unless a blank or a tab is there. -/
theorem Cursor.takeBreak_cases (h : c.rest = g ++ r) (hg : IsGap g) (hr : BeginsPlainly r) :
    (c.takeBreak = none ∧ ∀ d ∈ g.head?, d = ' ' ∨ d = '\t') ∨
      ∃ n < g.length, c.takeBreak = some ('\n', c.advance (n + 1)) := by
  cases g with
  | nil =>
      refine .inl ⟨takeBreak_eq_none fun d hd => ?_, nofun⟩
      rw [h] at hd
      exact (hr d hd).2.1
  | cons e g =>
      by_cases hend : e = '\n' ∨ e = '\r'
      · obtain ⟨n, hn, hbreak⟩ := exists_takeBreak h hend (hr.head?_ne (by decide))
        exact .inr ⟨n, Nat.lt_succ_of_le hn, hbreak⟩
      · have he := hg e List.mem_cons_self
        simp only [isSpace, Bool.or_eq_true, beq_iff_eq] at he
        have hblank : e = ' ' ∨ e = '\t' := by tauto
        refine .inl ⟨takeBreak_eq_none fun d hd => ?_, by simpa using hblank⟩
        rw [h] at hd
        obtain rfl : e = d := Option.some.inj hd
        rcases hblank with rfl | rfl <;> decide

/-- Where a walk over white space ends: behind all of it, or before a tab. -/
def StopsIn (g : List Char) (n : Nat) : Prop :=
  n ≤ g.length ∧ (n = g.length ∨ (g.drop n).head? = some '\t')

theorem StopsIn.append {n : Nat} (h : StopsIn g n) (as : List Char) :
    StopsIn (as ++ g) (as.length + n) := by
  rw [StopsIn, List.length_append, List.drop_append, Nat.add_sub_cancel_left,
    List.drop_of_length_le (Nat.le_add_right _ n), List.nil_append, Nat.add_left_cancel_iff]
  exact ⟨Nat.add_le_add_left h.1 _, h.2⟩

theorem StopsIn.drop {m n : Nat} (h : StopsIn (g.drop m) n) (hm : m ≤ g.length) :
    StopsIn g (m + n) := by
  have happend := h.append (g.take m)
  rwa [List.take_append_drop, List.length_take, Nat.min_eq_left hm] at happend

end

/-- Skipping white space moves the cursor, and takes no leave for a key back. -/
theorem TokenSource.exists_skipToToken {fuel : Nat} {s : TokenSource} {g r : List Char}
    (h : s.cursor.rest = g ++ r) (hg : IsGap g) (hr : BeginsPlainly r) (hfuel : g.length < fuel) :
    ∃ n allowed, StopsIn g n ∧ (s.keyAllowed = true → allowed = true) ∧
      s.skipToToken fuel = { s with cursor := s.cursor.advance n, keyAllowed := allowed } := by
  induction fuel generalizing s g with
  | zero => cases hfuel
  | succ fuel ih =>
      obtain ⟨bs, g, rfl, hbs, hg', hblank⟩ := exists_blanks hg hr
      rw [List.append_assoc] at h
      have hrest : (s.cursor.advance bs.length).rest = g ++ r := Cursor.rest_advance_append h
      have hcomment : (s.cursor.advance bs.length).skipComment = s.cursor.advance bs.length := by
        rw [Cursor.skipComment, Cursor.peek, hrest, if_neg]
        intro hsign
        cases g with
        | nil => exact (hr '#' (by simpa using hsign)).2.2 rfl
        | cons e g =>
            obtain rfl : e = '#' := by simpa using hsign
            exact absurd (hg' _ List.mem_cons_self) (by decide)
      simp only [skipToToken, Cursor.skipWhile_of_append h hbs hblank, hcomment]
      rcases Cursor.takeBreak_cases hrest hg' hr with ⟨hnone, hstop⟩ | ⟨n, hn, hbreak⟩
      · rw [hnone]
        refine ⟨bs.length, s.keyAllowed, StopsIn.append (n := 0) ⟨Nat.zero_le _, ?_⟩ bs, id, rfl⟩
        cases g with
        | nil => exact .inl rfl
        | cons e g =>
            have hspace : e ≠ ' ' := by simpa using hblank e rfl
            exact .inr (congrArg some ((hstop e rfl).resolve_left hspace))
      · rw [hbreak]
        simp only [Cursor.advance_advance]
        have hlater : (s.cursor.advance (bs.length + (n + 1))).rest = g.drop (n + 1) ++ r := by
          rw [← Cursor.advance_advance, Cursor.rest_advance, hrest,
            List.drop_append_of_le_length hn]
        rw [List.length_append] at hfuel
        obtain ⟨m, allowed, hm, hallowed, hstep⟩ := ih
          (s := { s with
            cursor := s.cursor.advance (bs.length + (n + 1))
            keyAllowed := s.keyAllowed || !s.inFlow })
          hlater (isGap_drop hg' _) (by rw [List.length_drop]; omega)
        refine ⟨bs.length + (n + 1 + m), allowed, (hm.drop hn).append bs,
          fun hkey => hallowed (by simp [hkey]), ?_⟩
        rw [hstep, Cursor.advance_advance, Nat.add_assoc]

/-! ## Behind a plain scalar -/

section

variable {c : Cursor} {g r : List Char}

theorem exists_plainBreaks (fuel : Nat) (out : List Char) (h : c.rest = g ++ r) (hg : IsGap g)
    (hr : BeginsPlainly r) : ∃ n ≤ g.length, (plainBreaks out fuel c).2.2 = c.advance n := by
  induction fuel generalizing out c g with
  | zero => exact ⟨0, Nat.zero_le _, rfl⟩
  | succ fuel ih =>
      -- One more step, if it goes on behind the first `n` characters.
      have honward : ∀ (n : Nat) (out : List Char), n ≤ g.length →
          ∃ m ≤ g.length, (plainBreaks out fuel (c.advance n)).2.2 = c.advance m := by
        intro n out hn
        obtain ⟨m, hm, hstep⟩ := ih out (c := c.advance n) (g := g.drop n)
          (by rw [Cursor.rest_advance, h, List.drop_append_of_le_length hn]) (isGap_drop hg n)
        rw [List.length_drop] at hm
        exact ⟨n + m, by omega, by rw [hstep, Cursor.advance_advance]⟩
      rw [plainBreaks]
      split
      · next hblank =>
          refine honward 1 out (List.length_pos_iff.mpr ?_)
          rintro rfl
          rw [Cursor.peek, h, beq_iff_eq] at hblank
          exact hr.head?_ne (by decide) hblank
      · rcases Cursor.takeBreak_cases h hg hr with ⟨hnone, -⟩ | ⟨n, hn, hbreak⟩
        · rw [hnone]
          exact ⟨0, Nat.zero_le _, rfl⟩
        · rw [hbreak]
          simp only
          split
          · exact ⟨n + 1, hn, rfl⟩
          · exact honward (n + 1) _ hn

theorem exists_plainGap (fuel : Nat) (h : c.rest = g ++ r) (hg : IsGap g) (hr : BeginsPlainly r) :
    ∃ n ≤ g.length, (plainGap fuel c).cursor = c.advance n := by
  obtain ⟨bs, g, rfl, hbs, hg', hblank⟩ := exists_blanks hg hr
  rw [List.append_assoc] at h
  have hrest : (c.advance bs.length).rest = g ++ r := Cursor.rest_advance_append h
  simp only [plainGap, Cursor.takeWhile_of_append h hbs hblank]
  rw [List.length_append]
  rcases Cursor.takeBreak_cases hrest hg' hr with ⟨hnone, -⟩ | ⟨n, hn, hbreak⟩
  · rw [hnone]
    exact ⟨bs.length, Nat.le_add_right _ _, rfl⟩
  · rw [hbreak]
    simp only [Cursor.advance_advance]
    have hlater : (c.advance (bs.length + (n + 1))).rest = g.drop (n + 1) ++ r := by
      rw [← Cursor.advance_advance, Cursor.rest_advance, hrest, List.drop_append_of_le_length hn]
    obtain ⟨m, hm, hstep⟩ := exists_plainBreaks fuel [] hlater
      (isGap_drop hg' _) hr
    rw [List.length_drop] at hm
    rw [Cursor.advance_advance] at hstep
    have hle : bs.length + (n + 1) + m ≤ bs.length + g.length := by omega
    split
    · exact ⟨bs.length + (n + 1), by omega, rfl⟩
    · split
      all_goals
        next heq =>
          rw [heq] at hstep
          exact ⟨_, hle, hstep⟩

end

end TypeDraft.Yaml
