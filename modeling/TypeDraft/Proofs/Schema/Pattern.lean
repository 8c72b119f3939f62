import Mathlib.Data.List.Basic
import TypeDraft.Schema.Pattern

/-!
# The pattern that strings share

It is the first one in order of rank that each of the strings has. So it depends on which strings
there are and not on their order or number, and with more strings it can only come later or be lost.
-/

namespace TypeDraft.StringPattern

/-- The place of a pattern in the order in which patterns are tried. -/
def rank (p : StringPattern) : Nat := all.idxOf p

theorem mem_all (p : StringPattern) : p ∈ all := by cases p <;> decide

theorem shared?_eq_some_iff {strings : List String} {p : StringPattern} :
    shared? strings = some p ↔ strings ≠ [] ∧ (∀ s ∈ strings, p.fitsPattern s = true) ∧
      ∀ q : StringPattern, (∀ s ∈ strings, q.fitsPattern s = true) → p.rank ≤ q.rank := by
  have hfind : shared? strings = some p ↔
      strings ≠ [] ∧ all.find? (fun p => strings.all p.fitsPattern) = some p := by
    rw [shared?]
    cases strings <;> simp
  rw [hfind, List.find?_eq_some_iff_append, List.all_eq_true]
  refine and_congr_right fun _ => and_congr_right fun hp => ⟨?_, fun hfirst => ?_⟩
  · rintro ⟨before, after, hall, hbefore⟩ q hq
    have hnot : ∀ r : StringPattern, (∀ s ∈ strings, r.fitsPattern s = true) → r ∉ before := by
      intro r hr hmem
      have hfalse := hbefore r hmem
      rw [List.all_eq_true.mpr hr] at hfalse
      cases hfalse
    rw [rank, rank, hall, List.idxOf_append_of_notMem (hnot p hp),
      List.idxOf_append_of_notMem (hnot q hq), List.idxOf_cons_self]
    omega
  · obtain ⟨before, after, hall, hnot⟩ := List.eq_append_cons_of_mem (mem_all p)
    refine ⟨before, after, hall, fun q hq => ?_⟩
    have hearlier : q.rank < p.rank := by
      rw [rank, rank, hall, List.idxOf_append_of_mem hq, List.idxOf_append_of_notMem hnot]
      have hlt := List.idxOf_lt_length_of_mem hq
      omega
    rw [Bool.not_eq_true', Bool.eq_false_iff]
    intro hfits
    have hle := hfirst q (List.all_eq_true.mp hfits)
    omega

/-- Which strings there are settles the pattern. -/
theorem shared?_congr {strings strings' : List String} (h : ∀ s, s ∈ strings ↔ s ∈ strings') :
    shared? strings = shared? strings' := by
  have hnil : strings ≠ [] ↔ strings' ≠ [] := by
    simp only [ne_eq, List.eq_nil_iff_forall_not_mem, h]
  apply Option.ext
  intro p
  simp only [shared?_eq_some_iff, h, hnil]

/-- With more strings the pattern is lost or a later one, and none is won. -/
theorem exists_shared?_of_append {strings more : List String} (hne : strings ≠ []) {p : StringPattern}
    (h : shared? (strings ++ more) = some p) :
    ∃ q, shared? strings = some q ∧ q.rank ≤ p.rank := by
  obtain ⟨-, hfits, -⟩ := shared?_eq_some_iff.mp h
  have hold : ∀ s ∈ strings, p.fitsPattern s = true := fun s hs =>
    hfits s (List.mem_append_left more hs)
  cases hq : shared? strings with
  | some q => exact ⟨q, rfl, (shared?_eq_some_iff.mp hq).2.2 p hold⟩
  | none =>
      have hfind : all.find? (fun r => strings.all r.fitsPattern) = none := by
        rwa [shared?, if_neg (by simpa using hne)] at hq
      have hnot := List.find?_eq_none.mp hfind p (mem_all p)
      exact absurd (List.all_eq_true.mpr hold) hnot

end TypeDraft.StringPattern
