import Mathlib.Data.List.Nodup
import Mathlib.Data.List.Perm.Subperm
import Mathlib.Order.Bounds.Defs
import TypeDraft.Name.Fresh

/-!
# Fresh names are fresh

One of the numbered names that are tried is always free, since there are more of them than names
taken. A count that goes up from two for as long as it meets names that are taken so comes to an
end, at the least number that is free.
-/

namespace TypeDraft.Name

theorem numbered_injective (name : String) {m n : Nat} (h : numbered name m = numbered name n) :
    m = n := by
  have hrepr : m.repr = n.repr := (String.append_right_inj name).mp h
  have hdigits : Nat.toDigits 10 m = Nat.toDigits 10 n := by
    rw [← Nat.toList_repr, ← Nat.toList_repr, hrepr]
  rw [← Nat.ofDigitChars_ten_toDigits (n := m), hdigits, Nat.ofDigitChars_ten_toDigits]

theorem nodup_numbered (name : String) (n : Nat) :
    ((List.range n).map fun k => numbered name (k + 2)).Nodup := by
  refine List.Nodup.map (fun i j hij => ?_) List.nodup_range
  have h := numbered_injective name hij
  omega

/-- Of more numbered names than there are names taken, one is free. -/
theorem exists_free (name : String) (taken : List String) :
    ∃ k ≤ taken.length, numbered name (k + 2) ∉ taken := by
  by_contra! hall
  have hsub : (List.range (taken.length + 1)).map (fun k => numbered name (k + 2)) ⊆ taken := by
    intro x hx
    obtain ⟨k, hk, rfl⟩ := List.mem_map.mp hx
    exact hall k (Nat.lt_succ_iff.mp (List.mem_range.mp hk))
  have hle := ((nodup_numbered name (taken.length + 1)).subperm hsub).length_le
  rw [List.length_map, List.length_range] at hle
  omega

/-! ## Counting up -/

/-- Where a count that goes up from some number comes to its end: it goes on for as long as the
number gives a name that is taken. -/
inductive CountEnds (name : String) (taken : List String) : (start stop : Nat) → Prop
  | free {n : Nat} : numbered name n ∉ taken → CountEnds name taken n n
  | taken {n k : Nat} :
      numbered name n ∈ taken → CountEnds name taken (n + 1) k → CountEnds name taken n k

variable {name : String} {taken : List String}

theorem CountEnds.isLeast {n k : Nat} (h : CountEnds name taken n k) :
    IsLeast {i | n ≤ i ∧ numbered name i ∉ taken} k := by
  induction h with
  | free hfree => exact ⟨⟨Nat.le_refl _, hfree⟩, fun _ hi => hi.1⟩
  | taken htaken _ ih =>
      refine ⟨⟨Nat.le_of_succ_le ih.1.1, ih.1.2⟩, fun i hi => ih.2 ⟨?_, hi.2⟩⟩
      exact Nat.lt_of_le_of_ne hi.1 fun heq => hi.2 (heq ▸ htaken)

theorem exists_countEnds {n i : Nat} (hfree : numbered name (n + i) ∉ taken) :
    ∃ k ≤ n + i, CountEnds name taken n k := by
  -- On how far ahead a number is known to be free; one step brings it nearer.
  induction i generalizing n with
  | zero => exact ⟨n, Nat.le_refl n, .free hfree⟩
  | succ i ih =>
      by_cases hn : numbered name n ∈ taken
      · have hstep : n + (i + 1) = n + 1 + i := by omega
        rw [hstep] at hfree ⊢
        obtain ⟨k, hk, hends⟩ := ih hfree
        exact ⟨k, hk, .taken hn hends⟩
      · exact ⟨n, Nat.le_add_right n _, .free hn⟩

/-- A count from two ends. -/
theorem exists_countEnds_two (name : String) (taken : List String) :
    ∃ k ≤ taken.length + 2, CountEnds name taken 2 k := by
  obtain ⟨i, hi, hfree⟩ := exists_free name taken
  rw [Nat.add_comm] at hfree
  obtain ⟨k, hk, hends⟩ := exists_countEnds hfree
  exact ⟨k, by omega, hends⟩

/-- A name that is taken gets the number at which the count ends. -/
theorem unique_eq_of_countEnds {k : Nat} (h : CountEnds name taken 2 k) :
    unique name taken = if name ∈ taken then numbered name k else name := by
  obtain ⟨⟨htwo, hfree⟩, hleast⟩ := h.isLeast
  obtain ⟨i, hi, hfree'⟩ := exists_free name taken
  have hki : k ≤ i + 2 := hleast ⟨by omega, hfree'⟩
  have hfind : (List.range (taken.length + 1)).find?
      ((· ∉ taken) ∘ fun n => numbered name (n + 2)) = some (k - 2) := by
    rw [List.find?_range_eq_some]
    refine ⟨?_, List.mem_range.mpr (by omega), fun j hj => ?_⟩
    · simpa [Nat.sub_add_cancel htwo] using hfree
    · by_contra hnot
      have hjfree : numbered name (j + 2) ∉ taken := by simpa using hnot
      have hle := hleast ⟨Nat.le_add_left 2 j, hjfree⟩
      omega
  rw [unique, List.find?_map, hfind, Option.map_some, Option.getD_some, Nat.sub_add_cancel htwo]

/-- A fresh name is the name itself, or that with a number. -/
theorem unique_eq_or (name : String) (taken : List String) :
    unique name taken = name ∨ ∃ n, unique name taken = numbered name n := by
  obtain ⟨k, -, hends⟩ := exists_countEnds_two name taken
  rw [unique_eq_of_countEnds hends]
  split
  · exact Or.inr ⟨k, rfl⟩
  · exact Or.inl rfl

theorem unique_not_mem (name : String) (taken : List String) : unique name taken ∉ taken := by
  obtain ⟨k, -, hends⟩ := exists_countEnds_two name taken
  rw [unique_eq_of_countEnds hends]
  split
  · exact hends.isLeast.1.2
  · assumption

end TypeDraft.Name
