import Mathlib.Data.List.Perm.Subperm
import TypeDraft.Proofs.TypeScript.Acceptance
import TypeDraft.Proofs.TypeScript.Basic.Parts
import TypeDraft.Proofs.TypeScript.Basic.Places

/-!
# Enough names for all sorts of values

A name or dictionary type accepts values of one sort only. So a type that accepts some values has as
many of them as the shape of the values has sorts, unless it may say that an array holds anything.
-/

namespace TypeDraft.TypeScript

namespace Ty

mutual

/-- The names and dictionary types that are alternatives by themselves. -/
def atoms : Ty → List Ty
  | named name => [named name]
  | dictionary => [dictionary]
  | array _ => []
  | union ts => atomsOfAll ts
termination_by structural t => t

def atomsOfAll : List Ty → List Ty
  | [] => []
  | t :: ts => t.atoms ++ atomsOfAll ts
termination_by structural ts => ts

end

mutual

/-- The types of items in those alternatives that are arrays. -/
def itemTypes : Ty → List Ty
  | array item => [item]
  | union ts => itemTypesOfAll ts
  | _ => []
termination_by structural t => t

def itemTypesOfAll : List Ty → List Ty
  | [] => []
  | t :: ts => t.itemTypes ++ itemTypesOfAll ts
termination_by structural ts => ts

end

mutual

theorem length_leaves : (t : Ty) →
    t.leaves.length = t.atoms.length + (leavesOfAll t.itemTypes).length
  | named _ => rfl
  | dictionary => rfl
  | array item => by simp [leaves, atoms, itemTypes, leavesOfAll]
  | union ts => length_leavesOfAll ts

theorem length_leavesOfAll : (ts : List Ty) →
    (leavesOfAll ts).length = (atomsOfAll ts).length + (leavesOfAll (itemTypesOfAll ts)).length
  | [] => rfl
  | t :: ts => by
    have ht := length_leaves t
    have hts := length_leavesOfAll ts
    rw [leavesOfAll, atomsOfAll, itemTypesOfAll, leavesOfAll_append]
    simp only [List.length_append]
    omega

end

theorem mem_atomsOfAll {ts : List Ty} {atom : Ty} :
    atom ∈ atomsOfAll ts ↔ ∃ t ∈ ts, atom ∈ t.atoms := by
  induction ts with
  | nil => simp [atomsOfAll]
  | cons t ts ih => simp [atomsOfAll, ih]

theorem mem_itemTypesOfAll {ts : List Ty} {item : Ty} :
    item ∈ itemTypesOfAll ts ↔ ∃ t ∈ ts, item ∈ t.itemTypes := by
  induction ts with
  | nil => simp [itemTypesOfAll]
  | cons t ts ih => simp [itemTypesOfAll, ih]

mutual

theorem atoms_subset_leaves : (t : Ty) → t.atoms ⊆ t.leaves
  | named _ => List.Subset.refl _
  | dictionary => List.Subset.refl _
  | array _ => List.nil_subset _
  | union ts => atomsOfAll_subset_leavesOfAll ts

theorem atomsOfAll_subset_leavesOfAll : (ts : List Ty) → atomsOfAll ts ⊆ leavesOfAll ts
  | [] => List.Subset.refl _
  | t :: ts => List.append_subset.mpr
    ⟨List.subset_append_of_subset_left _ (atoms_subset_leaves t),
      List.subset_append_of_subset_right _ (atomsOfAll_subset_leavesOfAll ts)⟩

end

mutual

theorem leaves_itemTypes_subset : (t : Ty) → leavesOfAll t.itemTypes ⊆ t.leaves
  | named _ => List.nil_subset _
  | dictionary => List.nil_subset _
  | array item => by
    rw [itemTypes, leavesOfAll, leavesOfAll, List.append_nil]
    exact List.Subset.refl _
  | union ts => leaves_itemTypesOfAll_subset ts

theorem leaves_itemTypesOfAll_subset : (ts : List Ty) →
    leavesOfAll (itemTypesOfAll ts) ⊆ leavesOfAll ts
  | [] => List.Subset.refl _
  | t :: ts => by
    rw [itemTypesOfAll, leavesOfAll_append, leavesOfAll]
    exact List.append_subset.mpr
      ⟨List.subset_append_of_subset_left _ (leaves_itemTypes_subset t),
        List.subset_append_of_subset_right _ (leaves_itemTypesOfAll_subset ts)⟩

end

end Ty

variable {nullable : Bool} {m : List Statement}

/-- What a type accepts is accepted by one of its names or by one of its arrays. -/
theorem exists_atom_of_accepts {t : Ty} {v : Value} (h : Accepts nullable m t v) :
    (∃ atom ∈ t.atoms, Accepts nullable m atom v) ∨
      ∃ item ∈ t.itemTypes, Accepts nullable m (.array item) v := by
  match t with
  | .named _ | .dictionary => exact Or.inl ⟨_, List.mem_singleton_self _, h⟩
  | .array item => exact Or.inr ⟨item, List.mem_singleton_self _, h⟩
  | .union ts =>
    cases h with
    | @union _ t _ ht h =>
        rcases exists_atom_of_accepts h with ⟨atom, hatom, h⟩ | ⟨item, hitem, h⟩
        · exact Or.inl ⟨atom, Ty.mem_atomsOfAll.mpr ⟨t, ht, hatom⟩, h⟩
        · exact Or.inr ⟨item, Ty.mem_itemTypesOfAll.mpr ⟨t, ht, hitem⟩, h⟩

namespace Basic

open Schema (gatheredItems)
open Shape (IsAlternativeOf AreAlternativesOf)

/-- Whether names and dictionary types accept values of one kind each, and no arrays. -/
def AreOfOneKind (nullable : Bool) (m : List Statement) (kindOf : Ty → Kind) (leaves : List Ty) :
    Prop :=
  ∀ leaf ∈ leaves, kindOf leaf ≠ .array ∧ ∀ v, Accepts nullable m leaf v → v.kind = kindOf leaf

variable {kindOf : Ty → Kind} {vs : List Value} {t : Ty} {s : List Alternative}

/-- Kinds other than arrays need a name or dictionary type each. -/
theorem length_kinds_le (hleaves : AreOfOneKind nullable m kindOf t.leaves)
    (hs : AreAlternativesOf vs s) (haccepts : ∀ v ∈ vs, Accepts nullable m t v) :
    ((s.map Alternative.kind).filter (· ≠ .array)).length ≤ t.atoms.length := by
  have hsub : (s.map Alternative.kind).filter (· ≠ .array) ⊆ t.atoms.map kindOf := by
    intro k hk
    rw [List.mem_filter, decide_eq_true_eq] at hk
    obtain ⟨⟨a, ha, rfl⟩, hk⟩ := And.imp_left List.mem_map.mp hk
    obtain ⟨v, hv, hkind⟩ := List.mem_map.mp (hs.each a ha).occurs
    rcases exists_atom_of_accepts (haccepts v hv) with ⟨atom, hatom, h⟩ | ⟨item, -, h⟩
    · have hof := (hleaves atom (t.atoms_subset_leaves hatom)).2 v h
      exact List.mem_map.mpr ⟨atom, hatom, hof.symm.trans hkind⟩
    · obtain ⟨items, rfl, -⟩ := accepts_array_iff.mp h
      exact absurd hkind.symm hk
  have hle := ((hs.nodup.filter _).subperm hsub).length_le
  rwa [List.length_map] at hle

/-- The items of arrays that a type accepts are accepted by one of its item types. -/
theorem accepts_gatheredItems (hleaves : AreOfOneKind nullable m kindOf t.leaves)
    (haccepts : ∀ v ∈ vs, Accepts nullable m t v) :
    ∀ w ∈ gatheredItems vs, Accepts nullable m (.ofAlternatives t.itemTypes) w := by
  intro w hw
  obtain ⟨v, hv, hw⟩ := List.mem_flatMap.mp hw
  obtain ⟨items, rfl, hw⟩ := Schema.mem_items hw
  rcases exists_atom_of_accepts (haccepts _ hv) with ⟨atom, hatom, h⟩ | ⟨item, hitem, h⟩
  · obtain ⟨hkind, hof⟩ := hleaves atom (t.atoms_subset_leaves hatom)
    exact absurd (hof _ h).symm hkind
  · obtain ⟨items', heq, hitems⟩ := accepts_array_iff.mp h
    cases heq
    exact accepts_ofAlternatives_iff.mpr ⟨item, hitem, hitems w hw⟩

theorem sortCount_of_kind_ne {a : Alternative} (h : a.kind ≠ .array) : sortCount a = 1 := by
  cases a with
  | array items => exact absurd rfl h
  | _ => rfl

mutual

/-- Arrays need as many names and dictionary types within as their items have sorts. -/
theorem sortCount_le : (a : Alternative) → {vs : List Value} → {t : Ty} →
    (∀ v ∈ vs, v.isNormal) → IsAlternativeOf vs a → ¬ HasBareArrays a → a.kind = .array →
    AreOfOneKind nullable m kindOf t.leaves → (∀ v ∈ vs, Accepts nullable m t v) →
    sortCount a ≤ (Ty.leavesOfAll t.itemTypes).length
  | .array items, vs, t, hvs, ha, hbare, _, hleaves, haccepts => by
    rw [HasBareArrays, not_or] at hbare
    have hitems := ha.areAlternativesOf_items hvs
    have hempty : items.isEmpty = false := List.isEmpty_eq_false_iff.mpr hbare.1
    have hsub : (Ty.ofAlternatives t.itemTypes).leaves ⊆ t.leaves := by
      rw [Ty.leaves_ofAlternatives]
      exact t.leaves_itemTypes_subset
    have hwithin : AreOfOneKind nullable m kindOf (Ty.ofAlternatives t.itemTypes).leaves :=
      fun leaf hleaf => hleaves leaf (hsub hleaf)
    have hgathered := accepts_gatheredItems hleaves haccepts
    have hkinds := length_kinds_le hwithin hitems hgathered
    have hcount := sortCountOfAll_le items
      (fun v hv => Schema.isNormal_of_mem_gatheredItems hvs hv) hitems hbare.2 hwithin hgathered
    have hlength := Ty.length_leaves (.ofAlternatives t.itemTypes)
    rw [Ty.leaves_ofAlternatives] at hlength
    rw [sortCount, hempty]
    simp only [Bool.false_eq_true, if_false]
    split at hcount <;> omega

theorem sortCountOfAll_le : (s : List Alternative) → {vs : List Value} → {t : Ty} →
    (∀ v ∈ vs, v.isNormal) → AreAlternativesOf vs s → ¬ AnyHasBareArrays s →
    AreOfOneKind nullable m kindOf t.leaves → (∀ v ∈ vs, Accepts nullable m t v) →
    sortCountOfAll s ≤ ((s.map Alternative.kind).filter (· ≠ .array)).length +
      if .array ∈ s.map Alternative.kind then (Ty.leavesOfAll t.itemTypes).length else 0
  | [], _, _, _, _, _, _, _ => Nat.zero_le _
  | a :: s, vs, t, hvs, hs, hbare, hleaves, haccepts => by
    rw [AnyHasBareArrays, not_or] at hbare
    have hrest := sortCountOfAll_le s hvs hs.tail hbare.2 hleaves haccepts
    have hnodup := List.nodup_cons.mp hs.nodup
    rw [sortCountOfAll, List.map_cons]
    by_cases hkind : a.kind = .array
    · have hfirst := sortCount_le a hvs (hs.each a List.mem_cons_self) hbare.1 hkind hleaves haccepts
      rw [← hkind, if_neg hnodup.1] at hrest
      rw [hkind, List.filter_cons_of_neg (by simp), if_pos List.mem_cons_self]
      rw [hkind] at hrest
      omega
    · have hmem : .array ∈ a.kind :: s.map Alternative.kind ↔ .array ∈ s.map Alternative.kind := by
        simp [Ne.symm hkind]
      rw [sortCount_of_kind_ne hkind, List.filter_cons_of_pos (by simpa using hkind),
        List.length_cons]
      simp only [hmem]
      omega

end

/-- A type that accepts some values names as many sorts as the values have. -/
theorem sortCountOfAll_le_leaves (hvs : ∀ v ∈ vs, v.isNormal) (hs : AreAlternativesOf vs s)
    (hbare : ¬ AnyHasBareArrays s) (hleaves : AreOfOneKind nullable m kindOf t.leaves)
    (haccepts : ∀ v ∈ vs, Accepts nullable m t v) : sortCountOfAll s ≤ t.leaves.length := by
  have hcount := sortCountOfAll_le s hvs hs hbare hleaves haccepts
  have hkinds := length_kinds_le hleaves hs haccepts
  have hlength := Ty.length_leaves t
  split at hcount <;> omega

end Basic

end TypeDraft.TypeScript
