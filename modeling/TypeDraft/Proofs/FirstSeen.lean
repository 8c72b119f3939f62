import Mathlib.Data.Finset.Card
import Mathlib.Data.List.Induction

/-!
# First appearances

Facts on the entries of a list without those that equal an earlier one.
-/

namespace TypeDraft

variable {α : Type} [BEq α] [LawfulBEq α]

theorem eraseDups_concat (l : List α) (a : α) [Decidable (a ∈ l)] :
    (l ++ [a]).eraseDups = if a ∈ l then l.eraseDups else l.eraseDups ++ [a] := by
  rw [List.eraseDups_append]
  by_cases ha : a ∈ l <;> simp [List.removeAll, ha, List.eraseDups_cons]

theorem nodup_eraseDups (l : List α) : l.eraseDups.Nodup := by
  classical
  induction l using List.reverseRecOn with
  | nil => exact List.nodup_nil
  | append_singleton l a ih =>
      rw [eraseDups_concat]
      by_cases ha : a ∈ l
      · rwa [if_pos ha]
      · rw [if_neg ha]
        apply List.Nodup.append ih (List.nodup_singleton a)
        simpa using ha

theorem length_eraseDups_le (l : List α) : l.eraseDups.length ≤ l.length := by
  classical
  induction l using List.reverseRecOn with
  | nil => simp
  | append_singleton l a ih =>
      rw [eraseDups_concat]
      by_cases ha : a ∈ l <;> simp [ha] <;> omega

theorem perm_eraseDups {l l' : List α} (h : l.Perm l') : l.eraseDups.Perm l'.eraseDups := by
  refine (List.perm_ext_iff_of_nodup (nodup_eraseDups l) (nodup_eraseDups l')).mpr fun a => ?_
  rw [List.mem_eraseDups, List.mem_eraseDups, h.mem_iff]

/-- Nothing is dropped exactly if all entries are different. -/
theorem eraseDups_eq_self_iff (l : List α) : l.eraseDups = l ↔ l.Nodup := by
  classical
  constructor
  · intro h
    rw [← h]
    exact nodup_eraseDups l
  · intro h
    induction l using List.reverseRecOn with
    | nil => rfl
    | append_singleton l a ih =>
        have hn := List.nodup_append.mp h
        have ha : a ∉ l := fun hm => hn.2.2 a hm a (by simp) rfl
        rw [eraseDups_concat, if_neg ha, ih hn.1]

theorem length_eraseDups_eq_iff (l : List α) : l.eraseDups.length = l.length ↔ l.Nodup := by
  classical
  constructor
  · intro h
    induction l using List.reverseRecOn with
    | nil => exact List.nodup_nil
    | append_singleton l a ih =>
        have hle := length_eraseDups_le l
        rw [eraseDups_concat] at h
        by_cases ha : a ∈ l
        · rw [if_pos ha, List.length_append, List.length_singleton] at h
          omega
        · rw [if_neg ha, List.length_append, List.length_append, Nat.add_right_cancel_iff] at h
          exact List.Nodup.append (ih h) (List.nodup_singleton a) (by simpa using ha)
  · intro h
    rw [(eraseDups_eq_self_iff l).mpr h]

theorem eraseDups_eraseDups_append (l m : List α) :
    (l.eraseDups ++ m).eraseDups = (l ++ m).eraseDups := by
  classical
  induction m using List.reverseRecOn with
  | nil => rw [List.append_nil, List.append_nil, (eraseDups_eq_self_iff _).mpr (nodup_eraseDups _)]
  | append_singleton m a ih =>
      rw [← List.append_assoc, ← List.append_assoc, eraseDups_concat, eraseDups_concat, ih]
      simp [List.mem_eraseDups]

theorem eraseDups_prefix_append (l m : List α) : l.eraseDups <+: (l ++ m).eraseDups := by
  rw [List.eraseDups_append]
  exact List.prefix_append _ _

theorem subset_of_eraseDups_eq {l m : List α} (h : l.eraseDups = m.eraseDups) : l ⊆ m := by
  intro a ha
  rwa [← List.mem_eraseDups, ← h, List.mem_eraseDups]

/-- What comes behind entries that hold all of it adds nothing. -/
theorem eraseDups_append_of_subset {l m : List α} (h : m ⊆ l) :
    (l ++ m).eraseDups = l.eraseDups := by
  have hnone : m.removeAll l = [] := by
    rw [List.removeAll, List.filter_eq_nil_iff]
    intro a ha
    simp [h ha]
  rw [List.eraseDups_append, hnone, List.eraseDups_nil, List.append_nil]

theorem filter_eraseDups (p : α → Bool) (l : List α) :
    l.eraseDups.filter p = (l.filter p).eraseDups := by
  classical
  induction l using List.reverseRecOn with
  | nil => rfl
  | append_singleton l a ih =>
      rw [eraseDups_concat, List.filter_append]
      by_cases hp : p a = true
      · rw [List.filter_cons_of_pos hp, List.filter_nil, eraseDups_concat]
        by_cases ha : a ∈ l <;> simp [ha, hp, ih]
      · rw [List.filter_cons_of_neg hp, List.filter_nil, List.append_nil]
        by_cases ha : a ∈ l <;> simp [ha, hp, ih]

/-- Only first appearances count behind other entries. -/
theorem eraseDups_append_congr {l l' m m' : List α} (hl : l.eraseDups = l'.eraseDups)
    (hm : m.eraseDups = m'.eraseDups) : (l ++ m).eraseDups = (l' ++ m').eraseDups := by
  have hmem : ∀ a, l.elem a = l'.elem a := by
    intro a
    rw [Bool.eq_iff_iff, List.elem_iff, List.elem_iff, ← List.mem_eraseDups, hl, List.mem_eraseDups]
  have hremove : m.removeAll l = m.removeAll l' := List.filter_congr fun a _ => by rw [hmem a]
  rw [List.eraseDups_append, List.eraseDups_append, hl, hremove, List.removeAll, List.removeAll,
    ← filter_eraseDups, ← filter_eraseDups, hm]

theorem eraseDups_flatMap_eraseDups {β : Type} [BEq β] [LawfulBEq β] (f : β → List α)
    (l : List β) : (l.eraseDups.flatMap f).eraseDups = (l.flatMap f).eraseDups := by
  classical
  induction l using List.reverseRecOn with
  | nil => rfl
  | append_singleton l b ih =>
      rw [eraseDups_concat, List.flatMap_append, List.flatMap_singleton]
      by_cases hb : b ∈ l
      · rw [if_pos hb, ih, eraseDups_append_of_subset fun a ha => List.mem_flatMap.mpr ⟨b, hb, ha⟩]
      · rw [if_neg hb, List.flatMap_append, List.flatMap_singleton]
        exact eraseDups_append_congr ih rfl

theorem eraseDups_eq_singleton_iff {l : List α} {a : α} :
    l.eraseDups = [a] ↔ l ≠ [] ∧ ∀ b ∈ l, b = a := by
  constructor
  · intro h
    refine ⟨fun hl => by simp [hl] at h, fun b hb => ?_⟩
    have hm : b ∈ l.eraseDups := List.mem_eraseDups.mpr hb
    simpa [h] using hm
  · rintro ⟨hne, hall⟩
    cases l with
    | nil => exact absurd rfl hne
    | cons b l =>
        obtain rfl : b = a := hall b List.mem_cons_self
        have hrest : (l.filter fun c => !c == b) = [] :=
          List.filter_eq_nil_iff.mpr fun c hc => by simp [hall c (List.mem_cons_of_mem b hc)]
        rw [List.eraseDups_cons, hrest, List.eraseDups_nil]

theorem card_toFinset_eq_length_eraseDups [DecidableEq α] (l : List α) :
    l.toFinset.card = l.eraseDups.length := by
  have h : l.toFinset = l.eraseDups.toFinset := by
    ext a
    simp
  rw [h, List.toFinset_card_of_nodup (nodup_eraseDups l)]

end TypeDraft
