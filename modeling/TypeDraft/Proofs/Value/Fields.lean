import TypeDraft.Value.Normal

/-!
# Fields and kinds of values

In a normal value no object holds a key twice, so looking a key up and finding its field in the
list come to the same. Different kinds have different names.
-/

namespace TypeDraft

variable {α : Type}

theorem mem_of_lookup {key : String} {v : α} {fields : List (String × α)}
    (h : fields.lookup key = some v) : (key, v) ∈ fields := by
  obtain ⟨before, after, rfl, -⟩ := List.lookup_eq_some_iff.mp h
  exact List.mem_append_right before List.mem_cons_self

theorem lookup_of_mem {key : String} {v : α} {fields : List (String × α)}
    (hn : (fields.map Prod.fst).Nodup) (hm : (key, v) ∈ fields) :
    fields.lookup key = some v := by
  obtain ⟨before, after, rfl⟩ := List.append_of_mem hm
  refine List.lookup_eq_some_iff.mpr ⟨before, after, rfl, ?_⟩
  intro f hf
  have hne : key ≠ f.1 := by
    rintro rfl
    rw [List.map_append, List.map_cons, List.nodup_append] at hn
    exact hn.2.2 f.1 (List.mem_map_of_mem hf) f.1 List.mem_cons_self rfl
  simpa using hne

theorem lookup_eq_some_iff_mem {key : String} {v : α} {fields : List (String × α)}
    (hn : (fields.map Prod.fst).Nodup) :
    fields.lookup key = some v ↔ (key, v) ∈ fields :=
  ⟨mem_of_lookup, lookup_of_mem hn⟩

theorem lookup_isSome_iff_mem {key : String} {fields : List (String × α)} :
    (fields.lookup key).isSome ↔ key ∈ fields.map Prod.fst := by
  constructor
  · intro h
    obtain ⟨v, hv⟩ := Option.isSome_iff_exists.mp h
    exact List.mem_map.mpr ⟨(key, v), mem_of_lookup hv, rfl⟩
  · intro h
    obtain ⟨f, hf, rfl⟩ := List.mem_map.mp h
    rw [List.lookup_isSome_iff]
    exact ⟨f, hf, by simp⟩

namespace Value

theorem isNormal_of_mem {v : Value} : {items : List Value} → areNormal items → v ∈ items →
    v.isNormal
  | w :: ws, h, hm => by
    rw [areNormal, Bool.and_eq_true] at h
    rcases List.mem_cons.mp hm with rfl | hm
    · exact h.1
    · exact isNormal_of_mem h.2 hm

theorem isNormal_of_mem_fields {key : String} {v : Value} :
    {fields : List (String × Value)} → areNormalFields fields → (key, v) ∈ fields → v.isNormal
  | (k, w) :: fs, h, hm => by
    rw [areNormalFields, Bool.and_eq_true] at h
    rcases List.mem_cons.mp hm with heq | hm
    · cases heq
      exact h.1
    · exact isNormal_of_mem_fields h.2 hm

theorem isNormal_item {items : List Value} (h : (arr items).isNormal) {v : Value}
    (hm : v ∈ items) : v.isNormal := by
  rw [isNormal] at h
  exact isNormal_of_mem h hm

theorem nodup_keys {fields : List (String × Value)} (h : (obj fields).isNormal) :
    (fields.map Prod.fst).Nodup := by
  rw [isNormal, Bool.and_eq_true] at h
  exact of_decide_eq_true h.1

theorem isNormal_field {fields : List (String × Value)} (h : (obj fields).isNormal) {key : String}
    {v : Value} (hm : (key, v) ∈ fields) : v.isNormal := by
  rw [isNormal, Bool.and_eq_true] at h
  exact isNormal_of_mem_fields h.2 hm

end Value

/-! ## Kinds -/

theorem kind_name_inj {a b : Kind} : a.name = b.name ↔ a = b := by
  constructor
  · cases a with
    | foreign f =>
        cases b with
        | foreign g => cases f <;> cases g <;> simp [Kind.name, Foreign.name]
        | _ => cases f <;> simp [Kind.name, Foreign.name]
    | _ =>
        cases b with
        | foreign g => cases g <;> simp [Kind.name, Foreign.name]
        | _ => simp [Kind.name]
  · exact congrArg Kind.name

end TypeDraft
