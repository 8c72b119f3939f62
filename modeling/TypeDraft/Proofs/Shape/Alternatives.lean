import TypeDraft.Proofs.Schema.Uniform
import TypeDraft.Proofs.Shape.Values

/-!
# What the parts of a shape are shapes of

Within the shape of some values stand the shapes of their items and of the values under each of
their keys. A walk through a shape can take the values along.
-/

namespace TypeDraft.Shape

open Schema (objects keys gatheredItems)
open Value (kind)

/-- What stands for those of some values that are of one kind. -/
structure IsAlternativeOf (vs : List Value) (a : Alternative) : Prop where
  eq : a = alternativeFor vs a.kind
  occurs : a.kind ∈ vs.map kind

/-- What stands for those of some values that are of several kinds. -/
structure AreAlternativesOf (vs : List Value) (s : List Alternative) : Prop where
  each : ∀ a ∈ s, IsAlternativeOf vs a
  nodup : (s.map Alternative.kind).Nodup

/-- What stands for the values under several keys of some objects. -/
structure AreFieldsOf (objects : List (List (String × Value)))
    (fields : List (String × List Alternative)) : Prop where
  occurs : ∀ f ∈ fields, f.1 ∈ keys objects
  shapes : ∀ f ∈ fields, f.2 = ofAll (under f.1 objects)
  nodup : (fields.map Prod.fst).Nodup

variable {vs : List Value} {a : Alternative} {s : List Alternative}
  {objs : List (List (String × Value))}

theorem kinds_ofAll (h : ∀ v ∈ vs, v.isNormal) :
    (ofAll vs).map Alternative.kind = (vs.map kind).eraseDups := by
  have hkinds : ∀ k ∈ (vs.map kind).eraseDups, (Alternative.kind ∘ alternativeFor vs) k = id k := by
    intro k hk
    obtain ⟨v, hv, rfl⟩ := List.mem_map.mp (List.mem_eraseDups.mp hk)
    exact kind_alternativeFor (kind_ne_foreign (h v hv))
  rw [ofAll_eq h, List.map_map, List.map_congr_left hkinds, List.map_id]

theorem areAlternativesOf_ofAll (h : ∀ v ∈ vs, v.isNormal) : AreAlternativesOf vs (ofAll vs) where
  each := by
    intro a ha
    have hkind : a.kind ∈ vs.map kind := by
      rw [← List.mem_eraseDups, ← kinds_ofAll h]
      exact List.mem_map_of_mem ha
    refine ⟨?_, hkind⟩
    rw [ofAll_eq h] at ha
    obtain ⟨k, hk, rfl⟩ := List.mem_map.mp ha
    obtain ⟨v, hv, rfl⟩ := List.mem_map.mp (List.mem_eraseDups.mp hk)
    rw [kind_alternativeFor (kind_ne_foreign (h v hv))]
  nodup := by
    rw [kinds_ofAll h]
    exact nodup_eraseDups _

theorem mem_kinds_ofAll (h : ∀ v ∈ vs, v.isNormal) {v : Value} (hv : v ∈ vs) :
    v.kind ∈ (ofAll vs).map Alternative.kind := by
  rw [kinds_ofAll h, List.mem_eraseDups]
  exact List.mem_map_of_mem hv

theorem AreAlternativesOf.tail (h : AreAlternativesOf vs (a :: s)) : AreAlternativesOf vs s where
  each := fun b hb => h.each b (List.mem_cons_of_mem a hb)
  nodup := (List.nodup_cons.mp h.nodup).2

theorem IsAlternativeOf.items {items : List Alternative} (h : IsAlternativeOf vs (.array items)) :
    items = ofAll (gatheredItems vs) := Alternative.array.inj h.eq

theorem IsAlternativeOf.areAlternativesOf_items (hvs : ∀ v ∈ vs, v.isNormal)
    {items : List Alternative} (h : IsAlternativeOf vs (.array items)) :
    AreAlternativesOf (gatheredItems vs) items := by
  rw [h.items]
  exact areAlternativesOf_ofAll fun v hv => Schema.isNormal_of_mem_gatheredItems hvs hv

theorem mem_under {key : String} {v : Value} :
    v ∈ under key objs ↔ ∃ fields ∈ objs, fields.lookup key = some v := List.mem_filterMap

theorem IsAlternativeOf.keys_fields {fields : List (String × List Alternative)}
    {needed : List String} (h : IsAlternativeOf vs (.object fields needed)) :
    fields.map Prod.fst = keys (objects vs) := by
  rw [(Alternative.object.inj h.eq).1, List.map_map]
  exact List.map_id _

theorem IsAlternativeOf.fields {fields : List (String × List Alternative)} {needed : List String}
    (h : IsAlternativeOf vs (.object fields needed)) : AreFieldsOf (objects vs) fields := by
  have hkeys := h.keys_fields
  constructor
  · intro f hf
    rw [← hkeys]
    exact List.mem_map_of_mem hf
  · intro f hf
    rw [(Alternative.object.inj h.eq).1] at hf
    obtain ⟨key, -, rfl⟩ := List.mem_map.mp hf
    rfl
  · rw [hkeys]
    exact nodup_eraseDups _

theorem IsAlternativeOf.required {fields : List (String × List Alternative)}
    {needed : List String} (h : IsAlternativeOf vs (.object fields needed)) :
    needed = required (objects vs) := (Alternative.object.inj h.eq).2

theorem AreFieldsOf.tail {f : String × List Alternative}
    {fields : List (String × List Alternative)} (h : AreFieldsOf objs (f :: fields)) :
    AreFieldsOf objs fields where
  occurs := fun g hg => h.occurs g (List.mem_cons_of_mem f hg)
  shapes := fun g hg => h.shapes g (List.mem_cons_of_mem f hg)
  nodup := (List.nodup_cons.mp h.nodup).2

theorem under_ne_nil {key : String} (h : key ∈ keys objs) : under key objs ≠ [] := by
  rw [keys, List.mem_eraseDups, List.mem_flatMap] at h
  obtain ⟨fields, hf, hkey⟩ := h
  obtain ⟨v, hv⟩ := Option.isSome_iff_exists.mp (lookup_isSome_iff_mem.mpr hkey)
  exact List.ne_nil_of_mem (mem_under.mpr ⟨fields, hf, hv⟩)

theorem mem_required {key : String} (h : objs ≠ []) :
    key ∈ required objs ↔ ∀ fields ∈ objs, key ∈ fields.map Prod.fst := by
  induction objs using List.reverseRecOn with
  | nil => exact absurd rfl h
  | append_singleton objs fields ih =>
      by_cases hnil : objs = []
      · subst hnil
        simp [Shape.required]
      · rw [required_concat hnil, List.mem_filter, ih hnil, List.forall_mem_append]
        simp

theorem ofAll_ne_nil (hvs : ∀ v ∈ vs, v.isNormal) (h : vs ≠ []) : ofAll vs ≠ [] := by
  obtain ⟨v, hv⟩ := List.exists_mem_of_ne_nil _ h
  intro hnil
  have hmem := mem_kinds_ofAll hvs hv
  rw [hnil] at hmem
  cases hmem

end TypeDraft.Shape
