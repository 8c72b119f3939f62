import TypeDraft.Proofs.Schema.Paths

/-!
# What stands within a merged schema

Each schema that stands within a merge is itself a merge, of items or fields of the samples. What
holds of every merged field so holds of each field at any depth.
-/

namespace TypeDraft.Schema

/-- Whether a schema stands somewhere within another one. -/
inductive Contains (s : Schema) : Schema → Prop
  | refl : Contains s s
  | items {t : Schema} : Contains s (.array (some t)) → Contains s t
  | field {fields : List (String × Facts × Option Schema)} {key : String} {facts : Facts}
      {t : Schema} : Contains s (.object fields) → (key, facts, some t) ∈ fields → Contains s t

theorem exists_of_ofAll?_eq_some {samples : List Value} {s : Schema} (h : ofAll? samples = some s) :
    ∃ v vs, s = ofSamples v vs := by
  cases samples with
  | nil => cases h
  | cons v vs => exact ⟨v, vs, (Option.some.inj h).symm⟩

theorem ofSamples_cases (v : Value) (vs : List Value) :
    ofSamples v vs = .array (ofAll? (gatheredItems (v :: vs))) ∨
      ofSamples v vs = .object ((keys (objects (v :: vs))).map (mergedField (objects (v :: vs)))) ∨
      ofSamples v vs = .scalar v.kind := by
  by_cases harray : v.kind = .array
  · exact Or.inl (ofSamples_array harray vs)
  by_cases hobject : v.fields?.isSome
  · exact Or.inr (Or.inl (ofSamples_object hobject vs))
  · exact Or.inr (Or.inr (ofSamples_scalar harray (by simpa using hobject) vs))

theorem eq_of_ofSamples_eq_array {v : Value} {vs : List Value} {items : Option Schema}
    (h : ofSamples v vs = .array items) : items = ofAll? (gatheredItems (v :: vs)) := by
  rcases ofSamples_cases v vs with heq | heq | heq
  · exact Schema.array.inj (h.symm.trans heq)
  · cases h.symm.trans heq
  · cases h.symm.trans heq

theorem eq_of_ofSamples_eq_object {v : Value} {vs : List Value}
    {fields : List (String × Facts × Option Schema)} (h : ofSamples v vs = .object fields) :
    fields = (keys (objects (v :: vs))).map (mergedField (objects (v :: vs))) := by
  rcases ofSamples_cases v vs with heq | heq | heq
  · cases h.symm.trans heq
  · exact Schema.object.inj (h.symm.trans heq)
  · cases h.symm.trans heq

/-- Within a merge stand only merges. -/
theorem Contains.exists_ofSamples {v : Value} {vs : List Value} {t : Schema}
    (h : (ofSamples v vs).Contains t) : ∃ w ws, t = ofSamples w ws := by
  induction h with
  | refl => exact ⟨v, vs, rfl⟩
  | items _ ih =>
      obtain ⟨w, ws, heq⟩ := ih
      exact exists_of_ofAll?_eq_some (eq_of_ofSamples_eq_array heq.symm).symm
  | field _ hmem ih =>
      obtain ⟨w, ws, heq⟩ := ih
      rw [eq_of_ofSamples_eq_object heq.symm] at hmem
      obtain ⟨key, -, hfield⟩ := List.mem_map.mp hmem
      exact exists_of_ofAll?_eq_some (congrArg (fun f => f.2.2) hfield)

/-! ## Fields with patterns -/

/-- A field with a pattern has strings alone, so nothing is nested in it. -/
theorem of_pattern_mergedField {objects : List (List (String × Value))} {key : String}
    {p : StringPattern} (hp : (mergedField objects key).2.1.pattern = some p) :
    (mergedField objects key).2.1.kinds = [.string] ∧ (mergedField objects key).2.2 = none := by
  have hd := describes_mergedField objects key
  have hkinds : (mergedField objects key).2.1.kinds = [.string] := by
    by_contra hothers
    have hnone : (mergedField objects key).2.1.pattern = none :=
      (factsOf_of_others objects.length hothers).1
    rw [hnone] at hp
    cases hp
  refine ⟨hkinds, hd.nested_none.mpr fun v hv => ?_⟩
  have hstring : v.kind ∈ [Kind.string] := by
    rw [← hkinds, hd.kinds]
    exact List.mem_eraseDups.mpr (List.mem_map_of_mem hv)
  rw [List.mem_singleton.mp hstring]
  exact ⟨nofun, nofun⟩

/-- Whether each field with a pattern that a schema knows of has strings alone. -/
def HasPlainPatterns (s : Schema) : Prop :=
  ∀ fields, s.Contains (.object fields) → ∀ field ∈ fields, ∀ p, field.2.1.pattern = some p →
    field.2.1.kinds = [.string] ∧ field.2.2 = none

theorem hasPlainPatterns_ofSamples (v : Value) (vs : List Value) :
    (ofSamples v vs).HasPlainPatterns := by
  intro fields hfields field hfield p hp
  obtain ⟨w, ws, heq⟩ := hfields.exists_ofSamples
  rw [eq_of_ofSamples_eq_object heq.symm] at hfield
  obtain ⟨key, -, rfl⟩ := List.mem_map.mp hfield
  exact of_pattern_mergedField hp

end TypeDraft.Schema
