import TypeDraft.Proofs.Schema.Correspondence
import TypeDraft.Proofs.Schema.Pattern
import TypeDraft.Proofs.Schema.Uniform

/-!
# The order of samples

If the samples are of one kind and their arrays are uniform, then it makes no difference in which
order they come, except to the order of what the schema lists.
-/

namespace TypeDraft

/-- The same facts but for the order of what they list. -/
structure Facts.IsReordered (facts facts' : Facts) : Prop where
  isOptional : facts.isOptional = facts'.isOptional
  isUnion : facts.isUnion = facts'.isUnion
  kinds : facts.kinds.Perm facts'.kinds
  values : facts.values.Perm facts'.values
  pattern : facts.pattern = facts'.pattern
  isEnum : facts.isEnum = facts'.isEnum

namespace Schema

/-- Two schemas are equal up to the order of fields, of kinds and of values, at every depth. -/
def IsReordered : Schema → Schema → Prop := Corresponds List.Perm Facts.IsReordered

/-! ## What is gathered from samples in another order -/

theorem isReordered_factsOf (total : Nat) {values values' : List Value} (h : values.Perm values') :
    (factsOf total values).IsReordered (factsOf total values') := by
  have hkinds : (values.map Value.kind).eraseDups.Perm (values'.map Value.kind).eraseDups :=
    perm_eraseDups (h.map Value.kind)
  have hstring : (values.map Value.kind).eraseDups = [.string] ↔
      (values'.map Value.kind).eraseDups = [.string] := by
    rw [← List.perm_singleton, ← List.perm_singleton]
    exact ⟨hkinds.symm.trans, hkinds.trans⟩
  have hstrings : (if (values.map Value.kind).eraseDups = [.string] then stringsOf values else []).Perm
      (if (values'.map Value.kind).eraseDups = [.string] then stringsOf values' else []) := by
    simp only [hstring]
    split
    · exact h.filterMap _
    · exact List.Perm.refl []
  exact {
    isOptional := by simp only [factsOf, h.length_eq]
    isUnion := by simp only [factsOf, hkinds.length_eq]
    kinds := hkinds
    values := h
    pattern := StringPattern.shared?_congr fun s => hstrings.mem_iff
    isEnum := by
      simp only [factsOf, isEnumeration, hstrings.length_eq, (perm_eraseDups hstrings).length_eq] }

theorem perm_gatheredItems {samples samples' : List Value} (h : samples.Perm samples') :
    (gatheredItems samples).Perm (gatheredItems samples') := h.flatMap_right _

theorem perm_objects {samples samples' : List Value} (h : samples.Perm samples') :
    (objects samples).Perm (objects samples') := h.filterMap _

theorem perm_keys {objs objs' : List (List (String × Value))} (h : objs.Perm objs') :
    (keys objs).Perm (keys objs') := perm_eraseDups (h.flatMap_right _)

theorem perm_present (key : String) {objs objs' : List (List (String × Value))}
    (h : objs.Perm objs') : (present key objs).Perm (present key objs') :=
  (h.filterMap _).filter _

theorem perm_shaped {values values' : List Value} (h : values.Perm values') :
    (shaped values).Perm (shaped values') := by
  by_cases hobject : ∃ v ∈ values, v.kind = .object
  · have hobject' : ∃ v ∈ values', v.kind = .object := by
      obtain ⟨v, hv, hkind⟩ := hobject
      exact ⟨v, h.mem_iff.mp hv, hkind⟩
    rw [shaped_eq_objects hobject, shaped_eq_objects hobject']
    exact h.filter _
  · push Not at hobject
    rw [shaped_eq_arrays hobject, shaped_eq_arrays fun v hv => hobject v (h.mem_iff.mpr hv)]
    exact h.filter _

/-- What is merged for a field is of one kind, whatever is mixed in the field. -/
theorem oneKind_shaped (values : List Value) : OneKind (shaped values) := by
  unfold shaped
  split <;>
  · intro v hv w hw
    rw [of_decide_eq_true (List.mem_filter.mp hv).2, of_decide_eq_true (List.mem_filter.mp hw).2]

/-! ## The merge of samples in another order -/

/-- Samples of one kind with uniform arrays, in two orders. -/
structure AreReordered (samples samples' : List Value) : Prop where
  perm : samples.Perm samples'
  oneKind : OneKind samples
  uniform : UniformArrays samples

theorem AreReordered.head {samples samples' : List Value} (h : AreReordered samples samples') :
    samples.head?.map Value.kind = samples'.head?.map Value.kind := by
  have hperm := h.perm
  cases samples with
  | nil => rw [hperm.nil_eq]
  | cons v vs =>
      cases samples' with
      | nil => exact absurd hperm.eq_nil (List.cons_ne_nil v vs)
      | cons v' vs' =>
          have hv' : v' ∈ v :: vs := hperm.mem_iff.mpr List.mem_cons_self
          exact congrArg some (h.oneKind v List.mem_cons_self v' hv')

theorem isKept_areReordered : IsKept List.Perm Facts.IsReordered AreReordered where
  head := AreReordered.head
  items h := ⟨perm_gatheredItems h.perm, h.uniform.oneKind, h.uniform.stepInto .item⟩
  nested h key := ⟨perm_shaped (perm_present key (perm_objects h.perm)), oneKind_shaped _,
    h.uniform.stepInto (.key key)⟩
  fields h f := (perm_keys (perm_objects h.perm)).map f
  facts h key := by
    rw [(perm_objects h.perm).length_eq]
    exact isReordered_factsOf _ (perm_present key (perm_objects h.perm))

/-- The order in which samples come only shows in the order of what their schema lists, and whether
there is a schema does not hang on it. -/
theorem analyze_reordered {primary primary' : Value} {extras extras' : List Value}
    (hperm : (primary :: extras).Perm (primary' :: extras'))
    (hn : ∀ v ∈ primary :: extras, v.isNormal) (hone : OneKind (primary :: extras))
    (huniform : UniformArrays (primary :: extras)) :
    ((∀ v ∈ primary :: extras, v.tooDeepFor analysisCost = false) →
      ∃ s, analyze primary extras = .ok s) ∧
    (∀ s, analyze primary extras = .ok s →
      ∃ s', analyze primary' extras' = .ok s' ∧ IsReordered s s') ∧
    ∀ e, analyze primary extras = .error e → analyze primary' extras' = .error e := by
  have hn' : ∀ v ∈ primary' :: extras', v.isNormal := fun v hv => hn v (hperm.mem_iff.mpr hv)
  refine ⟨fun hdeep => ⟨_, analyze_eq_ok hn hdeep⟩, ?_⟩
  exact isKept_areReordered.analyze_corresponds (fun _ _ h => h) ⟨hperm, hone, huniform⟩ hn hn'

/-- The two samples have their fields in different orders, and one has a field more. -/
theorem analyze_reordered_swapped :
    let first : Value := .obj [("id", .int 1), ("tags", .arr [.str "a", .str "b"])]
    let second : Value := .obj [("tags", .arr [.str "c"]), ("note", .null), ("id", .str "7")]
    UniformArrays [first, second] ∧
      ∃ s s', analyze first [second] = .ok s ∧ analyze second [first] = .ok s' ∧
        IsReordered s s' := by
  intro first second
  have htags : UniformArrays [.arr [.str "a", .str "b"], .arr [.str "c"]] := by
    refine uniformArrays_of_steps (by decide) ?_ fun _ hkey => absurd hkey List.not_mem_nil
    exact uniformArrays_of_steps (by decide) uniformArrays_nil
      fun _ hkey => absurd hkey List.not_mem_nil
  have huniform : UniformArrays [first, second] := by
    refine uniformArrays_of_steps (by decide) uniformArrays_nil fun key hkey => ?_
    have hkey : key ∈ ["id", "tags", "note"] := hkey
    simp only [List.mem_cons, List.not_mem_nil, or_false] at hkey
    rcases hkey with rfl | rfl | rfl
    · exact uniformArrays_nil
    · exact htags
    · exact uniformArrays_nil
  have hperm : [first, second].Perm [second, first] := List.Perm.swap second first []
  obtain ⟨hok, hreordered, -⟩ := analyze_reordered hperm (by decide) (by decide) huniform
  obtain ⟨s, hs⟩ := hok (by decide)
  obtain ⟨s', hs', hsame⟩ := hreordered s hs
  exact ⟨huniform, s, s', hs, hs', hsame⟩

end Schema

end TypeDraft
