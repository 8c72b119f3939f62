import TypeDraft.Proofs.Schema.Nesting
import TypeDraft.Proofs.Schema.Pattern

/-!
# What further samples add

Further samples leave every node of a schema as it is, but for arrays that give way to the first
objects in a field. They put values behind those that were there and optional fields behind the
fields, and no option, union or lost pattern is ever taken back.
-/

namespace TypeDraft

/-- Facts on a field in which further values are seen. -/
structure Facts.Grows (added : List Value) (facts facts' : Facts) : Prop where
  isOptional : facts.isOptional = true → facts'.isOptional = true
  isUnion : facts.isUnion = true → facts'.isUnion = true
  kinds : facts.kinds <+: facts'.kinds
  values : facts'.values = facts.values ++ added
  pattern : facts.values ≠ [] → ∀ p', facts'.pattern = some p' →
    ∃ p, facts.pattern = some p ∧ p.rank ≤ p'.rank

namespace Schema

mutual

/-- What becomes of the schema of some samples with further samples `more` behind. -/
inductive Grows : (more : List Value) → Schema → Schema → Prop
  | scalar {more : List Value} (kind : Kind) : Grows more (.scalar kind) (.scalar kind)
  | array {more : List Value} {items items' : Option Schema} :
      ItemsGrow (gatheredItems more) items items' → Grows more (.array items) (.array items')
  /-- Fields that come first with the further samples are optional. -/
  | object {more : List Value} {fields fields' further : List (String × Facts × Option Schema)} :
      FieldsGrow (objects more) fields fields' → (∀ field ∈ further, field.2.1.isOptional = true) →
      Grows more (.object fields) (.object (fields' ++ further))

/-- What becomes of the items of an array, `more` being further ones. -/
inductive ItemsGrow : (more : List Value) → Option Schema → Option Schema → Prop
  | first {more : List Value} (items : Option Schema) : ItemsGrow more none items
  | some {more : List Value} {s s' : Schema} : Grows more s s' → ItemsGrow more (some s) (some s')

/-- What becomes of the nested schema of a field with further values `added`. -/
inductive NestedGrows : (added : List Value) → Option Schema → Option Schema → Prop
  | first {added : List Value} (nested : Option Schema) : NestedGrows added none nested
  | object {added : List Value} {fields fields' : List (String × Facts × Option Schema)} :
      Grows (added.filter fun v => v.kind = .object) (.object fields) (.object fields') →
      NestedGrows added (Option.some (.object fields)) (Option.some (.object fields'))
  | array {added : List Value} {items items' : Option Schema} :
      (∀ v ∈ added, v.kind ≠ .object) →
      Grows (added.filter fun v => v.kind = .array) (.array items) (.array items') →
      NestedGrows added (Option.some (.array items)) (Option.some (.array items'))
  /-- The first objects take the place of arrays. -/
  | replaced {added : List Value} (items : Option Schema)
      (fields : List (String × Facts × Option Schema)) : (∃ v ∈ added, v.kind = .object) →
      NestedGrows added (Option.some (.array items)) (Option.some (.object fields))

/-- What becomes of fields with further objects `more`. -/
inductive FieldsGrow : (more : List (List (String × Value))) →
    List (String × Facts × Option Schema) → List (String × Facts × Option Schema) → Prop
  | nil {more : List (List (String × Value))} : FieldsGrow more [] []
  | cons {more : List (List (String × Value))} {key : String} {facts facts' : Facts}
      {nested nested' : Option Schema} {fields fields' : List (String × Facts × Option Schema)} :
      facts.Grows (valuesUnder key more) facts' →
      NestedGrows (valuesUnder key more) nested nested' → FieldsGrow more fields fields' →
      FieldsGrow more ((key, facts, nested) :: fields) ((key, facts', nested') :: fields')

end

/-! ## The fields of an object -/

theorem pattern_of_append {values added : List Value} {total total' : Nat} (hne : values ≠ [])
    {p' : StringPattern} (h : (factsOf total' (values ++ added)).pattern = some p') :
    ∃ p, (factsOf total values).pattern = some p ∧ p.rank ≤ p'.rank := by
  by_cases hkinds : ((values ++ added).map Value.kind).eraseDups = [.string]
  · obtain ⟨all, -, hall⟩ := kinds_eq_string_iff.mp hkinds
    obtain ⟨strings, more, rfl, rfl, rfl⟩ := List.append_eq_map_iff.mp hall
    have hstrings : strings ≠ [] := fun hnil => hne (by rw [hnil, List.map_nil])
    have happend : strings ++ more ≠ [] := List.append_ne_nil_of_left_ne_nil hstrings more
    rw [← List.map_append, (factsOf_of_strings total' happend).1] at h
    rw [(factsOf_of_strings total hstrings).1]
    exact StringPattern.exists_shared?_of_append hstrings h
  · rw [(factsOf_of_others total' hkinds).1] at h
    cases h

theorem grows_factsOf {values added : List Value} {total total' : Nat}
    (htotal : values.length < total → (values ++ added).length < total') :
    (factsOf total values).Grows added (factsOf total' (values ++ added)) := by
  have hkinds : (values.map Value.kind).eraseDups <+:
      ((values ++ added).map Value.kind).eraseDups := by
    rw [List.map_append]
    exact eraseDups_prefix_append _ _
  exact {
    isOptional := fun h => decide_eq_true (htotal (of_decide_eq_true h))
    isUnion := fun h => decide_eq_true (Nat.lt_of_lt_of_le (of_decide_eq_true h) hkinds.length_le)
    kinds := hkinds
    values := rfl
    pattern := fun hne _ => pattern_of_append hne }

theorem length_present_le (key : String) (objs : List (List (String × Value))) :
    (present key objs).length ≤ objs.length :=
  (List.length_filter_le _ _).trans (List.length_filterMap_le _ _)

theorem present_eq_nil {key : String} {objs : List (List (String × Value))} (h : key ∉ keys objs) :
    present key objs = [] := by
  rw [present_eq_valuesUnder, valuesUnder_eq_nil h]

/-- A key that only further objects have is missing in those before. -/
theorem isOptional_of_not_mem_keys {key : String} {objs : List (List (String × Value))}
    (hne : objs ≠ []) (hkey : key ∉ keys objs) (more : List (List (String × Value))) :
    (factsOf (objs ++ more).length (present key (objs ++ more))).isOptional = true := by
  have hlength := length_present_le key more
  have hpos := List.length_pos_of_ne_nil hne
  refine decide_eq_true ?_
  rw [present_append, present_eq_nil hkey, List.nil_append, List.length_append]
  omega

theorem fieldsGrow_map {more : List (List (String × Value))}
    {f g : String → Facts × Option Schema} {ks : List String}
    (h : ∀ key ∈ ks, (f key).1.Grows (valuesUnder key more) (g key).1 ∧
      NestedGrows (valuesUnder key more) (f key).2 (g key).2) :
    FieldsGrow more (ks.map fun key => (key, f key)) (ks.map fun key => (key, g key)) := by
  induction ks with
  | nil => exact .nil
  | cons key ks ih =>
      obtain ⟨hkey, hks⟩ := List.forall_mem_cons.mp h
      exact .cons hkey.1 hkey.2 (ih hks)

/-! ## The nested schema of a field -/

/-- Only the values of the shape that is nested go into it, so what is known of these is enough. -/
theorem nestedGrows_of_itemsGrow {values : List Value}
    (h : ∀ more, ItemsGrow more (ofAll? (shaped values)) (ofAll? (shaped values ++ more)))
    (added : List Value) :
    NestedGrows added (ofAll? (shaped values)) (ofAll? (shaped (values ++ added))) := by
  by_cases hobject : ∃ v ∈ values, v.kind = .object
  · have hobject' : ∃ v ∈ values ++ added, v.kind = .object := by
      obtain ⟨v, hv, hk⟩ := hobject
      exact ⟨v, List.mem_append_left _ hv, hk⟩
    have hshaped : shaped (values ++ added) =
        shaped values ++ added.filter fun v => v.kind = .object := by
      rw [shaped_eq_objects hobject, shaped_eq_objects hobject', List.filter_append]
    have hgrow := h (added.filter fun v => v.kind = .object)
    obtain ⟨fields, hfields⟩ := ofAll?_shaped_object hobject
    obtain ⟨fields', hfields'⟩ := ofAll?_shaped_object hobject'
    rw [← hshaped, hfields, hfields'] at hgrow
    rw [hfields, hfields']
    cases hgrow with
    | some hgrow => exact .object hgrow
  push Not at hobject
  by_cases harray : ∃ v ∈ values, v.kind = .array
  · obtain ⟨items, hitems⟩ := ofAll?_shaped_array hobject harray
    by_cases hadded : ∃ v ∈ added, v.kind = .object
    · have hobject' : ∃ v ∈ values ++ added, v.kind = .object := by
        obtain ⟨v, hv, hk⟩ := hadded
        exact ⟨v, List.mem_append_right _ hv, hk⟩
      obtain ⟨fields, hfields⟩ := ofAll?_shaped_object hobject'
      rw [hitems, hfields]
      exact .replaced items fields hadded
    · push Not at hadded
      have hobject' : ∀ v ∈ values ++ added, v.kind ≠ .object :=
        List.forall_mem_append.mpr ⟨hobject, hadded⟩
      have harray' : ∃ v ∈ values ++ added, v.kind = .array := by
        obtain ⟨v, hv, hk⟩ := harray
        exact ⟨v, List.mem_append_left _ hv, hk⟩
      have hshaped : shaped (values ++ added) =
          shaped values ++ added.filter fun v => v.kind = .array := by
        rw [shaped_eq_arrays hobject, shaped_eq_arrays hobject', List.filter_append]
      have hgrow := h (added.filter fun v => v.kind = .array)
      obtain ⟨items', hitems'⟩ := ofAll?_shaped_array hobject' harray'
      rw [← hshaped, hitems, hitems'] at hgrow
      rw [hitems, hitems']
      cases hgrow with
      | some hgrow => exact .array hadded hgrow
  · push Not at harray
    rw [ofAll?_shaped_none fun v hv => ⟨hobject v hv, harray v hv⟩]
    exact .first _

/-! ## The whole schema -/

/-- The induction is on what is merged. Further samples land behind the others in everything that
is gathered from them, so at each place the statement is used with what they bring there. -/
theorem itemsGrow_append (samples more : List Value) :
    ItemsGrow more (ofAll? samples) (ofAll? (samples ++ more)) := by
  induction samples using samples_induction generalizing more with
  | nil => exact .first _
  | array v vs hv ih =>
      rw [List.cons_append, ofAll?, ofAll?, ofSamples_array hv, ofSamples_array hv,
        ← List.cons_append, gatheredItems_append]
      exact .some (.array (ih _))
  | object v vs hv ih =>
      have hfields := kind_eq_object_iff.mp hv
      have hne : objects (v :: vs) ≠ [] := by
        obtain ⟨fields, hsome⟩ := Option.isSome_iff_exists.mp hfields
        rw [objects, List.filterMap_cons_some hsome]
        exact List.cons_ne_nil _ _
      rw [List.cons_append, ofAll?, ofAll?, ofSamples_object hfields, ofSamples_object hfields,
        ← List.cons_append, objects_append]
      obtain ⟨further, hkeys⟩ : keys (objects (v :: vs)) <+:
          keys (objects (v :: vs) ++ objects more) := by
        rw [keys, keys, List.flatMap_append]
        exact eraseDups_prefix_append _ _
      have hfurther : ∀ key ∈ further, key ∉ keys (objects (v :: vs)) := by
        have hnodup : (keys (objects (v :: vs) ++ objects more)).Nodup := nodup_eraseDups _
        rw [← hkeys, List.nodup_append] at hnodup
        exact fun key hkey hmem => hnodup.2.2 key hmem key hkey rfl
      rw [← hkeys, List.map_append]
      refine .some (.object (fieldsGrow_map fun key _ => ?_) ?_)
      · rw [← present_eq_valuesUnder, present_append]
        refine ⟨grows_factsOf fun hlt => ?_, nestedGrows_of_itemsGrow (ih key) _⟩
        have hlength := length_present_le key (objects more)
        rw [List.length_append, List.length_append]
        omega
      · intro field hfield
        obtain ⟨key, hkey, rfl⟩ := List.mem_map.mp hfield
        exact isOptional_of_not_mem_keys hne (hfurther key hkey) (objects more)
  | scalar v vs harray hobject =>
      have hnone := fields?_of_kind_ne hobject
      rw [List.cons_append, ofAll?, ofAll?, ofSamples_scalar harray hnone,
        ofSamples_scalar harray hnone]
      exact .some (.scalar v.kind)

/-- One further sample or more of them never take anything back. -/
theorem analyze_grows (primary : Value) (extras more : List Value) :
    ((∀ v ∈ primary :: (extras ++ more), v.isNormal ∧ v.tooDeepFor analysisCost = false) →
      ∃ s s', analyze primary extras = .ok s ∧ analyze primary (extras ++ more) = .ok s') ∧
    ∀ s s', analyze primary extras = .ok s → analyze primary (extras ++ more) = .ok s' →
      Grows more s s' := by
  constructor
  · intro h
    have hold : ∀ v ∈ primary :: extras, v.isNormal ∧ v.tooDeepFor analysisCost = false := by
      rw [← List.cons_append, List.forall_mem_append] at h
      exact h.1
    exact ⟨_, _, analyze_eq_ok (fun v hv => (hold v hv).1) fun v hv => (hold v hv).2,
      analyze_eq_ok (fun v hv => (h v hv).1) fun v hv => (h v hv).2⟩
  · intro s s' hs hs'
    obtain rfl := eq_ofSamples_of_analyze hs
    obtain rfl := eq_ofSamples_of_analyze hs'
    cases itemsGrow_append (primary :: extras) more with
    | some hgrows => exact hgrows

/-- The further sample has an object where an array was, and a field more. -/
theorem analyze_grows_replaced :
    let first : Value := .obj [("at", .arr [.int 1]), ("by", .str "a@b.c")]
    let second : Value := .obj [("by", .null)]
    let x : Value := .obj [("to", .str "u"), ("at", .obj [("on", .null)])]
    ∃ s s', analyze first [second] = .ok s ∧ analyze first [second, x] = .ok s' ∧
      Grows [x] s s' := by
  intro first second x
  obtain ⟨hok, hgrows⟩ := analyze_grows first [second] [x]
  obtain ⟨s, s', hs, hs'⟩ := hok (by decide)
  exact ⟨s, s', hs, hs', hgrows s s' hs hs'⟩

end Schema

end TypeDraft
