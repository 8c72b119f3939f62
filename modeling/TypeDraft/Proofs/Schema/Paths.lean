import TypeDraft.Proofs.FirstSeen
import TypeDraft.Proofs.Schema.Merge

/-!
# A merged schema along paths of keys

A path of keys leads to a place in every sample that has objects all along it. What the schema says
at that place is what a look at these samples alone tells, in their order: the merge never mixes in
a sample that does not lead there and never loses one that does.
-/

namespace TypeDraft

/-- The value that a path of keys leads to through objects. -/
def Value.at? : Value → List String → Option Value
  | v, [] => some v
  | v, key :: path => (v.fields?.bind (List.lookup key)).bind (·.at? path)

namespace Schema

open Value (fields? kind)

/-- The objects that a path leads to, in the order of the samples. -/
def objectsAt (path : List String) (samples : List Value) : List (List (String × Value)) :=
  samples.filterMap fun v => (v.at? path).bind fields?

/-- The part of a schema that a path leads to through objects. -/
def node? : Schema → List String → Option Schema
  | s, [] => some s
  | .object fields, key :: path =>
    (fields.lookup key).bind fun field => field.2.bind (·.node? path)
  | _, _ :: _ => none

/-- What a schema says on the field that a path and then a key lead to. -/
def property? (s : Schema) (path : List String) (key : String) : Option (Facts × Option Schema) :=
  match s.node? path with
  | some (.object fields) => fields.lookup key
  | _ => none

/-- The values other than null under a key, in the order of the objects. -/
def valuesUnder (key : String) (objects : List (List (String × Value))) : List Value :=
  (objects.filterMap (List.lookup key)).filter (· ≠ .null)

/-- What facts and a nested schema have to say on a field, by the objects that may have it. -/
structure Describes (facts : Facts) (nested : Option Schema)
    (objects : List (List (String × Value))) (key : String) : Prop where
  isOptional : facts.isOptional ↔
    ∃ fields ∈ objects, ∀ v, fields.lookup key = some v → v = .null
  values : facts.values = valuesUnder key objects
  kinds : facts.kinds = ((valuesUnder key objects).map kind).eraseDups
  isUnion : facts.isUnion ↔ 1 < facts.kinds.length
  isEnum : facts.isEnum ↔ ∃ strings : List String, valuesUnder key objects = strings.map .str ∧
    1 < strings.toFinset.card ∧ strings.toFinset.card ≤ 5 ∧
      5 * strings.toFinset.card < 4 * strings.length
  pattern_of_strings : ∀ strings : List String, valuesUnder key objects = strings.map .str →
    strings ≠ [] → facts.pattern = StringPattern.shared? strings
  pattern_eq_none : (valuesUnder key objects = [] ∨
    ∃ v ∈ valuesUnder key objects, v.kind ≠ .string) → facts.pattern = none
  nested_object : (∃ fields, nested = some (.object fields)) ↔
    ∃ v ∈ valuesUnder key objects, v.kind = .object
  nested_array : (∃ items, nested = some (.array items)) ↔
    (∀ v ∈ valuesUnder key objects, v.kind ≠ .object) ∧
      ∃ v ∈ valuesUnder key objects, v.kind = .array
  nested_none : nested = none ↔
    ∀ v ∈ valuesUnder key objects, v.kind ≠ .object ∧ v.kind ≠ .array

/-! ## Kinds of what is found -/

theorem kind_eq_null_iff {v : Value} : v.kind = .null ↔ v = .null := by
  cases v <;> simp [kind]

theorem kind_eq_string_iff {v : Value} : v.kind = .string ↔ ∃ s, v = .str s := by
  cases v <;> simp [kind]

theorem kind_eq_object_iff {v : Value} : v.kind = .object ↔ v.fields?.isSome := by
  cases v <;> simp [kind, fields?]

theorem items_of_kind_ne {v : Value} (h : v.kind ≠ .array) : v.items = [] := by
  cases v <;> simp [kind] at h <;> rfl

theorem fields?_of_kind_ne {v : Value} (h : v.kind ≠ .object) : v.fields? = none := by
  rw [ne_eq, kind_eq_object_iff, Bool.not_eq_true] at h
  exact Option.isNone_iff_eq_none.mp (Option.isSome_eq_false_iff.mp h)

theorem present_eq_valuesUnder (key : String) (objects : List (List (String × Value))) :
    present key objects = valuesUnder key objects := by
  simp only [present, valuesUnder, ne_eq, kind_eq_null_iff]

theorem shaped_eq_objects {values : List Value} (h : ∃ v ∈ values, v.kind = .object) :
    shaped values = values.filter fun v => v.kind = .object := by
  obtain ⟨v, hv, hk⟩ := h
  have hm : v ∈ values.filter fun v => v.kind = .object := List.mem_filter.mpr ⟨hv, by simpa using hk⟩
  unfold shaped
  split
  · rename_i heq
    rw [heq] at hm
    exact absurd hm List.not_mem_nil
  · rfl

theorem shaped_eq_arrays {values : List Value} (h : ∀ v ∈ values, v.kind ≠ .object) :
    shaped values = values.filter fun v => v.kind = .array := by
  have hnil : (values.filter fun v => v.kind = .object) = [] :=
    List.filter_eq_nil_iff.mpr fun v hv => by simpa using h v hv
  rw [shaped, hnil]

/-! ## The facts of a merged field -/

theorem length_valuesUnder_lt_iff (key : String) (objects : List (List (String × Value))) :
    (valuesUnder key objects).length < objects.length ↔
      ∃ fields ∈ objects, ∀ v, fields.lookup key = some v → v = .null := by
  have hlen : (valuesUnder key objects).length =
      (objects.filterMap fun fields => (fields.lookup key).filter (· ≠ .null)).length := by
    rw [valuesUnder, List.filter_filterMap]
  rw [hlen, Nat.lt_iff_le_and_ne, and_iff_right (List.length_filterMap_le ..), ne_eq,
    List.filterMap_length_eq_length]
  constructor
  · intro h
    push Not at h
    obtain ⟨fields, hfields, hnone⟩ := h
    refine ⟨fields, hfields, fun v hv => ?_⟩
    simp_all
  · rintro ⟨fields, hfields, hnull⟩ hall
    obtain ⟨v, hv⟩ := Option.isSome_iff_exists.mp (hall fields hfields)
    obtain ⟨hl, hne⟩ := Option.filter_eq_some_iff.mp hv
    simp [hnull v hl] at hne

theorem stringsOf_map_str (strings : List String) : stringsOf (strings.map .str) = strings := by
  simp [stringsOf, List.filterMap_map]

theorem eq_map_str_stringsOf {values : List Value} (h : ∀ v ∈ values, v.kind = .string) :
    values = (stringsOf values).map .str := by
  induction values with
  | nil => rfl
  | cons v values ih =>
      obtain ⟨s, rfl⟩ := kind_eq_string_iff.mp (h v List.mem_cons_self)
      have hrest := ih fun w hw => h w (List.mem_cons_of_mem _ hw)
      simpa [stringsOf] using hrest

theorem kinds_eq_string_iff {values : List Value} :
    (values.map kind).eraseDups = [.string] ↔
      ∃ strings : List String, strings ≠ [] ∧ values = strings.map .str := by
  rw [eraseDups_eq_singleton_iff]
  constructor
  · rintro ⟨hne, hall⟩
    have heq := eq_map_str_stringsOf fun v hv => hall _ (List.mem_map_of_mem hv)
    refine ⟨stringsOf values, fun hnil => hne ?_, heq⟩
    rw [heq, hnil]
    rfl
  · rintro ⟨strings, hne, rfl⟩
    simp [hne, kind]

theorem isEnumeration_iff {strings : List String} :
    isEnumeration strings ↔ 1 < strings.toFinset.card ∧ strings.toFinset.card ≤ 5 ∧
      5 * strings.toFinset.card < 4 * strings.length := by
  simp [isEnumeration, card_toFinset_eq_length_eraseDups, and_assoc]

theorem factsOf_of_strings (total : Nat) {strings : List String} (h : strings ≠ []) :
    (factsOf total (strings.map .str)).pattern = StringPattern.shared? strings ∧
      (factsOf total (strings.map .str)).isEnum = isEnumeration strings := by
  have hk := kinds_eq_string_iff.mpr ⟨strings, h, rfl⟩
  simp only [factsOf, hk, if_true, stringsOf_map_str, and_self]

theorem factsOf_of_others (total : Nat) {values : List Value}
    (h : (values.map kind).eraseDups ≠ [.string]) :
    (factsOf total values).pattern = none ∧ (factsOf total values).isEnum = false := by
  simp [factsOf, h, StringPattern.shared?, isEnumeration]

theorem factsOf_isEnum_iff (total : Nat) (values : List Value) :
    (factsOf total values).isEnum ↔ ∃ strings : List String, values = strings.map .str ∧
      1 < strings.toFinset.card ∧ strings.toFinset.card ≤ 5 ∧
        5 * strings.toFinset.card < 4 * strings.length := by
  constructor
  · intro h
    by_cases hk : (values.map kind).eraseDups = [.string]
    · obtain ⟨strings, hne, rfl⟩ := kinds_eq_string_iff.mp hk
      rw [(factsOf_of_strings total hne).2, isEnumeration_iff] at h
      exact ⟨strings, rfl, h⟩
    · rw [(factsOf_of_others total hk).2] at h
      cases h
  · rintro ⟨strings, rfl, hcard⟩
    have hne : strings ≠ [] := by
      rintro rfl
      simp at hcard
    rw [(factsOf_of_strings total hne).2, isEnumeration_iff]
    exact hcard

/-! ## The nested schema of a merged field -/

theorem ofAll?_shaped_object {values : List Value} (h : ∃ v ∈ values, v.kind = .object) :
    ∃ fields, ofAll? (shaped values) = some (.object fields) := by
  rw [shaped_eq_objects h]
  cases hs : values.filter fun v => v.kind = .object with
  | nil =>
      obtain ⟨v, hv, hk⟩ := h
      exact absurd (by simpa using hk) (List.filter_eq_nil_iff.mp hs v hv)
  | cons w ws =>
      have hw : w ∈ values.filter fun v => v.kind = .object := hs ▸ List.mem_cons_self
      have hk : w.kind = .object := by simpa using (List.mem_filter.mp hw).2
      exact ⟨_, congrArg some (ofSamples_object (kind_eq_object_iff.mp hk) ws)⟩

theorem ofAll?_shaped_array {values : List Value} (ho : ∀ v ∈ values, v.kind ≠ .object)
    (ha : ∃ v ∈ values, v.kind = .array) :
    ∃ items, ofAll? (shaped values) = some (.array items) := by
  rw [shaped_eq_arrays ho]
  cases hs : values.filter fun v => v.kind = .array with
  | nil =>
      obtain ⟨v, hv, hk⟩ := ha
      exact absurd (by simpa using hk) (List.filter_eq_nil_iff.mp hs v hv)
  | cons w ws =>
      have hw : w ∈ values.filter fun v => v.kind = .array := hs ▸ List.mem_cons_self
      have hk : w.kind = .array := by simpa using (List.mem_filter.mp hw).2
      exact ⟨_, congrArg some (ofSamples_array hk ws)⟩

theorem ofAll?_shaped_none {values : List Value}
    (h : ∀ v ∈ values, v.kind ≠ .object ∧ v.kind ≠ .array) : ofAll? (shaped values) = none := by
  rw [shaped_eq_arrays fun v hv => (h v hv).1]
  have hnil : (values.filter fun v => v.kind = .array) = [] :=
    List.filter_eq_nil_iff.mpr fun v hv => by simpa using (h v hv).2
  rw [hnil, ofAll?]

theorem nested_object_iff (values : List Value) :
    (∃ fields, ofAll? (shaped values) = some (.object fields)) ↔
      ∃ v ∈ values, v.kind = .object := by
  refine ⟨fun h => ?_, ofAll?_shaped_object⟩
  obtain ⟨fields, hfields⟩ := h
  by_contra hno
  push Not at hno
  by_cases ha : ∃ v ∈ values, v.kind = .array
  · obtain ⟨items, hitems⟩ := ofAll?_shaped_array hno ha
    rw [hitems] at hfields
    cases hfields
  · push Not at ha
    rw [ofAll?_shaped_none fun v hv => ⟨hno v hv, ha v hv⟩] at hfields
    cases hfields

theorem nested_array_iff (values : List Value) :
    (∃ items, ofAll? (shaped values) = some (.array items)) ↔
      (∀ v ∈ values, v.kind ≠ .object) ∧ ∃ v ∈ values, v.kind = .array := by
  refine ⟨fun h => ?_, fun h => ofAll?_shaped_array h.1 h.2⟩
  obtain ⟨items, hitems⟩ := h
  have ho : ∀ v ∈ values, v.kind ≠ .object := by
    intro v hv hk
    obtain ⟨fields, hfields⟩ := ofAll?_shaped_object ⟨v, hv, hk⟩
    rw [hfields] at hitems
    cases hitems
  refine ⟨ho, ?_⟩
  by_contra ha
  push Not at ha
  rw [ofAll?_shaped_none fun v hv => ⟨ho v hv, ha v hv⟩] at hitems
  cases hitems

theorem nested_none_iff (values : List Value) :
    ofAll? (shaped values) = none ↔ ∀ v ∈ values, v.kind ≠ .object ∧ v.kind ≠ .array := by
  refine ⟨fun h => ?_, ofAll?_shaped_none⟩
  have ho : ∀ v ∈ values, v.kind ≠ .object := by
    intro v hv hk
    obtain ⟨fields, hfields⟩ := ofAll?_shaped_object ⟨v, hv, hk⟩
    rw [hfields] at h
    cases h
  refine fun v hv => ⟨ho v hv, fun hk => ?_⟩
  obtain ⟨items, hitems⟩ := ofAll?_shaped_array ho ⟨v, hv, hk⟩
  rw [hitems] at h
  cases h

/-- A merged field says of its objects what is to be said. -/
theorem describes_mergedField (objects : List (List (String × Value))) (key : String) :
    Describes (mergedField objects key).2.1 (mergedField objects key).2.2 objects key := by
  rw [mergedField, present_eq_valuesUnder]
  exact {
    isOptional := by simpa [factsOf] using length_valuesUnder_lt_iff key objects
    values := rfl
    kinds := rfl
    isUnion := by simp [factsOf]
    isEnum := factsOf_isEnum_iff _ _
    pattern_of_strings := by
      intro strings heq hne
      rw [heq]
      exact (factsOf_of_strings _ hne).1
    pattern_eq_none := by
      intro h
      refine (factsOf_of_others _ fun hk => ?_).1
      obtain ⟨strings, hne, heq⟩ := kinds_eq_string_iff.mp hk
      rcases h with hnil | ⟨v, hv, hkind⟩
      · rw [hnil] at heq
        exact hne (List.map_eq_nil_iff.mp heq.symm)
      · obtain ⟨s, -, rfl⟩ := List.mem_map.mp (heq ▸ hv)
        exact hkind rfl
    nested_object := nested_object_iff _
    nested_array := nested_array_iff _
    nested_none := nested_none_iff _ }

/-! ## Following a path -/

theorem lookup_map_mergedField (ks : List String) (objects : List (List (String × Value)))
    (key : String) : (ks.map (mergedField objects)).lookup key =
      if key ∈ ks then some (mergedField objects key).2 else none := by
  induction ks with
  | nil => simp
  | cons k ks ih =>
      by_cases hk : key = k
      · subst hk
        simp [mergedField]
      · have hb : (key == k) = false := by simpa using hk
        rw [List.map_cons, mergedField, List.lookup_cons, hb, ih]
        simp [hk, mergedField]

theorem mem_keys {objects : List (List (String × Value))} {key : String} :
    key ∈ keys objects ↔ ∃ fields ∈ objects, key ∈ fields.map Prod.fst := by
  rw [keys, List.mem_eraseDups, List.mem_flatMap]

theorem objectsAt_nil (samples : List Value) : objectsAt [] samples = objects samples := rfl

/-- Nothing but an object leads on. -/
theorem at?_bind_fields?_of_not_object {v : Value} (h : v.kind ≠ .object) (path : List String) :
    (v.at? path).bind fields? = none := by
  have hf : v.fields? = none := by
    rw [ne_eq, kind_eq_object_iff, Bool.not_eq_true] at h
    exact Option.isSome_eq_false_iff.mp h |> Option.isNone_iff_eq_none.mp
  cases path <;> simp [Value.at?, hf]

theorem objectsAt_filter_object (path : List String) (values : List Value) :
    objectsAt path (values.filter fun v => v.kind = .object) = objectsAt path values := by
  rw [objectsAt, objectsAt, List.filterMap_filter]
  apply List.filterMap_congr
  intro v _
  by_cases h : v.kind = .object
  · simp [h]
  · simp [h, at?_bind_fields?_of_not_object h path]

theorem objectsAt_valuesUnder (path : List String) (key : String)
    (objects : List (List (String × Value))) :
    objectsAt path (valuesUnder key objects) =
      objectsAt path (objects.filterMap (List.lookup key)) := by
  rw [valuesUnder, objectsAt, objectsAt, List.filterMap_filter]
  apply List.filterMap_congr
  intro v _
  by_cases h : v = .null
  · subst h
    simp [at?_bind_fields?_of_not_object (v := .null) (by simp [kind]) path]
  · simp [h]

/-- The objects at a longer path are found among the values under its first key. -/
theorem objectsAt_cons (key : String) (path : List String) (samples : List Value) :
    objectsAt (key :: path) samples = objectsAt path (valuesUnder key (objects samples)) := by
  rw [objectsAt_valuesUnder, objectsAt, objectsAt, objects, List.filterMap_filterMap,
    List.filterMap_filterMap]
  apply List.filterMap_congr
  intro v _
  rw [Value.at?]
  cases v.fields? with
  | none => rfl
  | some fields => cases h : fields.lookup key <;> simp [h]

def merged (objects : List (List (String × Value))) : Schema :=
  .object ((keys objects).map (mergedField objects))

theorem mem_valuesUnder {key : String} {objects : List (List (String × Value))} {v : Value} :
    v ∈ valuesUnder key objects ↔ (∃ fields ∈ objects, fields.lookup key = some v) ∧ v ≠ .null := by
  simp [valuesUnder, List.mem_filterMap]

theorem valuesUnder_eq_nil {key : String} {objects : List (List (String × Value))}
    (h : key ∉ keys objects) : valuesUnder key objects = [] := by
  apply List.eq_nil_iff_forall_not_mem.mpr
  intro v hv
  apply h
  obtain ⟨⟨fields, hfields, hl⟩, -⟩ := mem_valuesUnder.mp hv
  exact mem_keys.mpr ⟨fields, hfields, lookup_isSome_iff_mem.mp (Option.isSome_of_eq_some hl)⟩

theorem node?_merged_cons (objects : List (List (String × Value))) (key : String)
    (path : List String) : (merged objects).node? (key :: path) =
      (ofAll? (shaped (valuesUnder key objects))).bind (·.node? path) := by
  rw [merged, node?, lookup_map_mergedField]
  by_cases h : key ∈ keys objects
  · simp [h, mergedField, present_eq_valuesUnder]
  · simp [h, valuesUnder_eq_nil h, shaped, ofAll?]

theorem node?_array (items : Option Schema) (path : List String)
    (fields : List (String × Facts × Option Schema)) :
    (Schema.array items).node? path ≠ some (.object fields) := by
  cases path <;> simp [node?]

/-- At every path the schema holds the merge of the objects that the path leads to; there is no
object node where it leads to none. The induction is on the path: what is merged into the node of a
key are the objects found under it, and these are all that a longer path can lead through. -/
theorem node?_ofSamples (path : List String) {v : Value} (hv : v.kind = .object) (vs : List Value) :
    (objectsAt path (v :: vs) ≠ [] →
      (ofSamples v vs).node? path = some (merged (objectsAt path (v :: vs)))) ∧
    (objectsAt path (v :: vs) = [] →
      ∀ fields, (ofSamples v vs).node? path ≠ some (.object fields)) := by
  induction path generalizing v vs with
  | nil =>
      have hs := ofSamples_object (kind_eq_object_iff.mp hv) vs
      rw [objectsAt_nil]
      refine ⟨fun _ => by rw [node?, hs, merged], fun hnil => ?_⟩
      obtain ⟨fields, hfields⟩ := Option.isSome_iff_exists.mp (kind_eq_object_iff.mp hv)
      rw [objects, List.filterMap_cons_some hfields] at hnil
      cases hnil
  | cons key path ih =>
      have hs := ofSamples_object (kind_eq_object_iff.mp hv) vs
      rw [objectsAt_cons]
      rw [show ofSamples v vs = merged (objects (v :: vs)) from hs, node?_merged_cons,
        ← objectsAt_filter_object]
      generalize valuesUnder key (objects (v :: vs)) = values
      cases hf : values.filter fun w => w.kind = .object with
      | nil =>
          have ho : ∀ w ∈ values, w.kind ≠ .object := fun w hw => by
            simpa using List.filter_eq_nil_iff.mp hf w hw
          refine ⟨fun h => absurd rfl h, fun _ fields => ?_⟩
          rw [shaped_eq_arrays ho]
          cases ha : values.filter fun w => w.kind = .array with
          | nil => simp [ofAll?]
          | cons w ws =>
              have hw : w ∈ values.filter fun w => w.kind = .array := ha ▸ List.mem_cons_self
              have hk : w.kind = .array := by simpa using (List.mem_filter.mp hw).2
              rw [ofAll?, Option.bind_some, ofSamples_array hk]
              exact node?_array _ _ _
      | cons w ws =>
          have hw : w ∈ values.filter fun w => w.kind = .object := hf ▸ List.mem_cons_self
          have hk : w.kind = .object := by simpa using (List.mem_filter.mp hw).2
          rw [shaped_eq_objects ⟨w, (List.mem_filter.mp hw).1, hk⟩, hf, ofAll?, Option.bind_some]
          exact ih hk ws

/-! ## The schema at every place -/

/-- The schema of an object and further samples says at every place what the objects that lead there
have: which keys, in order of first appearance, and what is seen under each. -/
theorem analyze_describes_every_place {primary : Value} (hp : primary.kind = .object)
    (extras : List Value) :
    ((∀ v ∈ primary :: extras, v.isNormal ∧ v.tooDeepFor analysisCost = false) →
      ∃ s, analyze primary extras = .ok s) ∧
    ∀ s, analyze primary extras = .ok s → ∀ path key,
      ((s.property? path key).isSome ↔
        ∃ fields ∈ objectsAt path (primary :: extras), key ∈ fields.map Prod.fst) ∧
      (∀ facts nested, s.property? path key = some (facts, nested) →
        Describes facts nested (objectsAt path (primary :: extras)) key) ∧
      ∀ fields, s.node? path = some (.object fields) →
        fields.map Prod.fst =
          ((objectsAt path (primary :: extras)).flatMap fun fs => fs.map Prod.fst).eraseDups := by
  refine ⟨fun h => ⟨_, analyze_eq_ok (fun v hv => (h v hv).1) fun v hv => (h v hv).2⟩, ?_⟩
  intro s hs path key
  obtain rfl := eq_ofSamples_of_analyze hs
  obtain ⟨hsome, hnone⟩ := node?_ofSamples path hp extras
  by_cases hnil : objectsAt path (primary :: extras) = []
  · have hno := hnone hnil
    have hprop : (ofSamples primary extras).property? path key = none := by
      rw [property?]
      split
      · rename_i fields hfields
        exact absurd hfields (hno fields)
      · rfl
    refine ⟨by simp [hprop, hnil], by simp [hprop], fun fields hfields => ?_⟩
    exact absurd hfields (hno fields)
  · have hnode := hsome hnil
    have hprop : (ofSamples primary extras).property? path key =
        if key ∈ keys (objectsAt path (primary :: extras)) then
          some (mergedField (objectsAt path (primary :: extras)) key).2 else none := by
      rw [property?, hnode, merged]
      exact lookup_map_mergedField _ _ _
    refine ⟨?_, ?_, ?_⟩
    · rw [hprop, ← mem_keys]
      split <;> simp_all
    · intro facts nested h
      rw [hprop] at h
      split at h
      · obtain ⟨rfl, rfl⟩ := Prod.mk.inj (Option.some.inj h).symm
        exact describes_mergedField _ _
      · cases h
    · intro fields hfields
      rw [hnode, merged] at hfields
      obtain rfl := Schema.object.inj (Option.some.inj hfields)
      rw [List.map_map]
      exact List.map_id _

/-- Only two of four samples lead through an object under `a`, and both have `x` there. -/
theorem analyze_describes_every_place_mixed :
    let primary : Value := .obj [("a", .obj [("x", .int 1)]), ("b", .null)]
    let extras : List Value :=
      [.obj [("a", .arr [.null])], .str "a", .obj [("a", .obj [("y", .null), ("x", .str "s")])]]
    primary.kind = .object ∧ ∃ s facts nested, analyze primary extras = .ok s ∧
      s.property? ["a"] "x" = some (facts, nested) ∧ facts.values = [.int 1, .str "s"] ∧
        ¬ facts.isOptional ∧ facts.isUnion := by
  intro primary extras
  have hp : primary.kind = .object := rfl
  obtain ⟨hok, hall⟩ := analyze_describes_every_place hp extras
  obtain ⟨s, hs⟩ := hok (by decide)
  obtain ⟨hsome, hdescribes, -⟩ := hall s hs ["a"] "x"
  obtain ⟨⟨facts, nested⟩, hfield⟩ := Option.isSome_iff_exists.mp (hsome.mpr (by decide))
  have hd := hdescribes facts nested hfield
  have hkinds : facts.kinds = [.number, .string] := hd.kinds.trans (by decide)
  refine ⟨hp, s, facts, nested, hs, hfield, hd.values.trans (by decide), ?_, ?_⟩
  · rw [hd.isOptional]
    decide
  · rw [hd.isUnion, hkinds]
    decide

end Schema

end TypeDraft
