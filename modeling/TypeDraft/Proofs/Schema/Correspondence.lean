import TypeDraft.Proofs.Schema.Nesting

/-!
# Schemas that correspond

Two schemas correspond if they are built alike and say related things at every place. Those of two
lists of samples do if the lists are related in a way that every step of the merge keeps.
-/

namespace TypeDraft

namespace Schema

mutual

/-- Two schemas have the same nodes; their facts are related by `R`, and the fields of an object
node are put by `Q` into the order of the other one. -/
inductive Corresponds (Q : List (String × Facts × Option Schema) →
    List (String × Facts × Option Schema) → Prop) (R : Facts → Facts → Prop) :
    Schema → Schema → Prop
  | scalar (kind : Kind) : Corresponds Q R (.scalar kind) (.scalar kind)
  | array {items items' : Option Schema} : NestedCorresponds Q R items items' →
      Corresponds Q R (.array items) (.array items')
  | object {fields listed fields' : List (String × Facts × Option Schema)} : Q fields listed →
      FieldsCorrespond Q R listed fields' → Corresponds Q R (.object fields) (.object fields')

/-- Either nothing is nested on both sides, or schemas that correspond. -/
inductive NestedCorresponds (Q : List (String × Facts × Option Schema) →
    List (String × Facts × Option Schema) → Prop) (R : Facts → Facts → Prop) :
    Option Schema → Option Schema → Prop
  | none : NestedCorresponds Q R none none
  | some {s s' : Schema} : Corresponds Q R s s' → NestedCorresponds Q R (some s) (some s')

/-- The same keys in the same order, with related facts and what corresponds within. -/
inductive FieldsCorrespond (Q : List (String × Facts × Option Schema) →
    List (String × Facts × Option Schema) → Prop) (R : Facts → Facts → Prop) :
    List (String × Facts × Option Schema) → List (String × Facts × Option Schema) → Prop
  | nil : FieldsCorrespond Q R [] []
  | cons {key : String} {facts facts' : Facts} {nested nested' : Option Schema}
      {fields fields' : List (String × Facts × Option Schema)} : R facts facts' →
      NestedCorresponds Q R nested nested' → FieldsCorrespond Q R fields fields' →
      FieldsCorrespond Q R ((key, facts, nested) :: fields) ((key, facts', nested') :: fields')

end

variable {Q : List (String × Facts × Option Schema) → List (String × Facts × Option Schema) → Prop}
  {R : Facts → Facts → Prop}

theorem fieldsCorrespond_map {f g : String → Facts × Option Schema} {ks : List String}
    (h : ∀ key ∈ ks, R (f key).1 (g key).1 ∧ NestedCorresponds Q R (f key).2 (g key).2) :
    FieldsCorrespond Q R (ks.map fun key => (key, f key)) (ks.map fun key => (key, g key)) := by
  induction ks with
  | nil => exact .nil
  | cons key ks ih =>
      obtain ⟨hkey, hks⟩ := List.forall_mem_cons.mp h
      exact .cons hkey.1 hkey.2 (ih hks)

/-! ## The same depth -/

mutual

theorem Corresponds.exceeds_eq (hQ : ∀ fields fields', Q fields fields' → fields.Perm fields')
    {s s' : Schema} (h : Corresponds Q R s s') (budget : Nat) :
    s.exceeds budget = s'.exceeds budget := by
  match h with
  | .scalar _ => rfl
  | .array hitems => rw [exceeds, exceeds, hitems.nestedExceeds_eq hQ]
  | .object hfields hlisted =>
    rw [exceeds, exceeds, fieldsExceed_eq_any, (hQ _ _ hfields).any_eq, ← fieldsExceed_eq_any,
      hlisted.fieldsExceed_eq hQ]

theorem NestedCorresponds.nestedExceeds_eq
    (hQ : ∀ fields fields', Q fields fields' → fields.Perm fields') {s s' : Option Schema}
    (h : NestedCorresponds Q R s s') (budget : Nat) :
    nestedExceeds budget s = nestedExceeds budget s' := by
  match h with
  | .none => rfl
  | .some hs => exact hs.exceeds_eq hQ budget

theorem FieldsCorrespond.fieldsExceed_eq
    (hQ : ∀ fields fields', Q fields fields' → fields.Perm fields')
    {fields fields' : List (String × Facts × Option Schema)} (h : FieldsCorrespond Q R fields fields')
    (budget : Nat) : fieldsExceed budget fields = fieldsExceed budget fields' := by
  match h with
  | .nil => rfl
  | .cons _ hnested hfields =>
    rw [fieldsExceed, fieldsExceed, hnested.nestedExceeds_eq hQ, hfields.fieldsExceed_eq hQ]

end

/-! ## From one step of the merge to the whole -/

/-- A relation between lists of samples that every step of the merge keeps, what is said of each
field being related by `R` and the fields being ordered by `Q`. -/
structure IsKept (Q : List (String × Facts × Option Schema) →
    List (String × Facts × Option Schema) → Prop) (R : Facts → Facts → Prop)
    (K : List Value → List Value → Prop) : Prop where
  head : ∀ {samples samples'}, K samples samples' →
    samples.head?.map Value.kind = samples'.head?.map Value.kind
  items : ∀ {samples samples'}, K samples samples' →
    K (gatheredItems samples) (gatheredItems samples')
  nested : ∀ {samples samples'}, K samples samples' → ∀ key,
    K (shaped (present key (objects samples))) (shaped (present key (objects samples')))
  fields : ∀ {samples samples'}, K samples samples' →
    ∀ f : String → String × Facts × Option Schema,
      Q ((keys (objects samples)).map f) ((keys (objects samples')).map f)
  facts : ∀ {samples samples'}, K samples samples' → ∀ key,
    R (factsOf (objects samples).length (present key (objects samples)))
      (factsOf (objects samples').length (present key (objects samples')))

theorem IsKept.nestedCorresponds {K : List Value → List Value → Prop} (hK : IsKept Q R K)
    {samples samples' : List Value} (h : K samples samples') :
    NestedCorresponds Q R (ofAll? samples) (ofAll? samples') := by
  induction samples using samples_induction generalizing samples' with
  | nil =>
      have hhead := hK.head h
      cases samples' with
      | nil => exact .none
      | cons v' vs' => cases hhead
  | array v vs hv ih =>
      have hhead := hK.head h
      cases samples' with
      | nil => cases hhead
      | cons v' vs' =>
          have hkind : v.kind = v'.kind := Option.some.inj hhead
          rw [ofAll?, ofAll?, ofSamples_array hv, ofSamples_array (hkind ▸ hv)]
          exact .some (.array (ih (hK.items h)))
  | object v vs hv ih =>
      have hhead := hK.head h
      cases samples' with
      | nil => cases hhead
      | cons v' vs' =>
          have hkind : v.kind = v'.kind := Option.some.inj hhead
          have hv' : v'.kind = .object := hkind ▸ hv
          rw [ofAll?, ofAll?, ofSamples_object (kind_eq_object_iff.mp hv),
            ofSamples_object (kind_eq_object_iff.mp hv')]
          refine .some (.object (hK.fields h _) (fieldsCorrespond_map fun key _ => ?_))
          exact ⟨hK.facts h key, ih key (hK.nested h key)⟩
  | scalar v vs harray hobject =>
      have hhead := hK.head h
      cases samples' with
      | nil => cases hhead
      | cons v' vs' =>
          have hkind : v.kind = v'.kind := Option.some.inj hhead
          have harray' : v'.kind ≠ .array := hkind ▸ harray
          have hobject' : v'.kind ≠ .object := hkind ▸ hobject
          rw [ofAll?, ofAll?, ofSamples_scalar harray (fields?_of_kind_ne hobject),
            ofSamples_scalar harray' (fields?_of_kind_ne hobject'), hkind]
          exact .some (.scalar v'.kind)

/-- Samples that are so related come to the same end in analysis: both have a schema, and the
schemas correspond, or both fail in the same way. -/
theorem IsKept.analyze_corresponds {K : List Value → List Value → Prop} (hK : IsKept Q R K)
    (hQ : ∀ fields fields', Q fields fields' → fields.Perm fields') {primary primary' : Value}
    {extras extras' : List Value} (h : K (primary :: extras) (primary' :: extras'))
    (hn : ∀ v ∈ primary :: extras, v.isNormal) (hn' : ∀ v ∈ primary' :: extras', v.isNormal) :
    (∀ s, analyze primary extras = .ok s →
      ∃ s', analyze primary' extras' = .ok s' ∧ Corresponds Q R s s') ∧
    ∀ e, analyze primary extras = .error e → analyze primary' extras' = .error e := by
  have hcorresponds : Corresponds Q R (ofSamples primary extras) (ofSamples primary' extras') := by
    cases hK.nestedCorresponds h with
    | some hs => exact hs
  have hdepth := hcorresponds.exceeds_eq hQ openSteps
  rw [analyze_eq hn, analyze_eq hn', ← hdepth]
  by_cases hdeep : (ofSamples primary extras).exceeds openSteps = true
  · rw [if_pos hdeep, if_pos hdeep]
    exact ⟨nofun, fun e he => he⟩
  · rw [if_neg hdeep, if_neg hdeep]
    refine ⟨fun s hs => ⟨_, rfl, ?_⟩, nofun⟩
    rwa [← Except.ok.inj hs]

end Schema

end TypeDraft
