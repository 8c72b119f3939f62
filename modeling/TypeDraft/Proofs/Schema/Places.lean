import TypeDraft.Proofs.Schema.Contained

/-!
# The places within a schema

A place is known by the steps that lead to it, through fields and to the items of arrays. A walk in
depth comes to each field of each object once, and to each plain value that is no field.
-/

namespace TypeDraft.Schema

/-! ## Places -/

/-- A step from an object to what is nested in a field, or from an array to its items. -/
inductive PathStep where
  | key (name : String)
  | items
  deriving DecidableEq

/-- Where some steps lead from a schema. -/
inductive LeadsTo : Schema → List PathStep → Schema → Prop
  | here (s : Schema) : LeadsTo s [] s
  | items {s t : Schema} {steps : List PathStep} :
      LeadsTo s steps t → LeadsTo (.array (some s)) (.items :: steps) t
  | field {fields : List (String × Facts × Option Schema)} {key : String} {facts : Facts}
      {s t : Schema} {steps : List PathStep} : (key, facts, some s) ∈ fields → LeadsTo s steps t →
        LeadsTo (.object fields) (.key key :: steps) t

/-- What a row tells of a place. -/
inductive Entry where
  | field (facts : Facts)
  | plain (kind : Kind)

/-- What is to be told of the places within a schema: each field of each object, and each plain
value that is the whole or an item. -/
inductive Shows (s : Schema) : List PathStep → Entry → Prop
  | field {steps : List PathStep} {fields : List (String × Facts × Option Schema)} {key : String}
      {facts : Facts} {nested : Option Schema} : s.LeadsTo steps (.object fields) →
        (key, facts, nested) ∈ fields → Shows s (steps ++ [.key key]) (.field facts)
  | root {kind : Kind} : s = .scalar kind → Shows s [] (.plain kind)
  | items {steps : List PathStep} {kind : Kind} : s.LeadsTo steps (.array (some (.scalar kind))) →
      Shows s (steps ++ [.items]) (.plain kind)

/-- Which place comes before which in a walk in depth: what leads on to another place before it, and
the fields of an object in their order, with all that is within. -/
inductive Precedes : Schema → List PathStep → List PathStep → Prop
  | first (s : Schema) (step : PathStep) (steps : List PathStep) : Precedes s [] (step :: steps)
  | beside {fields : List (String × Facts × Option Schema)} {key key' : String}
      (steps steps' : List PathStep) : [key, key'].Sublist (fields.map Prod.fst) →
        Precedes (.object fields) (.key key :: steps) (.key key' :: steps')
  | field {fields : List (String × Facts × Option Schema)} {key : String} {facts : Facts}
      {s : Schema} {steps steps' : List PathStep} : (key, facts, some s) ∈ fields →
        Precedes s steps steps' → Precedes (.object fields) (.key key :: steps) (.key key :: steps')
  | items {s : Schema} {steps steps' : List PathStep} : Precedes s steps steps' →
      Precedes (.array (some s)) (.items :: steps) (.items :: steps')

/-- Whether something holds of the fields of each object within a schema. -/
def EachObject (P : List (String × Facts × Option Schema) → Prop) (s : Schema) : Prop :=
  ∀ steps fields, s.LeadsTo steps (.object fields) → P fields

section

variable {P : List (String × Facts × Option Schema) → Prop} {s : Schema}
  {fields : List (String × Facts × Option Schema)} {key : String} {facts : Facts}

theorem eachObject_object_iff : EachObject P (.object fields) ↔
    P fields ∧ ∀ key facts s, (key, facts, some s) ∈ fields → EachObject P s := by
  constructor
  · exact fun h => ⟨h [] fields (.here _),
      fun key facts s hmem steps fields hs => h (.key key :: steps) fields (.field hmem hs)⟩
  · rintro ⟨hfields, hnested⟩ steps _ hsteps
    cases hsteps with
    | here => exact hfields
    | field hmem hs => exact hnested _ _ _ hmem _ _ hs

theorem eachObject_array_iff : EachObject P (.array (some s)) ↔ EachObject P s := by
  constructor
  · exact fun h steps fields hs => h (.items :: steps) fields (.items hs)
  · intro h steps fields hsteps
    cases hsteps with
    | items hs => exact h _ _ hs

theorem EachObject.here (h : EachObject P (.object fields)) : P fields :=
  (eachObject_object_iff.mp h).1

theorem EachObject.field (h : EachObject P (.object fields))
    (hmem : (key, facts, some s) ∈ fields) : EachObject P s :=
  (eachObject_object_iff.mp h).2 key facts s hmem

theorem EachObject.items (h : EachObject P (.array (some s))) : EachObject P s :=
  eachObject_array_iff.mp h

end

/-- Whether a schema stands for objects or arrays. -/
def IsCompound : Schema → Prop
  | .object _ | .array _ => True
  | .scalar _ | .unsupported _ => False

/-- Whether the keys of an object differ and only objects and arrays are nested in its fields. -/
structure AreOrdered (fields : List (String × Facts × Option Schema)) : Prop where
  nodup : (fields.map Prod.fst).Nodup
  compound : ∀ field ∈ fields, ∀ t, field.2.2 = some t → t.IsCompound

/-! ## Places in a merge -/

theorem LeadsTo.contains {s t : Schema} {steps : List PathStep} (h : s.LeadsTo steps t) :
    s.Contains t := by
  have hgrown : ∀ r : Schema, r.Contains s → r.Contains t := by
    induction h with
    | here => exact fun _ hr => hr
    | items _ ih => exact fun r hr => ih r hr.items
    | field hmem _ ih => exact fun r hr => ih r (hr.field hmem)
  exact hgrown s .refl

theorem isCompound_of_shaped {values : List Value} {t : Schema}
    (h : ofAll? (shaped values) = some t) : t.IsCompound := by
  by_cases ho : ∃ v ∈ values, v.kind = .object
  · obtain ⟨fields, hfields⟩ := ofAll?_shaped_object ho
    rw [Option.some.inj (h.symm.trans hfields)]
    trivial
  · push Not at ho
    by_cases ha : ∃ v ∈ values, v.kind = .array
    · obtain ⟨items, hitems⟩ := ofAll?_shaped_array ho ha
      rw [Option.some.inj (h.symm.trans hitems)]
      trivial
    · push Not at ha
      cases h.symm.trans (ofAll?_shaped_none fun v hv => ⟨ho v hv, ha v hv⟩)

/-- Each object within a merge is the merge of some objects, under their keys. -/
theorem areOrdered_ofSamples (v : Value) (vs : List Value) :
    (ofSamples v vs).EachObject AreOrdered := by
  intro steps fields hfields
  obtain ⟨w, ws, heq⟩ := hfields.contains.exists_ofSamples
  rw [eq_of_ofSamples_eq_object heq.symm]
  refine ⟨?_, fun field hfield t ht => ?_⟩
  · rw [List.map_map, show Prod.fst ∘ mergedField (objects (w :: ws)) = id from rfl, List.map_id]
    exact nodup_eraseDups _
  · obtain ⟨key, -, rfl⟩ := List.mem_map.mp hfield
    exact isCompound_of_shaped ht

/-! ## The places in order -/

/-- A place that is one step further down. -/
def under (step : PathStep) (place : List PathStep × Entry) : List PathStep × Entry :=
  (step :: place.1, place.2)

mutual

/-- The places within a schema that have something told of them. -/
def placesOf : Schema → List (List PathStep × Entry)
  | .object fields => fieldPlaces fields
  | .array none => []
  | .array (some items) => (placesOf items).map (under .items)
  | .scalar kind => [([], .plain kind)]
  | .unsupported _ => []
termination_by structural s => s

def nestedPlaces : Option Schema → List (List PathStep × Entry)
  | none => []
  | some s => placesOf s
termination_by structural s => s

def fieldPlaces : List (String × Facts × Option Schema) → List (List PathStep × Entry)
  | [] => []
  | (key, facts, nested) :: fields =>
    ([.key key], .field facts) :: (nestedPlaces nested).map (under (.key key)) ++ fieldPlaces fields
termination_by structural fields => fields

end

section

variable {motive : Schema → Prop}
  (object : ∀ fields, (∀ key facts s, (key, facts, some s) ∈ fields → motive s) →
    motive (.object fields))
  (array : ∀ items, (∀ s, items = some s → motive s) → motive (.array items))
  (scalar : ∀ kind, motive (.scalar kind)) (unsupported : ∀ sort, motive (.unsupported sort))

include object array scalar unsupported

-- The three call each other with the assumptions as they are, which does not count as a use.
set_option linter.unusedSectionVars false

mutual

/-- What holds of a schema if it does of all that is nested in it or stands for its items holds of
every schema. -/
@[elab_as_elim]
theorem induction_on_fields : (s : Schema) → motive s
  | .object fields => object fields (induction_on_each fields)
  | .array items => array items (induction_on_nested items)
  | .scalar kind => scalar kind
  | .unsupported sort => unsupported sort

theorem induction_on_nested : (nested : Option Schema) → ∀ s, nested = some s → motive s
  | none, _, h => by cases h
  | some t, _, h => by
    cases h
    exact induction_on_fields t

theorem induction_on_each : (fields : List (String × Facts × Option Schema)) →
    ∀ key facts s, (key, facts, some s) ∈ fields → motive s
  | [], _, _, _, hmem => by cases hmem
  | (_, _, nested) :: fields, key, facts, s, hmem => by
    rcases List.mem_cons.mp hmem with heq | hmem
    · exact induction_on_nested nested s (congrArg (fun f => f.2.2) heq).symm
    · exact induction_on_each fields key facts s hmem

end

end

/-- The places in the fields of an object: each field itself and what is nested in it. -/
theorem mem_fieldPlaces {fields : List (String × Facts × Option Schema)}
    {place : List PathStep × Entry} : place ∈ fieldPlaces fields ↔
      ∃ key facts nested, (key, facts, nested) ∈ fields ∧ (place = ([.key key], .field facts) ∨
        ∃ t, nested = some t ∧ ∃ p ∈ placesOf t, place = under (.key key) p) := by
  induction fields with
  | nil => simp [fieldPlaces]
  | cons f fields ih =>
      obtain ⟨key, facts, nested⟩ := f
      rw [fieldPlaces, List.cons_append, List.mem_cons, List.mem_append, ih, List.mem_map]
      constructor
      · rintro (rfl | ⟨p, hp, rfl⟩ | ⟨key', facts', nested', hmem, hplace⟩)
        · exact ⟨key, facts, nested, List.mem_cons_self, .inl rfl⟩
        · cases nested with
          | none => cases hp
          | some t => exact ⟨key, facts, some t, List.mem_cons_self, .inr ⟨t, rfl, p, hp, rfl⟩⟩
        · exact ⟨key', facts', nested', List.mem_cons_of_mem _ hmem, hplace⟩
      · rintro ⟨key', facts', nested', hmem, hplace⟩
        rcases List.mem_cons.mp hmem with heq | hmem
        · cases heq
          rcases hplace with hplace | ⟨t, rfl, p, hp, rfl⟩
          · exact .inl hplace
          · exact .inr (.inl ⟨p, hp, rfl⟩)
        · exact .inr (.inr ⟨key', facts', nested', hmem, hplace⟩)

theorem Shows.of_items {s : Schema} {steps : List PathStep} {entry : Entry}
    (h : s.Shows steps entry) : (Schema.array (some s)).Shows (.items :: steps) entry := by
  cases h with
  | field hsteps hmem => exact .field hsteps.items hmem
  | root heq =>
      subst heq
      exact .items (.here _)
  | items hsteps => exact .items hsteps.items

theorem Shows.of_field {fields : List (String × Facts × Option Schema)} {key : String}
    {facts : Facts} {s : Schema} {steps : List PathStep} {entry : Entry}
    (hmem : (key, facts, some s) ∈ fields) (hs : s.IsCompound) (h : s.Shows steps entry) :
    (Schema.object fields).Shows (.key key :: steps) entry := by
  cases h with
  | field hsteps hmem' => exact .field (hsteps.field hmem) hmem'
  | root heq =>
      subst heq
      exact hs.elim
  | items hsteps => exact .items (hsteps.field hmem)

/-- Everything told of a place is to be told. -/
theorem shows_of_mem_placesOf {s : Schema} (hs : s.EachObject AreOrdered)
    {place : List PathStep × Entry} (hplace : place ∈ placesOf s) : s.Shows place.1 place.2 := by
  induction s using induction_on_fields generalizing place with
  | object fields ih =>
      obtain ⟨key, facts, nested, hmem, rfl | ⟨t, rfl, p, hp, rfl⟩⟩ := mem_fieldPlaces.mp hplace
      · exact .field (.here _) hmem
      · exact .of_field hmem (hs.here.compound _ hmem t rfl)
          (ih key facts t hmem (hs.field hmem) hp)
  | array items ih =>
      cases items with
      | none => cases hplace
      | some t =>
          obtain ⟨p, hp, rfl⟩ := List.mem_map.mp hplace
          exact .of_items (ih t rfl hs.items hp)
  | scalar kind =>
      rw [List.mem_singleton.mp hplace]
      exact .root rfl
  | unsupported => cases hplace

theorem LeadsTo.mem_placesOf {s t : Schema} {steps : List PathStep} (h : s.LeadsTo steps t)
    {p : List PathStep × Entry} (hp : p ∈ placesOf t) : (steps ++ p.1, p.2) ∈ placesOf s := by
  induction h with
  | here => exact hp
  | items _ ih => exact List.mem_map_of_mem (ih hp)
  | field hmem _ ih => exact mem_fieldPlaces.mpr ⟨_, _, _, hmem, .inr ⟨_, rfl, _, ih hp, rfl⟩⟩

theorem mem_placesOf_of_shows {s : Schema} {steps : List PathStep} {entry : Entry}
    (h : s.Shows steps entry) : (steps, entry) ∈ placesOf s := by
  cases h with
  | @field steps fields key facts nested hsteps hmem =>
      have hplace : ([PathStep.key key], Entry.field facts) ∈ placesOf (.object fields) :=
        mem_fieldPlaces.mpr ⟨key, facts, nested, hmem, .inl rfl⟩
      exact hsteps.mem_placesOf hplace
  | root heq =>
      subst heq
      exact List.mem_singleton.mpr rfl
  | @items steps kind hsteps =>
      have hplace : ([PathStep.items], Entry.plain kind) ∈
          placesOf (.array (some (.scalar kind))) := List.mem_singleton.mpr rfl
      exact hsteps.mem_placesOf hplace

/-- Further down than the schema itself stands everything but what is told of a plain value. -/
theorem ne_nil_of_mem_placesOf {s : Schema} (hs : s.IsCompound) {place : List PathStep × Entry}
    (hplace : place ∈ placesOf s) : place.1 ≠ [] := by
  cases s with
  | object fields =>
      obtain ⟨key, facts, nested, -, rfl | ⟨t, -, p, -, rfl⟩⟩ := mem_fieldPlaces.mp hplace <;>
        exact List.cons_ne_nil _ _
  | array items =>
      cases items with
      | none => cases hplace
      | some t =>
          obtain ⟨p, -, rfl⟩ := List.mem_map.mp hplace
          exact List.cons_ne_nil _ _
  | scalar | unsupported => exact hs.elim

theorem exists_key_of_mem_fieldPlaces {fields : List (String × Facts × Option Schema)}
    {place : List PathStep × Entry} (hplace : place ∈ fieldPlaces fields) :
    ∃ key ∈ fields.map Prod.fst, ∃ steps, place.1 = .key key :: steps := by
  obtain ⟨key, facts, nested, hmem, rfl | ⟨t, -, p, -, rfl⟩⟩ := mem_fieldPlaces.mp hplace
  · exact ⟨key, List.mem_map_of_mem hmem, [], rfl⟩
  · exact ⟨key, List.mem_map_of_mem hmem, p.1, rfl⟩

/-- The places in some of the fields of an object, in order. -/
theorem pairwise_fieldPlaces {whole fields : List (String × Facts × Option Schema)}
    (hsub : fields.Sublist whole)
    (hcompound : ∀ field ∈ whole, ∀ t, field.2.2 = some t → t.IsCompound)
    (hnested : ∀ key facts t, (key, facts, some t) ∈ whole →
      (placesOf t).Pairwise fun p q => t.Precedes p.1 q.1) :
    (fieldPlaces fields).Pairwise fun p q => (Schema.object whole).Precedes p.1 q.1 := by
  -- The object stays whole while its fields are taken one by one: the order is that of its keys.
  induction fields with
  | nil => exact List.Pairwise.nil
  | cons f fields ih =>
      obtain ⟨key, facts, nested⟩ := f
      have hmem : (key, facts, nested) ∈ whole := hsub.subset List.mem_cons_self
      have hbeside : ∀ steps, ∀ q ∈ fieldPlaces fields,
          (Schema.object whole).Precedes (.key key :: steps) q.1 := by
        intro steps q hq
        obtain ⟨key', hkey', steps', heq⟩ := exists_key_of_mem_fieldPlaces hq
        rw [heq]
        refine .beside steps steps' (.trans ?_ (hsub.map Prod.fst))
        exact (List.singleton_sublist.mpr hkey').cons_cons key
      have hrest := ih ((List.sublist_cons_self _ fields).trans hsub)
      rw [fieldPlaces, List.cons_append, List.pairwise_cons, List.pairwise_append]
      cases nested with
      | none => exact ⟨hbeside [], List.Pairwise.nil, hrest, fun p hp => by cases hp⟩
      | some t =>
          refine ⟨fun q hq => ?_, ?_, hrest, fun p hp q hq => ?_⟩
          · rcases List.mem_append.mp hq with hq | hq
            · obtain ⟨p, hp, rfl⟩ := List.mem_map.mp hq
              obtain ⟨step, steps, heq⟩ := List.exists_cons_of_ne_nil
                (ne_nil_of_mem_placesOf (hcompound _ hmem t rfl) hp)
              rw [under, heq]
              exact .field hmem (.first t step steps)
            · exact hbeside [] q hq
          · exact List.pairwise_map.mpr ((hnested key facts t hmem).imp fun h => .field hmem h)
          · obtain ⟨p, -, rfl⟩ := List.mem_map.mp hp
            exact hbeside p.1 q hq

/-- The places are found in the order of a walk in depth. -/
theorem pairwise_placesOf {s : Schema} (hs : s.EachObject AreOrdered) :
    (placesOf s).Pairwise fun p q => s.Precedes p.1 q.1 := by
  induction s using induction_on_fields with
  | object fields ih =>
      exact pairwise_fieldPlaces (List.Sublist.refl fields) hs.here.compound fun key facts t hmem =>
        ih key facts t hmem (hs.field hmem)
  | array items ih =>
      cases items with
      | none => exact List.Pairwise.nil
      | some t => exact List.pairwise_map.mpr ((ih t rfl hs.items).imp fun h => .items h)
  | scalar kind => exact List.pairwise_singleton _ _
  | unsupported => exact List.Pairwise.nil

theorem Precedes.ne {s : Schema} {steps steps' : List PathStep} (h : s.Precedes steps steps')
    (hs : s.EachObject AreOrdered) : steps ≠ steps' := by
  induction h with
  | first _ step steps => exact (List.cons_ne_nil step steps).symm
  | beside _ _ hsub =>
      intro heq
      have hkey := PathStep.key.inj (List.cons.inj heq).1
      exact (List.nodup_cons.mp (hs.here.nodup.sublist hsub)).1 (List.mem_singleton.mpr hkey)
  | field hmem _ ih => exact fun heq => ih (hs.field hmem) (List.cons.inj heq).2
  | items _ ih => exact fun heq => ih hs.items (List.cons.inj heq).2

end TypeDraft.Schema
