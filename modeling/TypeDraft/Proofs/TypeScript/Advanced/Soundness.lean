import TypeDraft.Proofs.TypeScript.Advanced.Fields
import TypeDraft.Proofs.TypeScript.Advanced.Success

/-!
# Declarations accept the samples that they were made from

The merge and the writing of declarations go down the samples together. The induction is on what
the merge brings together at a place; its values are of one kind wherever a type is written for
them.
-/

namespace TypeDraft.TypeScript.Advanced

open Schema (valuesUnder Describes OneKind UniformArrays IsPlain shaped objects keys mergedField
  present gatheredItems ofSamples ofAll?)

/-! ## Members -/

theorem isMemberFor_member {o : Options} (hoptional : o.detectOptionalProperties = true)
    {facts : Facts} {nested : Option Schema} {objects : List (List (String × Value))}
    {key : String} (hd : Describes facts nested objects key) (hkey : OnOneLine key)
    {t : TypeExpr} {new : List Declaration} (ht : IsTypeFor (valuesUnder key objects) t new) :
    IsMemberFor objects (member o key facts t) new where
  readable := ⟨hkey, ht.readable⟩
  declared := ht.declared
  accepts := by
    intro m hm fields hf v hv hpassed
    by_cases hnull : v = .null
    · have hgap : ∀ w, fields.lookup key = some w → w = .null := by
        intro w hw
        have hsame : some v = some w := hv.symm.trans hw
        rw [← Option.some.inj hsame, hnull]
      have hfacts : facts.isOptional = true := hd.isOptional.mpr ⟨fields, hf, hgap⟩
      have hmember : (o.detectOptionalProperties && facts.isOptional) = true := by
        rw [hoptional, hfacts]
        rfl
      exact absurd ⟨rfl, hmember, hnull⟩ hpassed
    · exact ht.accepts m hm v (Schema.mem_valuesUnder.mpr ⟨⟨fields, hf, hv⟩, hnull⟩)
  required := by
    intro hrequired fields hf
    have hmember : (o.detectOptionalProperties && facts.isOptional) = false := hrequired
    rw [hoptional, Bool.true_and] at hmember
    by_contra hnone
    rw [Bool.not_eq_true, Option.isSome_eq_false_iff, Option.isNone_iff_eq_none] at hnone
    have hnone : fields.lookup key = none := hnone
    have hgap : facts.isOptional = true :=
      hd.isOptional.mpr ⟨fields, hf, fun w hw => by rw [hnone] at hw; cases hw⟩
    rw [hmember] at hgap
    cases hgap

/-- The members for some keys of the objects of some samples. -/
theorem membersOf_merged {o : Options} (hoptional : o.detectOptionalProperties = true)
    (hunion : o.detectUnionTypes = true) {samples : List Value}
    (hplain : ∀ v ∈ samples, IsPlain OnOneLine v) {ks : List String}
    (hks : ∀ key ∈ ks, key ∈ keys (objects samples))
    (hnested : ∀ key ∈ ks, ∀ s, ofAll? (shaped (present key (objects samples))) = some s →
      OneKind (valuesUnder key (objects samples)) →
      ∀ h, WritesTypeFor (valuesUnder key (objects samples)) h (typeOf o key s h))
    (h : Hoisted Declaration) :
    ∃ new, Hoists h (membersOf o (ks.map (mergedField (objects samples))) h).2 new ∧
      (membersOf o (ks.map (mergedField (objects samples))) h).1.map Member.key = ks ∧
      ∀ member ∈ (membersOf o (ks.map (mergedField (objects samples))) h).1,
        IsMemberFor (objects samples) member new := by
  induction ks generalizing h with
  | nil => exact ⟨[], Hoists.refl h, rfl, nofun⟩
  | cons key ks ih =>
      have hd := Schema.describes_mergedField (objects samples) key
      have hkey : OnOneLine key := by
        obtain ⟨fields, hf, hmem⟩ := Schema.mem_keys.mp (hks key List.mem_cons_self)
        obtain ⟨v, hv⟩ := Option.isSome_iff_exists.mp (lookup_isSome_iff_mem.mpr hmem)
        exact (Schema.isPlain_of_lookup hplain hf hv).1
      have hnormal : ∀ v ∈ valuesUnder key (objects samples), v.isNormal := by
        intro v hv
        obtain ⟨⟨fields, hf, hv⟩, -⟩ := Schema.mem_valuesUnder.mp hv
        exact (Schema.isPlain_of_lookup hplain hf hv).2.1
      obtain ⟨new, hhoists, htype⟩ := writesTypeFor_field hunion hd hnormal
        (fun s hs => hnested key List.mem_cons_self s hs) h
      obtain ⟨new', hhoists', hkeys, hmembers⟩ := ih
        (fun k hk => hks k (List.mem_cons_of_mem key hk))
        (fun k hk => hnested k (List.mem_cons_of_mem key hk))
        (fieldTypeOf o key (mergedField (objects samples) key).2.1
          (mergedField (objects samples) key).2.2 h).2
      have hcons : membersOf o (mergedField (objects samples) key ::
          ks.map (mergedField (objects samples))) h = _ := membersOf_cons o key _ _ _ h
      rw [List.map_cons, hcons]
      refine ⟨new ++ new', hhoists.trans hhoists', congrArg (List.cons key) hkeys, ?_⟩
      intro member hmem
      rcases List.mem_cons.mp hmem with rfl | hmem
      · exact (isMemberFor_member hoptional hd hkey htype).mono (List.subset_append_left _ _)
      · exact (hmembers member hmem).mono (List.subset_append_right _ _)

/-! ## Nested types -/

theorem keys_nodup (samples : List (List (String × Value))) : (keys samples).Nodup :=
  nodup_eraseDups _

theorem references_subset {objects : List (List (String × Value))} {members : List Member}
    {new : List Declaration} (h : ∀ member ∈ members, IsMemberFor objects member new) :
    members.flatMap (·.type.references) ⊆ new.map Declaration.name := by
  intro n hn
  obtain ⟨member, hmem, hn⟩ := List.mem_flatMap.mp hn
  exact (h member hmem).declared hn

/-- Members are written for all keys, and a shape of them can be read. -/
theorem isSound_shape {objects : List (List (String × Value))} {members : List Member}
    {new : List Declaration} {o : Options} {name : String}
    (hmembers : ∀ member ∈ members, IsMemberFor objects member new)
    (hkeys : members.map Member.key = keys objects) (hword : IsWord name) {count : Nat}
    (hcount : count = (keys objects).length) :
    (Declaration.shape name members (isOpen o count)).IsReadable ∧
      (Declaration.shape name members (isOpen o count)).keys.Nodup := by
  refine ⟨⟨hword, fun member hmem => (hmembers member hmem).readable, fun hopen hnil => ?_⟩, ?_⟩
  · rw [hnil, List.map_nil] at hkeys
    rw [isOpen, hcount, ← hkeys, List.length_nil, Bool.and_eq_true] at hopen
    exact absurd hopen.2 (by decide)
  · rw [Declaration.keys, hkeys]
    exact keys_nodup objects

/-- Members for all keys of some objects are members enough. -/
theorem accepts_merged_shape {m : List Statement} {name : String} {members : List Member}
    {isOpen : Bool} {samples : List Value} {new : List Declaration}
    (hname : body? m name = some (.object (members.map Member.property) isOpen))
    (hmembers : ∀ member ∈ members, IsMemberFor (objects samples) member new)
    (hkeys : members.map Member.key = keys (objects samples)) (hm : Resolves m new)
    (hobjects : ∀ v ∈ samples, ∃ fields, v = .obj fields) :
    ∀ v ∈ samples, Accepts true m (.named name) v := by
  intro v hv
  obtain ⟨fields, rfl⟩ := hobjects v hv
  have hf : fields ∈ objects samples := Schema.mem_objects.mpr ⟨_, hv, rfl⟩
  apply accepts_shape hname hmembers hm hf
  intro key hkey
  rw [hkeys]
  exact Schema.mem_keys.mpr ⟨fields, hf, hkey⟩

theorem writesTypeFor_array {samples : List Value} (harrays : ∀ v ∈ samples, ∃ items, v = .arr items)
    {h : Hoisted Declaration} {r : TypeExpr × Hoisted Declaration}
    (hr : WritesTypeFor (gatheredItems samples) h r) :
    WritesTypeFor samples h (.array r.1, r.2) := by
  obtain ⟨new, hhoists, hitem⟩ := hr
  refine ⟨new, hhoists, hitem.readable, hitem.declared, fun m hm v hv => ?_⟩
  obtain ⟨items, rfl⟩ := harrays v hv
  refine .array fun w hw => hitem.accepts m hm w ?_
  exact List.mem_flatMap.mpr ⟨_, hv, hw⟩

theorem writesTypeFor_nil {h : Hoisted Declaration} : WritesTypeFor [] h (.unknown, h) :=
  ⟨[], Hoists.refl h, trivial, List.nil_subset _, nofun⟩

/-- An object reserves its name before its members hoist anything. -/
theorem writesTypeFor_object {o : Options} {samples : List Value}
    (hobjects : ∀ v ∈ samples, ∃ fields, v = .obj fields) {context : String}
    {h : Hoisted Declaration} {r : List Member × Hoisted Declaration} {new : List Declaration}
    (hhoists : Hoists (h.reserve (Name.pascalCase context)).2 r.2 new)
    (hkeys : r.1.map Member.key = keys (objects samples))
    (hmembers : ∀ member ∈ r.1, IsMemberFor (objects samples) member new) {count : Nat}
    (hcount : count = (keys (objects samples)).length) :
    WritesTypeFor samples h (.named (h.reserve (Name.pascalCase context)).1,
      r.2.add (.shape (h.reserve (Name.pascalCase context)).1 r.1 (isOpen o count))) := by
  obtain ⟨name, hname⟩ : ∃ name, name = (h.reserve (Name.pascalCase context)).1 := ⟨_, rfl⟩
  have hreserve := reserve_fst h context
  rw [← hname] at hreserve ⊢
  obtain ⟨hreadable, hnodup⟩ := isSound_shape hmembers hkeys hreserve.2.1 (o := o) hcount
  refine ⟨new ++ [.shape name r.1 (isOpen o count)], ?_, ?_⟩
  · refine Hoists.add hreserve.1 ?_ hhoists rfl ⟨hreadable, hreserve.2.2, hnodup⟩
      (references_subset hmembers)
    rw [hname]
    rfl
  · refine ⟨hreserve.2.1, ?_, fun m hm => ?_⟩
    · intro n hn
      obtain rfl := List.mem_singleton.mp hn
      rw [List.map_append]
      exact List.mem_append_right _ List.mem_cons_self
    · have hbody := hm.declared _ (List.mem_append_right new List.mem_cons_self)
      exact accepts_merged_shape hbody hmembers hkeys (hm.mono (List.subset_append_left _ _))
        hobjects

theorem arrays_of_kind {samples : List Value} {v : Value} (hk : ∀ w ∈ samples, w.kind = v.kind)
    (hv : v.kind = .array) : ∀ w ∈ samples, ∃ items, w = .arr items := by
  intro w hw
  have hw := (hk w hw).trans hv
  cases w <;> simp [Value.kind] at hw
  exact ⟨_, rfl⟩

theorem objects_of_kind {samples : List Value} (hplain : ∀ w ∈ samples, IsPlain OnOneLine w)
    {v : Value} (hk : ∀ w ∈ samples, w.kind = v.kind) (hv : v.fields?.isSome) :
    ∀ w ∈ samples, ∃ fields, w = .obj fields := by
  intro w hw
  have hobject := (hk w hw).trans (Schema.kind_eq_object_iff.mpr hv)
  obtain ⟨fields, hfields⟩ := Option.isSome_iff_exists.mp (Schema.kind_eq_object_iff.mp hobject)
  exact ⟨fields, Schema.fields?_of_isNormal (hplain w hw).1 hfields⟩

/-- The values that are merged under a key are all values there, if these are of one kind. -/
theorem nested_eq_ofSamples {samples : List Value} {key : String} {s : Schema}
    (hs : ofAll? (shaped (present key (objects samples))) = some s)
    (hone : OneKind (present key (objects samples))) :
    ∃ w ws, present key (objects samples) = w :: ws ∧
      shaped (present key (objects samples)) = w :: ws ∧ s = ofSamples w ws := by
  cases hshaped : shaped (present key (objects samples)) with
  | nil =>
      rw [hshaped, ofAll?] at hs
      cases hs
  | cons w ws =>
      have hall := Schema.shaped_of_oneKind hone (by rw [hshaped]; exact List.cons_ne_nil w ws)
      rw [hshaped, ofAll?] at hs
      exact ⟨w, ws, hall.symm.trans hshaped, rfl, (Option.some.inj hs).symm⟩

/-- For all samples of one kind that weigh less than some bound, the type that is written for their
merged schema accepts them. -/
def WritesBelow (o : Options) (bound : Nat) : Prop :=
  ∀ w ws, Value.weights (w :: ws) < bound → (∀ u ∈ w :: ws, IsPlain OnOneLine u) →
    OneKind (w :: ws) → UniformArrays (w :: ws) →
    ∀ context h, WritesTypeFor (w :: ws) h (typeOf o context (ofSamples w ws) h)

section Below

variable {o : Options} {v : Value} {vs : List Value}

theorem writesTypeFor_items (hbelow : WritesBelow o (Value.weights (v :: vs)))
    (hplain : ∀ w ∈ v :: vs, IsPlain OnOneLine w) (huniform : UniformArrays (v :: vs))
    (harray : v.kind = .array) (context : String) (h : Hoisted Declaration) :
    WritesTypeFor (gatheredItems (v :: vs)) h
      (nestedTypeOf o context .unknown (ofAll? (gatheredItems (v :: vs))) h) := by
  cases hitems : gatheredItems (v :: vs) with
  | nil => exact writesTypeFor_nil
  | cons w ws =>
      have hlt : Value.weights (w :: ws) < Value.weights (v :: vs) := by
        have hle := Value.weights_flatMap_items_le vs
        have hlt := Value.weights_items_lt harray
        rw [← hitems, gatheredItems, List.flatMap_cons, Value.weights_append, Value.weights]
        omega
      have hplain' : ∀ u ∈ w :: ws, IsPlain OnOneLine u := fun u hu =>
        Schema.isPlain_of_mem_gatheredItems hplain (hitems ▸ hu)
      have hone : OneKind (w :: ws) := hitems ▸ huniform.oneKind
      have huniform' : UniformArrays (w :: ws) := hitems ▸ huniform.stepInto .item
      exact hbelow w ws hlt hplain' hone huniform' context h

theorem exists_members (hbelow : WritesBelow o (Value.weights (v :: vs)))
    (hoptional : o.detectOptionalProperties = true) (hunion : o.detectUnionTypes = true)
    (hplain : ∀ w ∈ v :: vs, IsPlain OnOneLine w) (huniform : UniformArrays (v :: vs))
    (hobject : v.fields?.isSome) (h : Hoisted Declaration) :
    ∃ r : List Member × Hoisted Declaration, ∃ new,
      membersOf o ((keys (objects (v :: vs))).map (mergedField (objects (v :: vs)))) h = r ∧
      Hoists h r.2 new ∧ r.1.map Member.key = keys (objects (v :: vs)) ∧
      ∀ member ∈ r.1, IsMemberFor (objects (v :: vs)) member new := by
  have hnested : ∀ key ∈ keys (objects (v :: vs)), ∀ s,
      ofAll? (shaped (present key (objects (v :: vs)))) = some s →
      OneKind (valuesUnder key (objects (v :: vs))) →
      ∀ h, WritesTypeFor (valuesUnder key (objects (v :: vs))) h (typeOf o key s h) := by
    intro key _ s hs hone h
    rw [← Schema.present_eq_valuesUnder] at hone ⊢
    obtain ⟨w, ws, hpresent, hshaped, rfl⟩ := nested_eq_ofSamples hs hone
    have hlt := hshaped ▸ Schema.weights_shaped_present_lt hobject key vs
    have huniform' : UniformArrays (w :: ws) := hshaped ▸ huniform.stepInto (.key key)
    have hplain' : ∀ u ∈ w :: ws, IsPlain OnOneLine u := by
      intro u hu
      rw [← hpresent] at hu
      obtain ⟨⟨fields, hf, hu⟩, -⟩ := Schema.mem_present.mp hu
      exact (Schema.isPlain_of_lookup hplain hf hu).2
    rw [hpresent] at hone ⊢
    exact hbelow w ws hlt hplain' hone huniform' key h
  obtain ⟨new, hnew⟩ := membersOf_merged hoptional hunion hplain (fun _ hkey => hkey) hnested h
  exact ⟨_, new, rfl, hnew⟩

end Below

/-- The type that is written for the merged schema of samples of one kind accepts each of them. -/
theorem writesBelow {o : Options} (hoptional : o.detectOptionalProperties = true)
    (hunion : o.detectUnionTypes = true) (bound : Nat) : WritesBelow o bound := by
  induction bound using Nat.strongRecOn with
  | _ bound ih =>
      intro v vs hlt hplain hkind huniform context h
      have hbelow := ih _ hlt
      have hkinds : ∀ w ∈ v :: vs, w.kind = v.kind := fun w hw => hkind w hw v List.mem_cons_self
      by_cases harray : v.kind = .array
      · have hitems := writesTypeFor_items hbelow hplain huniform harray (Name.singularize context) h
        have hwrites := writesTypeFor_array (arrays_of_kind hkinds harray) hitems
        rw [Schema.ofSamples_array harray]
        cases heq : ofAll? (gatheredItems (v :: vs)) with
        | none => rwa [heq] at hwrites
        | some s => rwa [heq] at hwrites
      by_cases hobject : v.fields?.isSome
      · obtain ⟨r, new, hr, hhoists, hkeys, hmembers⟩ := exists_members hbelow hoptional hunion
          hplain huniform hobject (h.reserve (Name.pascalCase context)).2
        rw [Schema.ofSamples_object hobject, typeOf]
        simp only [hr]
        exact writesTypeFor_object (objects_of_kind hplain hkinds hobject) hhoists hkeys hmembers
          (List.length_map _)
      · have hnone : v.fields? = none := by simpa using hobject
        rw [Schema.ofSamples_scalar harray hnone]
        exact writesTypeFor_of_plain h (isTypeFor_ofKind (fun w hw => (hplain w hw).1) hkinds)

/-! ## The root -/

/-- The root declaration as it should be for some samples. -/
structure IsRootFor (samples : List Value) (name : String) (root : Declaration)
    (new : List Declaration) : Prop where
  name_eq : root.name = name
  readable : root.IsReadable
  nodup_keys : root.keys.Nodup
  declared : root.references ⊆ new.map Declaration.name
  accepts : ∀ m, Resolves m new → body? m name = some root.statement.body →
    ∀ v ∈ samples, Accepts true m (.named name) v

theorem isRootFor_synonym {samples : List Value} {name : String} (hname : IsWord name)
    {t : TypeExpr} {new : List Declaration} (ht : IsTypeFor samples t new) :
    IsRootFor samples name (.synonym name t) new where
  name_eq := rfl
  readable := ⟨hname, ht.readable⟩
  nodup_keys := List.nodup_nil
  declared := ht.declared
  accepts := fun m hm hbody v hv => .synonym hbody (ht.accepts m hm v hv)

/-- The root for samples of one kind, with what it hoists. -/
theorem exists_isRootFor {o : Options} (hoptional : o.detectOptionalProperties = true)
    (hunion : o.detectUnionTypes = true) {v : Value} {vs : List Value}
    (hplain : ∀ w ∈ v :: vs, IsPlain OnOneLine w) (hkind : OneKind (v :: vs))
    (huniform : UniformArrays (v :: vs)) {name : String} (hname : IsWord name) :
    ∃ new, Hoists ⟨[], [name]⟩ (rootOf o name (ofSamples v vs)).2 new ∧
      IsRootFor (v :: vs) name (rootOf o name (ofSamples v vs)).1 new := by
  have hbelow := writesBelow hoptional hunion (Value.weights (v :: vs))
  have hkinds : ∀ w ∈ v :: vs, w.kind = v.kind := fun w hw => hkind w hw v List.mem_cons_self
  by_cases harray : v.kind = .array
  · obtain ⟨new, hhoists, htype⟩ := writesTypeFor_array (arrays_of_kind hkinds harray)
      (writesTypeFor_items hbelow hplain huniform harray (name ++ "Item") ⟨[], [name]⟩)
    rw [Schema.ofSamples_array harray]
    cases heq : ofAll? (gatheredItems (v :: vs)) with
    | none =>
        rw [heq] at hhoists htype
        exact ⟨new, hhoists, isRootFor_synonym hname htype⟩
    | some s =>
        rw [heq] at hhoists htype
        exact ⟨new, hhoists, isRootFor_synonym hname htype⟩
  by_cases hobject : v.fields?.isSome
  · obtain ⟨r, new, hr, hhoists, hkeys, hmembers⟩ := exists_members hbelow hoptional hunion
      hplain huniform hobject ⟨[], [name]⟩
    have hcount : ((keys (objects (v :: vs))).map (mergedField (objects (v :: vs)))).length =
        (keys (objects (v :: vs))).length := List.length_map _
    obtain ⟨hreadable, hnodup⟩ := isSound_shape hmembers hkeys hname (o := o) hcount
    rw [Schema.ofSamples_object hobject, rootOf]
    simp only [hr]
    refine ⟨new, hhoists, rfl, hreadable, hnodup, references_subset hmembers, fun m hm hbody => ?_⟩
    exact accepts_merged_shape hbody hmembers hkeys hm (objects_of_kind hplain hkinds hobject)
  · have hnone : v.fields? = none := by simpa using hobject
    rw [Schema.ofSamples_scalar harray hnone]
    have htype := isTypeFor_ofKind (fun w hw => (hplain w hw).1) hkinds
    exact ⟨[], Hoists.refl _, isRootFor_synonym hname htype⟩

end TypeDraft.TypeScript.Advanced
