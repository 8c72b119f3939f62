import TypeDraft.Proofs.TypeScript.Advanced.Soundness

/-!
# The text for some samples

The declarations for a merged schema form one module, whose root accepts the samples that count for
the schema: the primary one and the others of its kind.
-/

namespace TypeDraft.TypeScript

/-! ## Well-formed modules -/

theorem mem_predefined (p : Primitive) : p.text ∈ predefined := by
  cases p <;> decide

theorem TypeExpr.names_ty {t : TypeExpr} {name : String} (h : name ∈ t.ty.names) :
    name ∈ predefined ∨ name ∈ t.references := by
  induction t with
  | primitive p =>
      obtain rfl := List.mem_singleton.mp h
      exact Or.inl (mem_predefined p)
  | union ps =>
      obtain ⟨a, ha, hname⟩ := Ty.mem_names_ofAlternatives.mp h
      obtain ⟨p, -, rfl⟩ := List.mem_map.mp ha
      obtain rfl := List.mem_singleton.mp hname
      exact Or.inl (mem_predefined p)
  | annotated p =>
      have hsub : ∀ n ∈ (annotated p).ty.names, n ∈ predefined := by cases p <;> decide
      exact Or.inl (hsub name h)
  | named name' => exact Or.inr h
  | array item ih => exact ih h

theorem Declaration.keys_statement (d : Declaration) : d.statement.keys = d.keys := by
  cases d with
  | shape name members isOpen => exact List.map_map
  | synonym name type => rfl
  | enum name members => rfl

theorem Declaration.names_statement {d : Declaration} {name : String}
    (h : name ∈ d.statement.names) : name ∈ predefined ∨ name ∈ d.references := by
  cases d with
  | shape _ members isOpen =>
      obtain ⟨p, hp, hname⟩ := List.mem_flatMap.mp h
      obtain ⟨m, hm, rfl⟩ := List.mem_map.mp hp
      rcases TypeExpr.names_ty hname with hname | hname
      · exact Or.inl hname
      · exact Or.inr (List.mem_flatMap.mpr ⟨m, hm, hname⟩)
  | synonym _ type => exact TypeExpr.names_ty h
  | enum _ members => cases h

theorem wellFormed_statements {ds : List Declaration} (hnames : (ds.map Declaration.name).Nodup)
    (hdeclared : ∀ d ∈ ds, d.references ⊆ ds.map Declaration.name)
    (hkeys : ∀ d ∈ ds, d.keys.Nodup) : WellFormed (ds.map Declaration.statement) := by
  have heq : (ds.map Declaration.statement).map Statement.name = ds.map Declaration.name := by
    rw [List.map_map]
    exact List.map_congr_left fun d _ => d.statement_name
  constructor
  · rwa [heq]
  · intro s hs name hname
    obtain ⟨d, hd, rfl⟩ := List.mem_map.mp hs
    rw [heq]
    exact (Declaration.names_statement hname).imp_right fun h => hdeclared d hd h
  · intro s hs
    obtain ⟨d, hd, rfl⟩ := List.mem_map.mp hs
    rw [Declaration.keys_statement]
    exact hkeys d hd

namespace Advanced

open Schema (OneKind UniformArrays IsPlain objects keys gatheredItems ofSamples)

/-! ## The module of a root and what it hoists -/

section Module

variable {samples : List Value} {name : String} {root : Declaration} {new : List Declaration}

theorem nodup_names_module (hroot : IsRootFor samples name root new)
    {h : Hoisted Declaration} (hhoists : Hoists ⟨[], [name]⟩ h new) :
    ((root :: new).map Declaration.name).Nodup := by
  rw [List.map_cons, List.nodup_cons]
  refine ⟨fun hmem => ?_, hhoists.nodup⟩
  obtain ⟨d, hd, hname⟩ := List.mem_map.mp hmem
  apply hhoists.fresh d hd
  rw [hname, hroot.name_eq]
  exact List.mem_singleton_self name

/-- No predefined type that is written has a declaration. -/
theorem predefined_not_declared (hname : ∀ p : Primitive, p.text ≠ name)
    (hroot : IsRootFor samples name root new) {h : Hoisted Declaration}
    (hhoists : Hoists ⟨[], [name]⟩ h new) (p : Primitive) :
    p.text ∉ (root :: new).map Declaration.name := by
  have hsmall : ¬ Name.IsCapital p.text := by cases p <;> decide
  rw [List.map_cons, List.mem_cons, not_or, hroot.name_eq]
  refine ⟨hname p, fun hmem => ?_⟩
  obtain ⟨d, hd, heq⟩ := List.mem_map.mp hmem
  exact hsmall (heq ▸ (hhoists.sound d hd).capital)

theorem resolves_module (hname : ∀ p : Primitive, p.text ≠ name)
    (hroot : IsRootFor samples name root new) {h : Hoisted Declaration}
    (hhoists : Hoists ⟨[], [name]⟩ h new) :
    Resolves ((root :: new).map Declaration.statement) (root :: new) := by
  have heq : ((root :: new).map Declaration.statement).map Statement.name =
      (root :: new).map Declaration.name := by
    rw [List.map_map]
    exact List.map_congr_left fun d _ => d.statement_name
  constructor
  · intro d hd
    rw [← d.statement_name]
    refine body?_of_mem ?_ (List.mem_map_of_mem hd)
    rw [heq]
    exact nodup_names_module hroot hhoists
  · intro p
    refine body?_eq_none ?_
    rw [heq]
    exact predefined_not_declared hname hroot hhoists p

theorem wellFormed_module (hroot : IsRootFor samples name root new) {h : Hoisted Declaration}
    (hhoists : Hoists ⟨[], [name]⟩ h new) :
    WellFormed ((root :: new).map Declaration.statement) := by
  have hsub : new.map Declaration.name ⊆ (root :: new).map Declaration.name :=
    List.map_subset _ (List.subset_cons_self root new)
  refine wellFormed_statements (nodup_names_module hroot hhoists) ?_ ?_
  · intro d hd
    rcases List.mem_cons.mp hd with rfl | hd
    · exact List.Subset.trans hroot.declared hsub
    · exact List.Subset.trans (hhoists.declared d hd) hsub
  · intro d hd
    rcases List.mem_cons.mp hd with rfl | hd
    · exact hroot.nodup_keys
    · exact (hhoists.sound d hd).nodup_keys

/-- The text of a root with what it hoists declares a type of each of the samples. -/
theorem declaresTypeOf_render (hname : ∀ p : Primitive, p.text ≠ name)
    (hroot : IsRootFor samples name root new) {h : Hoisted Declaration}
    (hhoists : Hoists ⟨[], [name]⟩ h new) (style : Style) :
    ∀ v ∈ samples, DeclaresTypeOf true
      (h.render (Declaration.text style) (root.text style)) name v := by
  have hreadable : ∀ d ∈ root :: new, d.IsReadable := by
    intro d hd
    rcases List.mem_cons.mp hd with rfl | hd
    · exact hroot.readable
    · exact (hhoists.sound d hd).readable
  have htext : h.render (Declaration.text style) (root.text style) =
      "\n\n".intercalate ((root :: new).map (Declaration.text style)) := by
    rw [Hoisted.render, hhoists.definitions]
    rfl
  have hresolves := resolves_module hname hroot hhoists
  intro v hv
  refine ⟨(root :: new).map Declaration.statement, ?_, wellFormed_module hroot hhoists, ?_⟩
  · rw [htext]
    exact Declaration.readModule?_render hreadable style
  · have hbody := hresolves.declared root List.mem_cons_self
    rw [hroot.name_eq] at hbody
    exact hroot.accepts _ (hresolves.mono (List.subset_cons_self root new)) hbody v hv

end Module

/-! ## Samples of other kinds do not count -/

/-- Samples of another kind than the primary one add nothing to the schema. -/
theorem ofSamples_filter (primary : Value) (extras : List Value) :
    ofSamples primary (extras.filter (·.kind = primary.kind)) = ofSamples primary extras := by
  by_cases harray : primary.kind = .array
  · have hitems : gatheredItems (primary :: extras.filter (·.kind = primary.kind)) =
        gatheredItems (primary :: extras) := by
      rw [gatheredItems, gatheredItems, List.flatMap_cons, List.flatMap_cons, harray]
      congr 1
      induction extras with
      | nil => rfl
      | cons v vs ih =>
          by_cases hv : v.kind = .array
          · rw [List.filter_cons_of_pos (by simpa using hv), List.flatMap_cons,
              List.flatMap_cons, ih]
          · rw [List.filter_cons_of_neg (by simpa using hv), List.flatMap_cons,
              Schema.items_of_kind_ne hv, List.nil_append, ih]
    rw [Schema.ofSamples_array harray, Schema.ofSamples_array harray, hitems]
  by_cases hobject : primary.fields?.isSome
  · have hkind := Schema.kind_eq_object_iff.mpr hobject
    have hobjects : objects (primary :: extras.filter (·.kind = primary.kind)) =
        objects (primary :: extras) := by
      rw [objects, objects, List.filterMap_cons, List.filterMap_cons, List.filterMap_filter, hkind]
      have hextras : (extras.filterMap fun v =>
          if decide (v.kind = .object) = true then v.fields? else none) =
          extras.filterMap Value.fields? := by
        apply List.filterMap_congr
        intro v _
        by_cases hv : v.kind = .object
        · rw [if_pos (decide_eq_true hv)]
        · rw [if_neg (by simpa using hv), Schema.fields?_of_kind_ne hv]
      rw [hextras]
    rw [Schema.ofSamples_object hobject, Schema.ofSamples_object hobject, hobjects]
  · have hnone : primary.fields? = none := by simpa using hobject
    rw [Schema.ofSamples_scalar harray hnone, Schema.ofSamples_scalar harray hnone]

/-- If the arrays of the samples are uniform and no key runs over a line, the text for their merged
schema is a well-formed module whose root type accepts the primary sample and every other of its
kind. There is such a text whenever analysis succeeds, as it does unless samples nest too deeply. -/
theorem draft_declares_type_of_samples {primary : Value} {extras : List Value}
    (hnormal : ∀ v ∈ primary :: extras, v.isNormal)
    (hkeys : ∀ v ∈ primary :: extras, v.EveryKey OnOneLine)
    (huniform : UniformArrays ((primary :: extras).filter (·.kind = primary.kind)))
    {name : String} (hword : IsWord name) (hname : ∀ p : Primitive, p.text ≠ name) {o : Options}
    (hoptional : o.detectOptionalProperties = true) (hunion : o.detectUnionTypes = true)
    (style : Style) :
    ((∀ v ∈ primary :: extras, v.tooDeepFor analysisCost = false) →
      ∃ s, analyze primary extras = .ok s) ∧
    ∀ s, analyze primary extras = .ok s → ∃ text, draft style o name s = .ok text ∧
      ∀ v ∈ primary :: extras, v.kind = primary.kind → DeclaresTypeOf true text name v := by
  refine ⟨fun hdepth => ⟨_, Schema.analyze_eq_ok hnormal hdepth⟩, fun s hs => ?_⟩
  have hfailure : Schema.failure? openSteps primary extras = none := by
    rw [analyze] at hs
    split at hs
    · cases hs
    · assumption
  obtain rfl := Schema.eq_ofSamples_of_analyze hs
  have herror : firstError? o openSteps (ofSamples primary extras) = none :=
    firstError?_eq_none (Nat.le_refl openSteps) hfailure
  have hfilter : (primary :: extras).filter (·.kind = primary.kind) =
      primary :: extras.filter (·.kind = primary.kind) := List.filter_cons_of_pos (by simp)
  rw [hfilter] at huniform
  have hmem : ∀ v ∈ primary :: extras.filter (·.kind = primary.kind),
      v ∈ primary :: extras ∧ v.kind = primary.kind := by
    intro v hv
    rw [← hfilter, List.mem_filter, decide_eq_true_eq] at hv
    exact hv
  have hplain : ∀ v ∈ primary :: extras.filter (·.kind = primary.kind), IsPlain OnOneLine v :=
    fun v hv => ⟨hnormal v (hmem v hv).1, hkeys v (hmem v hv).1⟩
  have hone : OneKind (primary :: extras.filter (·.kind = primary.kind)) :=
    fun v hv w hw => (hmem v hv).2.trans (hmem w hw).2.symm
  obtain ⟨new, hhoists, hroot⟩ :=
    exists_isRootFor hoptional hunion hplain hone huniform hword
  rw [ofSamples_filter] at hhoists hroot
  refine ⟨_, by rw [draft, herror], fun v hv hkind => ?_⟩
  apply declaresTypeOf_render hname hroot hhoists style v
  rw [← hfilter, List.mem_filter]
  exact ⟨hv, decide_eq_true hkind⟩

theorem draft_declares_type_of_samples_sparse :
    ∃ s text, analyze (.obj [("id", .int 1), ("tags", .arr [.str "a", .str "b"])])
        [.obj [("tags", .arr []), ("id", .null)], .int 3] = .ok s ∧
      draft .interface {} "Order" s = .ok text ∧
      DeclaresTypeOf true text "Order" (.obj [("tags", .arr []), ("id", .null)]) := by
  have hnormal : ∀ v ∈ ([.obj [("id", .int 1), ("tags", .arr [.str "a", .str "b"])],
      .obj [("tags", .arr []), ("id", .null)], .int 3] : List Value), v.isNormal := by decide
  have hkeys : ∀ v ∈ ([.obj [("id", .int 1), ("tags", .arr [.str "a", .str "b"])],
      .obj [("tags", .arr []), ("id", .null)], .int 3] : List Value), v.EveryKey OnOneLine := by
    simp [Value.EveryKey, Value.EveryKeyOfFields, Value.EveryKeyOfItems, OnOneLine, isLineBreak]
  have htags : UniformArrays [.arr [.str "a", .str "b"], .arr []] := by
    refine Schema.uniformArrays_of_steps (by decide) ?_ ?_
    · exact Schema.uniformArrays_of_steps (by decide) Schema.uniformArrays_nil
        fun _ hkey => absurd hkey List.not_mem_nil
    · exact fun _ hkey => absurd hkey List.not_mem_nil
  have huniform : UniformArrays [.obj [("id", .int 1), ("tags", .arr [.str "a", .str "b"])],
      .obj [("tags", .arr []), ("id", .null)]] := by
    refine Schema.uniformArrays_of_steps (by decide) Schema.uniformArrays_nil fun key hkey => ?_
    have hkey : key ∈ ["id", "tags"] := hkey
    rcases List.mem_pair.mp hkey with rfl | rfl
    · exact Schema.uniformArrays_nil
    · exact htags
  have hword : IsWord "Order" := by decide
  have hname : ∀ p : Primitive, p.text ≠ "Order" := fun p => by cases p <;> decide
  have hoptional : ({} : Options).detectOptionalProperties = true := rfl
  have hsamples := draft_declares_type_of_samples hnormal hkeys huniform hword hname hoptional rfl
    .interface
  obtain ⟨s, hs⟩ := hsamples.1 (by decide)
  obtain ⟨text, htext, hdeclares⟩ := hsamples.2 s hs
  refine ⟨s, text, hs, htext, hdeclares _ ?_ rfl⟩
  exact List.mem_cons_of_mem _ List.mem_cons_self

end Advanced

end TypeDraft.TypeScript
