import TypeDraft.Proofs.TypeScript.Basic.Mentions

/-!
# Layers of definitions

A walk through any shape adds definitions one at a time. Each has a fresh name and fields that no
other has, and refers to those before it alone. Whatever is added is needed for what is written: if
the fields of an object are those of another, all that was written for them is needed there too.
-/

namespace TypeDraft.TypeScript.Basic

open Shape (plainName?)

/-! ## What is declared -/

/-- Fields with types that are made of plain sorts and of names that they refer to, in order. -/
structure AreWrittenWith (references : List String) (fields : List Field) : Prop where
  types : ∀ f ∈ fields, AreParts (IsLeaf True references) f.type
  mentions : (fields.flatMap fun f => f.type.flatMap partMentions).eraseDups = references.eraseDups

/-- A definition that may be added to others. -/
structure Definition.IsAddedTo (ds : List Definition) (e : Definition) : Prop where
  fresh : e.name ∉ ds.map Definition.name
  unlike : e.fields ∉ ds.map Definition.fields
  identifier : Name.IsIdentifier e.name
  capital : Name.IsCapital e.name
  written : AreWrittenWith e.references e.fields
  references : e.references ⊆ ds.map Definition.name

/-- Definitions that have been added one at a time. -/
inductive AreLayered : List Definition → Prop
  | nil : AreLayered []
  | concat {ds : List Definition} {e : Definition} : AreLayered ds → e.IsAddedTo ds →
      AreLayered (ds ++ [e])

section

variable {ds : List Definition}

theorem AreLayered.nodup_names (h : AreLayered ds) : (ds.map Definition.name).Nodup := by
  induction h with
  | nil => exact List.nodup_nil
  | concat _ he ih =>
      rw [List.map_append]
      apply ih.append (List.nodup_singleton _)
      simpa using he.fresh

theorem AreLayered.nodup_fields (h : AreLayered ds) : (ds.map Definition.fields).Nodup := by
  induction h with
  | nil => exact List.nodup_nil
  | concat _ he ih =>
      rw [List.map_append]
      apply ih.append (List.nodup_singleton _)
      simpa using he.unlike

/-- Every definition was added to some that are still there. -/
theorem AreLayered.exists_isAddedTo (h : AreLayered ds) {e : Definition} (he : e ∈ ds) :
    ∃ earlier, earlier <+: ds ∧ e.IsAddedTo earlier := by
  induction h with
  | nil => cases he
  | @concat ds e' _ he' ih =>
      rcases List.mem_append.mp he with he | he
      · obtain ⟨earlier, hprefix, hadded⟩ := ih he
        exact ⟨earlier, hprefix.trans (List.prefix_append ds [e']), hadded⟩
      · obtain rfl := List.mem_singleton.mp he
        exact ⟨ds, List.prefix_append ds [e], he'⟩

theorem AreLayered.references (h : AreLayered ds) {e : Definition} (he : e ∈ ds) :
    e.references ⊆ ds.map Definition.name := by
  obtain ⟨earlier, hprefix, hadded⟩ := h.exists_isAddedTo he
  exact List.Subset.trans hadded.references (List.map_subset _ hprefix.subset)

end

/-- What is kept up while definitions are added; the name of the root stays free. -/
structure Drafting.IsLayered (root : String) (d : Drafting) : Prop where
  definitions : AreLayered d.definitions
  names_taken : d.names ⊆ d.taken
  root_taken : root ∈ d.taken
  root_free : root ∉ d.names

variable {root : String} {d : Drafting}

theorem Drafting.declare_cases (d : Drafting) (name : String) (fields : List Field)
    (references : List String) :
    (∃ e ∈ d.definitions, e.fields = fields ∧ d.declare name fields references = (e.name, d)) ∨
    (fields ∉ d.definitions.map Definition.fields ∧
      d.declare name fields references =
        (Name.unique name d.taken,
          ⟨d.definitions ++ [⟨Name.unique name d.taken, fields, references⟩],
            Name.unique name d.taken :: d.taken⟩)) := by
  rw [Drafting.declare]
  cases hfind : d.definitions.find? (·.fields = fields) with
  | some e =>
      have hfields := List.find?_some hfind
      exact .inl ⟨e, List.mem_of_find?_eq_some hfind, of_decide_eq_true hfields, rfl⟩
  | none =>
      refine .inr ⟨fun hmem => ?_, rfl⟩
      obtain ⟨e, he, hfields⟩ := List.mem_map.mp hmem
      exact List.find?_eq_none.mp hfind e he (decide_eq_true hfields)

/-- What comes of declaring some fields. -/
structure Drafting.IsDeclared (root : String) (d : Drafting) (references : List String)
    (r : String × Drafting) : Prop where
  extends_definitions : d.definitions <+: r.2.definitions
  drafting : r.2.IsLayered root
  /-- The definition with these fields refers to all that they refer to. -/
  definition : ∃ e ∈ r.2.definitions, e.name = r.1 ∧ references ⊆ e.references
  names : ∀ n ∈ r.2.names, n ∈ d.names ∨ n = r.1

theorem Drafting.IsLayered.isDeclared (hd : d.IsLayered root) (context : String)
    {fields : List Field} {references : List String} (hfields : AreWrittenWith references fields)
    (hreferences : references ⊆ d.names) :
    d.IsDeclared root references (d.declare (Name.pascalCase context) fields references) := by
  rcases d.declare_cases (Name.pascalCase context) fields references with
    ⟨e, he, rfl, heq⟩ | ⟨hunlike, heq⟩
  · rw [heq]
    obtain ⟨_, -, hadded⟩ := hd.definitions.exists_isAddedTo he
    have hsame := subset_of_eraseDups_eq (hfields.mentions.symm.trans hadded.written.mentions)
    exact ⟨List.prefix_refl _, hd, ⟨e, he, rfl, hsame⟩, fun n hn => .inl hn⟩
  · rw [heq]
    have hfresh := Name.unique_not_mem (Name.pascalCase context) d.taken
    have hword := (Name.isWord_pascalCase context).1
    have hadded : Definition.IsAddedTo d.definitions
        ⟨Name.unique (Name.pascalCase context) d.taken, fields, references⟩ :=
      ⟨fun hmem => hfresh (hd.names_taken hmem), hunlike,
        Name.isIdentifier_unique (Name.isIdentifier_pascalCase context) _,
        Name.isCapital_unique hword (Name.isCapital_pascalCase context) _, hfields, hreferences⟩
    have hnames : Drafting.names ⟨d.definitions ++
        [⟨Name.unique (Name.pascalCase context) d.taken, fields, references⟩],
        Name.unique (Name.pascalCase context) d.taken :: d.taken⟩ =
          d.names ++ [Name.unique (Name.pascalCase context) d.taken] := by
      simp [Drafting.names]
    refine ⟨List.prefix_append _ _, ⟨hd.definitions.concat hadded, ?_, ?_, ?_⟩, ?_, ?_⟩
    · rw [hnames]
      refine List.append_subset.mpr ⟨fun n hn => List.mem_cons_of_mem _ (hd.names_taken hn), ?_⟩
      exact List.cons_subset_cons _ (List.nil_subset _)
    · exact List.mem_cons_of_mem _ hd.root_taken
    · rw [hnames, List.mem_append, List.mem_singleton, not_or]
      exact ⟨hd.root_free, fun hroot => hfresh (hroot ▸ hd.root_taken)⟩
    · exact ⟨_, List.mem_append_right _ (List.mem_singleton_self _), rfl, List.Subset.refl _⟩
    · intro n hn
      rw [hnames, List.mem_append, List.mem_singleton] at hn
      exact hn

/-! ## What is needed -/

/-- Names that are among some or referred to by a definition whose name is needed. -/
inductive IsNeeded (ds : List Definition) (names : List String) : String → Prop
  | name {n : String} : n ∈ names → IsNeeded ds names n
  | reference {e : Definition} {n : String} : e ∈ ds → IsNeeded ds names e.name →
      n ∈ e.references → IsNeeded ds names n

theorem IsNeeded.trans {ds ds' : List Definition} {names names' : List String} {n : String}
    (h : IsNeeded ds names n) (hds : ds ⊆ ds') (hnames : ∀ m ∈ names, IsNeeded ds' names' m) :
    IsNeeded ds' names' n := by
  induction h with
  | name hn => exact hnames _ hn
  | reference he _ hn ih => exact .reference (hds he) ih hn

theorem IsNeeded.mono {ds ds' : List Definition} {names names' : List String} {n : String}
    (h : IsNeeded ds names n) (hds : ds ⊆ ds') (hnames : names ⊆ names') : IsNeeded ds' names' n :=
  h.trans hds fun _ hm => .name (hnames hm)

/-! ## What is written -/

/-- What is written needs all that has been added for it. -/
structure Written.IsLayered {α : Type} (root : String) (d : Drafting) (w : Written α) : Prop where
  extends_definitions : d.definitions <+: w.drafting.definitions
  drafting : w.drafting.IsLayered root
  references : w.references ⊆ w.drafting.names
  needed : ∀ n ∈ w.drafting.names, n ∈ d.names ∨ IsNeeded w.drafting.definitions w.references n

structure AreTypesFrom (root : String) (d : Drafting) (w : Written (List Parts)) : Prop
    extends w.IsLayered root d where
  parts : ∀ t ∈ w.value, AreParts (IsLeaf True w.references) t
  mentions : (w.value.flatten.flatMap partMentions).eraseDups = w.references.eraseDups

structure AreFieldsFrom (root : String) (d : Drafting) (w : Written (List Field)) : Prop
    extends w.IsLayered root d where
  written : AreWrittenWith w.references w.value

/-- What has been added for two things is needed for one of them. -/
theorem Written.IsLayered.needed_append {α β : Type} {w : Written α} {w' : Written β}
    (h : w.IsLayered root d) (h' : w'.IsLayered root w.drafting) :
    ∀ n ∈ w'.drafting.names, n ∈ d.names ∨
      IsNeeded w'.drafting.definitions (w.references ++ w'.references) n := by
  intro n hn
  rcases h'.needed n hn with hn | hn
  · apply (h.needed n hn).imp_right
    exact fun hn => hn.mono h'.extends_definitions.subset (List.subset_append_left _ _)
  · exact .inr (hn.mono (List.Subset.refl _) (List.subset_append_right _ _))

theorem Written.IsLayered.references_append {α β : Type} {w : Written α} {w' : Written β}
    (h : w.IsLayered root d) (h' : w'.IsLayered root w.drafting) :
    w.references ++ w'.references ⊆ w'.drafting.names :=
  List.append_subset.mpr
    ⟨List.Subset.trans h.references (Drafting.names_mono h'.extends_definitions), h'.references⟩

theorem areTypesFrom_nil (hd : d.IsLayered root) : AreTypesFrom root d ⟨[], [], d⟩ :=
  ⟨⟨List.prefix_refl _, hd, List.nil_subset _, fun _ hn => .inl hn⟩, nofun, rfl⟩

theorem AreTypesFrom.append {w w' : Written (List Parts)} (h : AreTypesFrom root d w)
    (h' : AreTypesFrom root w.drafting w') : AreTypesFrom root d (w.append w') where
  extends_definitions := h.extends_definitions.trans h'.extends_definitions
  drafting := h'.drafting
  references := h.references_append h'.toIsLayered
  needed := h.needed_append h'.toIsLayered
  parts := by
    intro t ht
    rcases List.mem_append.mp ht with ht | ht
    · exact (h.parts t ht).mono fun leaf hleaf => hleaf.mono id (List.subset_append_left _ _)
    · exact (h'.parts t ht).mono fun leaf hleaf => hleaf.mono id (List.subset_append_right _ _)
  mentions := by
    rw [Written.append, List.flatten_append, List.flatMap_append]
    exact eraseDups_append_congr h.mentions h'.mentions

theorem areParts_assemble {references : List String} {detailed : List Parts} (s : Shape)
    (h : ∀ t ∈ detailed, AreParts (IsLeaf True references) t) :
    AreParts (IsLeaf True references) (assemble s detailed) := by
  by_cases hne : plainTypes s ≠ [] ∨ detailed ≠ []
  · have hmem : ∀ {p}, p ∈ assemble s detailed ↔ p ∈ plainTypes s ∨ p ∈ detailed.flatten :=
      mem_assemble hne
    constructor
    · rcases hne with hplain | hdetailed
      · obtain ⟨p, hp⟩ := List.exists_mem_of_ne_nil _ hplain
        exact List.ne_nil_of_mem (hmem.mpr (.inl hp))
      · obtain ⟨t, ht⟩ := List.exists_mem_of_ne_nil _ hdetailed
        obtain ⟨p, hp⟩ := List.exists_mem_of_ne_nil _ (h t ht).ne_nil
        exact List.ne_nil_of_mem (hmem.mpr (.inr (List.mem_flatten.mpr ⟨t, ht, hp⟩)))
    · intro p hp
      rcases hmem.mp hp with hplain | hdetailed
      · obtain ⟨leaf, hleaf, hpart⟩ := isPart_of_mem_plainTypes hplain references
        exact ⟨leaf, hleaf.mono (fun _ => trivial) (List.Subset.refl _), hpart⟩
      · obtain ⟨t, ht, hp⟩ := List.mem_flatten.mp hdetailed
        exact (h t ht).isPart p hp
  · rw [assemble_of_nothing hne]
    refine ⟨List.cons_ne_nil _ _, fun p hp => ?_⟩
    rw [List.mem_singleton.mp hp]
    exact ⟨_, .any trivial, .word (by decide)⟩

theorem AreTypesFrom.asArray {w : Written (List Parts)} (h : AreTypesFrom root d w)
    (items : List Alternative) : AreTypesFrom root d (w.asArray items) where
  extends_definitions := h.extends_definitions
  drafting := h.drafting
  references := h.references
  needed := h.needed
  parts := by
    intro t ht
    rw [List.mem_singleton.mp ht]
    exact (areParts_assemble items h.parts).arrayOf
  mentions := by
    rw [Written.asArray, List.flatten_singleton, (areParts_assemble items h.parts).flatMap_arrayOf,
      eraseDups_flatMap_assemble, h.mentions]

theorem not_mem_builtInWords {name : String} (h : Name.IsCapital name) : name ∉ builtInWords := by
  intro hmem
  have hall : ∀ w ∈ builtInWords, ¬ Name.IsCapital w := by decide
  exact hall name hmem h

theorem AreFieldsFrom.asObject {w : Written (List Field)} (h : AreFieldsFrom root d w)
    (context : String) : AreTypesFrom root d (w.asObject context) := by
  have hdeclared := h.drafting.isDeclared context h.written h.references
  rw [Written.asObject]
  rw [← Written.declare] at hdeclared
  obtain ⟨e, he, hname, hreferences⟩ := hdeclared.definition
  obtain ⟨_, -, hadded⟩ := hdeclared.drafting.definitions.exists_isAddedTo he
  rw [← hname]
  constructor
  · constructor
    · exact h.extends_definitions.trans hdeclared.extends_definitions
    · exact hdeclared.drafting
    · exact List.cons_subset.mpr ⟨List.mem_map_of_mem he, List.nil_subset _⟩
    · intro n hn
      have hself : IsNeeded (w.declare context).2.definitions [e.name] e.name :=
        .name List.mem_cons_self
      rcases hdeclared.names n hn with hn | rfl
      · apply (h.needed n hn).imp_right
        intro hn
        exact hn.trans hdeclared.extends_definitions.subset fun m hm =>
          .reference he hself (hreferences hm)
      · exact .inr (hname ▸ hself)
  · intro t ht
    rw [List.mem_singleton.mp ht]
    refine ⟨List.cons_ne_nil _ _, fun p hp => ?_⟩
    rw [List.mem_singleton.mp hp]
    exact ⟨_, .reference List.mem_cons_self, .word hadded.identifier.isWord⟩
  · have hmentions := (IsPart.word hadded.identifier.isWord).partMentions_eq
    rw [leafNames, if_neg (not_mem_builtInWords hadded.capital)] at hmentions
    rw [List.flatten_singleton, List.flatMap_singleton, hmentions]

mutual

theorem areTypesFrom_draftOne : (a : Alternative) → (context : String) → {d : Drafting} →
    d.IsLayered root → AreTypesFrom root d (draftOne context a d)
  | .null, _, _, hd | .boolean, _, _, hd | .number _, _, _, hd | .string, _, _, hd
  | .array [], _, _, hd | .object [] _, _, _, hd => areTypesFrom_nil hd
  | .array (item :: items), context, d, hd => by
    rw [draftOne_array (List.cons_ne_nil item items)]
    exact (areTypesFrom_typesOf (item :: items) _ hd).asArray (item :: items)
  | .object (f :: fields) required, context, d, hd => by
    rw [draftOne_object (List.cons_ne_nil f fields)]
    exact (areFieldsFrom_fieldsOf (f :: fields) required hd).asObject context

theorem areTypesFrom_typesOf : (s : List Alternative) → (context : String) → {d : Drafting} →
    d.IsLayered root → AreTypesFrom root d (typesOf context s d)
  | [], _, _, hd => areTypesFrom_nil hd
  | a :: s, context, d, hd => by
    have ha := areTypesFrom_draftOne a context hd
    rw [typesOf_cons]
    exact ha.append (areTypesFrom_typesOf s context ha.drafting)

theorem areFieldsFrom_fieldsOf : (fields : List (String × List Alternative)) →
    (required : List String) → {d : Drafting} → d.IsLayered root →
    AreFieldsFrom root d (fieldsOf required fields d)
  | [], _, _, hd => ⟨⟨List.prefix_refl _, hd, List.nil_subset _, fun _ hn => .inl hn⟩, nofun, rfl⟩
  | (key, s) :: fields, required, d, hd => by
    have hs := areTypesFrom_typesOf s key hd
    have hrest := areFieldsFrom_fieldsOf fields required hs.drafting
    rw [fieldsOf]
    refine ⟨⟨?_, hrest.drafting, ?_, ?_⟩, ⟨?_, ?_⟩⟩
    · exact hs.extends_definitions.trans hrest.extends_definitions
    · exact hs.references_append hrest.toIsLayered
    · exact hs.needed_append hrest.toIsLayered
    · intro f hf
      rcases List.mem_cons.mp hf with rfl | hf
      · exact (areParts_assemble s hs.parts).mono fun leaf hleaf =>
          hleaf.mono id (List.subset_append_left _ _)
      · exact (hrest.written.types f hf).mono fun leaf hleaf =>
          hleaf.mono id (List.subset_append_right _ _)
    · rw [List.flatMap_cons]
      exact eraseDups_append_congr ((eraseDups_flatMap_assemble s _).trans hs.mentions)
        hrest.written.mentions

end

end TypeDraft.TypeScript.Basic
