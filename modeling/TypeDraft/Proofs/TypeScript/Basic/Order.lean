import TypeDraft.Proofs.TypeScript.Basic.Emission
import TypeDraft.Proofs.TypeScript.Basic.Walks

/-!
# The order of declarations

The declarations for a sample are the root and all that was declared on the way, each once. They
stand in the order in which they are first mentioned, going down from the root.
-/

namespace TypeDraft.TypeScript.Basic

/-! ## Modules as lists of declarations -/

namespace Module

variable (m : Module)

/-- The definitions beside the root. -/
def shapes : List Definition :=
  match m.root with
  | none => m.definitions.tail
  | some _ => m.definitions

/-- The declarations in order, each with the names that its types mention. -/
def declared : List (String × List String) :=
  m.root.toList.map (fun r => (r.1, r.2.mentions)) ++ m.definitions.map fun e => (e.name, e.mentions)

/-- The names that the declaration of a name mentions. -/
def mentionsOf (n : String) : List String := (m.declared.lookup n).getD []

end Module

/-- What tells the fields of a shape from those of another: key, optional mark and type. -/
def Field.signature (f : Field) : String × Bool × String := (f.key, f.isOptional, f.type.text)

/-- The declarations for a root and for what has been created on the way. -/
structure Module.IsInOrder (name : String) (created : List Definition) (m : Module) : Prop where
  /-- The root comes first. -/
  head : m.names.head? = some name
  /-- Everything that has been created is declared once. -/
  created : m.shapes.Perm created
  nodup : m.names.Nodup
  identifiers : ∀ e ∈ m.shapes, Name.IsIdentifier e.name
  distinct : (m.shapes.map fun e => e.fields.map Field.signature).Nodup
  /-- Names come in the order in which a walk along mentions from the root first meets them. -/
  walk : ∃ walk, Walks m.mentionsOf [name] walk ∧ m.names = walk.eraseDups
  /-- Whatever comes behind the root is mentioned before. -/
  follows : ∀ before d after, m.declared = before ++ d :: after → before ≠ [] →
    ∃ r ∈ before, d.1 ∈ r.2
  closed : ∀ d ∈ m.declared, d.2 ⊆ m.shapes.map Definition.name

/-! ## The root -/

/-- The types in the declaration of the root. -/
def rootOf (name : String) (s : Shape) : Written (List Parts) :=
  let d : Drafting := { taken := [name] }
  match s with
  | [.object (field :: fields) required] =>
    let w := fieldsOf required (field :: fields) d
    { w with value := w.value.map Field.type }
  | [.array (item :: items)] => (typesOf (name ++ "Element") (item :: items) d).asArray (item :: items)
  | s =>
    let w := typesOf name s d
    { w with value := [assemble s w.value] }

theorem isLayered_start (name : String) : Drafting.IsLayered name { taken := [name] } where
  definitions := .nil
  names_taken := List.nil_subset _
  root_taken := List.mem_singleton_self name
  root_free := List.not_mem_nil

theorem areTypesFrom_rootOf (name : String) (s : Shape) :
    AreTypesFrom name { taken := [name] } (rootOf name s) := by
  have hstart := isLayered_start name
  unfold rootOf
  split
  · rename_i field fields required
    have h := areFieldsFrom_fieldsOf (field :: fields) required hstart
    refine ⟨⟨h.extends_definitions, h.drafting, h.references, h.needed⟩, ?_, ?_⟩
    · intro t ht
      obtain ⟨f, hf, rfl⟩ := List.mem_map.mp ht
      exact h.written.types f hf
    · rw [← h.written.mentions, ← List.flatMap_id, List.flatMap_assoc, List.flatMap_map]
      rfl
  · rename_i item items
    exact (areTypesFrom_typesOf (item :: items) _ hstart).asArray (item :: items)
  · have h := areTypesFrom_typesOf s name hstart
    refine ⟨⟨h.extends_definitions, h.drafting, h.references, h.needed⟩, ?_, ?_⟩
    · intro t ht
      rw [List.mem_singleton.mp ht]
      exact areParts_assemble s h.parts
    · rw [List.flatten_singleton, eraseDups_flatMap_assemble, h.mentions]

theorem reached_root {name : String} {d : Drafting} (hd : d.IsLayered name)
    {references : List String} (hreferences : references ⊆ d.names) (fields : List Field) :
    reached (⟨name, fields, references⟩ :: d.definitions) [] [name] =
      ⟨name, fields, references⟩ :: reached d.definitions [] references := by
  have hfind : List.find? (·.name = name) (⟨name, fields, references⟩ :: d.definitions) =
      some ⟨name, fields, references⟩ := List.find?_cons_of_pos (by simp)
  rw [reached_of_find? List.not_mem_nil hfind, List.append_nil, List.nil_append]
  congr 1
  exact reached_cons_of_free ⟨name, fields, references⟩
    (fun e he hmem => hd.root_free (hd.definitions.references he hmem))
    fun hmem => hd.root_free (hreferences hmem)

/-- The root is an object type or an alias, and the shapes that its types need follow. -/
theorem moduleOf_cases (name : String) (s : Shape) :
    (∃ fields : List Field, (rootOf name s).value = fields.map Field.type ∧
      moduleOf name s = ⟨none, ⟨name, fields, (rootOf name s).references⟩ ::
        reached (rootOf name s).drafting.definitions [] (rootOf name s).references⟩) ∨
    ∃ t, (rootOf name s).value = [t] ∧
      moduleOf name s = ⟨some (name, t),
        reached (rootOf name s).drafting.definitions [] (rootOf name s).references⟩ := by
  match s with
  | [.object (f :: fields) required] =>
    have hroot := areTypesFrom_rootOf name [.object (f :: fields) required]
    refine .inl ⟨(fieldsOf required (f :: fields) { taken := [name] }).value, rfl, ?_⟩
    exact congrArg (Module.mk none) (reached_root hroot.drafting hroot.references _)
  | [.array (_ :: _)] => exact .inr ⟨_, rfl, rfl⟩
  | [] | [.null] | [.boolean] | [.number _] | [.string] | [.array []] | [.object [] _]
  | .null :: _ :: _ | .boolean :: _ :: _ | .number _ :: _ :: _ | .string :: _ :: _
  | .array [] :: _ :: _ | .array (_ :: _) :: _ :: _ | .object [] _ :: _ :: _
  | .object (_ :: _) _ :: _ :: _ => exact .inr ⟨_, rfl, rfl⟩

section

variable (name : String) (s : Shape)

theorem shapes_moduleOf : (moduleOf name s).shapes =
    reached (rootOf name s).drafting.definitions [] (rootOf name s).references := by
  rcases moduleOf_cases name s with ⟨fields, -, h⟩ | ⟨t, -, h⟩ <;>
    rw [h] <;> rfl

theorem declared_moduleOf : (moduleOf name s).declared =
    (name, (rootOf name s).value.flatMap Parts.mentions) ::
      (moduleOf name s).shapes.map fun e => (e.name, e.mentions) := by
  rw [shapes_moduleOf]
  rcases moduleOf_cases name s with ⟨fields, hvalue, h⟩ | ⟨t, hvalue, h⟩
  · rw [h, hvalue, List.flatMap_map]
    rfl
  · rw [h, hvalue, List.flatMap_singleton]
    rfl

theorem names_moduleOf : (moduleOf name s).names =
    name :: (moduleOf name s).shapes.map Definition.name := by
  rw [shapes_moduleOf]
  rcases moduleOf_cases name s with ⟨fields, -, h⟩ | ⟨t, -, h⟩ <;>
    rw [h] <;> rfl

end

/-! ## Mentions and references -/

theorem AreWrittenWith.eraseDups_mentions {references : List String} {fields : List Field}
    (h : AreWrittenWith references fields) :
    (fields.flatMap fun f => f.type.mentions).eraseDups = references.eraseDups := by
  have hfields : (fields.flatMap fun f => f.type.mentions) =
      fields.flatMap fun f => f.type.flatMap partMentions :=
    List.flatMap_congr fun f hf => (h.types f hf).mentions_eq
  rw [hfields, h.mentions]

theorem AreLayered.eraseDups_mentions {ds : List Definition} (h : AreLayered ds) {e : Definition}
    (he : e ∈ ds) : e.mentions.eraseDups = e.references.eraseDups := by
  obtain ⟨_, -, hadded⟩ := h.exists_isAddedTo he
  exact hadded.written.eraseDups_mentions

theorem AreTypesFrom.eraseDups_mentions {root : String} {d : Drafting} {w : Written (List Parts)}
    (h : AreTypesFrom root d w) :
    (w.value.flatMap Parts.mentions).eraseDups = w.references.eraseDups := by
  have hparts : w.value.flatMap Parts.mentions = w.value.flatMap fun t => t.flatMap partMentions :=
    List.flatMap_congr fun t ht => (h.parts t ht).mentions_eq
  rw [hparts, ← h.mentions, ← List.flatMap_id, List.flatMap_assoc]
  rfl

/-- Fields that are written alike are the same. -/
theorem AreWrittenWith.eq_of_signatures {references references' : List String}
    {fields fields' : List Field} (h : AreWrittenWith references fields)
    (h' : AreWrittenWith references' fields')
    (heq : fields.map Field.signature = fields'.map Field.signature) : fields = fields' := by
  have htypes := h.types
  have htypes' := h'.types
  clear h h'
  induction fields generalizing fields' with
  | nil => exact (List.map_eq_nil_iff.mp heq.symm).symm
  | cons f fields ih =>
      cases fields' with
      | nil => cases heq
      | cons f' fields' =>
          rw [List.map_cons, List.map_cons, List.cons.injEq] at heq
          rw [List.forall_mem_cons] at htypes htypes'
          obtain ⟨key, isOptional, type⟩ := f
          obtain ⟨key', isOptional', type'⟩ := f'
          simp only [Field.signature, Prod.mk.injEq] at heq
          obtain ⟨⟨rfl, rfl, htext⟩, hrest⟩ := heq
          obtain rfl : type = type' := htypes.1.eq_of_text htypes'.1 htext
          rw [ih hrest htypes.2 htypes'.2]

/-! ## All that is declared -/

theorem AreReached.mem_of_isNeeded {E ds : List Definition} {names : List String}
    (h : AreReached E [] names ds) (hE : AreLayered E) (hnames : names ⊆ E.map Definition.name)
    {n : String} (hn : IsNeeded E names n) : n ∈ ds.map Definition.name := by
  induction hn with
  | name hn => exact (h.covers _ hn (hnames hn)).resolve_left List.not_mem_nil
  | @reference e n he _ hn ih =>
      obtain ⟨e', he', heq⟩ := List.mem_map.mp ih
      obtain rfl := List.inj_on_of_nodup_map hE.nodup_names (h.subset he') he heq
      exact (h.closed e' he' n hn (hE.references he hn)).resolve_left List.not_mem_nil

section

variable (name : String) (s : Shape)

theorem mem_shapes_iff {e : Definition} :
    e ∈ (moduleOf name s).shapes ↔ e ∈ (rootOf name s).drafting.definitions := by
  have hroot := areTypesFrom_rootOf name s
  have hreached := areReached_reached (rootOf name s).drafting.definitions []
    (rootOf name s).references
  rw [shapes_moduleOf]
  refine ⟨fun he => hreached.subset he, fun he => ?_⟩
  have hneeded := (hroot.needed e.name (List.mem_map_of_mem he)).resolve_left List.not_mem_nil
  obtain ⟨e', he', heq⟩ := List.mem_map.mp
    (hreached.mem_of_isNeeded hroot.drafting.definitions hroot.references hneeded)
  exact List.inj_on_of_nodup_map hroot.drafting.definitions.nodup_names (hreached.subset he') he
    heq ▸ he'

theorem nodup_names_moduleOf : (moduleOf name s).names.Nodup := by
  have hroot := areTypesFrom_rootOf name s
  rw [names_moduleOf, List.nodup_cons, shapes_moduleOf]
  have hreached := areReached_reached (rootOf name s).drafting.definitions []
    (rootOf name s).references
  exact ⟨fun hmem => hroot.drafting.root_free (List.map_subset _ hreached.subset hmem),
    hreached.nodup⟩

theorem mentionsOf_root :
    (moduleOf name s).mentionsOf name = (rootOf name s).value.flatMap Parts.mentions := by
  rw [Module.mentionsOf, declared_moduleOf, List.lookup_cons_self, Option.getD_some]

theorem mentionsOf_shape {e : Definition} (he : e ∈ (moduleOf name s).shapes) :
    (moduleOf name s).mentionsOf e.name = e.mentions := by
  have hnodup := nodup_names_moduleOf name s
  rw [names_moduleOf] at hnodup
  have hkeys : ((moduleOf name s).declared.map Prod.fst).Nodup := by
    rw [declared_moduleOf, List.map_cons, List.map_map]
    exact hnodup
  have hmem : (e.name, e.mentions) ∈ (moduleOf name s).declared := by
    rw [declared_moduleOf]
    exact List.mem_cons_of_mem _ (List.mem_map.mpr ⟨e, he, rfl⟩)
  rw [Module.mentionsOf, lookup_of_mem hkeys hmem, Option.getD_some]

theorem exists_walk_moduleOf : ∃ walk, Walks (moduleOf name s).mentionsOf [name] walk ∧
    (moduleOf name s).names = walk.eraseDups := by
  have hroot := areTypesFrom_rootOf name s
  have hlayers := hroot.drafting.definitions
  have hmentions : ∀ e ∈ (rootOf name s).drafting.definitions,
      ((moduleOf name s).mentionsOf e.name).eraseDups = e.references.eraseDups := by
    intro e he
    rw [mentionsOf_shape name s ((mem_shapes_iff name s).mpr he), hlayers.eraseDups_mentions he]
  have hroots := hroot.eraseDups_mentions
  obtain ⟨below, hbelow, hsub⟩ := hlayers.exists_walks
    (fun e he => subset_of_eraseDups_eq (hmentions e he))
    (List.Subset.trans (subset_of_eraseDups_eq hroots) hroot.references)
  have hwalk : Walks (moduleOf name s).mentionsOf [name] (name :: below ++ []) :=
    .cons (mentionsOf_root name s ▸ hbelow) .nil
  refine ⟨_, hwalk, ?_⟩
  have hfree : name ∉ below := fun hmem => hroot.drafting.root_free (hsub hmem)
  have horder := eraseDups_append_walk hmentions hbelow List.nodup_nil
    (fun _ _ hn => absurd hn List.not_mem_nil) hsub
  rw [reached_congr hroots, List.nil_append, List.nil_append] at horder
  have hrest : below.filter (fun n => !n == name) = below :=
    List.filter_eq_self.mpr fun n hn => by
      have hne : n ≠ name := fun heq => hfree (heq ▸ hn)
      simpa using hne
  rw [names_moduleOf, shapes_moduleOf, List.append_nil, List.eraseDups_cons, hrest, horder]

theorem exists_mention_before (before : List (String × List String)) (d : String × List String)
    (after : List (String × List String))
    (hsplit : (moduleOf name s).declared = before ++ d :: after) (hbefore : before ≠ []) :
    ∃ r ∈ before, d.1 ∈ r.2 := by
  have hroot := areTypesFrom_rootOf name s
  obtain ⟨r, before, rfl⟩ := List.exists_cons_of_ne_nil hbefore
  rw [declared_moduleOf, List.cons_append, List.cons.injEq, List.map_eq_append_iff] at hsplit
  obtain ⟨rfl, shapes, rest, hshapes, rfl, hrest⟩ := hsplit
  obtain ⟨e, rest, rfl, rfl, -⟩ := List.map_eq_cons_iff.mp hrest
  rw [shapes_moduleOf] at hshapes
  rcases reached_follows _ _ _ shapes e rest hshapes with hmem | ⟨d, hd, hmem⟩
  · exact ⟨_, List.mem_cons_self, subset_of_eraseDups_eq hroot.eraseDups_mentions.symm hmem⟩
  · have hdefinition : d ∈ (rootOf name s).drafting.definitions := by
      rw [← mem_shapes_iff, shapes_moduleOf, hshapes]
      exact List.mem_append_left _ hd
    have hmention := subset_of_eraseDups_eq
      (hroot.drafting.definitions.eraseDups_mentions hdefinition).symm hmem
    exact ⟨_, List.mem_cons_of_mem _ (List.mem_map.mpr ⟨d, hd, rfl⟩), hmention⟩

/-- Whatever the shape, its declarations are in order. -/
theorem isInOrder_moduleOf :
    (moduleOf name s).IsInOrder name (rootOf name s).drafting.definitions := by
  have hroot := areTypesFrom_rootOf name s
  have hlayers := hroot.drafting.definitions
  have hnodup := nodup_names_moduleOf name s
  rw [names_moduleOf, List.nodup_cons] at hnodup
  have hdefinition : ∀ e ∈ (moduleOf name s).shapes, e ∈ (rootOf name s).drafting.definitions :=
    fun e he => (mem_shapes_iff name s).mp he
  have hnames : (rootOf name s).drafting.names ⊆ (moduleOf name s).shapes.map Definition.name :=
    List.map_subset _ fun e he => (mem_shapes_iff name s).mpr he
  constructor
  · rw [names_moduleOf, List.head?_cons]
  · rw [List.perm_ext_iff_of_nodup hnodup.2.of_map hlayers.nodup_names.of_map]
    exact fun e => mem_shapes_iff name s
  · exact nodup_names_moduleOf name s
  · intro e he
    obtain ⟨_, -, hadded⟩ := hlayers.exists_isAddedTo (hdefinition e he)
    exact hadded.identifier
  · refine hnodup.2.of_map.map_on fun e he e' he' heq => ?_
    obtain ⟨_, -, hadded⟩ := hlayers.exists_isAddedTo (hdefinition e he)
    obtain ⟨_, -, hadded'⟩ := hlayers.exists_isAddedTo (hdefinition e' he')
    exact List.inj_on_of_nodup_map hlayers.nodup_fields (hdefinition e he) (hdefinition e' he')
      (hadded.written.eq_of_signatures hadded'.written heq)
  · exact exists_walk_moduleOf name s
  · exact exists_mention_before name s
  · rw [declared_moduleOf, List.forall_mem_cons, List.forall_mem_map]
    constructor
    · exact List.Subset.trans (subset_of_eraseDups_eq hroot.eraseDups_mentions)
        (List.Subset.trans hroot.references hnames)
    · intro e he
      exact List.Subset.trans (subset_of_eraseDups_eq (hlayers.eraseDups_mentions (hdefinition e he)))
        (List.Subset.trans (hlayers.references (hdefinition e he)) hnames)

end

/-- The text for a sample joins its declarations: the root, and every shape that is created on the
way just once, in the order in which they are first mentioned on a walk down from the root. Their
names differ, no two shapes have the same fields, and all that a type mentions is declared. There is
a text for every normal sample that does not nest too deeply. -/
theorem draft_joins_shapes_in_order (style : Style) (name : String) (v : Value) :
    (v.isNormal → v.tooDeepFor inferenceCost = false → ∃ text, draft style name v = .ok text) ∧
    ∀ text, draft style name v = .ok text →
      text = (moduleOf name (Shape.ofValue v)).text style ∧
      (moduleOf name (Shape.ofValue v)).IsInOrder name
        (rootOf name (Shape.ofValue v)).drafting.definitions := by
  refine ⟨fun hnormal hdepth => ⟨_, draft_eq_ok hnormal hdepth⟩, fun text htext => ?_⟩
  exact ⟨eq_text_of_draft htext, isInOrder_moduleOf name _⟩

/-- Two shapes share a name, and another that would go by it gets a number. -/
theorem draft_joins_shapes_in_order_shared :
    let v : Value := .obj [("items", .arr [.obj [("at", .obj [("x", .int 1)])]]),
      ("item", .obj [("at", .obj [("x", .int 2)])]), ("Item", .obj [("y\n", .null)])]
    ∃ text, draft .interface "Root" v = .ok text ∧
      text = (moduleOf "Root" (Shape.ofValue v)).text .interface ∧
      (moduleOf "Root" (Shape.ofValue v)).IsInOrder "Root"
        (rootOf "Root" (Shape.ofValue v)).drafting.definitions := by
  intro v
  obtain ⟨hexists, horder⟩ := draft_joins_shapes_in_order .interface "Root" v
  obtain ⟨text, htext⟩ := hexists (by decide) (by decide)
  exact ⟨text, htext, horder text htext⟩

end TypeDraft.TypeScript.Basic
