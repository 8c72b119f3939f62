import TypeDraft.Proofs.Name.Word
import TypeDraft.Proofs.TypeScript.Basic.Places
import TypeDraft.Proofs.TypeScript.Basic.Unions

/-!
# What is drafted for some values

A walk through the shape of some values only adds definitions, under fresh names that are words. The
types that it writes are made of plain sorts and of names that are defined by then.
-/

namespace TypeDraft.TypeScript.Basic

open Schema (objects gatheredItems IsPlain)
open Shape (IsAlternativeOf AreAlternativesOf AreFieldsOf plainName?)

/-- The words that plain types are made of. -/
def plainWords : List String := ["null", "boolean", "number", "string", "any"]

/-- What the types of a place are made of. Any value is admitted only by arrays that have no
items. -/
inductive IsLeaf (bare : Prop) (references : List String) : Ty → Prop
  | dictionary : IsLeaf bare references .dictionary
  | plain {name : String} : name ∈ ["null", "boolean", "number", "string"] →
      IsLeaf bare references (.named name)
  | any : bare → IsLeaf bare references (.named "any")
  | reference {name : String} : name ∈ references → IsLeaf bare references (.named name)

theorem IsLeaf.mono {bare bare' : Prop} {references references' : List String} {leaf : Ty}
    (h : IsLeaf bare references leaf) (hbare : bare → bare') (hsub : references ⊆ references') :
    IsLeaf bare' references' leaf := by
  cases h with
  | dictionary => exact .dictionary
  | plain h => exact .plain h
  | any h => exact .any (hbare h)
  | reference h => exact .reference (hsub h)

theorem AreParts.mono {P Q : Ty → Prop} {t : Parts} (h : AreParts P t)
    (hsub : ∀ leaf, P leaf → Q leaf) : AreParts Q t where
  ne_nil := h.ne_nil
  isPart := by
    intro p hp
    obtain ⟨leaf, hleaf, hpart⟩ := h.isPart p hp
    exact ⟨leaf, hsub leaf hleaf, hpart⟩

/-! ## Definitions -/

structure AreSoundFields (references : List String) (fields : List Field) : Prop where
  nodup_keys : (fields.map Field.key).Nodup
  onOneLine : ∀ f ∈ fields, OnOneLine f.key
  types : ∀ f ∈ fields, AreParts (IsLeaf True references) f.type

structure Definition.IsSound (names : List String) (e : Definition) : Prop where
  word : IsWord e.name
  not_plain : e.name ∉ plainWords
  fields : AreSoundFields e.references e.fields
  references : e.references ⊆ names

def Drafting.names (d : Drafting) : List String := d.definitions.map Definition.name

/-- What is kept up while definitions are added; the name of the root stays free. -/
structure Drafting.IsSound (root : String) (d : Drafting) : Prop where
  nodup : d.names.Nodup
  names_taken : d.names ⊆ d.taken
  root_taken : root ∈ d.taken
  root_free : root ∉ d.names
  definitions : ∀ e ∈ d.definitions, e.IsSound d.names

theorem not_mem_plainWords {name : String} (h : Name.IsCapital name) : name ∉ plainWords := by
  intro hmem
  have hall : ∀ w ∈ plainWords, ¬ Name.IsCapital w := by decide
  exact hall name hmem h

variable {root : String} {d : Drafting}

theorem Drafting.names_mono {d' : Drafting} (h : d.definitions <+: d'.definitions) :
    d.names ⊆ d'.names := List.map_subset _ h.subset

theorem Drafting.exists_mem_declare (d : Drafting) (name : String) (fields : List Field)
    (references : List String) :
    ∃ e ∈ (d.declare name fields references).2.definitions,
      e.name = (d.declare name fields references).1 ∧ e.fields = fields := by
  unfold Drafting.declare
  split
  · rename_i same hsame
    have hfields := List.find?_some hsame
    exact ⟨same, List.mem_of_find?_eq_some hsame, rfl, of_decide_eq_true hfields⟩
  · exact ⟨_, List.mem_append_right _ List.mem_cons_self, rfl, rfl⟩

theorem Drafting.prefix_declare (d : Drafting) (name : String) (fields : List Field)
    (references : List String) :
    d.definitions <+: (d.declare name fields references).2.definitions := by
  unfold Drafting.declare
  split
  · exact List.prefix_refl _
  · exact List.prefix_append _ _

theorem Drafting.IsSound.declare (hd : d.IsSound root) {name : String} (hword : IsWord name)
    (hcapital : Name.IsCapital name) {fields : List Field} {references : List String}
    (hfields : AreSoundFields references fields) (hreferences : references ⊆ d.names) :
    (d.declare name fields references).2.IsSound root := by
  have hprefix := Drafting.names_mono (d.prefix_declare name fields references)
  unfold Drafting.declare at hprefix ⊢
  split
  · exact hd
  · rename_i hnone
    rw [hnone] at hprefix
    have hfresh := Name.unique_not_mem name d.taken
    have hnames : Drafting.names ⟨d.definitions ++ [⟨Name.unique name d.taken, fields, references⟩],
        Name.unique name d.taken :: d.taken⟩ = d.names ++ [Name.unique name d.taken] := by
      simp [Drafting.names]
    have hnew : Definition.IsSound d.names ⟨Name.unique name d.taken, fields, references⟩ :=
      ⟨Name.isWord_unique hword _, not_mem_plainWords (Name.isCapital_unique hword hcapital _),
        hfields, hreferences⟩
    constructor
    · rw [hnames]
      apply hd.nodup.append (List.nodup_singleton _)
      intro n hn hmem
      rw [List.mem_singleton.mp hmem] at hn
      exact hfresh (hd.names_taken hn)
    · rw [hnames]
      refine List.append_subset.mpr ⟨fun n hn => ?_, fun n hn => ?_⟩
      · exact List.mem_cons_of_mem _ (hd.names_taken hn)
      · rw [List.mem_singleton.mp hn]
        exact List.mem_cons_self
    · exact List.mem_cons_of_mem _ hd.root_taken
    · rw [hnames, List.mem_append, List.mem_singleton, not_or]
      exact ⟨hd.root_free, fun heq => hfresh (heq ▸ hd.root_taken)⟩
    · intro e he
      have hsound : e.IsSound d.names := by
        rcases List.mem_append.mp he with he | he
        · exact hd.definitions e he
        · rw [List.mem_singleton.mp he]
          exact hnew
      exact { hsound with references := List.Subset.trans hsound.references hprefix }

/-! ## What is written -/

/-- What is written refers to definitions that are there by then. -/
structure Written.IsSound {α : Type} (root : String) (d : Drafting) (w : Written α) : Prop where
  extends_definitions : d.definitions <+: w.drafting.definitions
  drafting : w.drafting.IsSound root
  references : w.references ⊆ w.drafting.names

/-- What is written for some alternatives, beside those that are known by their sort alone. -/
structure IsDraftOf (root : String) (d : Drafting) (s : List Alternative)
    (w : Written (List Parts)) : Prop extends w.IsSound root d where
  parts : ∀ t ∈ w.value, AreParts (IsLeaf (AnyHasBareArrays s) w.references) t
  no_null : ∀ t ∈ w.value, "null" ∉ t
  mentions : ∀ n ∈ w.references, ∃ t ∈ w.value, ∃ p ∈ t, IsPart p (.named n)
  length_le : (plainTypes s).length + w.value.flatten.length ≤ sortCountOfAll s
  nonempty : s ≠ [] → plainTypes s ≠ [] ∨ w.value ≠ []

structure IsFieldsDraftOf (root : String) (d : Drafting)
    (fields : List (String × List Alternative)) (w : Written (List Field)) : Prop
    extends w.IsSound root d where
  keys : w.value.map Field.key = fields.map Prod.fst
  types : ∀ f ∈ w.value, AreParts (IsLeaf True w.references) f.type
  mentions : ∀ n ∈ w.references, ∃ f ∈ w.value, ∃ p ∈ f.type, IsPart p (.named n)

theorem mem_plainTypes {s : Shape} {p : String} :
    p ∈ plainTypes s ↔ ∃ a ∈ s, ∃ name, plainName? a = some name ∧ plainType name = p := by
  simp only [plainTypes, Shape.plainNames, List.mem_map, List.mem_mergeSort, List.mem_filterMap]
  constructor
  · rintro ⟨name, ⟨a, ha, hname⟩, rfl⟩
    exact ⟨a, ha, name, hname, rfl⟩
  · rintro ⟨a, ha, name, hname, rfl⟩
    exact ⟨name, ⟨a, ha, hname⟩, rfl⟩

theorem length_plainTypes (s : Shape) : (plainTypes s).length = (s.filterMap plainName?).length := by
  rw [plainTypes, Shape.plainNames, List.length_map, List.length_mergeSort]

theorem length_plainTypes_cons (a : Alternative) (s : List Alternative) :
    (plainTypes (a :: s)).length = (plainTypes [a]).length + (plainTypes s).length := by
  rw [length_plainTypes, length_plainTypes, length_plainTypes, ← List.length_append,
    ← List.filterMap_append, List.singleton_append]

theorem plainTypes_singleton {a : Alternative} (h : plainName? a = none) : plainTypes [a] = [] := by
  apply List.eq_nil_iff_forall_not_mem.mpr
  intro p hp
  obtain ⟨b, hb, name, hname, -⟩ := mem_plainTypes.mp hp
  rw [List.mem_singleton.mp hb, h] at hname
  cases hname

theorem isPart_plainType {a : Alternative} {name : String} (h : plainName? a = some name)
    (references : List String) :
    ∃ leaf, IsLeaf (HasBareArrays a) references leaf ∧ IsPart (plainType name) leaf := by
  have hword : ∀ n ∈ ["null", "boolean", "number", "string"],
      ∃ leaf, IsLeaf (HasBareArrays a) references leaf ∧ IsPart n leaf := by
    intro n hn
    have hall : ∀ m ∈ ["null", "boolean", "number", "string"], IsWord m := by decide
    exact ⟨_, .plain hn, .word (hall n hn)⟩
  match a, h with
  | .null, rfl | .boolean, rfl | .string, rfl => exact hword _ (by decide)
  | .number whole, h =>
    obtain rfl := Option.some.inj h
    cases whole <;> exact hword "number" (by decide)
  | .array [], rfl =>
    have hany : IsWord "any" := by decide
    exact ⟨_, .any (Or.inl rfl), (IsPart.word hany).array⟩
  | .object [] _, rfl => exact ⟨_, .dictionary, .dictionary⟩

section

variable {s : List Alternative} {w : Written (List Parts)}

theorem isPart_of_mem_plainTypes {p : String} (h : p ∈ plainTypes s) (references : List String) :
    ∃ leaf, IsLeaf (AnyHasBareArrays s) references leaf ∧ IsPart p leaf := by
  obtain ⟨a, ha, name, hname, rfl⟩ := mem_plainTypes.mp h
  obtain ⟨leaf, hleaf, hpart⟩ := isPart_plainType hname references
  refine ⟨leaf, hleaf.mono (fun hbare => ?_) (List.Subset.refl _), hpart⟩
  exact anyHasBareArrays_iff.mpr ⟨a, ha, hbare⟩

/-- The type of a place is made of parts, no more than there are sorts of values. -/
theorem IsDraftOf.assemble (h : IsDraftOf root d s w) (hs : s ≠ []) :
    AreParts (IsLeaf (AnyHasBareArrays s) w.references) (assemble s w.value) ∧
      (assemble s w.value).length ≤ sortCountOfAll s ∧
      "null" ∉ (assemble s w.value).dropLast := by
  have hne := h.nonempty hs
  refine ⟨⟨?_, ?_⟩, (length_assemble_le hne).trans h.length_le,
    null_not_mem_dropLast_assemble hne h.no_null⟩
  · have hmem : ∃ p, p ∈ Basic.assemble s w.value := by
      rcases h.nonempty hs with hplain | hdetailed
      · obtain ⟨p, hp⟩ := List.exists_mem_of_ne_nil _ hplain
        exact ⟨p, (mem_assemble hne).mpr (Or.inl hp)⟩
      · obtain ⟨t, ht⟩ := List.exists_mem_of_ne_nil _ hdetailed
        obtain ⟨p, hp⟩ := List.exists_mem_of_ne_nil _ (h.parts t ht).ne_nil
        exact ⟨p, (mem_assemble hne).mpr (Or.inr (List.mem_flatten.mpr ⟨t, ht, hp⟩))⟩
    obtain ⟨p, hp⟩ := hmem
    exact List.ne_nil_of_mem hp
  · intro p hp
    rcases (mem_assemble hne).mp hp with hplain | hdetailed
    · exact isPart_of_mem_plainTypes hplain _
    · obtain ⟨t, ht, hp⟩ := List.mem_flatten.mp hdetailed
      exact (h.parts t ht).isPart p hp

theorem IsDraftOf.mentions_assemble (h : IsDraftOf root d s w) (hs : s ≠ []) :
    ∀ n ∈ w.references, ∃ p ∈ Basic.assemble s w.value, IsPart p (.named n) := by
  intro n hn
  obtain ⟨t, ht, p, hp, hpart⟩ := h.mentions n hn
  exact ⟨p, (mem_assemble (h.nonempty hs)).mpr (Or.inr (List.mem_flatten.mpr ⟨t, ht, hp⟩)), hpart⟩

theorem isDraftOf_nil (hd : d.IsSound root) : IsDraftOf root d [] ⟨[], [], d⟩ where
  extends_definitions := List.prefix_refl _
  drafting := hd
  references := List.nil_subset _
  parts := nofun
  no_null := nofun
  mentions := nofun
  length_le := by simp [length_plainTypes]
  nonempty := fun h => absurd rfl h

theorem isDraftOf_plain (hd : d.IsSound root) {a : Alternative} {name : String}
    (h : plainName? a = some name) : IsDraftOf root d [a] ⟨[], [], d⟩ where
  extends_definitions := List.prefix_refl _
  drafting := hd
  references := List.nil_subset _
  parts := nofun
  no_null := nofun
  mentions := nofun
  length_le := by
    rw [length_plainTypes, List.filterMap_cons_some h]
    match a, h with
    | .null, _ | .boolean, _ | .number _, _ | .string, _ | .array [], _ | .object [] _, _ =>
      exact Nat.le_refl 1
  nonempty := fun _ => Or.inl (List.ne_nil_of_mem (mem_plainTypes.mpr
    ⟨a, List.mem_singleton_self a, name, h, rfl⟩))

theorem IsDraftOf.append {a : Alternative} {w' : Written (List Parts)}
    (h : IsDraftOf root d [a] w) (h' : IsDraftOf root w.drafting s w') :
    IsDraftOf root d (a :: s) (w.append w') where
  extends_definitions := h.extends_definitions.trans h'.extends_definitions
  drafting := h'.drafting
  references := by
    refine List.append_subset.mpr ⟨?_, h'.references⟩
    exact List.Subset.trans h.references (Drafting.names_mono h'.extends_definitions)
  parts := by
    intro t ht
    rcases List.mem_append.mp ht with ht | ht
    · refine (h.parts t ht).mono fun leaf hleaf => hleaf.mono (fun hbare => ?_) ?_
      · exact hbare.imp_right nofun
      · exact List.subset_append_left _ _
    · apply (h'.parts t ht).mono
      intro leaf hleaf
      apply hleaf.mono Or.inr
      exact List.subset_append_right _ _
  no_null := by
    intro t ht
    rcases List.mem_append.mp ht with ht | ht
    · exact h.no_null t ht
    · exact h'.no_null t ht
  mentions := by
    intro n hn
    rcases List.mem_append.mp hn with hn | hn
    · obtain ⟨t, ht, hpart⟩ := h.mentions n hn
      exact ⟨t, List.mem_append_left _ ht, hpart⟩
    · obtain ⟨t, ht, hpart⟩ := h'.mentions n hn
      exact ⟨t, List.mem_append_right _ ht, hpart⟩
  length_le := by
    have hleft := h.length_le
    have hright := h'.length_le
    rw [sortCountOfAll, sortCountOfAll, Nat.add_zero] at hleft
    rw [length_plainTypes_cons, sortCountOfAll, Written.append, List.flatten_append,
      List.length_append]
    omega
  nonempty := by
    intro _
    rcases h.nonempty (List.cons_ne_nil a []) with hplain | hdetailed
    · obtain ⟨p, hp⟩ := List.exists_mem_of_ne_nil _ hplain
      obtain ⟨b, hb, name, hname, -⟩ := mem_plainTypes.mp hp
      obtain rfl := List.mem_singleton.mp hb
      exact Or.inl (List.ne_nil_of_mem (mem_plainTypes.mpr ⟨b, List.mem_cons_self, name, hname, rfl⟩))
    · exact Or.inr (List.append_ne_nil_of_left_ne_nil hdetailed _)

end

/-! ## The walk -/

theorem isDraftOf_array {items : List Alternative} (hne : items ≠ []) {context : String}
    (h : IsDraftOf root d items (typesOf (Name.singularize context) items d)) :
    IsDraftOf root d [.array items] (draftOne context (.array items) d) := by
  obtain ⟨hparts, hlength, hnull⟩ := h.assemble hne
  rw [draftOne_array hne]
  constructor
  · exact ⟨h.extends_definitions, h.drafting, h.references⟩
  · intro t ht
    rw [List.mem_singleton.mp ht]
    exact hparts.arrayOf.mono fun leaf hleaf =>
      hleaf.mono (fun hbare => Or.inl (Or.inr hbare)) (List.Subset.refl _)
  · intro t ht
    rw [List.mem_singleton.mp ht]
    exact null_not_mem_arrayOf hparts.ne_nil hnull
  · intro n hn
    obtain ⟨p, hp, hpart⟩ := h.mentions_assemble hne n hn
    exact ⟨_, List.mem_singleton_self _, exists_mem_arrayOf hp hpart⟩
  · have hempty : items.isEmpty = false := List.isEmpty_eq_false_iff.mpr hne
    have hplain : plainName? (.array items) = none := by
      obtain ⟨item, items, rfl⟩ := List.exists_cons_of_ne_nil hne
      rfl
    rw [plainTypes_singleton hplain, sortCountOfAll, sortCountOfAll, sortCount, hempty,
      Written.asArray, List.flatten_singleton, length_arrayOf hparts.ne_nil]
    simpa using hlength
  · exact fun _ => Or.inr (List.cons_ne_nil _ _)

theorem IsFieldsDraftOf.areSoundFields {fields : List (String × List Alternative)}
    {w : Written (List Field)} (h : IsFieldsDraftOf root d fields w)
    (hnodup : (fields.map Prod.fst).Nodup) (hkeys : ∀ f ∈ fields, OnOneLine f.1) :
    AreSoundFields w.references w.value := by
  refine ⟨h.keys ▸ hnodup, fun f hf => ?_, h.types⟩
  have hmem : f.key ∈ fields.map Prod.fst := h.keys ▸ List.mem_map_of_mem hf
  obtain ⟨g, hg, hkey⟩ := List.mem_map.mp hmem
  exact hkey ▸ hkeys g hg

theorem isDraftOf_object {fields : List (String × List Alternative)} (hne : fields ≠ [])
    {context : String} {required : List String}
    (h : IsFieldsDraftOf root d fields (fieldsOf required fields d))
    (hnodup : (fields.map Prod.fst).Nodup) (hkeys : ∀ f ∈ fields, OnOneLine f.1) :
    IsDraftOf root d [.object fields required] (draftOne context (.object fields required) d) := by
  rw [draftOne_object hne, Written.asObject]
  generalize fieldsOf required fields d = w at h
  obtain ⟨hword, hcapital⟩ := Name.isWord_pascalCase context
  have hfields := h.areSoundFields hnodup hkeys
  have hsound := h.drafting.declare hword hcapital hfields h.references
  obtain ⟨e, he, hname, -⟩ :=
    w.drafting.exists_mem_declare (Name.pascalCase context) w.value w.references
  have hprefix := w.drafting.prefix_declare (Name.pascalCase context) w.value w.references
  rw [← Written.declare] at hsound he hname hprefix
  have he_sound := hsound.definitions e he
  constructor
  · refine ⟨h.extends_definitions.trans hprefix, hsound, ?_⟩
    intro n hn
    rw [List.mem_singleton.mp hn, ← hname]
    exact List.mem_map_of_mem he
  · intro t ht
    rw [List.mem_singleton.mp ht]
    refine ⟨List.cons_ne_nil _ _, fun p hp => ?_⟩
    rw [List.mem_singleton.mp hp]
    exact ⟨_, .reference List.mem_cons_self, .word (hname ▸ he_sound.word)⟩
  · intro t ht hnull
    rw [List.mem_singleton.mp ht, List.mem_singleton, ← hname] at hnull
    exact he_sound.not_plain (hnull ▸ List.mem_cons_self)
  · intro n hn
    rw [List.mem_singleton.mp hn]
    exact ⟨_, List.mem_singleton_self _, _, List.mem_singleton_self _,
      .word (hname ▸ he_sound.word)⟩
  · have hplain : plainName? (.object fields required) = none := by
      obtain ⟨f, fields, rfl⟩ := List.exists_cons_of_ne_nil hne
      rfl
    rw [plainTypes_singleton hplain]
    exact Nat.le_refl 1
  · exact fun _ => Or.inr (List.cons_ne_nil _ _)

theorem onOneLine_of_areFieldsOf {vs : List Value} (hvs : ∀ v ∈ vs, IsPlain OnOneLine v)
    {fields : List (String × List Alternative)} (h : AreFieldsOf (objects vs) fields) :
    ∀ f ∈ fields, OnOneLine f.1 := by
  intro f hf
  obtain ⟨v, hv⟩ := List.exists_mem_of_ne_nil _ (Shape.under_ne_nil (h.occurs f hf))
  obtain ⟨object, hobject, hlookup⟩ := Shape.mem_under.mp hv
  exact (Schema.isPlain_of_lookup hvs hobject hlookup).1

theorem isPlain_of_mem_under {vs : List Value} (hvs : ∀ v ∈ vs, IsPlain OnOneLine v) {key : String} :
    ∀ v ∈ Shape.under key (objects vs), IsPlain OnOneLine v := by
  intro v hv
  obtain ⟨object, hobject, hlookup⟩ := Shape.mem_under.mp hv
  exact (Schema.isPlain_of_lookup hvs hobject hlookup).2

theorem areAlternativesOf_field {vs : List Value} (hvs : ∀ v ∈ vs, IsPlain OnOneLine v)
    {key : String} {s : List Alternative} {fields : List (String × List Alternative)}
    (h : AreFieldsOf (objects vs) ((key, s) :: fields)) :
    AreAlternativesOf (Shape.under key (objects vs)) s := by
  have hshape : s = _ := h.shapes (key, s) List.mem_cons_self
  rw [hshape]
  exact Shape.areAlternativesOf_ofAll fun v hv => (isPlain_of_mem_under hvs v hv).1

theorem ne_nil_of_areFieldsOf {vs : List Value} (hvs : ∀ v ∈ vs, IsPlain OnOneLine v)
    {key : String} {s : List Alternative} {fields : List (String × List Alternative)}
    (h : AreFieldsOf (objects vs) ((key, s) :: fields)) : s ≠ [] := by
  have hshape : s = _ := h.shapes (key, s) List.mem_cons_self
  rw [hshape]
  exact Shape.ofAll_ne_nil (fun v hv => (isPlain_of_mem_under hvs v hv).1)
    (Shape.under_ne_nil (h.occurs (key, s) List.mem_cons_self))

mutual

theorem isDraftOf_draftOne : (a : Alternative) → (context : String) → {vs : List Value} →
    {d : Drafting} → (∀ v ∈ vs, IsPlain OnOneLine v) → IsAlternativeOf vs a → d.IsSound root →
    IsDraftOf root d [a] (draftOne context a d)
  | .null, _, _, _, _, _, hd | .boolean, _, _, _, _, _, hd | .number _, _, _, _, _, _, hd
  | .string, _, _, _, _, _, hd | .array [], _, _, _, _, _, hd
  | .object [] _, _, _, _, _, _, hd => isDraftOf_plain hd rfl
  | .array (item :: items), _, _, _, hvs, ha, hd =>
    isDraftOf_array (List.cons_ne_nil item items)
      (isDraftOf_typesOf (item :: items) _
        (fun _ hv => Schema.isPlain_of_mem_gatheredItems hvs hv)
        (ha.areAlternativesOf_items fun v hv => (hvs v hv).1) hd)
  | .object (f :: fields) _, _, _, _, hvs, ha, hd =>
    isDraftOf_object (List.cons_ne_nil f fields) (isFieldsDraftOf_fieldsOf (f :: fields) _ hvs ha.fields hd)
      ha.fields.nodup (onOneLine_of_areFieldsOf hvs ha.fields)

theorem isDraftOf_typesOf : (s : List Alternative) → (context : String) → {vs : List Value} →
    {d : Drafting} → (∀ v ∈ vs, IsPlain OnOneLine v) → AreAlternativesOf vs s → d.IsSound root →
    IsDraftOf root d s (typesOf context s d)
  | [], _, _, _, _, _, hd => isDraftOf_nil hd
  | a :: s, context, _, d, hvs, hs, hd => by
    have ha := isDraftOf_draftOne a context hvs (hs.each a List.mem_cons_self) hd
    rw [typesOf_cons]
    exact ha.append (isDraftOf_typesOf s context hvs hs.tail ha.drafting)

theorem isFieldsDraftOf_fieldsOf : (fields : List (String × List Alternative)) →
    (required : List String) → {vs : List Value} → {d : Drafting} →
    (∀ v ∈ vs, IsPlain OnOneLine v) → AreFieldsOf (objects vs) fields → d.IsSound root →
    IsFieldsDraftOf root d fields (fieldsOf required fields d)
  | [], _, _, _, _, _, hd => ⟨⟨List.prefix_refl _, hd, List.nil_subset _⟩, rfl, nofun, nofun⟩
  | (key, s) :: fields, required, _, d, hvs, hfields, hd => by
    have hs := isDraftOf_typesOf s key (fun v hv => isPlain_of_mem_under hvs v hv)
      (areAlternativesOf_field hvs hfields) hd
    have hrest := isFieldsDraftOf_fieldsOf fields required hvs hfields.tail hs.drafting
    have hne := ne_nil_of_areFieldsOf hvs hfields
    obtain ⟨hparts, -, -⟩ := hs.assemble hne
    rw [fieldsOf]
    refine ⟨⟨?_, hrest.drafting, ?_⟩, ?_, ?_, ?_⟩
    · exact hs.extends_definitions.trans hrest.extends_definitions
    · refine List.append_subset.mpr ⟨?_, hrest.references⟩
      exact List.Subset.trans hs.references (Drafting.names_mono hrest.extends_definitions)
    · rw [List.map_cons, List.map_cons, hrest.keys]
    · intro f hf
      rcases List.mem_cons.mp hf with rfl | hf
      · exact hparts.mono fun leaf hleaf =>
          hleaf.mono (fun _ => trivial) (List.subset_append_left _ _)
      · exact (hrest.types f hf).mono fun leaf hleaf =>
          hleaf.mono id (List.subset_append_right _ _)
    · intro n hn
      rcases List.mem_append.mp hn with hn | hn
      · exact ⟨_, List.mem_cons_self, hs.mentions_assemble hne n hn⟩
      · obtain ⟨f, hf, hpart⟩ := hrest.mentions n hn
        exact ⟨f, List.mem_cons_of_mem _ hf, hpart⟩

end

/-- Whatever is declared with some fields refers to all that was referred to when they were
written. -/
theorem IsFieldsDraftOf.references_subset {fields : List (String × List Alternative)}
    {w : Written (List Field)} (h : IsFieldsDraftOf root d fields w) {names : List String}
    {e : Definition} (he : e.IsSound names) (hfields : e.fields = w.value) :
    w.references ⊆ e.references := by
  intro n hn
  obtain ⟨f, hf, p, hp, hpart⟩ := h.mentions n hn
  obtain ⟨leaf, hleaf, hpart'⟩ := (he.fields.types f (hfields ▸ hf)).isPart p hp
  obtain rfl := hpart.leaf_unique hpart'
  obtain ⟨e', he', hname⟩ := List.mem_map.mp (h.references hn)
  have hnot := (h.drafting.definitions e' he').not_plain
  rw [hname] at hnot
  cases hleaf with
  | plain hplain => exact absurd (List.mem_append_left ["any"] hplain) hnot
  | any _ => exact absurd (by decide) hnot
  | reference hmem => exact hmem

end TypeDraft.TypeScript.Basic
