import TypeDraft.Proofs.TypeScript.Basic.Acceptance
import TypeDraft.Proofs.TypeScript.Basic.Counting

/-!
# What is dropped and what is accepted

In a module that holds all definitions, the drafted types accept the values they were drafted for
just if nothing has been dropped at any place. A place where something has been dropped can accept
its values only by means of an array type that admits any items.
-/

namespace TypeDraft.TypeScript.Basic

open Schema (objects gatheredItems IsPlain)
open Shape (IsAlternativeOf AreAlternativesOf AreFieldsOf plainName? under)

/-- Whether a place accepts its values whatever has been dropped: there are arrays without items,
whose type admits others too, and the text is read as a type that accepts each of the values. -/
def IsSpared (m : List Statement) (vs : List Value) (s : Shape) (type : Parts) : Prop :=
  AnyHasBareArrays s ∧ ∃ t, type.type? = some t ∧ ∀ v ∈ vs, Accepts false m t v

variable {m : List Statement} {root : String} {names : List String}

/-! ## Places where something has been dropped -/

/-- The kind of the values that a plain type, a dictionary type or a defined name accepts. -/
def leafKind : Ty → Kind
  | .named name =>
    if name = "null" then .null
    else if name = "boolean" then .boolean
    else if name = "number" then .number
    else if name = "string" then .string
    else .object
  | _ => .object

theorem leafKind_named {name : String} (h : name ∉ plainWords) :
    leafKind (.named name) = .object := by
  simp only [plainWords, List.mem_cons, List.not_mem_nil, or_false, not_or] at h
  rw [leafKind, if_neg h.1, if_neg h.2.1, if_neg h.2.2.1, if_neg h.2.2.2.1]

theorem areOfOneKind {d : Drafting} (hd : d.IsSound root) (hm : Declares m names d.definitions)
    {references : List String} (hreferences : references ⊆ d.names) (hnamed : references ⊆ names)
    {leaves : List Ty}
    (hleaves : ∀ leaf ∈ leaves, IsLeaf False references leaf) :
    AreOfOneKind false m leafKind leaves := by
  have hplain : ∀ k : Kind, k.name ∈ ["null", "boolean", "number", "string"] →
      leafKind (.named k.name) = k → k ≠ .array → leafKind (.named k.name) ≠ .array ∧
        ∀ v, Accepts false m (.named k.name) v → v.kind = leafKind (.named k.name) := by
    intro k hk hleaf hne
    rw [hleaf]
    exact ⟨hne, fun v hv => (accepts_plain_iff hm.plain hk).mp hv⟩
  intro leaf hleaf
  cases hleaves leaf hleaf with
  | dictionary =>
      refine ⟨by decide, fun v hv => ?_⟩
      cases hv
      rfl
  | plain hname =>
      simp only [List.mem_cons, List.not_mem_nil, or_false] at hname
      rcases hname with rfl | rfl | rfl | rfl
      · exact hplain .null (by decide) (by decide) (by decide)
      · exact hplain .boolean (by decide) (by decide) (by decide)
      · exact hplain .number (by decide) (by decide) (by decide)
      · exact hplain .string (by decide) (by decide) (by decide)
  | any h => exact h.elim
  | reference hname =>
      obtain ⟨e, he, rfl⟩ := List.mem_map.mp (hreferences hname)
      obtain ⟨properties, -, hbody⟩ := hm.declared e he (hnamed hname)
      rw [leafKind_named (hd.definitions e he).not_plain]
      refine ⟨by decide, fun v hv => ?_⟩
      obtain ⟨fields, rfl, -⟩ := (accepts_object_iff hbody).mp hv
      rfl

/-- A place accepts its values if nothing has been dropped and all is well within, or if it is
spared. -/
theorem forall_accepts_iff {d : Drafting} (hd : d.IsSound root) (hm : Declares m names d.definitions)
    {references : List String} (hreferences : references ⊆ d.names) (hnamed : references ⊆ names)
    {vs : List Value} (hvs : ∀ v ∈ vs, v.isNormal) {s : Shape} (hs : AreAlternativesOf vs s) {type : Parts}
    (hparts : AreParts (IsLeaf (AnyHasBareArrays s) references) type)
    (hlength : type.length ≤ sortCountOfAll s) {t : Ty} (ht : type.type? = some t) {kept : Prop}
    (hkept : type.length = sortCountOfAll s → ((∀ v ∈ vs, Accepts false m t v) ↔ kept)) :
    (∀ v ∈ vs, Accepts false m t v) ↔
      if type.length = sortCountOfAll s then kept else IsSpared m vs s type := by
  by_cases hfull : type.length = sortCountOfAll s
  · rw [if_pos hfull]
    exact hkept hfull
  · rw [if_neg hfull]
    constructor
    · intro haccepts
      refine ⟨?_, t, ht, haccepts⟩
      by_contra hbare
      obtain ⟨hcount, hleaves⟩ := hparts.leaves_of_type? ht
      have hkinds : AreOfOneKind false m leafKind t.leaves :=
        areOfOneKind hd hm hreferences hnamed fun leaf hleaf =>
          (hleaves leaf hleaf).mono hbare (List.Subset.refl _)
      have hle := sortCountOfAll_le_leaves hvs hs hbare hkinds haccepts
      omega
    · rintro ⟨-, t', ht', haccepts⟩
      rw [ht] at ht'
      obtain rfl := Option.some.inj ht'
      exact haccepts

/-! ## The walk -/

/-- What is drafted for an alternative accepts values of its kind only. -/
theorem kind_of_acceptsOne {context : String} {a : Alternative} {d : Drafting}
    (hm : Declares m names (draftOne context a d).drafting.definitions)
    (hnamed : (draftOne context a d).references ⊆ names) {v : Value}
    (h : AcceptsOne m context a d v) : v.kind = a.kind := by
  rcases h with ⟨-, -, hkind⟩ | ⟨t, ht, h⟩
  · exact hkind
  match a with
  | .null | .boolean | .number _ | .string | .array [] | .object [] _ => cases ht
  | .array (item :: items) =>
    rw [tyOne?_array (List.cons_ne_nil item items)] at ht
    obtain rfl := Option.some.inj ht
    obtain ⟨values, rfl, -⟩ := accepts_array_iff.mp h
    rfl
  | .object (f :: fields) required =>
    rw [tyOne?_object (List.cons_ne_nil f fields)] at ht
    obtain rfl := Option.some.inj ht
    rw [draftOne_object (List.cons_ne_nil f fields)] at hm hnamed
    obtain ⟨e, he, hname, -⟩ := (fieldsOf required (f :: fields) d).drafting.exists_mem_declare
      (Name.pascalCase context) (fieldsOf required (f :: fields) d).value
      (fieldsOf required (f :: fields) d).references
    have hmem : e.name ∈ names := hname ▸ hnamed List.mem_cons_self
    obtain ⟨properties, -, hbody⟩ := hm.declared e he hmem
    rw [hname] at hbody
    obtain ⟨entries, rfl, -⟩ := (accepts_object_iff hbody).mp h
    rfl

theorem kind_of_accepts_placeTy {context : String} {vs : List Value}
    (hvs : ∀ v ∈ vs, IsPlain OnOneLine v) {s : List Alternative} (hs : AreAlternativesOf vs s)
    {d : Drafting} (hd : d.IsSound root)
    (hm : Declares m names (typesOf context s d).drafting.definitions)
    (hnamed : (typesOf context s d).references ⊆ names) {v : Value} (hv : v.isNormal)
    (h : Accepts false m (placeTy context s d) v) : v.kind ∈ s.map Alternative.kind := by
  induction s generalizing d with
  | nil => exact absurd h (accepts_placeTy_nil context d v)
  | cons a s ih =>
      have hfirst := isDraftOf_draftOne a context hvs (hs.each a List.mem_cons_self) hd
      have hrest := isDraftOf_typesOf s context hvs hs.tail hfirst.drafting
      rw [typesOf_cons] at hm hnamed
      obtain ⟨hnamed, hnamed'⟩ := List.append_subset.mp hnamed
      rcases (accepts_placeTy_cons_iff context hm.plain hv).mp h with h | h
      · have hkind := kind_of_acceptsOne (hm.mono hrest.extends_definitions.subset) hnamed h
        rw [hkind]
        exact List.mem_cons_self
      · exact List.mem_cons_of_mem _ (ih hs.tail hfirst.drafting hm hnamed' h)

theorem forall_acceptsOne_array_iff {context : String} {vs : List Value}
    {items : List Alternative} (hne : items ≠ []) {d : Drafting} (hvs : ∀ v ∈ vs, v.isNormal) :
    (∀ v ∈ vs, v.kind = .array → AcceptsOne m context (.array items) d v) ↔
      ∀ w ∈ gatheredItems vs, Accepts false m (placeTy (Name.singularize context) items d) w := by
  have hone : ∀ v, AcceptsOne m context (.array items) d v ↔
      Accepts false m (.array (placeTy (Name.singularize context) items d)) v := by
    intro v
    obtain ⟨item, items, rfl⟩ := List.exists_cons_of_ne_nil hne
    rw [AcceptsOne, tyOne?_array hne]
    simp [plainName?]
  rw [← forall_accepts_array_iff hvs]
  exact forall₂_congr fun v _ => imp_congr_right fun _ => hone v

theorem forall_acceptsOne_object_iff {context : String} {vs : List Value}
    {fields : List (String × List Alternative)} {required : List String} (hne : fields ≠ [])
    {d : Drafting} (hvs : ∀ v ∈ vs, IsPlain OnOneLine v)
    (ha : IsAlternativeOf vs (.object fields required)) (hd : d.IsSound root)
    (hm : Declares m names (draftOne context (.object fields required) d).drafting.definitions)
    (hnamed : (draftOne context (.object fields required) d).references ⊆ names) :
    (fieldsOf required fields d).references ⊆ names ∧
    ∃ properties, (fieldsOf required fields d).value.mapM Field.property? = some properties ∧
      ((∀ v ∈ vs, v.kind = .object → AcceptsOne m context (.object fields required) d v) ↔
        ∀ p ∈ properties, ∀ w ∈ under p.key (objects vs), Accepts false m p.type w) := by
  have hfields := isFieldsDraftOf_fieldsOf fields required hvs ha.fields hd
  have hdraft := isDraftOf_draftOne (.object fields required) context hvs ha hd
  rw [draftOne_object hne] at hm hnamed hdraft
  obtain ⟨e, he, hname, hsame⟩ := (fieldsOf required fields d).drafting.exists_mem_declare
    (Name.pascalCase context) (fieldsOf required fields d).value
    (fieldsOf required fields d).references
  have hmem : e.name ∈ names := hname ▸ hnamed List.mem_cons_self
  obtain ⟨properties, hproperties, hbody⟩ := hm.declared e he hmem
  have hsub := hfields.references_subset (hdraft.drafting.definitions e he) hsame
  rw [hname] at hbody
  rw [hsame] at hproperties
  refine ⟨List.Subset.trans hsub (hm.closed e he hmem), properties, hproperties, ?_⟩
  rw [← accepts_objects_iff (fun v hv => (hvs v hv).1) ha hproperties hfields.keys
    (fun f hf => isOptional_fieldsOf hf) hbody]
  have hone : ∀ v, AcceptsOne m context (.object fields required) d v ↔
      Accepts false m (.named ((fieldsOf required fields d).declare context).1) v := by
    intro v
    obtain ⟨f, fields, rfl⟩ := List.exists_cons_of_ne_nil hne
    rw [AcceptsOne, tyOne?_object hne]
    simp [plainName?]
  exact forall₂_congr fun v _ => imp_congr_right fun _ => hone v

mutual

/-- What is drafted for the values of one kind accepts them just if what is within is kept. -/
theorem forall_acceptsOne_iff : (a : Alternative) → (context : String) → {vs : List Value} →
    {d : Drafting} → (∀ v ∈ vs, IsPlain OnOneLine v) → IsAlternativeOf vs a → d.IsSound root →
    Declares m names (draftOne context a d).drafting.definitions →
    (draftOne context a d).references ⊆ names →
    ((∀ v ∈ vs, v.kind = a.kind → AcceptsOne m context a d v) ↔
      KeepsWithin (IsSpared m) context vs a d)
  | .null, _, _, _, _, _, _, _, _ | .boolean, _, _, _, _, _, _, _, _
  | .number _, _, _, _, _, _, _, _, _ | .string, _, _, _, _, _, _, _, _
  | .array [], _, _, _, _, _, _, _, _ | .object [] _, _, _, _, _, _, _, _, _ =>
    ⟨fun _ => trivial, fun _ _ _ hkind => Or.inl ⟨_, rfl, hkind⟩⟩
  | .array (item :: items), context, vs, d, hvs, ha, hd, hm, hnamed => by
    have hne := List.cons_ne_nil item items
    have hitems := ha.areAlternativesOf_items fun v hv => (hvs v hv).1
    have hplain := fun v hv => Schema.isPlain_of_mem_gatheredItems (v := v) hvs hv
    rw [draftOne_array hne] at hm hnamed
    have hall := forall_accepts_placeTy_iff (item :: items) _ hplain hitems hd hm hnamed
    have hkinds : ∀ w ∈ gatheredItems vs, w.kind ∈ (item :: items).map Alternative.kind := by
      intro w hw
      rw [ha.items]
      exact Shape.mem_kinds_ofAll (fun v hv => (hplain v hv).1) hw
    rw [KeepsWithin, ← hall]
    refine (forall_acceptsOne_array_iff hne fun v hv => (hvs v hv).1).trans ?_
    exact forall₂_congr fun w hw => (imp_iff_right (hkinds w hw)).symm
  | .object (f :: fields) required, context, vs, d, hvs, ha, hd, hm, hnamed => by
    have hne := List.cons_ne_nil f fields
    obtain ⟨hnamed, properties, hproperties, hobjects⟩ :=
      forall_acceptsOne_object_iff hne hvs ha hd hm hnamed
    rw [draftOne_object hne] at hm
    have hprefix := (fieldsOf required (f :: fields) d).drafting.prefix_declare
      (Name.pascalCase context) (fieldsOf required (f :: fields) d).value
      (fieldsOf required (f :: fields) d).references
    rw [KeepsWithin, ← forall_accepts_property_iff (f :: fields) required hvs ha.fields hd
      (hm.mono hprefix.subset) hnamed hproperties]
    exact hobjects

theorem forall_accepts_placeTy_iff : (s : List Alternative) → (context : String) →
    {vs : List Value} → {d : Drafting} → (∀ v ∈ vs, IsPlain OnOneLine v) →
    AreAlternativesOf vs s → d.IsSound root →
    Declares m names (typesOf context s d).drafting.definitions →
    (typesOf context s d).references ⊆ names →
    ((∀ v ∈ vs, v.kind ∈ s.map Alternative.kind → Accepts false m (placeTy context s d) v) ↔
      KeepsAll (IsSpared m) context vs s d)
  | [], _, _, _, _, _, _, _, _ => ⟨fun _ => trivial, fun _ _ _ hkind => absurd hkind List.not_mem_nil⟩
  | a :: s, context, vs, d, hvs, hs, hd, hm, hnamed => by
    have ha := hs.each a List.mem_cons_self
    have hfirst := isDraftOf_draftOne a context hvs ha hd
    have hrest := isDraftOf_typesOf s context hvs hs.tail hfirst.drafting
    have hnodup := (List.nodup_cons.mp hs.nodup).1
    rw [typesOf_cons] at hm hnamed
    obtain ⟨hnamed, hnamed'⟩ := List.append_subset.mp hnamed
    have hm' := hm.mono hrest.extends_definitions.subset
    have hsplit := fun v (hv : v ∈ vs) =>
      accepts_placeTy_cons_iff context (a := a) (s := s) (d := d) hm.plain (hvs v hv).1
    rw [KeepsAll, ← forall_acceptsOne_iff a context hvs ha hd hm' hnamed,
      ← forall_accepts_placeTy_iff s context hvs hs.tail hfirst.drafting hm hnamed']
    constructor
    · intro h
      constructor
      · intro v hv hkind
        rcases (hsplit v hv).mp (h v hv (hkind ▸ List.mem_cons_self)) with h | h
        · exact h
        · have hmem := kind_of_accepts_placeTy hvs hs.tail hfirst.drafting hm hnamed' (hvs v hv).1 h
          exact absurd (hkind ▸ hmem) hnodup
      · intro v hv hkind
        rcases (hsplit v hv).mp (h v hv (List.mem_cons_of_mem _ hkind)) with h | h
        · exact absurd (kind_of_acceptsOne hm' hnamed h ▸ hkind) hnodup
        · exact h
    · rintro ⟨hone, hothers⟩ v hv hkind
      rw [hsplit v hv]
      rcases List.mem_cons.mp hkind with hkind | hkind
      · exact Or.inl (hone v hv hkind)
      · exact Or.inr (hothers v hv hkind)

theorem forall_accepts_property_iff : (fields : List (String × List Alternative)) →
    (required : List String) → {vs : List Value} → {d : Drafting} → {properties : List Property} →
    (∀ v ∈ vs, IsPlain OnOneLine v) → AreFieldsOf (objects vs) fields → d.IsSound root →
    Declares m names (fieldsOf required fields d).drafting.definitions →
    (fieldsOf required fields d).references ⊆ names →
    (fieldsOf required fields d).value.mapM Field.property? = some properties →
    ((∀ p ∈ properties, ∀ w ∈ under p.key (objects vs), Accepts false m p.type w) ↔
      KeepsFields (IsSpared m) (objects vs) fields d)
  | [], _, _, _, properties, _, _, _, _, _, hproperties => by
    obtain rfl : [] = properties := Option.some.inj hproperties
    exact ⟨fun _ => trivial, fun _ => nofun⟩
  | (key, s) :: fields, required, vs, d, properties, hvs, hfields, hd, hm, hnamed, hproperties => by
    have hplain : ∀ v ∈ under key (objects vs), IsPlain OnOneLine v :=
      fun v hv => isPlain_of_mem_under hvs v hv
    have hs := areAlternativesOf_field hvs hfields
    have hne := ne_nil_of_areFieldsOf hvs hfields
    have hdraft := isDraftOf_typesOf s key hplain hs hd
    have hrest := isFieldsDraftOf_fieldsOf fields required hvs hfields.tail
      hdraft.drafting
    obtain ⟨hparts, hlength, -⟩ := hdraft.assemble hne
    rw [fieldsOf] at hm hnamed hproperties
    obtain ⟨hnamed, hnamed'⟩ := List.append_subset.mp hnamed
    rw [List.mapM_cons] at hproperties
    simp only [Option.bind_eq_bind, Option.bind_eq_some_iff] at hproperties
    obtain ⟨p, hp, others, hothers, heq⟩ := hproperties
    obtain rfl := Option.some.inj heq
    obtain ⟨hkey, -, htype⟩ := Field.property?_eq_some hp
    have hm' := hm.mono hrest.extends_definitions.subset
    have hkinds : ∀ w ∈ under key (objects vs), w.kind ∈ s.map Alternative.kind := by
      intro w hw
      have hshape : s = _ := hfields.shapes (key, s) List.mem_cons_self
      rw [hshape]
      exact Shape.mem_kinds_ofAll (fun v hv => (hplain v hv).1) hw
    have hfull : (assemble s (typesOf key s d).value).length = sortCountOfAll s →
        ((∀ w ∈ under key (objects vs), Accepts false m p.type w) ↔
          KeepsAll (IsSpared m) key (under key (objects vs)) s d) := by
      intro hfull
      rw [type?_assemble key hplain hs hne hd hfull] at htype
      rw [← Option.some.inj htype, ← forall_accepts_placeTy_iff s key hplain hs hd hm' hnamed]
      exact forall₂_congr fun w hw => (imp_iff_right (hkinds w hw)).symm
    rw [List.forall_mem_cons, KeepsFields, hkey,
      forall_accepts_property_iff fields required hvs hfields.tail hdraft.drafting hm hnamed' hothers]
    exact and_congr_left' (forall_accepts_iff hdraft.drafting hm' hdraft.references hnamed
      (fun v hv => (hplain v hv).1) hs hparts hlength htype hfull)

end

end TypeDraft.TypeScript.Basic
