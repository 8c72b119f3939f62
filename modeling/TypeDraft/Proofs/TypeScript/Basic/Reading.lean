import TypeDraft.Proofs.TypeScript.Basic.Drafting

/-!
# Reading what is drafted

Where no part is dropped, the text for a place is read as the type that was meant: an array for each
pair of brackets, with the alternatives of its items in the order in which they are written.
-/

namespace TypeDraft.TypeScript.Basic

open Schema (objects gatheredItems IsPlain)
open Shape (IsAlternativeOf AreAlternativesOf AreFieldsOf plainName?)

mutual

/-- The type that is meant by what is written for an alternative. -/
def tyOne? (context : String) : Alternative → Drafting → Option Ty
  | .array items, d =>
    if items.isEmpty then none
    else
      some (.array (.ofAlternatives
        (arranged plainTy items (tysOf (Name.singularize context) items d))))
  | .object fields required, d =>
    if fields.isEmpty then none
    else some (.named ((fieldsOf required fields d).declare context).1)
  | _, _ => none
termination_by structural a => a

def tysOf (context : String) : List Alternative → Drafting → List Ty
  | [], _ => []
  | a :: s, d => (tyOne? context a d).toList ++ tysOf context s (draftOne context a d).drafting
termination_by structural s => s

end

/-- The type that is meant at a place. -/
def placeTy (context : String) (s : List Alternative) (d : Drafting) : Ty :=
  .ofAlternatives (arranged plainTy s (tysOf context s d))

theorem tyOne?_array {items : List Alternative} (h : items ≠ []) (context : String)
    (d : Drafting) :
    tyOne? context (.array items) d = some (.array (placeTy (Name.singularize context) items d)) := by
  have hempty : items.isEmpty = false := List.isEmpty_eq_false_iff.mpr h
  rw [tyOne?, hempty]
  rfl

theorem tyOne?_object {fields : List (String × List Alternative)} (h : fields ≠ [])
    (context : String) (required : List String) (d : Drafting) :
    tyOne? context (.object fields required) d =
      some (.named ((fieldsOf required fields d).declare context).1) := by
  have hempty : fields.isEmpty = false := List.isEmpty_eq_false_iff.mpr h
  rw [tyOne?, hempty]
  rfl

variable {root : String} {d : Drafting} {s : List Alternative} {w : Written (List Parts)}
  {tys : List Ty}

/-- Types that are read one by one are no more than there are parts. -/
theorem length_le_of_isReadAs {ts : List Parts} (h : List.Forall₂ IsReadAs ts tys) :
    tys.length ≤ ts.flatten.length := by
  induction h with
  | nil => exact Nat.le_refl 0
  | @cons t ty ts tys ht hts ih =>
      have hpos : 0 < t.length := List.length_pos_iff.mpr ht.1
      rw [List.flatten_cons, List.length_append, List.length_cons]
      omega

/-- If a place has as many parts as it may have, nothing has been dropped. -/
theorem IsDraftOf.assemble_of_length (h : IsDraftOf root d s w) (hs : s ≠ [])
    (hlength : (Basic.assemble s w.value).length = sortCountOfAll s) :
    Basic.assemble s w.value = (arranged (fun p => [p]) s w.value).flatten ∧
      (plainTypes s).length + w.value.flatten.length = sortCountOfAll s := by
  have hne := h.nonempty hs
  have hle := length_assemble_le hne
  have hbound := h.length_le
  have hall : (plainTypes s).length + w.value.flatten.length = sortCountOfAll s := by omega
  exact ⟨assemble_eq_arranged hne h.no_null (hlength.trans hall.symm), hall⟩

theorem IsDraftOf.readsAs_assemble (h : IsDraftOf root d s w) (hs : s ≠ [])
    (hlength : (Basic.assemble s w.value).length = sortCountOfAll s)
    (hread : List.Forall₂ IsReadAs w.value tys) :
    ReadsAs (Parts.tokens (Basic.assemble s w.value)) (arranged plainTy s tys) ∧
      ((Basic.assemble s w.value).length = 1 → (arranged plainTy s tys).length = 1) := by
  obtain ⟨hassemble, -⟩ := h.assemble_of_length hs hlength
  obtain ⟨hparts, -, -⟩ := h.assemble hs
  have hread := forall₂_arranged (s := s) hread
  have hne : arranged (fun p => [p]) s w.value ≠ [] := by
    intro hnil
    have hparts := hparts.ne_nil
    rw [hassemble, hnil] at hparts
    exact hparts rfl
  rw [hassemble]
  refine ⟨readsAs_flatten hread hne, fun hone => ?_⟩
  have hle := length_le_of_isReadAs hread
  have hpos := List.length_pos_iff.mpr hne
  have hsame := hread.length_eq
  omega

mutual

/-- What is written for an alternative is read as what is meant, if nothing has been dropped. -/
theorem isReadAs_draftOne : (a : Alternative) → (context : String) → {vs : List Value} →
    {d : Drafting} → (∀ v ∈ vs, IsPlain OnOneLine v) → IsAlternativeOf vs a → d.IsSound root →
    (plainTypes [a]).length + (draftOne context a d).value.flatten.length = sortCount a →
    List.Forall₂ IsReadAs (draftOne context a d).value (tyOne? context a d).toList
  | .null, _, _, _, _, _, _, _ | .boolean, _, _, _, _, _, _, _ | .number _, _, _, _, _, _, _, _
  | .string, _, _, _, _, _, _, _ | .array [], _, _, _, _, _, _, _
  | .object [] _, _, _, _, _, _, _, _ => .nil
  | .array (item :: items), context, _, d, hvs, ha, hd, hfull => by
    have hne := List.cons_ne_nil item items
    have hitems := ha.areAlternativesOf_items fun v hv => (hvs v hv).1
    have hplain := fun v hv => Schema.isPlain_of_mem_gatheredItems (v := v) hvs hv
    have hdraft := isDraftOf_typesOf (item :: items) (Name.singularize context) hplain
      hitems hd
    obtain ⟨hparts, -, -⟩ := hdraft.assemble hne
    have hlength : (assemble (item :: items)
        (typesOf (Name.singularize context) (item :: items) d).value).length =
        sortCountOfAll (item :: items) := by
      rw [draftOne_array hne, plainTypes_singleton rfl, Written.asArray, List.flatten_singleton,
        length_arrayOf hparts.ne_nil, List.length_nil, Nat.zero_add] at hfull
      exact hfull
    obtain ⟨-, hall⟩ := hdraft.assemble_of_length hne hlength
    have hread := isReadAs_typesOf (item :: items) _ hplain hitems hd hall
    obtain ⟨hreads, hone⟩ := hdraft.readsAs_assemble hne hlength hread
    rw [draftOne_array hne, tyOne?_array hne]
    exact .cons ⟨hparts.arrayOf.ne_nil, hparts.readsAs_arrayOf hreads hone⟩ .nil
  | .object (f :: fields) required, context, _, d, hvs, ha, hd, _ => by
    have hne := List.cons_ne_nil f fields
    have hdraft := isDraftOf_draftOne (.object (f :: fields) required) context hvs ha hd
    rw [draftOne_object hne] at hdraft ⊢
    rw [tyOne?_object hne]
    have hmem := hdraft.references List.mem_cons_self
    obtain ⟨e, he, hname⟩ := List.mem_map.mp hmem
    have hword := (hdraft.drafting.definitions e he).word
    rw [hname] at hword
    refine .cons ⟨List.cons_ne_nil _ _, ?_⟩ .nil
    rw [Parts.tokens_singleton, (spells_word hword).tokens_eq]
    exact readsAs_word _

theorem isReadAs_typesOf : (s : List Alternative) → (context : String) → {vs : List Value} →
    {d : Drafting} → (∀ v ∈ vs, IsPlain OnOneLine v) → AreAlternativesOf vs s → d.IsSound root →
    (plainTypes s).length + (typesOf context s d).value.flatten.length = sortCountOfAll s →
    List.Forall₂ IsReadAs (typesOf context s d).value (tysOf context s d)
  | [], _, _, _, _, _, _, _ => .nil
  | a :: s, context, _, d, hvs, hs, hd, hfull => by
    have ha := hs.each a List.mem_cons_self
    have hfirst := isDraftOf_draftOne a context hvs ha hd
    have hrest := isDraftOf_typesOf s context hvs hs.tail hfirst.drafting
    have hle := hfirst.length_le
    have hle' := hrest.length_le
    rw [typesOf_cons, length_plainTypes_cons, sortCountOfAll, Written.append, List.flatten_append,
      List.length_append] at hfull
    rw [sortCountOfAll, sortCountOfAll, Nat.add_zero] at hle
    rw [typesOf_cons, tysOf]
    exact List.rel_append (isReadAs_draftOne a context hvs ha hd (by omega))
      (isReadAs_typesOf s context hvs hs.tail hfirst.drafting (by omega))

end

/-- The text for a place is read as what is meant, if nothing has been dropped. -/
theorem type?_assemble (context : String) {vs : List Value} (hvs : ∀ v ∈ vs, IsPlain OnOneLine v)
    (hs : AreAlternativesOf vs s) (hne : s ≠ []) (hd : d.IsSound root)
    (hlength : (assemble s (typesOf context s d).value).length = sortCountOfAll s) :
    (assemble s (typesOf context s d).value).type? = some (placeTy context s d) := by
  have hdraft := isDraftOf_typesOf s context hvs hs hd
  obtain ⟨hparts, -, -⟩ := hdraft.assemble hne
  obtain ⟨-, hall⟩ := hdraft.assemble_of_length hne hlength
  obtain ⟨hreads, -⟩ := hdraft.readsAs_assemble hne hlength (isReadAs_typesOf s context hvs hs hd hall)
  rw [hparts.type?_eq, hreads.readType?_eq, placeTy]

theorem type?_arrayOf_assemble (context : String) {vs : List Value}
    (hvs : ∀ v ∈ vs, IsPlain OnOneLine v) (hs : AreAlternativesOf vs s) (hne : s ≠ [])
    (hd : d.IsSound root)
    (hlength : (arrayOf (assemble s (typesOf context s d).value)).length = sortCountOfAll s) :
    (arrayOf (assemble s (typesOf context s d).value)).type? =
      some (.array (placeTy context s d)) := by
  have hdraft := isDraftOf_typesOf s context hvs hs hd
  obtain ⟨hparts, -, -⟩ := hdraft.assemble hne
  rw [length_arrayOf hparts.ne_nil] at hlength
  obtain ⟨-, hall⟩ := hdraft.assemble_of_length hne hlength
  obtain ⟨hreads, hone⟩ :=
    hdraft.readsAs_assemble hne hlength (isReadAs_typesOf s context hvs hs hd hall)
  rw [hparts.arrayOf.type?_eq, (hparts.readsAs_arrayOf hreads hone).readType?_eq, placeTy,
    Ty.ofAlternatives]

/-! ## Fields -/

def Field.property? (f : Field) : Option Property :=
  f.type.type?.map fun type => ⟨f.key, type, f.isOptional⟩

theorem Field.property?_eq_some {f : Field} {p : Property} (h : f.property? = some p) :
    p.key = f.key ∧ p.isOptional = f.isOptional ∧ f.type.type? = some p.type := by
  rw [Field.property?, Option.map_eq_some_iff] at h
  obtain ⟨type, htype, rfl⟩ := h
  exact ⟨rfl, rfl, htype⟩

/-- Whether the type of every field can be read. -/
def AreReadable (fields : List Field) : Prop := ∀ f ∈ fields, ∃ t, f.type.type? = some t

theorem AreReadable.exists_properties {fields : List Field} (h : AreReadable fields) :
    ∃ properties, fields.mapM Field.property? = some properties := by
  apply exists_mapM_eq_some
  intro f hf
  obtain ⟨t, ht⟩ := h f hf
  exact ⟨⟨f.key, t, f.isOptional⟩, by rw [Field.property?, ht, Option.map_some]⟩

def Drafting.IsReadable (d : Drafting) : Prop := ∀ e ∈ d.definitions, AreReadable e.fields

theorem Drafting.IsReadable.declare (hd : d.IsReadable) {fields : List Field}
    (hfields : AreReadable fields) (name : String) (references : List String) :
    (d.declare name fields references).2.IsReadable := by
  unfold Drafting.declare
  split
  · exact hd
  · intro e he
    rcases List.mem_append.mp he with he | he
    · exact hd e he
    · rw [List.mem_singleton.mp he]
      exact hfields

mutual

/-- If nothing is dropped, all types can be read. -/
theorem isReadable_draftOne : (a : Alternative) → (context : String) → {vs : List Value} →
    {d : Drafting} → (∀ v ∈ vs, IsPlain OnOneLine v) → IsAlternativeOf vs a → d.IsSound root →
    KeepsWithin (fun _ _ _ => False) context vs a d → d.IsReadable →
    (draftOne context a d).drafting.IsReadable
  | .null, _, _, _, _, _, _, _, hr | .boolean, _, _, _, _, _, _, _, hr
  | .number _, _, _, _, _, _, _, _, hr | .string, _, _, _, _, _, _, _, hr
  | .array [], _, _, _, _, _, _, _, hr | .object [] _, _, _, _, _, _, _, _, hr => hr
  | .array (item :: items), _, _, _, hvs, ha, hd, hkeeps, hr => by
    rw [draftOne_array (List.cons_ne_nil item items)]
    exact isReadable_typesOf (item :: items) _ (fun _ hv => Schema.isPlain_of_mem_gatheredItems hvs hv)
      (ha.areAlternativesOf_items fun v hv => (hvs v hv).1) hd hkeeps hr
  | .object (f :: fields) required, _, _, _, hvs, ha, hd, hkeeps, hr => by
    obtain ⟨hdrafting, hfields⟩ := isReadable_fieldsOf (f :: fields) required hvs
      ha.fields hd hkeeps hr
    rw [draftOne_object (List.cons_ne_nil f fields)]
    exact hdrafting.declare hfields _ _

theorem isReadable_typesOf : (s : List Alternative) → (context : String) → {vs : List Value} →
    {d : Drafting} → (∀ v ∈ vs, IsPlain OnOneLine v) → AreAlternativesOf vs s → d.IsSound root →
    KeepsAll (fun _ _ _ => False) context vs s d → d.IsReadable →
    (typesOf context s d).drafting.IsReadable
  | [], _, _, _, _, _, _, _, hr => hr
  | a :: s, context, _, _, hvs, hs, hd, hkeeps, hr => by
    have ha := hs.each a List.mem_cons_self
    have hfirst := isDraftOf_draftOne a context hvs ha hd
    rw [typesOf_cons]
    exact isReadable_typesOf s context hvs hs.tail hfirst.drafting hkeeps.2
      (isReadable_draftOne a context hvs ha hd hkeeps.1 hr)

theorem isReadable_fieldsOf : (fields : List (String × List Alternative)) →
    (required : List String) → {vs : List Value} → {d : Drafting} →
    (∀ v ∈ vs, IsPlain OnOneLine v) → AreFieldsOf (objects vs) fields → d.IsSound root →
    KeepsFields (fun _ _ _ => False) (objects vs) fields d → d.IsReadable →
    (fieldsOf required fields d).drafting.IsReadable ∧ AreReadable (fieldsOf required fields d).value
  | [], _, _, _, _, _, _, _, hr => ⟨hr, nofun⟩
  | (key, s) :: fields, required, vs, d, hvs, hfields, hd, hkeeps, hr => by
    have hplain : ∀ v ∈ Shape.under key (objects vs), IsPlain OnOneLine v :=
      fun v hv => isPlain_of_mem_under hvs v hv
    have hs := areAlternativesOf_field hvs hfields
    have hne := ne_nil_of_areFieldsOf hvs hfields
    have hdraft := isDraftOf_typesOf s key hplain hs hd
    obtain ⟨hkept, hothers⟩ := hkeeps
    by_cases hlength : (assemble s (typesOf key s d).value).length = sortCountOfAll s
    · rw [if_pos hlength] at hkept
      have hr' := isReadable_typesOf s key hplain hs hd hkept hr
      obtain ⟨hdrafting, hrest⟩ := isReadable_fieldsOf fields required hvs
        hfields.tail hdraft.drafting hothers hr'
      rw [fieldsOf]
      refine ⟨hdrafting, fun f hf => ?_⟩
      rcases List.mem_cons.mp hf with rfl | hf
      · exact ⟨_, type?_assemble key hplain hs hne hd hlength⟩
      · exact hrest f hf
    · rw [if_neg hlength] at hkept
      exact hkept.elim

end

end TypeDraft.TypeScript.Basic
