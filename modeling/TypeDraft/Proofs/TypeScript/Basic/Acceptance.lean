import TypeDraft.Proofs.TypeScript.Acceptance
import TypeDraft.Proofs.TypeScript.Basic.Reading

/-!
# What the drafted types accept

In a module that holds the definitions, the type that is meant at a place accepts a value if the
place has an alternative for it, and a definition accepts objects if the types under their keys
accept what stands there.
-/

namespace TypeDraft.TypeScript.Basic

open Schema (objects keys gatheredItems IsPlain)
open Shape (IsAlternativeOf AreAlternativesOf AreFieldsOf plainName? under)

/-- Whether a module has those of some definitions that have certain names, and what these refer to.
The words of plain types mean there what they always mean. -/
structure Declares (m : List Statement) (names : List String) (definitions : List Definition) :
    Prop where
  declared : ∀ e ∈ definitions, e.name ∈ names →
    ∃ properties, e.fields.mapM Field.property? = some properties ∧
      body? m e.name = some (.object properties false)
  closed : ∀ e ∈ definitions, e.name ∈ names → e.references ⊆ names
  plain : ∀ word ∈ plainWords, body? m word = none

variable {m : List Statement} {names : List String} {definitions definitions' : List Definition}

theorem Declares.mono (h : Declares m names definitions') (hsub : definitions ⊆ definitions') :
    Declares m names definitions :=
  ⟨fun e he => h.declared e (hsub he), fun e he => h.closed e (hsub he), h.plain⟩

/-! ## Places -/

theorem accepts_any (hplain : ∀ word ∈ plainWords, body? m word = none) (v : Value) :
    Accepts false m (.named "any") v := .predefined (hplain _ (by decide)) (Or.inr (Or.inl rfl))

theorem accepts_plain_iff (hplain : ∀ word ∈ plainWords, body? m word = none) {k : Kind}
    (hk : k.name ∈ ["null", "boolean", "number", "string"]) {v : Value} :
    Accepts false m (.named k.name) v ↔ v.kind = k := by
  have hword : k.name ∈ plainWords := List.mem_append_left ["any"] hk
  have hany : ∀ name ∈ ["null", "boolean", "number", "string"], name ≠ "unknown" ∧ name ≠ "any" := by
    decide
  obtain ⟨hunknown, hany⟩ := hany _ hk
  rw [accepts_predefined_iff (hplain _ hword), Admits, kind_name_inj]
  simp [hunknown, hany, hk]

theorem accepts_plainTy_iff (hplain : ∀ word ∈ plainWords, body? m word = none) {a : Alternative}
    {name : String} (h : plainName? a = some name) {v : Value} (hv : v.isNormal) :
    Accepts false m (plainTy (plainType name)) v ↔ v.kind = a.kind := by
  match a, h with
  | .null, rfl => exact accepts_plain_iff (k := .null) hplain (by decide)
  | .boolean, rfl => exact accepts_plain_iff (k := .boolean) hplain (by decide)
  | .string, rfl => exact accepts_plain_iff (k := .string) hplain (by decide)
  | .number whole, h =>
    obtain rfl := Option.some.inj h
    cases whole <;> exact accepts_plain_iff (k := .number) hplain (by decide)
  | .array [], rfl =>
    change Accepts false m (.array (.named "any")) v ↔ v.kind = .array
    rw [accepts_array_iff]
    constructor
    · rintro ⟨items, rfl, -⟩
      rfl
    · intro hkind
      cases v with
      | arr items => exact ⟨items, rfl, fun w _ => accepts_any hplain w⟩
      | _ => cases hkind
  | .object [] _, rfl =>
    change Accepts false m .dictionary v ↔ v.kind = .object
    constructor
    · rintro ⟨⟩
      rfl
    · intro hkind
      cases v with
      | obj fields => exact .dictionary
      | map => simp [Value.isNormal] at hv
      | _ => cases hkind

/-- Whether the type for an alternative accepts a value. -/
def AcceptsOne (m : List Statement) (context : String) (a : Alternative) (d : Drafting)
    (v : Value) : Prop :=
  (∃ name, plainName? a = some name ∧ v.kind = a.kind) ∨
    ∃ t, tyOne? context a d = some t ∧ Accepts false m t v

theorem accepts_placeTy_nil (context : String) (d : Drafting) (v : Value) :
    ¬ Accepts false m (placeTy context [] d) v := by
  intro h
  obtain ⟨t, ht, -⟩ := accepts_ofAlternatives_iff.mp h
  simp [mem_arranged, plainTypes, Shape.plainNames, tysOf] at ht

theorem accepts_placeTy_iff {context : String} {s : List Alternative} {d : Drafting} {v : Value}
    (hplain : ∀ word ∈ plainWords, body? m word = none) (hv : v.isNormal) :
    Accepts false m (placeTy context s d) v ↔
      (∃ a ∈ s, ∃ name, plainName? a = some name ∧ v.kind = a.kind) ∨
        ∃ t ∈ tysOf context s d, Accepts false m t v := by
  rw [placeTy, accepts_ofAlternatives_iff]
  constructor
  · rintro ⟨t, ht, h⟩
    rcases mem_arranged.mp ht with ht | ht
    · obtain ⟨p, hp, rfl⟩ := List.mem_map.mp ht
      obtain ⟨a, ha, name, hname, rfl⟩ := mem_plainTypes.mp hp
      exact Or.inl ⟨a, ha, name, hname, (accepts_plainTy_iff hplain hname hv).mp h⟩
    · exact Or.inr ⟨t, ht, h⟩
  · rintro (⟨a, ha, name, hname, hkind⟩ | ⟨t, ht, h⟩)
    · refine ⟨_, mem_arranged.mpr (Or.inl (List.mem_map_of_mem (mem_plainTypes.mpr
        ⟨a, ha, name, hname, rfl⟩))), (accepts_plainTy_iff hplain hname hv).mpr hkind⟩
    · exact ⟨t, mem_arranged.mpr (Or.inr ht), h⟩

theorem accepts_placeTy_cons_iff (context : String) {a : Alternative} {s : List Alternative}
    {d : Drafting} {v : Value} (hplain : ∀ word ∈ plainWords, body? m word = none)
    (hv : v.isNormal) : Accepts false m (placeTy context (a :: s) d) v ↔ AcceptsOne m context a d v ∨
      Accepts false m (placeTy context s (draftOne context a d).drafting) v := by
  rw [accepts_placeTy_iff hplain hv, accepts_placeTy_iff hplain hv, tysOf, AcceptsOne]
  simp only [List.mem_cons, List.mem_append, Option.mem_toList, or_and_right, exists_or,
    exists_eq_left]
  exact or_or_or_comm

/-! ## Arrays -/

theorem forall_accepts_array_iff {vs : List Value} (hvs : ∀ v ∈ vs, v.isNormal) {t : Ty} :
    (∀ v ∈ vs, v.kind = .array → Accepts false m (.array t) v) ↔
      ∀ w ∈ gatheredItems vs, Accepts false m t w := by
  constructor
  · intro h w hw
    obtain ⟨v, hv, hw⟩ := List.mem_flatMap.mp hw
    obtain ⟨values, rfl, hw⟩ := Schema.mem_items hw
    obtain ⟨values', heq, hitems⟩ := accepts_array_iff.mp (h _ hv rfl)
    cases heq
    exact hitems w hw
  · intro h v hv hkind
    cases v with
    | arr values => exact .array fun w hw => h w (List.mem_flatMap.mpr ⟨_, hv, hw⟩)
    | set => exact absurd (hvs _ hv) (by simp [Value.isNormal])
    | _ => cases hkind

/-! ## Objects -/

theorem isOptional_fieldsOf {fields : List (String × List Alternative)} {required : List String}
    {d : Drafting} {f : Field} (hf : f ∈ (fieldsOf required fields d).value) :
    f.isOptional = !required.contains f.key := by
  induction fields generalizing d with
  | nil => cases hf
  | cons field fields ih =>
      obtain ⟨key, s⟩ := field
      rw [fieldsOf] at hf
      rcases List.mem_cons.mp hf with rfl | hf
      · rfl
      · exact ih hf

/-- An object type for some objects accepts all of them if the types under its keys accept what
stands under these keys. -/
theorem accepts_objects_iff {vs : List Value} (hvs : ∀ v ∈ vs, v.isNormal)
    {fields : List (String × List Alternative)} {required : List String}
    (ha : IsAlternativeOf vs (.object fields required)) {name : String} {written : List Field}
    {properties : List Property} (hproperties : written.mapM Field.property? = some properties)
    (hkeys : written.map Field.key = fields.map Prod.fst)
    (hoptional : ∀ f ∈ written, f.isOptional = !required.contains f.key)
    (hname : body? m name = some (.object properties false)) :
    (∀ v ∈ vs, v.kind = .object → Accepts false m (.named name) v) ↔
      ∀ p ∈ properties, ∀ w ∈ under p.key (objects vs), Accepts false m p.type w := by
  have hpropertyKeys : properties.map Property.key = keys (objects vs) := by
    rw [map_eq_of_mapM hproperties fun f p hp => (Field.property?_eq_some hp).1, hkeys, ha.keys_fields]
  constructor
  · intro h p hp w hw
    obtain ⟨entries, hentries, hlookup⟩ := Shape.mem_under.mp hw
    obtain ⟨v, hv, hfields⟩ := Schema.mem_objects.mp hentries
    obtain rfl := Schema.fields?_of_isNormal (hvs v hv) hfields
    obtain ⟨entries', heq, hvalues, -, -⟩ := (accepts_object_iff hname).mp (h _ hv rfl)
    cases heq
    exact hvalues p hp w hlookup fun hpassed => Bool.false_ne_true hpassed.1
  · intro h v hv hkind
    cases v with
    | obj entries =>
        have hentries : entries ∈ objects vs := Schema.mem_objects.mpr ⟨_, hv, rfl⟩
        refine (accepts_object_iff hname).mpr ⟨entries, rfl, ?_, ?_, ?_⟩
        · intro p hp w hlookup _
          exact h p hp w (Shape.mem_under.mpr ⟨entries, hentries, hlookup⟩)
        · intro p hp hrequired
          obtain ⟨f, hf, hproperty⟩ := exists_mem_of_mapM hproperties hp
          obtain ⟨hkey, hopt, -⟩ := Field.property?_eq_some hproperty
          rw [hopt, hoptional f hf, Bool.not_eq_false', List.contains_iff_mem, ha.required,
            Shape.mem_required (List.ne_nil_of_mem hentries)] at hrequired
          rw [lookup_isSome_iff_mem, hkey]
          exact hrequired entries hentries
        · intro _ key hkey
          rw [hpropertyKeys, keys, List.mem_eraseDups]
          exact List.mem_flatMap.mpr ⟨entries, hentries, hkey⟩
    | map => exact absurd (hvs _ hv) (by simp [Value.isNormal])
    | _ => cases hkind

end TypeDraft.TypeScript.Basic
