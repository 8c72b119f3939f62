import TypeDraft.Proofs.Schema.Paths
import TypeDraft.Proofs.Schema.Uniform
import TypeDraft.Proofs.TypeScript.Advanced.Hoisting

/-!
# The types of fields

Whichever form the facts of a field give it, the type that is written accepts the values seen in
it. Only where a nested schema is written does that depend on what lies deeper.
-/

namespace TypeDraft.TypeScript.Advanced

open Schema (valuesUnder Describes OneKind shaped objects)

/-- A type has been written for some values. -/
def WritesTypeFor (values : List Value) (h : Hoisted Declaration)
    (r : TypeExpr × Hoisted Declaration) : Prop :=
  ∃ new, Hoists h r.2 new ∧ IsTypeFor values r.1 new

theorem writesTypeFor_of_plain {values : List Value} {t : TypeExpr} (h : Hoisted Declaration)
    (ht : IsTypeFor values t []) : WritesTypeFor values h (t, h) := ⟨[], Hoists.refl h, ht⟩

/-! ## Types without declarations -/

theorem admits_ofKind {v : Value} (h : v.isNormal) : Admits (Primitive.ofKind v.kind).text v := by
  cases v with
  | null | bool | int | float | str => exact Or.inr (Or.inr (by simp [Primitive.ofKind, Value.kind,
      Primitive.text, Kind.name]))
  | arr | obj => exact Or.inl rfl
  | _ => simp [Value.isNormal] at h

theorem accepts_ofKind {m : List Statement} {ds : List Declaration} (hm : Resolves m ds) {v : Value}
    (h : v.isNormal) : Accepts true m (.named (Primitive.ofKind v.kind).text) v :=
  .predefined (hm.predefined _) (admits_ofKind h)

theorem isTypeFor_ofKind {values : List Value} (hn : ∀ v ∈ values, v.isNormal) {k : Kind}
    (hk : ∀ v ∈ values, v.kind = k) : IsTypeFor values (.ofKind k) [] where
  readable := trivial
  declared := List.nil_subset _
  accepts := fun _ hm v hv => hk v hv ▸ accepts_ofKind hm (hn v hv)

theorem isTypeFor_unionOf {values : List Value} (hn : ∀ v ∈ values, v.isNormal) {kinds : List Kind}
    (hne : kinds ≠ []) (hk : ∀ v ∈ values, v.kind ∈ kinds) :
    IsTypeFor values (.unionOf kinds) [] where
  readable := by
    intro hnil
    obtain ⟨k, hk⟩ := List.exists_mem_of_ne_nil kinds hne
    have hmem : Primitive.ofKind k ∈ (kinds.map Primitive.ofKind).eraseDups :=
      List.mem_eraseDups.mpr (List.mem_map_of_mem hk)
    rw [hnil] at hmem
    cases hmem
  declared := List.nil_subset _
  accepts := by
    intro m hm v hv
    refine accepts_ofAlternatives_iff.mpr ⟨_, ?_, accepts_ofKind hm (hn v hv)⟩
    refine List.mem_map.mpr ⟨Primitive.ofKind v.kind, ?_, rfl⟩
    exact List.mem_eraseDups.mpr (List.mem_map_of_mem (hk v hv))

theorem isTypeFor_annotated {values : List Value} (hs : ∀ v ∈ values, v.kind = .string)
    (p : StringPattern) : IsTypeFor values (.annotated p) [] where
  readable := trivial
  declared := List.nil_subset _
  accepts := by
    intro m hm v hv
    have hstring : Accepts true m (.named "string") v := by
      refine .predefined (hm.predefined .string) (Or.inr (Or.inr ⟨by decide, ?_⟩))
      rw [hs v hv]
      rfl
    refine accepts_ofAlternatives_iff.mpr ⟨_, ?_, hstring⟩
    cases p <;> simp [TypeExpr.alternatives]

/-! ## Enumerations -/

theorem enumMembers_concat (values : List String) (v : String) :
    enumMembers (values ++ [v]) = enumMembers values ++
      [(Name.unique (Name.enumMember v) ((enumMembers values).map Prod.fst), v)] := by
  simp only [enumMembers, List.foldl_append, List.foldl_cons, List.foldl_nil]

theorem enumMembers_spec (values : List String) :
    (enumMembers values).map Prod.snd = values ∧ ∀ m ∈ enumMembers values, Name.IsMemberName m.1 := by
  induction values using List.reverseRecOn with
  | nil => exact ⟨rfl, nofun⟩
  | append_singleton values v ih =>
      rw [enumMembers_concat]
      refine ⟨by rw [List.map_append, ih.1]; rfl, fun m hm => ?_⟩
      rcases List.mem_append.mp hm with hm | hm
      · exact ih.2 m hm
      · obtain rfl := List.mem_singleton.mp hm
        exact Name.isMemberName_unique (Name.isMemberName_enumMember v) _

theorem distinctValues_map_str (strings : List String) :
    distinctValues (strings.map .str) = strings.eraseDups.map .str := by
  induction strings using List.reverseRecOn with
  | nil => rfl
  | append_singleton strings s ih =>
      have hany : (strings.eraseDups.map Value.str).any (Value.alike · (.str s)) = true ↔
          s ∈ strings := by
        simp [List.any_eq_true, Value.alike]
      rw [List.map_append, List.map_singleton, Schema.distinctValues_concat, ih, eraseDups_concat]
      by_cases hs : s ∈ strings
      · rw [if_pos (hany.mpr hs), if_pos hs]
      · rw [if_neg (mt hany.mp hs), if_neg hs, List.map_append]
        rfl

theorem enumValues_eq {facts : Facts} {strings : List String}
    (h : facts.values = strings.map .str) : enumValues facts = strings.eraseDups := by
  rw [enumValues, Facts.distinct, h, distinctValues_map_str, List.filterMap_map]
  simp

/-- Strings can always be written as an enumeration. -/
theorem findSome?_distinct_of_strings {facts : Facts} {strings : List String}
    (h : facts.values = strings.map .str) :
    (facts.distinct.findSome? fun (v : Value) =>
      match v with
      | .str _ => none
      | v => some (DraftError.enumValue v.sort)) = none := by
  rw [Facts.distinct, h, distinctValues_map_str, List.findSome?_eq_none_iff]
  intro v hv
  obtain ⟨s, -, rfl⟩ := List.mem_map.mp hv
  rfl

theorem writesTypeFor_enumeration {facts : Facts} {strings : List String} (hne : strings ≠ [])
    (hvalues : facts.values = strings.map .str) (key : String) (h : Hoisted Declaration) :
    WritesTypeFor facts.values h (.named (h.reserve (Name.pascalCase key)).1,
      (h.reserve (Name.pascalCase key)).2.add (.enum (h.reserve (Name.pascalCase key)).1
        (enumMembers (enumValues facts)))) := by
  obtain ⟨name, hname⟩ : ∃ name, name = (h.reserve (Name.pascalCase key)).1 := ⟨_, rfl⟩
  have hreserve := reserve_fst h key
  rw [← hname] at hreserve ⊢
  obtain ⟨hmembers, hnames⟩ := enumMembers_spec (enumValues facts)
  have hnonempty : enumMembers (enumValues facts) ≠ [] := by
    intro hnil
    obtain ⟨s, hs⟩ := List.exists_mem_of_ne_nil strings hne
    have hmem : s ∈ enumValues facts := by
      rw [enumValues_eq hvalues]
      exact List.mem_eraseDups.mpr hs
    rw [← hmembers, hnil] at hmem
    cases hmem
  have hsound : (Declaration.enum name (enumMembers (enumValues facts))).IsSound :=
    ⟨⟨hreserve.2.1, hnonempty, fun m hm => (hnames m hm).isWord⟩, hreserve.2.2, List.nodup_nil⟩
  refine ⟨[.enum name (enumMembers (enumValues facts))], ?_, ?_⟩
  · refine Hoists.add hreserve.1 ?_ (Hoists.refl _) rfl hsound (List.nil_subset _)
    rw [hname]
    rfl
  · refine ⟨hreserve.2.1, List.Subset.refl _, fun m hm v hv => ?_⟩
    have hbody := hm.declared _ List.mem_cons_self
    rw [hvalues] at hv
    obtain ⟨s, hs, rfl⟩ := List.mem_map.mp hv
    refine .enumeration hbody ?_
    rw [hmembers, enumValues_eq hvalues]
    exact List.mem_eraseDups.mpr hs

/-! ## Fields -/

/-- The type of a field, with what it hoists. -/
def fieldTypeOf (o : Options) (key : String) (facts : Facts) (nested : Option Schema)
    (h : Hoisted Declaration) : TypeExpr × Hoisted Declaration :=
  match fieldForm o facts with
  | .enumeration =>
    (.named (h.reserve (Name.pascalCase key)).1,
      (h.reserve (Name.pascalCase key)).2.add (.enum (h.reserve (Name.pascalCase key)).1
        (enumMembers (enumValues facts))))
  | .plain t => (t, h)
  | .nested fallback => nestedTypeOf o key fallback nested h

theorem membersOf_cons (o : Options) (key : String) (facts : Facts) (nested : Option Schema)
    (fields : List (String × Facts × Option Schema)) (h : Hoisted Declaration) :
    membersOf o ((key, facts, nested) :: fields) h =
      (member o key facts (fieldTypeOf o key facts nested h).1 ::
          (membersOf o fields (fieldTypeOf o key facts nested h).2).1,
        (membersOf o fields (fieldTypeOf o key facts nested h).2).2) := by
  cases hform : fieldForm o facts <;> simp only [membersOf, fieldTypeOf, hform]

theorem kind_eq_string_of_pattern {facts : Facts} {nested : Option Schema}
    {objects : List (List (String × Value))} {key : String}
    (hd : Describes facts nested objects key) {p : StringPattern} (hp : facts.pattern = some p) :
    ∀ v ∈ valuesUnder key objects, v.kind = .string := by
  intro v hv
  by_contra hkind
  rw [hd.pattern_eq_none (Or.inr ⟨v, hv, hkind⟩)] at hp
  cases hp

/-- The forms of a field, with what its facts say where it has them. -/
theorem fieldForm_cases (o : Options) (facts : Facts) :
    (facts.isEnum = true ∧ fieldForm o facts = .enumeration) ∨
      (facts.isUnion = true ∧ fieldForm o facts = .plain (.unionOf facts.kinds)) ∨
      (∃ p, facts.pattern = some p ∧ fieldForm o facts = .plain (.annotated p)) ∨
      ((o.detectUnionTypes = true → facts.isUnion = false) ∧
        fieldForm o facts = .nested ((facts.kinds.head?.map .ofKind).getD .unknown)) := by
  rw [fieldForm]
  by_cases henum : (o.generateEnums && facts.isEnum) = true
  · rw [if_pos henum]
    exact Or.inl ⟨(Bool.and_eq_true_iff.mp henum).2, rfl⟩
  rw [if_neg henum]
  by_cases hunion : (o.detectUnionTypes && facts.isUnion) = true
  · rw [if_pos hunion]
    exact Or.inr (Or.inl ⟨(Bool.and_eq_true_iff.mp hunion).2, rfl⟩)
  rw [if_neg hunion]
  cases hp : if o.detectPatterns then facts.pattern else none with
  | some p =>
      have hpattern : facts.pattern = some p := by
        split at hp
        · exact hp
        · cases hp
      exact Or.inr (Or.inr (Or.inl ⟨p, hpattern, rfl⟩))
  | none =>
      refine Or.inr (Or.inr (Or.inr ⟨fun hdetect => ?_, rfl⟩))
      rw [hdetect, Bool.true_and] at hunion
      exact Bool.eq_false_iff.mpr hunion

theorem isTypeFor_fallback {values : List Value} (hn : ∀ v ∈ values, v.isNormal)
    (hone : OneKind values) :
    IsTypeFor values (((values.map Value.kind).eraseDups.head?.map .ofKind).getD .unknown) [] := by
  cases values with
  | nil => exact ⟨trivial, List.nil_subset _, nofun⟩
  | cons v vs =>
      rw [List.map_cons, List.eraseDups_cons]
      exact isTypeFor_ofKind hn fun w hw => hone w hw v List.mem_cons_self

/-- The type of a field accepts the values seen in it, if one that is written for a nested schema
does. -/
theorem writesTypeFor_field {o : Options} (hunion : o.detectUnionTypes = true) {facts : Facts}
    {nested : Option Schema} {objects : List (List (String × Value))} {key : String}
    (hd : Describes facts nested objects key) (hn : ∀ v ∈ valuesUnder key objects, v.isNormal)
    (hnested : ∀ s, nested = some s → OneKind (valuesUnder key objects) →
      ∀ h, WritesTypeFor (valuesUnder key objects) h (typeOf o key s h))
    (h : Hoisted Declaration) :
    WritesTypeFor (valuesUnder key objects) h (fieldTypeOf o key facts nested h) := by
  rw [fieldTypeOf]
  rcases fieldForm_cases o facts with ⟨henum, hform⟩ | ⟨hmixed, hform⟩ | ⟨p, hp, hform⟩ |
    ⟨hsingle, hform⟩ <;> rw [hform]
  · obtain ⟨strings, hstrings, hcard, -⟩ := hd.isEnum.mp henum
    have hne : strings ≠ [] := by
      rintro rfl
      simp at hcard
    have hvalues : facts.values = strings.map .str := hd.values.trans hstrings
    have hwrites := writesTypeFor_enumeration hne hvalues key h
    rwa [hd.values] at hwrites
  · have hlength := hd.isUnion.mp hmixed
    have hne : facts.kinds ≠ [] := by
      intro hnil
      rw [hnil] at hlength
      exact absurd hlength (by decide)
    refine writesTypeFor_of_plain h (isTypeFor_unionOf hn hne fun v hv => ?_)
    rw [hd.kinds]
    exact List.mem_eraseDups.mpr (List.mem_map_of_mem hv)
  · exact writesTypeFor_of_plain h (isTypeFor_annotated (kind_eq_string_of_pattern hd hp) p)
  · have hone : OneKind (valuesUnder key objects) := by
      apply Schema.oneKind_of_kinds_length
      rw [← hd.kinds]
      apply Nat.le_of_not_lt
      intro hlt
      rw [← hd.isUnion, hsingle hunion] at hlt
      cases hlt
    cases nested with
    | some s => exact hnested s rfl hone h
    | none =>
        rw [hd.kinds]
        exact writesTypeFor_of_plain h (isTypeFor_fallback hn hone)

end TypeDraft.TypeScript.Advanced
