import TypeDraft.Proofs.Schema.Contained
import TypeDraft.Proofs.TypeScript.Advanced.Success

/-!
# What the options change

Four options and the style of declarations concern marks alone. Two runs that differ in nothing else
hand out the same names and write the same types, since at each field they leave the names taken the
same. Annotations of patterns are another matter, but none of them stands where anything is hoisted.
-/

namespace TypeDraft.TypeScript.Advanced

/-! ## What is written twice -/

/-- The type of a field of strings with a pattern, where it is no enumeration. -/
def patternType (o : Options) (p : StringPattern) : TypeExpr :=
  if o.detectPatterns then .annotated p else .ofKind .string

/-- The types of a field in two runs differ at most where it has a pattern and one run looks for
patterns while the other does not. -/
def HasTypes (o o' : Options) (facts : Facts) (t t' : TypeExpr) : Prop :=
  t = t' ∨ o.detectPatterns ≠ o'.detectPatterns ∧
    ∃ p, facts.pattern = some p ∧ t = patternType o p ∧ t' = patternType o' p

/-- The member of a field, with the marks that an option set gives it. -/
def fieldMember (o : Options) (field : String × Facts × Option Schema) (t : TypeExpr) : Member :=
  member o field.1 field.2.1 t

/-- The types of some fields in two runs. -/
def AreTypesOf (o o' : Options) (fields : List (String × Facts × Option Schema))
    (types : List (TypeExpr × TypeExpr)) : Prop :=
  List.Forall₂ (fun field ts => HasTypes o o' field.2.1 ts.1 ts.2) fields types

/-- Two declarations that are written in two runs for the same thing. Synonyms and enumerations are
equal; shapes have one name and are made, member by member, from the fields of one object. -/
inductive Corresponds (s : Schema) (o o' : Options) : Declaration → Declaration → Prop
  | synonym (name : String) (type : TypeExpr) :
      Corresponds s o o' (.synonym name type) (.synonym name type)
  | enum (name : String) (members : List (String × String)) :
      Corresponds s o o' (.enum name members) (.enum name members)
  | shape (name : String) {fields : List (String × Facts × Option Schema)}
      {types : List (TypeExpr × TypeExpr)} (contains : s.Contains (.object fields))
      (typed : AreTypesOf o o' fields types) :
      Corresponds s o o'
        (.shape name (List.zipWith (fieldMember o) fields (types.map Prod.fst))
          (isOpen o fields.length))
        (.shape name (List.zipWith (fieldMember o') fields (types.map Prod.snd))
          (isOpen o' fields.length))

theorem Corresponds.name_eq {s : Schema} {o o' : Options} {d d' : Declaration}
    (h : Corresponds s o o' d d') : d.name = d'.name := by
  cases h <;> rfl

/-- Two states of hoisting in which the same names are taken and the same things are declared. -/
structure Alike (s : Schema) (o o' : Options) (h h' : Hoisted Declaration) : Prop where
  names : h.names = h'.names
  definitions : List.Forall₂ (Corresponds s o o') h.definitions h'.definitions

variable {s : Schema} {o o' : Options} {h h' : Hoisted Declaration}

theorem Alike.reserve (ha : Alike s o o' h h') (name : String) :
    (h.reserve name).1 = (h'.reserve name).1 ∧
      Alike s o o' (h.reserve name).2 (h'.reserve name).2 := by
  have hname : (h.reserve name).1 = (h'.reserve name).1 := by
    rw [Hoisted.reserve, Hoisted.reserve, ha.names]
  refine ⟨hname, ?_, ha.definitions⟩
  exact congrArg₂ List.cons hname ha.names

theorem Alike.add (ha : Alike s o o' h h') {d d' : Declaration} (hd : Corresponds s o o' d d') :
    Alike s o o' (h.add d) (h'.add d') where
  names := ha.names
  definitions := List.rel_append ha.definitions (.cons hd .nil)

/-! ## Fields -/

/-- Two option sets that make the same fields enumerations and unions. -/
structure SameForms (o o' : Options) : Prop where
  generateEnums : o.generateEnums = o'.generateEnums
  detectUnionTypes : o.detectUnionTypes = o'.detectUnionTypes

/-- A field with a pattern, where it is neither an enumeration nor a union. -/
def patternForm (o : Options) (facts : Facts) (p : StringPattern) : FieldForm :=
  if o.detectPatterns then .plain (.annotated p)
  else .nested ((facts.kinds.head?.map .ofKind).getD .unknown)

theorem fieldForm_eq_or (hforms : SameForms o o') (facts : Facts) :
    fieldForm o facts = fieldForm o' facts ∨ o.detectPatterns ≠ o'.detectPatterns ∧
      ∃ p, facts.pattern = some p ∧ fieldForm o facts = patternForm o facts p ∧
        fieldForm o' facts = patternForm o' facts p := by
  rw [fieldForm, fieldForm, ← hforms.generateEnums, ← hforms.detectUnionTypes]
  by_cases henum : (o.generateEnums && facts.isEnum) = true
  · rw [if_pos henum, if_pos henum]
    exact Or.inl rfl
  rw [if_neg henum, if_neg henum]
  by_cases hunion : (o.detectUnionTypes && facts.isUnion) = true
  · rw [if_pos hunion, if_pos hunion]
    exact Or.inl rfl
  rw [if_neg hunion, if_neg hunion]
  by_cases hpatterns : o.detectPatterns = o'.detectPatterns
  · rw [hpatterns]
    exact Or.inl rfl
  cases hp : facts.pattern with
  | none =>
      rw [ite_self, ite_self]
      exact Or.inl rfl
  | some p =>
      refine Or.inr ⟨hpatterns, p, rfl, ?_, ?_⟩
      · cases ho : o.detectPatterns <;> simp [patternForm, ho]
      · cases ho : o'.detectPatterns <;> simp [patternForm, ho]

theorem fieldTypeOf_of_patternForm {facts : Facts} {p : StringPattern}
    (hkinds : facts.kinds = [.string]) (hform : fieldForm o facts = patternForm o facts p)
    (key : String) (h : Hoisted Declaration) :
    fieldTypeOf o key facts none h = (patternType o p, h) := by
  rw [fieldTypeOf, hform, patternForm, patternType, hkinds]
  cases o.detectPatterns <;> rfl

/-- One field in two runs, if its nested schema gives both the same type. -/
theorem alike_fieldTypeOf (hforms : SameForms o o') {key : String} {facts : Facts}
    {nested : Option Schema}
    (hplain : ∀ p, facts.pattern = some p → facts.kinds = [.string] ∧ nested = none)
    (hnested : ∀ fallback,
      (nestedTypeOf o key fallback nested h).1 = (nestedTypeOf o' key fallback nested h').1 ∧
        Alike s o o' (nestedTypeOf o key fallback nested h).2
          (nestedTypeOf o' key fallback nested h').2)
    (ha : Alike s o o' h h') :
    HasTypes o o' facts (fieldTypeOf o key facts nested h).1
        (fieldTypeOf o' key facts nested h').1 ∧
      Alike s o o' (fieldTypeOf o key facts nested h).2 (fieldTypeOf o' key facts nested h').2 := by
  rcases fieldForm_eq_or hforms facts with hsame | ⟨hpatterns, p, hp, hform, hform'⟩
  · rw [fieldTypeOf, fieldTypeOf, ← hsame]
    cases fieldForm o facts with
    | enumeration =>
        obtain ⟨hname, hreserved⟩ := ha.reserve (Name.pascalCase key)
        refine ⟨Or.inl (congrArg TypeExpr.named hname), ?_⟩
        rw [← hname]
        exact hreserved.add (.enum _ _)
    | plain t => exact ⟨Or.inl rfl, ha⟩
    | nested fallback => exact (hnested fallback).imp_left Or.inl
  · obtain ⟨hkinds, rfl⟩ := hplain p hp
    rw [fieldTypeOf_of_patternForm hkinds hform, fieldTypeOf_of_patternForm hkinds hform']
    exact ⟨Or.inr ⟨hpatterns, p, hp, rfl, rfl⟩, ha⟩

/-! ## Two runs -/

mutual

theorem alike_typeOf (hforms : SameForms o o') (hplain : s.HasPlainPatterns) (context : String) :
    (t : Schema) → s.Contains t → {h h' : Hoisted Declaration} → Alike s o o' h h' →
      (typeOf o context t h).1 = (typeOf o' context t h').1 ∧
        Alike s o o' (typeOf o context t h).2 (typeOf o' context t h').2
  | .object fields, hcontains, h, h', ha => by
    obtain ⟨hname, hreserved⟩ := ha.reserve (Name.pascalCase context)
    obtain ⟨types, hfirst, hsecond, htyped, hafter⟩ :=
      alike_membersOf hforms hplain fields hcontains (List.Subset.refl fields) hreserved
    have hshape : Corresponds s o o'
        (.shape (h.reserve (Name.pascalCase context)).1
          (membersOf o fields (h.reserve (Name.pascalCase context)).2).1 (isOpen o fields.length))
        (.shape (h'.reserve (Name.pascalCase context)).1
          (membersOf o' fields (h'.reserve (Name.pascalCase context)).2).1
          (isOpen o' fields.length)) := by
      rw [hfirst, hsecond, ← hname]
      exact .shape _ hcontains htyped
    exact ⟨congrArg TypeExpr.named hname, hafter.add hshape⟩
  | .array none, _, _, _, ha => ⟨rfl, ha⟩
  | .array (some items), hcontains, h, h', ha => by
    obtain ⟨htype, hafter⟩ :=
      alike_typeOf hforms hplain (Name.singularize context) items hcontains.items ha
    rw [typeOf, typeOf]
    exact ⟨congrArg TypeExpr.array htype, hafter⟩
  | .scalar _, _, _, _, ha => ⟨rfl, ha⟩
  | .unsupported _, _, _, _, ha => ⟨rfl, ha⟩

theorem alike_nestedTypeOf (hforms : SameForms o o') (hplain : s.HasPlainPatterns)
    (context : String) (fallback : TypeExpr) : (t : Option Schema) →
    (∀ u, t = some u → s.Contains u) → {h h' : Hoisted Declaration} → Alike s o o' h h' →
      (nestedTypeOf o context fallback t h).1 = (nestedTypeOf o' context fallback t h').1 ∧
        Alike s o o' (nestedTypeOf o context fallback t h).2
          (nestedTypeOf o' context fallback t h').2
  | none, _, _, _, ha => ⟨rfl, ha⟩
  | some t, hcontains, _, _, ha => alike_typeOf hforms hplain context t (hcontains t rfl) ha

/-- The fields of an object in two runs. The induction is on the fields that are left; each has left
the same names taken for those behind it. -/
theorem alike_membersOf (hforms : SameForms o o') (hplain : s.HasPlainPatterns) :
    (fields : List (String × Facts × Option Schema)) →
    {all : List (String × Facts × Option Schema)} → s.Contains (.object all) → fields ⊆ all →
    {h h' : Hoisted Declaration} → Alike s o o' h h' → ∃ types : List (TypeExpr × TypeExpr),
      (membersOf o fields h).1 = List.zipWith (fieldMember o) fields (types.map Prod.fst) ∧
        (membersOf o' fields h').1 = List.zipWith (fieldMember o') fields (types.map Prod.snd) ∧
        AreTypesOf o o' fields types ∧
        Alike s o o' (membersOf o fields h).2 (membersOf o' fields h').2
  | [], _, _, _, _, _, ha => ⟨[], rfl, rfl, .nil, ha⟩
  | (key, facts, nested) :: fields, all, hcontains, hsub, _, _, ha => by
    have hfield : (key, facts, nested) ∈ all := hsub List.mem_cons_self
    obtain ⟨htypes, hown⟩ := alike_fieldTypeOf hforms (hplain all hcontains _ hfield)
      (fun fallback => alike_nestedTypeOf hforms hplain key fallback nested
        (fun u hu => hcontains.field (hu ▸ hfield)) ha) ha
    have hrest : fields ⊆ all := fun field hmem => hsub (List.mem_cons_of_mem _ hmem)
    obtain ⟨types, hfirst, hsecond, htyped, hafter⟩ :=
      alike_membersOf hforms hplain fields hcontains hrest hown
    rw [membersOf_cons, membersOf_cons, hfirst, hsecond]
    exact ⟨(_, _) :: types, rfl, rfl, .cons htypes htyped, hafter⟩

end

/-- The declarations of one schema under two option sets that make the same fields enumerations and
unions correspond, one by one. -/
theorem corresponds_declarations (hforms : SameForms o o') (hplain : s.HasPlainPatterns)
    (name : String) :
    List.Forall₂ (Corresponds s o o') (declarations o name s) (declarations o' name s) := by
  have hstart : Alike s o o' ⟨[], [name]⟩ ⟨[], [name]⟩ := ⟨rfl, .nil⟩
  cases s with
  | object fields =>
      obtain ⟨types, hfirst, hsecond, htyped, hafter⟩ :=
        alike_membersOf hforms hplain fields .refl (List.Subset.refl fields) hstart
      rw [declarations, declarations, rootOf, rootOf]
      simp only [hfirst, hsecond]
      exact .cons (.shape name .refl htyped) hafter.definitions
  | array items =>
      cases items with
      | none => exact .cons (.synonym name _) .nil
      | some items =>
          obtain ⟨htype, hafter⟩ :=
            alike_typeOf hforms hplain (name ++ "Item") items (.items .refl) hstart
          rw [declarations, declarations, rootOf, rootOf]
          simp only [htype]
          exact .cons (.synonym name _) hafter.definitions
  | scalar kind => exact .cons (.synonym name _) .nil
  | unsupported sort => exact .cons (.synonym name _) .nil

/-! ## Texts -/

/-- A heading, some lines and a closing brace. Without lines the brace stands behind the heading. -/
def block (heading : String) (lines : List String) : String :=
  if lines.isEmpty then heading ++ "\x7d"
  else heading ++ "\n" ++ "\n".intercalate lines ++ "\n\x7d"

/-- The line of a field: its key and its type, with the marks that an option set gives it. -/
def fieldLine (o : Options) (field : String × Facts × Option Schema) (t : TypeExpr) : String :=
  "  " ++ (if o.useReadonly then "readonly " else "") ++ Name.quoteProperty field.1 ++
    (if o.detectOptionalProperties && field.2.1.isOptional then "?" else "") ++ ": " ++
    t.text ++ ";"

/-- The line for further keys, if an option set wants one. -/
def indexLines (o : Options) (fieldCount : Nat) : List String :=
  if o.generateIndexSignatures && 10 < fieldCount then ["  [key: string]: unknown;"] else []

/-- Two texts of one declaration. Where they differ at all, it is in the heading, in the marks of
fields, in the types of fields with a pattern and in the line for further keys. -/
inductive AreTexts (s : Schema) (o o' : Options) (style style' : Style) : String → String → Prop
  | same (text : String) : AreTexts s o o' style style' text text
  | shape (name : String) {fields : List (String × Facts × Option Schema)}
      {types : List (TypeExpr × TypeExpr)} (contains : s.Contains (.object fields))
      (typed : AreTypesOf o o' fields types) :
      AreTexts s o o' style style'
        (block (Declaration.header style name)
          (List.zipWith (fieldLine o) fields (types.map Prod.fst) ++ indexLines o fields.length))
        (block (Declaration.header style' name)
          (List.zipWith (fieldLine o') fields (types.map Prod.snd) ++ indexLines o' fields.length))

theorem text_shape (style : Style) (o : Options) (name : String)
    (fields : List (String × Facts × Option Schema)) (types : List TypeExpr) :
    (Declaration.shape name (List.zipWith (fieldMember o) fields types)
      (isOpen o fields.length)).text style =
      block (Declaration.header style name)
        (List.zipWith (fieldLine o) fields types ++ indexLines o fields.length) := by
  have hlines : (List.zipWith (fieldMember o) fields types).map Member.text =
      List.zipWith (fieldLine o) fields types := List.map_zipWith
  rw [Declaration.text, hlines]
  rfl

theorem Corresponds.areTexts {d d' : Declaration} (h : Corresponds s o o' d d')
    (style style' : Style) : AreTexts s o o' style style' (d.text style) (d'.text style') := by
  cases h with
  | synonym name type => exact .same _
  | enum name members => exact .same _
  | shape name hcontains htyped =>
      rw [text_shape, text_shape]
      exact .shape name hcontains htyped

/-- Two option sets that agree on enumerations and unions, and any two styles, give corresponding
declarations for whatever has been analyzed: the same names in the same order, the same
enumerations, and shapes with the same keys and types, but for the fields with a pattern if only one
of the two looks for patterns. The texts differ in these types, in headings and in marks alone. -/
theorem options_change_marks_alone {primary : Value} {extras : List Value} {s : Schema}
    (h : analyze primary extras = .ok s) {o o' : Options} (hforms : SameForms o o')
    (style style' : Style) (name : String) :
    draft style o name s =
        .ok ("\n\n".intercalate ((declarations o name s).map (Declaration.text style))) ∧
      draft style' o' name s =
        .ok ("\n\n".intercalate ((declarations o' name s).map (Declaration.text style'))) ∧
      (declarations o name s).map Declaration.name =
        (declarations o' name s).map Declaration.name ∧
      List.Forall₂ (fun d d' => Corresponds s o o' d d' ∧
          AreTexts s o o' style style' (d.text style) (d'.text style'))
        (declarations o name s) (declarations o' name s) := by
  have hplain : s.HasPlainPatterns := by
    rw [Schema.eq_ofSamples_of_analyze h]
    exact Schema.hasPlainPatterns_ofSamples primary extras
  have hcorrespond := corresponds_declarations hforms hplain name
  refine ⟨draft_of_analyze h style o name, draft_of_analyze h style' o' name, ?_, ?_⟩
  · rw [← List.forall₂_eq_eq_eq, List.forall₂_map_left_iff, List.forall₂_map_right_iff]
    exact hcorrespond.imp fun _ _ hd => hd.name_eq
  · exact hcorrespond.imp fun _ _ hd => ⟨hd, hd.areTexts style style'⟩

/-- Other marks, another style and no search for patterns. -/
theorem options_change_marks_alone_switched :
    let o : Options :=
      { useReadonly := false, detectOptionalProperties := false
        generateIndexSignatures := true, detectPatterns := false }
    ∃ s text text', analyze (.obj [("at", .str "2024-01-15"), ("who", .obj [("n", .null)])])
        [.obj [("at", .str "2024-02-01")]] = .ok s ∧
      draft .interface {} "Root" s = .ok text ∧ draft .type o "Root" s = .ok text' ∧
      (declarations {} "Root" s).map Declaration.name =
        (declarations o "Root" s).map Declaration.name ∧
      List.Forall₂ (fun d d' => Corresponds s {} o d d' ∧
          AreTexts s {} o .interface .type (d.text .interface) (d'.text .type))
        (declarations {} "Root" s) (declarations o "Root" s) := by
  intro o
  let first : Value := .obj [("at", .str "2024-01-15"), ("who", .obj [("n", .null)])]
  let second : Value := .obj [("at", .str "2024-02-01")]
  have hs : analyze first [second] = .ok (.ofSamples first [second]) := by
    rw [analyze, show Schema.failure? openSteps first [second] = none by decide +kernel]
  have hforms : SameForms {} o := ⟨rfl, rfl⟩
  obtain ⟨htext, htext', hnames, hcorrespond⟩ :=
    options_change_marks_alone hs hforms .interface .type "Root"
  exact ⟨_, _, _, hs, htext, htext', hnames, hcorrespond⟩

end TypeDraft.TypeScript.Advanced
