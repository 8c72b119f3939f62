import TypeDraft.GraphQL
import TypeDraft.Proofs.JsonSchema.Validation
import TypeDraft.Proofs.Name.Word

/-!
# Types of what is reached

The objects that are reached from the root have one type each, in depth-first preorder, with a field
for every key. There are such types unless the root is no object or an object that is reached has no
fields.
-/

namespace TypeDraft.GraphQL

open JsonSchema (Reaches)

/-! ## What is reached -/

/-- An object that is reached, and the name that its type goes by. -/
structure Reached where
  name : String
  fields : List (String × Value)

mutual

/-- The objects that are reached from the value of a field through the values of objects and the
first items of arrays, in depth-first preorder. -/
def reachedFrom (key : String) : Value → List Reached
  | .arr items => reachedFromFirst key items
  | .obj fields => ⟨typeNameOf key, fields⟩ :: reachedFromFields fields
  | _ => []
termination_by structural v => v

def reachedFromFirst (key : String) : List Value → List Reached
  | [] => []
  | v :: _ => reachedFrom key v
termination_by structural vs => vs

def reachedFromFields : List (String × Value) → List Reached
  | [] => []
  | (key, v) :: rest => reachedFrom key v ++ reachedFromFields rest
termination_by structural fields => fields

end

/-- A root object, which goes by the name given, and what is reached from it. -/
def reached (name : String) (fields : List (String × Value)) : List Reached :=
  ⟨name, fields⟩ :: reachedFromFields fields

/-- The value that is written: the sample itself, or the first item of an array. -/
def root? : Value → Option Value
  | .arr items => items.head?
  | v => some v

mutual

/-- How many steps are open at once on the way to all that is reached. -/
def stepsFrom : Value → Nat
  | .arr items => cost.array + stepsFromFirst items
  | .obj fields => cost.object + stepsFromFields fields
  | _ => 0
termination_by structural v => v

def stepsFromFirst : List Value → Nat
  | [] => 0
  | v :: _ => stepsFrom v
termination_by structural vs => vs

def stepsFromFields : List (String × Value) → Nat
  | [] => 0
  | (_, v) :: rest => max (stepsFrom v) (stepsFromFields rest)
termination_by structural fields => fields

end

/-- Whether what is reached from the root of a sample nests no deeper than the walk may go. -/
def IsWithinLimit (v : Value) : Prop :=
  ∀ fields, root? v = some (.obj fields) → stepsFromFields fields ≤ openSteps

mutual

theorem mem_reachedFrom_iff : (v : Value) → {key : String} → {fields : List (String × Value)} →
    ((∃ o ∈ reachedFrom key v, o.fields = fields) ↔ Reaches v (.obj fields))
  | .null, _, _ | .bool _, _, _ | .int _, _, _ | .float _, _, _ | .str _, _, _ | .tuple _, _, _
  | .set _, _, _ | .map _, _, _ | .bytes _, _, _ | .moment _, _, _ | .decimal _, _, _ => by
    simp only [reachedFrom, List.not_mem_nil, false_and, exists_false, false_iff]
    exact fun h => nomatch h
  | .arr items, key, fields => by
    rw [reachedFrom, mem_reachedFromFirst_iff items]
    constructor
    · rintro ⟨v, hv, h⟩
      obtain ⟨vs, rfl⟩ := List.head?_eq_some_iff.mp hv
      exact .first h
    · rintro (_ | _ | h)
      exact ⟨_, rfl, h⟩
  | .obj own, key, fields => by
    rw [reachedFrom]
    simp only [List.mem_cons, exists_eq_or_imp]
    rw [mem_reachedFromFields_iff own]
    constructor
    · rintro (rfl | ⟨f, hf, h⟩)
      · exact .refl _
      · exact .field hf h
    · intro h
      cases h with
      | refl => exact .inl rfl
      | field hf h => exact .inr ⟨_, hf, h⟩

theorem mem_reachedFromFirst_iff :
    (items : List Value) → {key : String} → {fields : List (String × Value)} →
    ((∃ o ∈ reachedFromFirst key items, o.fields = fields) ↔
      ∃ v ∈ items.head?, Reaches v (.obj fields))
  | [], _, _ => by simp [reachedFromFirst]
  | v :: _, key, fields => by
    rw [reachedFromFirst, mem_reachedFrom_iff v]
    simp

theorem mem_reachedFromFields_iff :
    (own : List (String × Value)) → {fields : List (String × Value)} →
    ((∃ o ∈ reachedFromFields own, o.fields = fields) ↔ ∃ f ∈ own, Reaches f.2 (.obj fields))
  | [], _ => by simp [reachedFromFields]
  | (key, v) :: rest, fields => by
    rw [reachedFromFields]
    simp only [List.mem_append, or_and_right, exists_or, List.mem_cons, exists_eq_left]
    rw [mem_reachedFrom_iff v, mem_reachedFromFields_iff rest]

end

theorem mem_reached_iff (name : String) {own fields : List (String × Value)} :
    (∃ o ∈ reached name own, o.fields = fields) ↔ Reaches (.obj own) (.obj fields) := by
  have h : (∃ o ∈ reachedFrom name (.obj own), o.fields = fields) ↔
      Reaches (.obj own) (.obj fields) := mem_reachedFrom_iff _
  simpa only [reached, reachedFrom, List.mem_cons, exists_eq_or_imp] using h

/-! ## Failures -/

/-- Whether something that may stop the walk stops it just if an object without fields is reached. -/
structure StopsAtEmpty (error? : Option DraftError) (isReached : Prop) : Prop where
  noFields : ∀ e ∈ error?, ∃ n, e = .noFields n
  isSome_iff : error?.isSome = true ↔ isReached

theorem StopsAtEmpty.congr {error? : Option DraftError} {p q : Prop} (h : StopsAtEmpty error? p)
    (hiff : p ↔ q) : StopsAtEmpty error? q :=
  ⟨h.noFields, h.isSome_iff.trans hiff⟩

theorem StopsAtEmpty.or {first? rest? : Option DraftError} {p q : Prop}
    (hfirst : StopsAtEmpty first? p) (hrest : StopsAtEmpty rest? q) :
    StopsAtEmpty (first?.or rest?) (p ∨ q) where
  noFields := by
    intro e he
    rcases Option.or_eq_some_iff.mp he with he | ⟨-, he⟩
    · exact hfirst.noFields e he
    · exact hrest.noFields e he
  isSome_iff := by
    rw [Option.isSome_or, Bool.or_eq_true, hfirst.isSome_iff, hrest.isSome_iff]

mutual

theorem stopsAtEmpty_firstError? : (v : Value) → {key : String} → {budget : Nat} →
    v.isNormal = true → stepsFrom v ≤ budget →
    StopsAtEmpty (firstError? key budget v) (Reaches v (.obj []))
  | .null, _, _, _, _ | .bool _, _, _, _, _ | .int _, _, _, _, _ | .float _, _, _, _, _
  | .str _, _, _, _, _ => ⟨nofun, by simp [firstError?, Value.kind]; exact nofun⟩
  | .arr items, key, budget, hv, hsteps => by
    rw [stepsFrom] at hsteps
    rw [firstError?, if_neg (by omega)]
    refine (stopsAtEmpty_firstItemError? items hv (by omega)).congr ⟨?_, ?_⟩
    · rintro ⟨v, hv, h⟩
      obtain ⟨vs, rfl⟩ := List.head?_eq_some_iff.mp hv
      exact .first h
    · rintro (_ | _ | h)
      exact ⟨_, rfl, h⟩
  | .obj fields, key, budget, hv, hsteps => by
    rw [stepsFrom] at hsteps
    rw [firstError?, if_neg (by omega)]
    cases fields with
    | nil => exact ⟨fun e he => ⟨_, (Option.some.inj he).symm⟩, by simp [Reaches.refl]⟩
    | cons f fields =>
        have hfields : Value.areNormalFields (f :: fields) = true := by
          rw [Value.isNormal, Bool.and_eq_true] at hv
          exact hv.2
        rw [if_neg (by simp)]
        refine (stopsAtEmpty_firstFieldError? (f :: fields) hfields (by omega)).congr ⟨?_, ?_⟩
        · rintro ⟨g, hg, h⟩
          exact .field hg h
        · intro h
          cases h with
          | field hg h => exact ⟨_, hg, h⟩

theorem stopsAtEmpty_firstItemError? : (items : List Value) → {key : String} → {budget : Nat} →
    Value.areNormal items = true → stepsFromFirst items ≤ budget →
    StopsAtEmpty (firstItemError? key budget items) (∃ v ∈ items.head?, Reaches v (.obj []))
  | [], _, _, _, _ => ⟨nofun, by simp [firstItemError?]⟩
  | v :: vs, _, _, hitems, hsteps => by
    rw [Value.areNormal, Bool.and_eq_true] at hitems
    rw [firstItemError?]
    exact (stopsAtEmpty_firstError? v hitems.1 hsteps).congr (by simp)

theorem stopsAtEmpty_firstFieldError? : (fields : List (String × Value)) → {budget : Nat} →
    Value.areNormalFields fields = true → stepsFromFields fields ≤ budget →
    StopsAtEmpty (firstFieldError? budget fields) (∃ f ∈ fields, Reaches f.2 (.obj []))
  | [], _, _, _ => ⟨nofun, by simp [firstFieldError?]⟩
  | (key, v) :: fields, _, hfields, hsteps => by
    rw [Value.areNormalFields, Bool.and_eq_true] at hfields
    rw [stepsFromFields] at hsteps
    rw [firstFieldError?]
    exact ((stopsAtEmpty_firstError? v hfields.1 (by omega)).or
      (stopsAtEmpty_firstFieldError? fields hfields.2 (by omega))).congr (by simp)

end

/-! ## Types -/

/-- The type of the value of a field. -/
inductive IsTypeOf (key : String) : Value → TypeRef → Prop
  | null : IsTypeOf key .null .string
  | string (s : String) : IsTypeOf key (.str s) .string
  | boolean (b : Bool) : IsTypeOf key (.bool b) .boolean
  | whole {v : Value} : v.kind = .number → v.isIntegral = true → IsTypeOf key v .int
  | fractional {v : Value} : v.kind = .number → v.isIntegral = false → IsTypeOf key v .float
  | empty : IsTypeOf key (.arr []) (.list .string)
  | array {v : Value} {t : TypeRef} (vs : List Value) : IsTypeOf key v t →
      IsTypeOf key (.arr (v :: vs)) (.list t)
  | object (fields : List (String × Value)) : IsTypeOf key (.obj fields) (.named (typeNameOf key))

/-- The type of an object that is reached has one field for each key, in the order of the keys. -/
structure IsBlockOf (o : Reached) (t : ObjectType) : Prop where
  name : t.name = o.name
  fields : List.Forall₂ (fun f g => g.1 = nameOf f.1 ∧ IsTypeOf f.1 f.2 g.2) o.fields t.fields

mutual

theorem typeOf_spec : (v : Value) → (key : String) → v.isNormal = true →
    IsTypeOf key v (typeOf key v).1 ∧ List.Forall₂ IsBlockOf (reachedFrom key v) (typeOf key v).2
  | .null, _, _ => ⟨.null, .nil⟩
  | .bool b, _, _ => ⟨.boolean b, .nil⟩
  | .str s, _, _ => ⟨.string s, .nil⟩
  | .int n, _, _ => ⟨.whole rfl rfl, .nil⟩
  | .float x, key, _ => by
    refine ⟨?_, .nil⟩
    simp only [typeOf]
    by_cases h : (Value.float x).isIntegral = true
    · rw [if_pos h]
      exact .whole rfl h
    · rw [if_neg h]
      exact .fractional rfl (Bool.eq_false_iff.mpr h)
  | .arr [], key, _ => ⟨.empty, .nil⟩
  | .arr (v :: vs), key, hv => by
    rw [Value.isNormal, Value.areNormal, Bool.and_eq_true] at hv
    obtain ⟨htype, hblocks⟩ := typeOf_spec v key hv.1
    exact ⟨.array vs htype, hblocks⟩
  | .obj fields, key, hv => by
    rw [Value.isNormal, Bool.and_eq_true] at hv
    obtain ⟨hfields, hblocks⟩ := fieldsOf_spec fields hv.2
    exact ⟨.object fields, .cons ⟨rfl, hfields⟩ hblocks⟩

theorem fieldsOf_spec : (fields : List (String × Value)) → Value.areNormalFields fields = true →
    List.Forall₂ (fun f g => g.1 = nameOf f.1 ∧ IsTypeOf f.1 f.2 g.2) fields (fieldsOf fields).1 ∧
      List.Forall₂ IsBlockOf (reachedFromFields fields) (fieldsOf fields).2
  | [], _ => ⟨.nil, .nil⟩
  | (key, v) :: rest, h => by
    rw [Value.areNormalFields, Bool.and_eq_true] at h
    obtain ⟨htype, hblocks⟩ := typeOf_spec v key h.1
    obtain ⟨hfields, hrest⟩ := fieldsOf_spec rest h.2
    exact ⟨.cons ⟨rfl, htype⟩ hfields, List.rel_append hblocks hrest⟩

end

theorem forall₂_objectTypes {fields : List (String × Value)} (name : String)
    (h : Value.areNormalFields fields = true) :
    List.Forall₂ IsBlockOf (reached name fields) (objectTypes name fields) := by
  obtain ⟨hfields, hblocks⟩ := fieldsOf_spec fields h
  exact .cons ⟨rfl, hfields⟩ hblocks

/-! ## Names -/

/-- The names in a type that are not built in. -/
def TypeRef.names : TypeRef → List String
  | list item => item.names
  | named name => [name]
  | _ => []

/-- Whether every name that a type uses is that of one of the types. -/
def AreClosed (types : List ObjectType) : Prop :=
  ∀ t ∈ types, ∀ f ∈ t.fields, f.2.names ⊆ types.map ObjectType.name

theorem AreClosed.append {types types' : List ObjectType} (h : AreClosed types)
    (h' : AreClosed types') : AreClosed (types ++ types') := by
  intro t ht f hf
  rw [List.map_append]
  rcases List.mem_append.mp ht with ht | ht
  · exact List.Subset.trans (h t ht f hf) (List.subset_append_left _ _)
  · exact List.Subset.trans (h' t ht f hf) (List.subset_append_right _ _)

/-- A type in front of those that its fields need. -/
theorem AreClosed.cons {types : List ObjectType} (h : AreClosed types) {t : ObjectType}
    (ht : ∀ f ∈ t.fields, f.2.names ⊆ types.map ObjectType.name) : AreClosed (t :: types) := by
  intro u hu f hf
  refine List.Subset.trans ?_ (List.subset_cons_self t.name _)
  rcases List.mem_cons.mp hu with rfl | hu
  · exact ht f hf
  · exact h u hu f hf

theorem areClosed_nil : AreClosed [] := nofun

mutual

theorem areClosed_typeOf : (v : Value) → (key : String) →
    (typeOf key v).1.names ⊆ (typeOf key v).2.map ObjectType.name ∧ AreClosed (typeOf key v).2
  | .null, _ | .bool _, _ | .str _, _ => ⟨List.nil_subset _, areClosed_nil⟩
  | .arr [], _ => ⟨List.nil_subset _, areClosed_nil⟩
  | .arr (v :: _), key => areClosed_typeOf v key
  | .obj fields, _ => by
    obtain ⟨hnames, hclosed⟩ := areClosed_fieldsOf fields
    exact ⟨List.cons_subset_cons _ (List.nil_subset _), hclosed.cons hnames⟩
  | .int _, _ | .float _, _ | .tuple _, _ | .set _, _ | .map _, _ | .bytes _, _ | .moment _, _
  | .decimal _, _ => by
    simp only [typeOf]
    split <;> exact ⟨List.nil_subset _, areClosed_nil⟩

theorem areClosed_fieldsOf : (fields : List (String × Value)) →
    (∀ f ∈ (fieldsOf fields).1, f.2.names ⊆ (fieldsOf fields).2.map ObjectType.name) ∧
      AreClosed (fieldsOf fields).2
  | [] => ⟨nofun, areClosed_nil⟩
  | (key, v) :: rest => by
    obtain ⟨hown, hclosed⟩ := areClosed_typeOf v key
    obtain ⟨hnames, hrest⟩ := areClosed_fieldsOf rest
    rw [fieldsOf]
    refine ⟨fun f hf => ?_, hclosed.append hrest⟩
    rw [List.map_append]
    rcases List.mem_cons.mp hf with rfl | hf
    · exact List.Subset.trans hown (List.subset_append_left _ _)
    · exact List.Subset.trans (hnames f hf) (List.subset_append_right _ _)

end

theorem areClosed_objectTypes (name : String) (fields : List (String × Value)) :
    AreClosed (objectTypes name fields) := by
  obtain ⟨hnames, hclosed⟩ := areClosed_fieldsOf fields
  exact hclosed.cons hnames

theorem isLetterOrDigit_nameChar (c : Char) : Name.isLetterOrDigit (nameChar c) = true := by
  rw [nameChar]
  split
  · assumption
  · decide

theorem isLetter_of_not_isDigit {c : Char} (h : Name.isLetterOrDigit c = true)
    (hdigit : c.isDigit = false) : Name.isLetter c = true := by
  rwa [Name.isLetterOrDigit, Char.isAlphanum, hdigit, Bool.or_false] at h

theorem isIdentifier_nameOf (s : String) : Name.IsIdentifier (nameOf s) := by
  have hall : ∀ c ∈ s.toList.map nameChar, Name.isLetterOrDigit c = true := by
    intro c hc
    obtain ⟨d, -, rfl⟩ := List.mem_map.mp hc
    exact isLetterOrDigit_nameChar d
  rw [nameOf]
  split
  · decide
  · next c cs hcs =>
      rw [hcs, List.forall_mem_cons] at hall
      split
      · exact Name.isIdentifier_ofList_cons (by decide) (List.forall_mem_cons.mpr hall)
      · next hdigit =>
          exact Name.isIdentifier_ofList_cons
            (isLetter_of_not_isDigit hall.1 (Bool.eq_false_iff.mpr hdigit)) hall.2

/-- Whether what a type and its fields go by are names. -/
def HasNames (t : ObjectType) : Prop :=
  Name.IsIdentifier t.name ∧ ∀ f ∈ t.fields, Name.IsIdentifier f.1

mutual

theorem hasNames_typeOf : (v : Value) → (key : String) → ∀ t ∈ (typeOf key v).2, HasNames t
  | .null, _ | .bool _, _ | .int _, _ | .float _, _ | .str _, _ | .tuple _, _ | .set _, _
  | .map _, _ | .bytes _, _ | .moment _, _ | .decimal _, _ | .arr [], _ => nofun
  | .arr (v :: _), key => hasNames_typeOf v key
  | .obj fields, key => by
    obtain ⟨hfields, htypes⟩ := hasNames_fieldsOf fields
    exact List.forall_mem_cons.mpr ⟨⟨isIdentifier_nameOf _, hfields⟩, htypes⟩

theorem hasNames_fieldsOf : (fields : List (String × Value)) →
    (∀ f ∈ (fieldsOf fields).1, Name.IsIdentifier f.1) ∧ ∀ t ∈ (fieldsOf fields).2, HasNames t
  | [] => ⟨nofun, nofun⟩
  | (key, v) :: rest => by
    obtain ⟨hfields, htypes⟩ := hasNames_fieldsOf rest
    rw [fieldsOf]
    exact ⟨List.forall_mem_cons.mpr ⟨isIdentifier_nameOf key, hfields⟩,
      List.forall_mem_append.mpr ⟨hasNames_typeOf v key, htypes⟩⟩

end

theorem hasNames_objectTypes {name : String} (hname : Name.IsIdentifier name)
    (fields : List (String × Value)) : ∀ t ∈ objectTypes name fields, HasNames t := by
  obtain ⟨hfields, htypes⟩ := hasNames_fieldsOf fields
  exact List.forall_mem_cons.mpr ⟨⟨hname, hfields⟩, htypes⟩

/-! ## The text -/

/-- The types for a sample whose root object goes by the name given. -/
structure AreBlocksFor (name : String) (v : Value) (types : List ObjectType) : Prop where
  /-- There is one for each object that is reached, in depth-first preorder. -/
  blocks : ∃ fields, root? v = some (.obj fields) ∧
    List.Forall₂ IsBlockOf (reached name fields) types
  names : ∀ t ∈ types, HasNames t
  closed : AreClosed types

/-- What is done with a sample, by its root. -/
inductive RootCase (v : Value) : Except DraftError (List (String × Value)) → Prop
  | object (fields : List (String × Value)) : root? v = some (.obj fields) →
      Value.areNormalFields fields = true → RootCase v (.ok fields)
  | empty : v = .arr [] → RootCase v (.error .emptyRoot)
  | other {u : Value} : root? v = some u → u.kind ≠ .object →
      RootCase v (.error (.rootNotObject u.kind))

theorem rootCase_rootFields : (v : Value) → v.isNormal = true → RootCase v (rootFields v)
  | .obj fields, hv => by
    rw [Value.isNormal, Bool.and_eq_true] at hv
    exact .object fields rfl hv.2
  | .arr (.obj fields :: _), hv => by
    rw [Value.isNormal, Value.areNormal, Value.isNormal, Bool.and_eq_true, Bool.and_eq_true] at hv
    exact .object fields rfl hv.1.2
  | .arr [], _ => .empty rfl
  | .null, _ | .bool _, _ | .int _, _ | .float _, _ | .str _, _ => .other rfl nofun
  | .arr (.null :: _), _ | .arr (.bool _ :: _), _ | .arr (.int _ :: _), _
  | .arr (.float _ :: _), _ | .arr (.str _ :: _), _ | .arr (.arr _ :: _), _ => .other rfl nofun

/-- Whether a sample has no root object, or one from which an object without fields is reached. -/
def IsUnwritable (v : Value) : Prop :=
  v = .arr [] ∨ ∃ u, root? v = some u ∧ (u.kind ≠ .object ∨ Reaches u (.obj []))

/-- What stops the types for a root object from being written. -/
def fieldsError? (name : String) (fields : List (String × Value)) : Option DraftError :=
  if fields.isEmpty then some (.noFields name) else firstFieldError? openSteps fields

theorem draft_eq_error {name : String} {v : Value} {e : DraftError}
    (h : rootFields v = .error e) : draft name v = .error e := by
  rw [draft, h]
  rfl

theorem draft_eq {name : String} {v : Value} {fields : List (String × Value)}
    (h : rootFields v = .ok fields) :
    draft name v = match fieldsError? name fields with
      | some e => .error e
      | none => .ok ("\n\n".intercalate ((objectTypes name fields).map ObjectType.text)) := by
  rw [draft, h, fieldsError?]
  cases fields with
  | nil => rfl
  | cons f fields =>
      simp only [bind, Except.bind, List.isEmpty_cons, Bool.false_eq_true, if_false]
      cases firstFieldError? openSteps (f :: fields) <;> rfl

theorem stopsAtEmpty_fieldsError? (name : String) {fields : List (String × Value)}
    (hfields : Value.areNormalFields fields = true) (hsteps : stepsFromFields fields ≤ openSteps) :
    StopsAtEmpty (fieldsError? name fields) (Reaches (.obj fields) (.obj [])) := by
  cases fields with
  | nil => exact ⟨fun e he => ⟨name, (Option.some.inj he).symm⟩, by simp [fieldsError?, Reaches.refl]⟩
  | cons f fields =>
      rw [fieldsError?, if_neg (by simp)]
      refine (stopsAtEmpty_firstFieldError? (f :: fields) hfields hsteps).congr ⟨?_, ?_⟩
      · rintro ⟨g, hg, h⟩
        exact .field hg h
      · rintro (_ | ⟨hg, h⟩)
        exact ⟨_, hg, h⟩

/-- What is written for a sample are the types of its root object. -/
theorem eq_text_of_draft {name text : String} {v : Value} (hv : v.isNormal = true)
    (h : draft name v = .ok text) : ∃ fields, root? v = some (.obj fields) ∧
      Value.areNormalFields fields = true ∧
      text = "\n\n".intercalate ((objectTypes name fields).map ObjectType.text) := by
  have hcase := rootCase_rootFields v hv
  cases hroot : rootFields v with
  | error e =>
      rw [draft_eq_error hroot] at h
      cases h
  | ok fields =>
      rw [hroot] at hcase
      obtain ⟨_, hsome, hfields⟩ := hcase
      refine ⟨fields, hsome, hfields, ?_⟩
      rw [draft_eq hroot] at h
      split at h
      · cases h
      · exact (Except.ok.inj h).symm

theorem areBlocksFor_objectTypes {name : String} {v : Value} {fields : List (String × Value)}
    (hname : Name.IsIdentifier name) (hroot : root? v = some (.obj fields))
    (hfields : Value.areNormalFields fields = true) :
    AreBlocksFor name v (objectTypes name fields) :=
  ⟨⟨fields, hroot, forall₂_objectTypes name hfields⟩, hasNames_objectTypes hname fields,
    areClosed_objectTypes name fields⟩

/-- What stops a sample from being written: it has no root object, or an object without fields is
reached. -/
theorem draft_error_cases (name : String) {v : Value} (hv : v.isNormal = true)
    (hlimit : IsWithinLimit v) :
    (IsUnwritable v ∧ ∃ e : DraftError, e.isAboutInput = false ∧ draft name v = .error e) ∨
    (¬ IsUnwritable v ∧ ∃ text, draft name v = .ok text) := by
  have hcase := rootCase_rootFields v hv
  cases hroot : rootFields v with
  | error e =>
      rw [hroot] at hcase
      refine .inl ⟨?_, e, ?_, draft_eq_error hroot⟩
      · cases hcase with
        | empty hempty => exact .inl hempty
        | other hsome hkind => exact .inr ⟨_, hsome, .inl hkind⟩
      · cases hcase <;> rfl
  | ok fields =>
      rw [hroot] at hcase
      obtain ⟨_, hsome, hfields⟩ := hcase
      have hnonempty : v ≠ .arr [] := by
        rintro rfl
        cases hsome
      have hiff : IsUnwritable v ↔ Reaches (.obj fields) (.obj []) := by
        simp [IsUnwritable, hnonempty, hsome, Value.kind]
      obtain ⟨hnoFields, hisSome⟩ :=
        stopsAtEmpty_fieldsError? name hfields (hlimit fields hsome)
      rw [draft_eq hroot, hiff, ← hisSome]
      cases herror : fieldsError? name fields with
      | some e =>
          obtain ⟨n, rfl⟩ := hnoFields e herror
          exact .inl ⟨rfl, _, rfl, rfl⟩
      | none => exact .inr ⟨Bool.false_ne_true, _, rfl⟩

/-- There is a text just if the root is an object from which no object without fields is reached.
It has one type for each object that is reached, in depth-first preorder, with one field for each
key; all that it uses has a name and a type. -/
theorem draft_writes_what_is_reached {name : String} {v : Value} (hv : v.isNormal = true)
    (hname : Name.IsIdentifier name) (hlimit : IsWithinLimit v) :
    ((∃ e, draft name v = .error e) ↔ IsUnwritable v) ∧
    (∀ e, draft name v = .error e → e.isAboutInput = false) ∧
    ∀ text, draft name v = .ok text → ∃ types : List ObjectType,
      text = "\n\n".intercalate (types.map ObjectType.text) ∧ AreBlocksFor name v types := by
  refine ⟨?_, ?_, fun text htext => ?_⟩
  · rcases draft_error_cases name hv hlimit with ⟨hun, e, -, he⟩ | ⟨hun, text, htext⟩
    · exact ⟨fun _ => hun, fun _ => ⟨e, he⟩⟩
    · exact ⟨fun ⟨e, he⟩ => (nomatch htext.symm.trans he), fun h => absurd h hun⟩
  · rintro e he
    rcases draft_error_cases name hv hlimit with ⟨-, e', hformat, he'⟩ | ⟨-, text, htext⟩
    · obtain rfl := Except.error.inj (he'.symm.trans he)
      exact hformat
    · cases htext.symm.trans he
  · obtain ⟨fields, hroot, hfields, rfl⟩ := eq_text_of_draft hv htext
    exact ⟨objectTypes name fields, rfl, areBlocksFor_objectTypes hname hroot hfields⟩

theorem draft_writes_what_is_reached_nested :
    let v : Value := .arr [.obj [("line items", .arr [.obj [("1st", .null)], .int 2])], .obj []]
    ∃ text, draft "Order" v = .ok text ∧ ∃ types : List ObjectType,
      text = "\n\n".intercalate (types.map ObjectType.text) ∧ AreBlocksFor "Order" v types := by
  intro v
  have hlimit : IsWithinLimit v := by
    rintro fields ⟨⟩
    decide
  have htext : draft "Order" v = .ok ("type Order \x7b\n  line_items: [Line_items]\n\x7d\n\n" ++
      "type Line_items \x7b\n  _1st: String\n\x7d") := rfl
  exact ⟨_, htext, (draft_writes_what_is_reached (by decide) (by decide) hlimit).2.2 _ htext⟩

end TypeDraft.GraphQL
