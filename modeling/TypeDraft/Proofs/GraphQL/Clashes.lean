import TypeDraft.Proofs.GraphQL.Reached
import TypeDraft.Proofs.Text.Ascii

/-!
# Clashes of names

Keys are cleaned of what a name may not hold, and the names that come out are used as they are. The
fields of every type are told apart just if the keys of each object stay apart, and a built-in
scalar is what its name says unless an object is held by a key that goes by the name of one.
-/

namespace TypeDraft.GraphQL

open JsonSchema (Reaches)

/-! ## Names of fields -/

/-- Whether the keys of each object that is reached go by different names. -/
def KeepsKeysApart (v : Value) : Prop :=
  ∀ u, root? v = some u → ∀ fields, Reaches u (.obj fields) →
    (fields.map fun f => nameOf f.1).Nodup

/-- Whether every key of an object that is reached is a name. -/
def KeysAreNames (v : Value) : Prop :=
  ∀ u, root? v = some u → ∀ fields, Reaches u (.obj fields) → ∀ f ∈ fields, Name.IsIdentifier f.1

theorem isDigit_eq_false_of_isLetter {c : Char} (h : Name.isLetter c = true) :
    c.isDigit = false := by
  rw [Name.isLetter, Bool.or_eq_true, beq_iff_eq] at h
  rcases h with h | rfl
  · rw [Text.isAlpha_iff, Text.isUpper_iff, Text.isLower_iff] at h
    rw [Bool.eq_false_iff, Ne, Text.isDigit_iff]
    omega
  · decide

/-- A key that is a name is left as it is. -/
theorem nameOf_of_isIdentifier {s : String} (h : Name.IsIdentifier s) : nameOf s = s := by
  have hkeep : ∀ c, Name.isLetterOrDigit c = true → nameChar c = c := fun c hc => if_pos hc
  rw [Name.IsIdentifier] at h
  cases hs : s.toList with
  | nil =>
      rw [hs] at h
      cases h
  | cons c cs =>
      rw [hs, Name.headThenAll, Bool.and_eq_true, List.all_eq_true] at h
      have hletter : Name.isLetterOrDigit c = true := by
        rw [Name.isLetterOrDigit, Char.isAlphanum, Bool.or_right_comm, ← Name.isLetter, h.1,
          Bool.true_or]
      have hdigit : c.isDigit = false := isDigit_eq_false_of_isLetter h.1
      have hmap : s.toList.map nameChar = c :: cs := by
        rw [hs, List.map_cons, hkeep c hletter, List.map_congr_left fun d hd => hkeep d (h.2 d hd),
          List.map_id']
      rw [nameOf, hmap]
      simp only [hdigit, Bool.false_eq_true, if_false]
      rw [← hs, String.ofList_toList]

theorem isNormal_of_reaches {u v : Value} (h : Reaches v u) (hv : v.isNormal = true) :
    u.isNormal = true := by
  induction h with
  | refl => exact hv
  | field hm _ ih => exact ih (Value.isNormal_field hv hm)
  | first _ ih => exact ih (Value.isNormal_item hv List.mem_cons_self)

/-- No keys clash where all are names. -/
theorem KeysAreNames.keepsKeysApart {v : Value} (hkeys : KeysAreNames v)
    (hv : v.isNormal = true) : KeepsKeysApart v := by
  intro u hu fields hreach
  have hroot : u.isNormal = true := by
    cases v with
    | arr items => exact Value.isNormal_item hv (List.mem_of_mem_head? hu)
    | _ =>
        obtain rfl := Option.some.inj hu
        exact hv
  have hnodup := Value.nodup_keys (isNormal_of_reaches hreach hroot)
  rwa [List.map_congr_left fun f hf => nameOf_of_isIdentifier (hkeys u hu fields hreach f hf)]

/-! ## Names of types -/

def scalars : List String := ["Int", "Float", "String", "Boolean"]

/-- Whether an object is come to from a value by first items alone. -/
inductive LeadsToObject : Value → Prop
  | object (fields : List (String × Value)) : LeadsToObject (.obj fields)
  | array {v : Value} (vs : List Value) : LeadsToObject v → LeadsToObject (.arr (v :: vs))

/-- Whether a key of an object that is reached holds another object, whose type has the name. -/
def Hoists (v : Value) (name : String) : Prop :=
  ∃ fields, Reaches v (.obj fields) ∧ ∃ f ∈ fields, LeadsToObject f.2 ∧ typeNameOf f.1 = name

/-- Whether no object goes by the name of a built-in scalar. -/
def AvoidsScalars (v : Value) : Prop :=
  ∀ u, root? v = some u → ∀ name ∈ scalars, ¬ Hoists u name

theorem hoists_array_iff {v : Value} {vs : List Value} {name : String} :
    Hoists (.arr (v :: vs)) name ↔ Hoists v name := by
  constructor
  · rintro ⟨fields, _ | _ | hreach, h⟩
    exact ⟨fields, hreach, h⟩
  · rintro ⟨fields, hreach, h⟩
    exact ⟨fields, .first hreach, h⟩

theorem hoists_object_iff {own : List (String × Value)} {name : String} :
    Hoists (.obj own) name ↔
      ∃ f ∈ own, (LeadsToObject f.2 ∧ typeNameOf f.1 = name) ∨ Hoists f.2 name := by
  constructor
  · rintro ⟨fields, hreach, f, hf, h⟩
    cases hreach with
    | refl => exact ⟨f, hf, .inl h⟩
    | field hm hreach => exact ⟨_, hm, .inr ⟨fields, hreach, f, hf, h⟩⟩
  · rintro ⟨f, hf, h | ⟨fields, hreach, h⟩⟩
    · exact ⟨own, .refl _, f, hf, h⟩
    · exact ⟨fields, .field hf hreach, h⟩

mutual

theorem mem_names_reachedFrom_iff : (v : Value) → {key name : String} →
    (name ∈ (reachedFrom key v).map Reached.name ↔
      (LeadsToObject v ∧ typeNameOf key = name) ∨ Hoists v name)
  | .null, _, _ | .bool _, _, _ | .int _, _, _ | .float _, _, _ | .str _, _, _ | .tuple _, _, _
  | .set _, _, _ | .map _, _, _ | .bytes _, _, _ | .moment _, _, _ | .decimal _, _, _
  | .arr [], _, _ => by
    constructor
    · nofun
    · rintro (⟨h, -⟩ | ⟨_, h, -⟩) <;> cases h
  | .arr (v :: vs), key, name => by
    rw [reachedFrom, reachedFromFirst, mem_names_reachedFrom_iff v, hoists_array_iff]
    refine or_congr_left (and_congr_left fun _ => ⟨.array vs, ?_⟩)
    rintro (_ | ⟨_, h⟩)
    exact h
  | .obj own, key, name => by
    rw [reachedFrom, List.map_cons, List.mem_cons, mem_names_reachedFromFields_iff own,
      hoists_object_iff, eq_comm (a := name), and_iff_right (.object own)]

theorem mem_names_reachedFromFields_iff : (own : List (String × Value)) → {name : String} →
    (name ∈ (reachedFromFields own).map Reached.name ↔
      ∃ f ∈ own, (LeadsToObject f.2 ∧ typeNameOf f.1 = name) ∨ Hoists f.2 name)
  | [], _ => by simp [reachedFromFields]
  | (key, v) :: rest, _ => by
    rw [reachedFromFields, List.map_append, List.mem_append, mem_names_reachedFrom_iff v,
      mem_names_reachedFromFields_iff rest, List.exists_mem_cons_iff]

end

/-- The type that a written type stands for where types of the names given are declared: a scalar
is taken for such a type if one has its name. -/
def TypeRef.resolved (declared : List String) : TypeRef → TypeRef
  | list item => .list (item.resolved declared)
  | named name => .named name
  | t => if t.text ∈ declared then .named t.text else t

theorem resolved_eq_self {declared : List String} (h : ∀ name ∈ declared, name ∉ scalars) :
    (t : TypeRef) → t.resolved declared = t
  | .list item => congrArg TypeRef.list (resolved_eq_self h item)
  | .named _ => rfl
  | .int | .float | .string | .boolean =>
    if_neg fun hmem => h _ hmem (by decide)

/-! ## Types that are told apart -/

theorem map_name_eq {os : List Reached} {types : List ObjectType}
    (h : List.Forall₂ IsBlockOf os types) : types.map ObjectType.name = os.map Reached.name := by
  induction h with
  | nil => rfl
  | cons hblock _ ih => rw [List.map_cons, List.map_cons, hblock.name, ih]

theorem IsBlockOf.map_fst_fields {o : Reached} {t : ObjectType} (h : IsBlockOf o t) :
    t.fields.map Prod.fst = o.fields.map fun f => nameOf f.1 := by
  obtain ⟨-, hfields⟩ := h
  generalize o.fields = fs, t.fields = gs at hfields
  induction hfields with
  | nil => rfl
  | cons hf _ ih => rw [List.map_cons, List.map_cons, hf.1, ih]

theorem forall_nodup_iff {os : List Reached} {types : List ObjectType}
    (h : List.Forall₂ IsBlockOf os types) :
    (∀ t ∈ types, (t.fields.map Prod.fst).Nodup) ↔
      ∀ o ∈ os, (o.fields.map fun f => nameOf f.1).Nodup := by
  induction h with
  | nil => simp
  | cons hblock _ ih =>
      rw [List.forall_mem_cons, List.forall_mem_cons, hblock.map_fst_fields, ih]

theorem keepsKeysApart_iff {name : String} {v : Value} {fields : List (String × Value)}
    (hroot : root? v = some (.obj fields)) :
    KeepsKeysApart v ↔ ∀ o ∈ reached name fields, (o.fields.map fun f => nameOf f.1).Nodup := by
  simp only [KeepsKeysApart, hroot, Option.some.injEq, forall_eq']
  constructor
  · intro h o ho
    exact h o.fields ((mem_reached_iff name).mp ⟨o, ho, rfl⟩)
  · intro h own hreach
    obtain ⟨o, ho, rfl⟩ := (mem_reached_iff name).mpr hreach
    exact h o ho

theorem avoidsScalars_iff {name : String} {v : Value} {fields : List (String × Value)}
    (hroot : root? v = some (.obj fields)) (hscalar : name ∉ scalars) :
    AvoidsScalars v ↔ ∀ n ∈ (reached name fields).map Reached.name, n ∉ scalars := by
  simp only [AvoidsScalars, hroot, Option.some.injEq, forall_eq', reached, List.map_cons,
    List.forall_mem_cons, hscalar, not_false_eq_true, true_and, hoists_object_iff,
    mem_names_reachedFromFields_iff]
  exact ⟨fun h n hn hmem => h n hmem hn, fun h n hmem hn => h n hn hmem⟩

/-- Let a root object go by no scalar's name. The fields of its types are told apart just if the
keys of each object stay apart, as they do where all are names. No type has the name of a scalar
just if no key that goes by one holds an object; all that is written as a scalar is one then. -/
theorem draft_tells_names_apart {name text : String} {v : Value} (hv : v.isNormal = true)
    (hname : Name.IsIdentifier name) (hscalar : name ∉ scalars) (h : draft name v = .ok text) :
    ∃ types : List ObjectType,
      text = "\n\n".intercalate (types.map ObjectType.text) ∧ AreBlocksFor name v types ∧
      ((∀ t ∈ types, (t.fields.map Prod.fst).Nodup) ↔ KeepsKeysApart v) ∧
      (KeysAreNames v → KeepsKeysApart v) ∧
      ((∀ t ∈ types, t.name ∉ scalars) ↔ AvoidsScalars v) ∧
      (AvoidsScalars v → ∀ t ∈ types, ∀ f ∈ t.fields,
        f.2.resolved (types.map ObjectType.name) = f.2) := by
  obtain ⟨fields, hroot, hfields, rfl⟩ := eq_text_of_draft hv h
  have hblocks := forall₂_objectTypes name hfields
  have hscalars : (∀ n ∈ (objectTypes name fields).map ObjectType.name, n ∉ scalars) ↔
      AvoidsScalars v := by
    rw [map_name_eq hblocks, avoidsScalars_iff hroot hscalar]
  refine ⟨objectTypes name fields, rfl, areBlocksFor_objectTypes hname hroot hfields, ?_,
    fun hkeys => hkeys.keepsKeysApart hv, ?_, ?_⟩
  · rw [forall_nodup_iff hblocks, keepsKeysApart_iff hroot]
  · rw [← hscalars, List.forall_mem_map]
  · intro havoids t _ f _
    exact resolved_eq_self (hscalars.mpr havoids) f.2

theorem draft_tells_names_apart_nested :
    let v : Value := .obj [("first-name", .str "Ada"), ("point", .arr [.obj [("x", .int 1)]])]
    ∃ text, draft "Root" v = .ok text ∧ ∃ types : List ObjectType,
      text = "\n\n".intercalate (types.map ObjectType.text) ∧ AreBlocksFor "Root" v types ∧
      ((∀ t ∈ types, (t.fields.map Prod.fst).Nodup) ↔ KeepsKeysApart v) ∧
      (KeysAreNames v → KeepsKeysApart v) ∧
      ((∀ t ∈ types, t.name ∉ scalars) ↔ AvoidsScalars v) ∧
      (AvoidsScalars v → ∀ t ∈ types, ∀ f ∈ t.fields,
        f.2.resolved (types.map ObjectType.name) = f.2) := by
  intro v
  have htext : draft "Root" v = .ok ("type Root \x7b\n  first_name: String\n  point: [Point]\n" ++
      "\x7d\n\ntype Point \x7b\n  x: Int\n\x7d") := rfl
  exact ⟨_, htext, draft_tells_names_apart (by decide) (by decide) (by decide) htext⟩

/-- Keys that differ in what is cleaned away alone are written as one field, and an object that is
held by `int` has a type with the name of the scalar. -/
theorem draft_repeats_names :
    let clashing : List (String × Value) := [("a-b", .int 1), ("a_b", .int 2)]
    let shadowing : List (String × Value) := [("int", .obj [("a", .int 1)]), ("n", .int 2)]
    ((Value.obj clashing).isNormal = true ∧
      draft "Root" (.obj clashing) = .ok "type Root \x7b\n  a_b: Int\n  a_b: Int\n\x7d" ∧
      ¬ ∀ t ∈ objectTypes "Root" clashing, (t.fields.map Prod.fst).Nodup) ∧
    (Value.obj shadowing).isNormal = true ∧
    draft "Root" (.obj shadowing) =
      .ok "type Root \x7b\n  int: Int\n  n: Int\n\x7d\n\ntype Int \x7b\n  a: Int\n\x7d" ∧
    ¬ ∀ t ∈ objectTypes "Root" shadowing, t.name ∉ scalars :=
  ⟨⟨by decide, rfl, by decide⟩, by decide, rfl, by decide⟩

end TypeDraft.GraphQL
