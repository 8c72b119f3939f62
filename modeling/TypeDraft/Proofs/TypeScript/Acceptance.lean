import TypeDraft.Proofs.TypeScript.Modules
import TypeDraft.Proofs.Value.Fields

/-!
# What a type accepts

The values of a type under some declarations. A name stands for its declaration; only a name
without one has its predefined meaning. What may be missing in an object is settled by its
optional properties, and whether such a property may also be null is left open here.
-/

namespace TypeDraft.TypeScript

/-- The names that have a meaning without a declaration. -/
def predefined : List String := ["null", "boolean", "number", "string", "unknown", "any", "Date"]

/-- The predefined meaning of a name. No value read from a text is a date object. -/
def Admits (name : String) (v : Value) : Prop :=
  name = "unknown" ∨ name = "any" ∨
    name ∈ ["null", "boolean", "number", "string"] ∧ v.kind.name = name

def body? (m : List Statement) (name : String) : Option Body :=
  (m.find? (·.name = name)).map Statement.body

/-- Whether a property is passed over where it has a value: it may be missing, and null stands
for that. -/
def Property.IsPassedOver (nullable : Bool) (p : Property) (v : Value) : Prop :=
  nullable = true ∧ p.isOptional = true ∧ v = .null

/-- Whether a type accepts a value under the declarations `m`. If `nullable` holds, null stands
for a missing value. -/
inductive Accepts (nullable : Bool) (m : List Statement) : Ty → Value → Prop
  | predefined {name : String} {v : Value} : body? m name = none → Admits name v →
      Accepts nullable m (.named name) v
  | synonym {name : String} {t : Ty} {v : Value} : body? m name = some (.synonym t) →
      Accepts nullable m t v → Accepts nullable m (.named name) v
  | enumeration {name : String} {values : List String} {s : String} :
      body? m name = some (.enumeration values) → s ∈ values →
      Accepts nullable m (.named name) (.str s)
  | object {name : String} {properties : List Property} {isOpen : Bool}
      {fields : List (String × Value)} : body? m name = some (.object properties isOpen) →
      (∀ p ∈ properties, ∀ v, fields.lookup p.key = some v → ¬ p.IsPassedOver nullable v →
        Accepts nullable m p.type v) →
      (∀ p ∈ properties, p.isOptional = false → (fields.lookup p.key).isSome) →
      (isOpen = false → ∀ key ∈ fields.map Prod.fst, key ∈ properties.map Property.key) →
      Accepts nullable m (.named name) (.obj fields)
  | dictionary {fields : List (String × Value)} : Accepts nullable m .dictionary (.obj fields)
  | array {t : Ty} {items : List Value} : (∀ v ∈ items, Accepts nullable m t v) →
      Accepts nullable m (.array t) (.arr items)
  | union {ts : List Ty} {t : Ty} {v : Value} : t ∈ ts → Accepts nullable m t v →
      Accepts nullable m (.union ts) v

def Statement.names (s : Statement) : List String :=
  match s.body with
  | .object properties _ => properties.flatMap (·.type.names)
  | .synonym type => type.names
  | .enumeration _ => []

def Statement.keys (s : Statement) : List String :=
  match s.body with
  | .object properties _ => properties.map Property.key
  | _ => []

/-- No name is declared twice, every name that is used has a meaning, and no object type has two
properties under one key. -/
structure WellFormed (m : List Statement) : Prop where
  nodup_names : (m.map Statement.name).Nodup
  declared : ∀ s ∈ m, ∀ name ∈ s.names, name ∈ predefined ∨ name ∈ m.map Statement.name
  nodup_keys : ∀ s ∈ m, s.keys.Nodup

/-- A text is a well-formed module whose declaration of a name accepts a value. -/
def DeclaresTypeOf (nullable : Bool) (text name : String) (v : Value) : Prop :=
  ∃ m, readModule? text = some m ∧ WellFormed m ∧ Accepts nullable m (.named name) v

/-! ## Declarations by name -/

variable {nullable : Bool} {m : List Statement}

theorem body?_of_mem (h : (m.map Statement.name).Nodup) {s : Statement} (hs : s ∈ m) :
    body? m s.name = some s.body := by
  induction m with
  | nil => cases hs
  | cons t m ih =>
      rw [List.map_cons, List.nodup_cons] at h
      rcases List.mem_cons.mp hs with rfl | hs
      · rw [body?, List.find?_cons_of_pos (by simp)]
        rfl
      · have hne : t.name ≠ s.name := fun heq => h.1 (heq ▸ List.mem_map_of_mem hs)
        rw [body?, List.find?_cons_of_neg (by simp [hne])]
        exact ih h.2 hs

theorem body?_eq_none {name : String} (h : name ∉ m.map Statement.name) : body? m name = none := by
  have hfind : m.find? (·.name = name) = none := by
    rw [List.find?_eq_none]
    intro s hs hname
    exact h (of_decide_eq_true hname ▸ List.mem_map_of_mem hs)
  rw [body?, hfind, Option.map_none]

/-! ## Acceptance, type by type -/

theorem accepts_ofAlternatives_iff {ts : List Ty} {v : Value} :
    Accepts nullable m (.ofAlternatives ts) v ↔ ∃ t ∈ ts, Accepts nullable m t v := by
  have hunion : Accepts nullable m (.union ts) v ↔ ∃ t ∈ ts, Accepts nullable m t v := by
    constructor
    · intro h
      cases h with
      | union ht h => exact ⟨_, ht, h⟩
    · rintro ⟨t, ht, h⟩
      exact .union ht h
  match ts with
  | [] => exact hunion
  | [t] => simp [Ty.ofAlternatives]
  | _ :: _ :: _ => exact hunion

theorem accepts_array_iff {t : Ty} {v : Value} :
    Accepts nullable m (.array t) v ↔
      ∃ items, v = .arr items ∧ ∀ w ∈ items, Accepts nullable m t w := by
  constructor
  · intro h
    cases h with
    | array h => exact ⟨_, rfl, h⟩
  · rintro ⟨items, rfl, h⟩
    exact .array h

theorem accepts_predefined_iff {name : String} (hname : body? m name = none) {v : Value} :
    Accepts nullable m (.named name) v ↔ Admits name v := by
  constructor
  · intro h
    cases h with
    | predefined _ h => exact h
    | synonym h | enumeration h | object h => rw [hname] at h; cases h
  · exact .predefined hname

theorem accepts_synonym_iff {name : String} {t : Ty} (hname : body? m name = some (.synonym t))
    {v : Value} : Accepts nullable m (.named name) v ↔ Accepts nullable m t v := by
  constructor
  · intro h
    cases h with
    | synonym h hv =>
        rw [hname] at h
        cases h
        exact hv
    | predefined h | enumeration h | object h => rw [hname] at h; cases h
  · exact .synonym hname

theorem accepts_object_iff {name : String} {properties : List Property} {isOpen : Bool}
    (hname : body? m name = some (.object properties isOpen)) {v : Value} :
    Accepts nullable m (.named name) v ↔ ∃ fields, v = .obj fields ∧
      (∀ p ∈ properties, ∀ w, fields.lookup p.key = some w → ¬ p.IsPassedOver nullable w →
        Accepts nullable m p.type w) ∧
      (∀ p ∈ properties, p.isOptional = false → (fields.lookup p.key).isSome) ∧
      (isOpen = false → ∀ key ∈ fields.map Prod.fst, key ∈ properties.map Property.key) := by
  constructor
  · intro h
    cases h with
    | object h hvalues hrequired hkeys =>
        rw [hname] at h
        cases h
        exact ⟨_, rfl, hvalues, hrequired, hkeys⟩
    | predefined h | synonym h | enumeration h => rw [hname] at h; cases h
  · rintro ⟨fields, rfl, hvalues, hrequired, hkeys⟩
    exact .object hname hvalues hrequired hkeys

end TypeDraft.TypeScript
