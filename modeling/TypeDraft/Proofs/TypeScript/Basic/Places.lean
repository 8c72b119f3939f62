import TypeDraft.Proofs.Shape.Alternatives
import TypeDraft.TypeScript.Basic

/-!
# Places and what is kept there

The type of a place is one text, and a union drops parts that equal others, also within parentheses.
Nothing is dropped at a place if as many parts are left as there are sorts of values to name. What
follows walks through a shape just as the drafting does, together with the values at each place.
-/

namespace TypeDraft.TypeScript.Basic

open Schema (objects gatheredItems)
open Shape (under)

/-! ## Sorts of values -/

mutual

/-- How many sorts of values the type of an alternative has to name: its own, or those of the items
of its arrays. -/
def sortCount : Alternative → Nat
  | .array items => if items.isEmpty then 1 else sortCountOfAll items
  | _ => 1
termination_by structural a => a

def sortCountOfAll : List Alternative → Nat
  | [] => 0
  | a :: s => sortCount a + sortCountOfAll s
termination_by structural s => s

end

mutual

/-- Whether some arrays of an alternative, perhaps within others, all have no items. -/
def HasBareArrays : Alternative → Prop
  | .array items => items = [] ∨ AnyHasBareArrays items
  | _ => False
termination_by structural a => a

def AnyHasBareArrays : List Alternative → Prop
  | [] => False
  | a :: s => HasBareArrays a ∨ AnyHasBareArrays s
termination_by structural s => s

end

theorem anyHasBareArrays_iff {s : List Alternative} :
    AnyHasBareArrays s ↔ ∃ a ∈ s, HasBareArrays a := by
  induction s with
  | nil => simp [AnyHasBareArrays]
  | cons a s ih => simp [AnyHasBareArrays, ih]

/-! ## Alternative by alternative -/

/-- What is written for one alternative: nothing if it is known by its sort alone. -/
def draftOne (context : String) (a : Alternative) (d : Drafting) : Written (List Parts) :=
  match typeOf? context a d with
  | none => ⟨[], [], d⟩
  | some w => { w with value := [w.value] }

def Written.append (w w' : Written (List Parts)) : Written (List Parts) :=
  ⟨w.value ++ w'.value, w.references ++ w'.references, w'.drafting⟩

theorem typesOf_cons (context : String) (a : Alternative) (s : List Alternative) (d : Drafting) :
    typesOf context (a :: s) d =
      (draftOne context a d).append (typesOf context s (draftOne context a d).drafting) := by
  rw [typesOf, draftOne]
  cases typeOf? context a d <;> rfl

theorem draftOne_of_plainName {a : Alternative} {p : String} (h : Shape.plainName? a = some p)
    (context : String) (d : Drafting) : draftOne context a d = ⟨[], [], d⟩ := by
  match a with
  | .null | .boolean | .number _ | .string | .array [] | .object [] _ => rfl
  | .array (_ :: _) | .object (_ :: _) _ => cases h

theorem sortCountOfAll_of_plainName {a : Alternative} {p : String}
    (h : Shape.plainName? a = some p) : sortCountOfAll [a] = 1 := by
  match a with
  | .null | .boolean | .number _ | .string | .array [] | .object [] _ => rfl
  | .array (_ :: _) | .object (_ :: _) _ => cases h

/-- What is written for arrays, from what is written for their items. -/
def Written.asArray (items : List Alternative) (w : Written (List Parts)) : Written (List Parts) :=
  ⟨[arrayOf (assemble items w.value)], w.references, w.drafting⟩

/-- The name under which the fields of objects are declared, and what has been declared then. -/
def Written.declare (context : String) (w : Written (List Field)) : String × Drafting :=
  w.drafting.declare (Name.pascalCase context) w.value w.references

/-- What is written for objects, from what is written for their fields. -/
def Written.asObject (context : String) (w : Written (List Field)) : Written (List Parts) :=
  ⟨[[(w.declare context).1]], [(w.declare context).1], (w.declare context).2⟩

theorem draftOne_array {items : List Alternative} (h : items ≠ []) (context : String)
    (d : Drafting) :
    draftOne context (.array items) d =
      (typesOf (Name.singularize context) items d).asArray items := by
  have hempty : items.isEmpty = false := List.isEmpty_eq_false_iff.mpr h
  rw [draftOne, typeOf?, hempty]
  rfl

theorem draftOne_object {fields : List (String × List Alternative)} (h : fields ≠ [])
    (context : String) (required : List String) (d : Drafting) :
    draftOne context (.object fields required) d =
      (fieldsOf required fields d).asObject context := by
  have hempty : fields.isEmpty = false := List.isEmpty_eq_false_iff.mpr h
  rw [draftOne, typeOf?, hempty]
  rfl

/-! ## What is kept -/

section

variable (spared : List Value → Shape → Parts → Prop)

mutual

/-- Whether nothing is dropped at any place in the objects of an alternative, unless the place is
spared. -/
def KeepsWithin (context : String) (vs : List Value) : Alternative → Drafting → Prop
  | .array items, d => KeepsAll (Name.singularize context) (gatheredItems vs) items d
  | .object fields _, d => KeepsFields (objects vs) fields d
  | _, _ => True
termination_by structural a => a

def KeepsAll (context : String) (vs : List Value) : List Alternative → Drafting → Prop
  | [], _ => True
  | a :: s, d =>
    KeepsWithin context vs a d ∧ KeepsAll context vs s (draftOne context a d).drafting
termination_by structural s => s

def KeepsFields (objects : List (List (String × Value))) :
    List (String × List Alternative) → Drafting → Prop
  | [], _ => True
  | (key, s) :: fields, d =>
    let w := typesOf key s d
    let type := assemble s w.value
    (if type.length = sortCountOfAll s then KeepsAll key (under key objects) s d
      else spared (under key objects) s type) ∧ KeepsFields objects fields w.drafting
termination_by structural fields => fields

end

/-- Whether nothing is dropped at any place of a sample that is not spared. -/
def KeepsRoot (name : String) (v : Value) : Prop :=
  let d : Drafting := { taken := [name] }
  match Shape.ofValue v with
  | [.object fields _] => KeepsFields spared (objects [v]) fields d
  | [.array (item :: items)] =>
    let context := name ++ "Element"
    let type := arrayOf (assemble (item :: items) (typesOf context (item :: items) d).value)
    if type.length = sortCountOfAll (item :: items) then
      KeepsAll spared context (gatheredItems [v]) (item :: items) d
    else spared [v] [.array (item :: items)] type
  | _ => True

theorem keepsRoot_of_plainName {name p : String} {v : Value} {a : Alternative}
    (hshape : Shape.ofValue v = [a]) (h : Shape.plainName? a = some p) :
    KeepsRoot spared name v := by
  rw [KeepsRoot, hshape]
  match a with
  | .null | .boolean | .number _ | .string | .array [] | .object [] _ => trivial
  | .array (_ :: _) | .object (_ :: _) _ => cases h

end

section

variable {spared spared' : List Value → Shape → Parts → Prop}

mutual

theorem KeepsWithin.mono (h : ∀ vs s t, spared vs s t → spared' vs s t) :
    (a : Alternative) → {context : String} → {vs : List Value} → {d : Drafting} →
      KeepsWithin spared context vs a d → KeepsWithin spared' context vs a d
  | .null, _, _, _, _ | .boolean, _, _, _, _ | .number _, _, _, _, _ | .string, _, _, _, _ =>
    trivial
  | .array items, _, _, _, hkeeps => KeepsAll.mono h items hkeeps
  | .object fields _, _, _, _, hkeeps => KeepsFields.mono h fields hkeeps

theorem KeepsAll.mono (h : ∀ vs s t, spared vs s t → spared' vs s t) :
    (s : List Alternative) → {context : String} → {vs : List Value} → {d : Drafting} →
      KeepsAll spared context vs s d → KeepsAll spared' context vs s d
  | [], _, _, _, _ => trivial
  | a :: s, _, _, _, hkeeps => ⟨KeepsWithin.mono h a hkeeps.1, KeepsAll.mono h s hkeeps.2⟩

theorem KeepsFields.mono (h : ∀ vs s t, spared vs s t → spared' vs s t) :
    (fields : List (String × List Alternative)) → {objects : List (List (String × Value))} →
      {d : Drafting} → KeepsFields spared objects fields d → KeepsFields spared' objects fields d
  | [], _, _, _ => trivial
  | (key, s) :: fields, objects, d, hkeeps => by
    refine ⟨?_, KeepsFields.mono h fields hkeeps.2⟩
    have hplace := hkeeps.1
    split at hplace
    · rename_i hfull
      rw [if_pos hfull]
      exact KeepsAll.mono h s hplace
    · rename_i hfull
      rw [if_neg hfull]
      exact h _ _ _ hplace

end

theorem KeepsRoot.mono (h : ∀ vs s t, spared vs s t → spared' vs s t) {name : String} {v : Value}
    (hkeeps : KeepsRoot spared name v) : KeepsRoot spared' name v := by
  rw [KeepsRoot] at hkeeps ⊢
  split at hkeeps
  · exact KeepsFields.mono h _ hkeeps
  · dsimp only at hkeeps ⊢
    split at hkeeps
    · rename_i hfull
      rw [if_pos hfull]
      exact KeepsAll.mono h _ hkeeps
    · rename_i hfull
      rw [if_neg hfull]
      exact h _ _ _ hkeeps
  · trivial

end

/-- Whether nothing at all is dropped. -/
def LosesNothing (name : String) (v : Value) : Prop := KeepsRoot (fun _ _ _ => False) name v

end TypeDraft.TypeScript.Basic
