import TypeDraft.Name.Word
import TypeDraft.Output.DraftError
import TypeDraft.Value.Nesting

/-!
# GraphQL object types

The root object has a type under the name given, and every object that is reached from it through
fields and first items has one under the name of its field. A type stands before those that its
fields need.
-/

namespace TypeDraft.GraphQL

def nameChar (c : Char) : Char := if Name.isLetterOrDigit c then c else '_'

/-- A text with underscores for what a name may not hold, and one before a digit at its head. -/
def nameOf (s : String) : String :=
  match s.toList.map nameChar with
  | [] => "_"
  | c :: cs => String.ofList (if c.isDigit then '_' :: c :: cs else c :: cs)

def typeNameOf (key : String) : String :=
  nameOf (String.ofList (Name.capitalizeFirst key.toList))

inductive TypeRef where
  | int | float | string | boolean
  | list (item : TypeRef)
  | named (name : String)
  deriving DecidableEq

def TypeRef.text : TypeRef → String
  | int => "Int"
  | float => "Float"
  | string => "String"
  | boolean => "Boolean"
  | list item => "[" ++ item.text ++ "]"
  | named name => name

structure ObjectType where
  name : String
  fields : List (String × TypeRef)
  deriving DecidableEq

def ObjectType.text (t : ObjectType) : String :=
  let line (f : String × TypeRef) : String := "  " ++ f.1 ++ ": " ++ f.2.text
  "type " ++ t.name ++ " \x7b\n" ++ "\n".intercalate (t.fields.map line) ++ "\n\x7d"

mutual

def typeOf (key : String) : Value → TypeRef × List ObjectType
  | .null | .str _ => (.string, [])
  | .bool _ => (.boolean, [])
  | .arr items =>
    let (item, types) := itemTypeOf key items
    (.list item, types)
  | .obj fields =>
    let (fields, types) := fieldsOf fields
    (.named (typeNameOf key), ⟨typeNameOf key, fields⟩ :: types)
  | v => (if v.isIntegral then .int else .float, [])
termination_by structural v => v

/-- The type of the items of an array; those of an empty array are taken for strings. -/
def itemTypeOf (key : String) : List Value → TypeRef × List ObjectType
  | [] => (.string, [])
  | v :: _ => typeOf key v
termination_by structural vs => vs

def fieldsOf : List (String × Value) → List (String × TypeRef) × List ObjectType
  | [] => ([], [])
  | (key, v) :: rest =>
    let (type, own) := typeOf key v
    let (fields, types) := fieldsOf rest
    ((nameOf key, type) :: fields, own ++ types)
termination_by structural fields => fields

end

/-- The object types for a root object, its own first. -/
def objectTypes (name : String) (fields : List (String × Value)) : List ObjectType :=
  let (fields, types) := fieldsOf fields
  ⟨name, fields⟩ :: types

/-! ## Samples that cannot be written -/

def cost : NestingCost := ⟨1, 2⟩

mutual

/-- The first thing that stops a value in a field from being written: a value outside the normal
tree, an object without fields, or more than `budget` steps open at once. -/
def firstError? (key : String) : (budget : Nat) → Value → Option DraftError
  | budget, .arr items =>
    if budget < cost.array then some .sampleTooDeep
    else firstItemError? key (budget - cost.array) items
  | budget, .obj fields =>
    if budget < cost.object then some .sampleTooDeep
    else if fields.isEmpty then some (.noFields (typeNameOf key))
    else firstFieldError? (budget - cost.object) fields
  | _, v =>
    match v.kind with
    | .foreign f => some (.unsupportedValue f)
    | _ => none
termination_by structural _ v => v

def firstItemError? (key : String) : (budget : Nat) → List Value → Option DraftError
  | _, [] => none
  | budget, v :: _ => firstError? key budget v
termination_by structural _ vs => vs

def firstFieldError? : (budget : Nat) → List (String × Value) → Option DraftError
  | _, [] => none
  | budget, (key, v) :: fs => (firstError? key budget v).or (firstFieldError? budget fs)
termination_by structural _ fs => fs

end

def rootFields (v : Value) : Except DraftError (List (String × Value)) :=
  let root : Except DraftError Value :=
    match v with
    | .arr [] => .error .emptyRoot
    | .arr (v :: _) => .ok v
    | v => .ok v
  root.bind fun v =>
    match v, v.kind with
    | .obj fields, _ => .ok fields
    | _, .foreign f => .error (.unsupportedValue f)
    | _, kind => .error (.rootNotObject kind)

def draft (name : String) (v : Value) : Except DraftError String := do
  let fields ← rootFields v
  if fields.isEmpty then throw (.noFields name)
  match firstFieldError? openSteps fields with
  | some e => throw e
  | none => return "\n\n".intercalate ((objectTypes name fields).map ObjectType.text)

end TypeDraft.GraphQL
