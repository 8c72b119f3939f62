import TypeDraft.Value.Normal

/-!
# Shapes of single samples

The shape of a sample says at each place which sorts of values stand there: a list of alternatives
in order of first appearance, one for each sort. All items of an array share one shape.
-/

namespace TypeDraft

/-- One sort of value that stands at a place. -/
inductive Alternative where
  | null | boolean
  /-- Numbers; whether all of them are whole by their form. -/
  | number (whole : Bool)
  | string
  | array (items : List Alternative)
  /-- Objects with the keys of any of them, and the keys that all of them have. -/
  | object (fields : List (String × List Alternative)) (required : List String)
  deriving Inhabited

/-- What stands at a place. -/
abbrev Shape := List Alternative

namespace Shape

/-- Notes that a value of a plain sort stands at a place. -/
def addPlain (isSame : Alternative → Bool) (a : Alternative) (s : Shape) : Shape :=
  if s.any isSame then s else s ++ [a]

/-- Notes that a number stands at a place. -/
def addNumber (whole : Bool) : Shape → Shape
  | [] => [.number whole]
  | .number w :: s => .number (w && whole) :: s
  | a :: s => a :: addNumber whole s

/-- Notes that an array with some items stands at a place. -/
def addArray (addItems : Shape → Shape) : Shape → Shape
  | [] => [.array (addItems [])]
  | .array items :: s => .array (addItems items) :: s
  | a :: s => a :: addArray addItems s

/-- Notes that an object with some fields stands at a place. -/
def addObject (keys : List String)
    (addFields : List (String × Shape) → List (String × Shape)) : Shape → Shape
  | [] => [.object (addFields []) keys]
  | .object fields required :: s =>
    .object (addFields fields) (required.filter keys.contains) :: s
  | a :: s => a :: addObject keys addFields s

/-- Notes that a value stands under a key. -/
def addField (key : String) (add : Shape → Shape) :
    List (String × Shape) → List (String × Shape)
  | [] => [(key, add [])]
  | (k, s) :: fields => if k = key then (k, add s) :: fields else (k, s) :: addField key add fields

mutual

/-- Notes that a value stands at a place. -/
def add : Value → Shape → Shape
  | .null, s => addPlain (fun a => match a with | .null => true | _ => false) .null s
  | .bool _, s => addPlain (fun a => match a with | .boolean => true | _ => false) .boolean s
  | .int _, s => addNumber true s
  | .float _, s => addNumber false s
  | .str _, s => addPlain (fun a => match a with | .string => true | _ => false) .string s
  | .arr items, s => addArray (addItems items) s
  | .obj fields, s => addObject (fields.map Prod.fst) (addFields fields) s
  | _, s => s
termination_by structural v => v

def addItems : List Value → Shape → Shape
  | [], s => s
  | v :: vs, s => addItems vs (add v s)
termination_by structural vs => vs

def addFields : List (String × Value) → List (String × Shape) → List (String × Shape)
  | [], s => s
  | (key, v) :: fields, s => addFields fields (addField key (add v) s)
termination_by structural fields => fields

end

def ofValue (v : Value) : Shape := add v []

/-! ## Values without a shape -/

mutual

/-- The first value in a sample that is of no sort known here. -/
def firstShapeless? : Value → Option Value
  | .null | .bool _ | .int _ | .float _ | .str _ => none
  | .arr items => firstShapelessItem? items
  | .obj fields => firstShapelessField? fields
  | v => some v
termination_by structural v => v

def firstShapelessItem? : List Value → Option Value
  | [] => none
  | v :: vs => (firstShapeless? v).or (firstShapelessItem? vs)
termination_by structural vs => vs

def firstShapelessField? : List (String × Value) → Option Value
  | [] => none
  | (_, v) :: fs => (firstShapeless? v).or (firstShapelessField? fs)
termination_by structural fs => fs

end

/-! ## Shapes as documents

A shape is written as a schema in the manner of JSON Schema. Alternatives that are known by their
sort alone are written together, sorted by name; they precede the others.
-/

/-- The name of a sort that is known by that name alone. -/
def plainName? : Alternative → Option String
  | .null => some "null"
  | .boolean => some "boolean"
  | .number whole => some (if whole then "integer" else "number")
  | .string => some "string"
  | .array [] => some "array"
  | .object [] _ => some "object"
  | _ => none

/-- The names of the alternatives known by their sort alone, sorted. -/
def plainNames (s : Shape) : List String := (s.filterMap plainName?).mergeSort (· ≤ ·)

/-- The schema of a place, from the schemas of its alternatives that are not known by their sort
alone. -/
def assemble (s : Shape) (detailed : List (List (String × Value))) : List (String × Value) :=
  let plain : List (List (String × Value)) :=
    match plainNames s with
    | [] => []
    | [name] => [[("type", .str name)]]
    | names => [[("type", .arr (names.map .str))]]
  match plain ++ detailed with
  | [] => []
  | [schema] => schema
  | schemas => [("anyOf", .arr (schemas.map .obj))]

/-- The list of required keys, sorted; it is left out if there are none. -/
def requiredSchema (required : List String) : List (String × Value) :=
  if required.isEmpty then []
  else [("required", .arr ((required.mergeSort (· ≤ ·)).map .str))]

mutual

/-- The schema of an alternative that has items or fields. -/
def detailedSchema? : Alternative → Option (List (String × Value))
  | .array items =>
    if items.isEmpty then none
    else some [("type", .str "array"), ("items", .obj (assemble items (detailedSchemas items)))]
  | .object fields required =>
    if fields.isEmpty then none
    else
      some ([("type", .str "object"), ("properties", .obj (fieldSchemas fields))] ++
        requiredSchema required)
  | _ => none
termination_by structural a => a

def detailedSchemas : List Alternative → List (List (String × Value))
  | [] => []
  | a :: s =>
    match detailedSchema? a with
    | some schema => schema :: detailedSchemas s
    | none => detailedSchemas s
termination_by structural s => s

def fieldSchemas : List (String × List Alternative) → List (String × Value)
  | [] => []
  | (key, s) :: fields => (key, .obj (assemble s (detailedSchemas s))) :: fieldSchemas fields
termination_by structural fields => fields

end

def toValue (s : Shape) : Value :=
  .obj (("$schema", .str "http://json-schema.org/schema#") :: assemble s (detailedSchemas s))

end Shape

end TypeDraft
