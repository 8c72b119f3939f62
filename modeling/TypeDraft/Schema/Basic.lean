import TypeDraft.Schema.Pattern
import TypeDraft.Value.Normal

/-!
# Merged schemas

A schema describes one or more samples of the same entity: the fields of its objects with what was
seen in each, the items of its arrays, or the kind of a single value.
-/

namespace TypeDraft

/-- What was seen in one field over all samples that have its object. -/
structure Facts where
  /-- Whether the field is missing or null in some sample. -/
  isOptional : Bool
  /-- Whether values of more than one kind were seen. -/
  isUnion : Bool
  /-- The kinds of the values in order of first appearance. -/
  kinds : List Kind
  /-- The values that are not null, in order. -/
  values : List Value := []
  /-- The form that all values share. -/
  pattern : Option StringPattern := none
  isEnum : Bool := false
  deriving DecidableEq

/-- The schema of a sample. A field comes with its facts and, if objects or arrays were seen in it,
with the schema of those. -/
inductive Schema where
  | object (fields : List (String × Facts × Option Schema))
  | array (items : Option Schema)
  | scalar (kind : Kind)
  /-- A node of no sort that analysis makes; it is known by the name of its sort. -/
  | unsupported (sort : String)
  deriving Inhabited

def distinctValues (values : List Value) : List Value :=
  values.foldl (fun seen v => if seen.any (Value.alike · v) then seen else seen ++ [v]) []

def Facts.distinct (f : Facts) : List Value := distinctValues f.values

namespace Schema

/-- The facts of a field as a value, with the value of its nested schema. -/
def factsValue (f : Facts) (nested : Value) : Value :=
  .obj [
    ("isOptional", .bool f.isOptional),
    ("isUnion", .bool f.isUnion),
    ("types", .arr (f.kinds.map fun k => .str k.name)),
    ("pattern", (f.pattern.map fun p => Value.str p.name).getD .null),
    ("isEnum", .bool f.isEnum),
    ("values", if f.isEnum then .arr f.distinct else .null),
    ("nested", nested)]

mutual

def toValue : Schema → Value
  | object fields => .obj [("type", .str "object"), ("properties", .obj (fieldValues fields))]
  | array none => .obj [("type", .str "array"), ("items", .null)]
  | array (some items) => .obj [("type", .str "array"), ("items", toValue items)]
  | scalar kind => .obj [("type", .str kind.name)]
  | unsupported sort => .obj [("type", .str sort)]
termination_by structural s => s

def fieldValues : List (String × Facts × Option Schema) → List (String × Value)
  | [] => []
  | (key, facts, none) :: fields => (key, factsValue facts .null) :: fieldValues fields
  | (key, facts, some nested) :: fields =>
    (key, factsValue facts (toValue nested)) :: fieldValues fields
termination_by structural fields => fields

end

end Schema

end TypeDraft
