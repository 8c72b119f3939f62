import TypeDraft.Json.Encode
import TypeDraft.Output.Form
import TypeDraft.Text.Case

/-!
# JSON Schema documents

A document describes exactly the form of one sample: every key of an object is required and no
other is admitted, and all items of an array look like its first one.
-/

namespace TypeDraft

/-- The part of JSON Schema that is written here. -/
inductive JsonSchema where
  /-- The schema without keywords. -/
  | any
  /-- A `type` alone. -/
  | type (kind : Kind)
  /-- The type of arrays, with `items`. -/
  | array (items : JsonSchema)
  /-- The type of objects, with `properties`, `required` and `additionalProperties`. -/
  | object (properties : List (String × JsonSchema)) (required : List String)
      (additional : Bool)
  deriving Inhabited

namespace JsonSchema

mutual

def ofValue : Value → JsonSchema
  | .arr items => .array (ofItems items)
  | .obj fields => .object (ofFields fields) (fields.map Prod.fst) false
  | v => .type v.kind
termination_by structural v => v

def ofItems : List Value → JsonSchema
  | [] => .any
  | v :: _ => ofValue v
termination_by structural vs => vs

def ofFields : List (String × Value) → List (String × JsonSchema)
  | [] => []
  | (key, v) :: fields => (key, ofValue v) :: ofFields fields
termination_by structural fields => fields

end

mutual

def keywords : JsonSchema → List (String × Value)
  | any => []
  | type kind => [("type", .str kind.name)]
  | array items => [("type", .str "array"), ("items", .obj (keywords items))]
  | object properties required additional =>
    [("type", .str "object"),
      ("properties", .obj (propertyValues properties)),
      ("required", .arr (required.map .str)),
      ("additionalProperties", .bool additional)]
termination_by structural s => s

def propertyValues : List (String × JsonSchema) → List (String × Value)
  | [] => []
  | (key, s) :: properties => (key, .obj (keywords s)) :: propertyValues properties
termination_by structural properties => properties

end

/-- The dialect that documents are written in. -/
def dialect : String := "https://json-schema.org/draft/2020-12/schema"

def identifier (name : String) : String :=
  "http://example.com/" ++ Text.lower name ++ ".schema.json"

def document (name : String) (s : JsonSchema) : Value :=
  .obj ([("$schema", .str dialect), ("$id", .str (identifier name)), ("title", .str name)] ++
    keywords s)

def cost : NestingCost := ⟨8, 10⟩

/-- Whether an identifier may be borne by a document: a hash ends it. -/
def isIdentifier (s : String) : Bool :=
  match s.toList.dropWhile (· != '#') with
  | [] | ['#'] | ['#', '\n'] => true
  | _ => false

def draft (name : String) (v : Value) : Except DraftError String :=
  match Form.firstError? cost openSteps v with
  | some e => .error e
  | none =>
    if isIdentifier (identifier name) then .ok (Json.pretty .unicode (document name (ofValue v)))
    else .error (.invalidIdentifier (identifier name))

end JsonSchema

end TypeDraft
