/-!
# Output formats
-/

namespace TypeDraft

/-- The languages that a type definition may be written in. The two advanced formats describe all
samples merged, the others the first sample alone. -/
inductive OutputFormat where
  | interface | type | advancedInterface | advancedType | zod | jsonSchema | graphql
  deriving DecidableEq, Inhabited

namespace OutputFormat

def all : List OutputFormat :=
  [interface, type, advancedInterface, advancedType, zod, jsonSchema, graphql]

def name : OutputFormat → String
  | interface => "interface"
  | type => "type"
  | advancedInterface => "advanced-interface"
  | advancedType => "advanced-type"
  | zod => "zod"
  | jsonSchema => "json-schema"
  | graphql => "graphql"

def label : OutputFormat → String
  | interface => "TypeScript Interface"
  | type => "TypeScript Type"
  | advancedInterface => "Advanced Interface"
  | advancedType => "Advanced Type"
  | zod => "Zod Schema"
  | jsonSchema => "JSON Schema"
  | graphql => "GraphQL Types"

def description : OutputFormat → String
  | interface => "Basic TypeScript interface"
  | type => "Basic TypeScript type alias"
  | advancedInterface => "Smart interface with optional properties, enums, patterns"
  | advancedType => "Smart type with optional properties, enums, patterns"
  | zod => "Generate Zod schema for runtime validation"
  | jsonSchema => "Generate JSON Schema specification"
  | graphql => "Generate GraphQL type definitions"

def isAdvanced : OutputFormat → Bool
  | advancedInterface | advancedType => true
  | _ => false

def ofName? (s : String) : Option OutputFormat := all.find? (·.name == s)

theorem ofName?_name (f : OutputFormat) : ofName? f.name = some f := by
  cases f <;> decide

def names : String := ", ".intercalate (all.map name)

end OutputFormat

end TypeDraft
