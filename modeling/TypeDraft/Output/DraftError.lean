import TypeDraft.Output.Format
import TypeDraft.Value.Display

/-!
# Why a type definition cannot be written
-/

namespace TypeDraft

inductive DraftError where
  /-- A value outside the normal tree had to be looked at. -/
  | unsupportedValue (f : Foreign)
  /-- The schema has a node that analysis never makes. -/
  | unsupportedNode (sort : String)
  /-- An enumeration has a value that is no string. -/
  | enumValue (sort : String)
  | schemaTooDeep
  | sampleTooDeep
  | inferenceTooDeep
  /-- No shape can be inferred for a value, which is known by its display. -/
  | shapeless (display : String)
  | emptyRoot
  | rootNotObject (kind : Kind)
  | noFields (typeName : String)
  /-- A document would bear an identifier that none may have. -/
  | invalidIdentifier (identifier : String)
  deriving DecidableEq

namespace DraftError

def reason : DraftError → String
  | unsupportedValue f => "Unsupported value of type " ++ f.name
  | unsupportedNode sort => "unsupported schema node " ++ sort
  | enumValue sort => "'" ++ sort ++ "' object has no attribute 'upper'"
  | schemaTooDeep => "schema is nested too deeply"
  | sampleTooDeep => "sample is nested too deeply"
  | inferenceTooDeep => "type inference failed: maximum recursion depth exceeded"
  | shapeless display =>
    "type inference failed: Could not find matching schema type for object: " ++ display
  | emptyRoot => "cannot derive a type from an empty array"
  | rootNotObject kind => "root value must be an object, got " ++ kind.name
  | noFields typeName => "type " ++ typeName ++ " would have no fields"
  | invalidIdentifier identifier =>
    "generated schema is invalid: " ++ Text.displayString identifier ++
      " does not match '^[^#]*#?$'"

/-- Whether a failure lies in the input as such, whatever format it is to be written in. -/
def isAboutInput : DraftError → Bool
  | unsupportedValue _ | enumValue _ => true
  | _ => false

def message (format : OutputFormat) (e : DraftError) : String :=
  if e.isAboutInput then e.reason else "Cannot generate " ++ format.name ++ ": " ++ e.reason

end DraftError

end TypeDraft
