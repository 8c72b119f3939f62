import TypeDraft.Schema.Pattern
import TypeDraft.Text.Blank
import TypeDraft.Value

/-!
# Type expressions of merged schemas
-/

namespace TypeDraft.TypeScript

/-- Where the text of a type holds a union, an array of it needs parentheses. -/
def arrayText (item : String) : String :=
  if Text.occurs " | ".toList item.toList then "(" ++ item ++ ")[]" else item ++ "[]"

/-- The types that need no declaration. -/
inductive Primitive where
  | null | boolean | number | string | unknown
  deriving DecidableEq

def Primitive.text : Primitive → String
  | null => "null"
  | boolean => "boolean"
  | number => "number"
  | string => "string"
  | unknown => "unknown"

/-- The type of the values of a kind, as far as it needs no declaration. -/
def Primitive.ofKind : Kind → Primitive
  | .null => null
  | .boolean => boolean
  | .number => number
  | .string => string
  | _ => unknown

/-- A type as it stands in a declaration. -/
inductive TypeExpr where
  | primitive (p : Primitive)
  | union (ps : List Primitive)
  /-- Strings of one form; a date may also be held as a date object. -/
  | annotated (p : StringPattern)
  | named (name : String)
  | array (item : TypeExpr)
  deriving DecidableEq, Inhabited

def patternText : StringPattern → String
  | .email => "string /* email */"
  | .uuid => "string /* uuid */"
  | .date => "Date | string /* ISO date */"
  | .url => "string /* URL */"

namespace TypeExpr

def unknown : TypeExpr := primitive .unknown

def ofKind (k : Kind) : TypeExpr := primitive (.ofKind k)

/-- The union of the types of some kinds, each type once. -/
def unionOf (kinds : List Kind) : TypeExpr := union (kinds.map Primitive.ofKind).eraseDups

def text : TypeExpr → String
  | primitive p => p.text
  | union ps => " | ".intercalate (ps.map Primitive.text)
  | annotated p => patternText p
  | named name => name
  | array item => arrayText item.text

/-- The names of declarations that a type refers to. -/
def references : TypeExpr → List String
  | named name => [name]
  | array item => item.references
  | _ => []

end TypeExpr

end TypeDraft.TypeScript
