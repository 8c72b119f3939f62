import TypeDraft.Json.Quoted
import TypeDraft.Name.Word
import TypeDraft.TypeScript.Expression

/-!
# Declarations of merged schemas

Shapes, aliases and enumerations, with their texts.
-/

namespace TypeDraft.TypeScript

/-- Whether object types are declared as interfaces or as type aliases. -/
inductive Style where
  | interface | type
  deriving DecidableEq

structure Member where
  key : String
  type : TypeExpr
  isOptional : Bool := false
  isReadonly : Bool := false
  deriving DecidableEq

def Member.text (m : Member) : String :=
  "  " ++ (if m.isReadonly then "readonly " else "") ++ Name.quoteProperty m.key ++
    (if m.isOptional then "?" else "") ++ ": " ++ m.type.text ++ ";"

inductive Declaration where
  /-- An object type; it is open if it also admits keys that are not listed. -/
  | shape (name : String) (members : List Member) (isOpen : Bool)
  /-- Another name for a type. -/
  | synonym (name : String) (type : TypeExpr)
  /-- An enumeration with the values of its members. -/
  | enum (name : String) (members : List (String × String))
  deriving DecidableEq

namespace Declaration

def name : Declaration → String
  | shape name .. | synonym name _ | enum name _ => name

/-- The names that the types in a declaration refer to. -/
def references : Declaration → List String
  | shape _ members _ => members.flatMap (·.type.references)
  | synonym _ type => type.references
  | enum .. => []

def header : Style → String → String
  | .interface, name => "interface " ++ name ++ " \x7b"
  | .type, name => "type " ++ name ++ " = \x7b"

def enumLine (m : String × String) : String :=
  "  " ++ m.1 ++ " = " ++ Json.quote .unicode m.2

def text (style : Style) : Declaration → String
  | shape name members isOpen =>
    let lines := members.map Member.text ++ if isOpen then ["  [key: string]: unknown;"] else []
    if lines.isEmpty then header style name ++ "\x7d"
    else header style name ++ "\n" ++ "\n".intercalate lines ++ "\n\x7d"
  | synonym name type => "type " ++ name ++ " = " ++ type.text ++ ";"
  | enum name members =>
    "enum " ++ name ++ " \x7b\n" ++ ",\n".intercalate (members.map enumLine) ++ "\n\x7d"

end Declaration

end TypeDraft.TypeScript
