import TypeDraft.Schema.Basic
import TypeDraft.Terminal.Markup

/-!
# A schema as a table

One row for each field at any depth, under the path that leads to it; a dot separates the keys, and
brackets stand for the items of an array.
-/

namespace TypeDraft

/-- A line of the table. A plain value at the root or within an array has a kind alone. -/
inductive SchemaRow where
  | field (path : String) (facts : Facts)
  | plain (path : String) (kind : Kind)
  deriving DecidableEq

namespace Schema

def joinPath (path key : String) : String := if path.isEmpty then key else path ++ "." ++ key

mutual

def rowsFrom (path : String) : Schema → List SchemaRow
  | .object fields => fieldRows path fields
  | .array none => []
  | .array (some items) => rowsFrom (path ++ "[]") items
  | .scalar kind => [.plain path kind]
  | .unsupported _ => []
termination_by structural s => s

def nestedRows (path : String) : Option Schema → List SchemaRow
  | none => []
  | some s => rowsFrom path s
termination_by structural s => s

def fieldRows (path : String) : List (String × Facts × Option Schema) → List SchemaRow
  | [] => []
  | (key, facts, nested) :: fields =>
    .field (joinPath path key) facts :: nestedRows (joinPath path key) nested ++ fieldRows path fields
termination_by structural fields => fields

end

def rows (s : Schema) : List SchemaRow := s.rowsFrom ""

end Schema

namespace SchemaRow

open Terminal.Markup (escape)

private def yesNo (b : Bool) : String := if b then "[green]Yes[/green]" else "No"

/-- The six cells of a row as marked-up text: path, kinds, optional, union, enumeration, pattern. -/
def cells : SchemaRow → List String
  | field path facts =>
    let kinds := ", ".intercalate (facts.kinds.map Kind.name)
    let values := ", ".intercalate (facts.distinct.map Value.display)
    [escape path, if kinds.isEmpty then "-" else kinds, yesNo facts.isOptional,
      yesNo facts.isUnion, if facts.isEnum then escape values else "-",
      (facts.pattern.map StringPattern.name).getD "-"]
  | plain path kind =>
    [escape (if path.isEmpty then "(root)" else path), kind.name, "-", "-", "-", "-"]

end SchemaRow

end TypeDraft
