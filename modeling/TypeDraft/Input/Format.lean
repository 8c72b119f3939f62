/-!
# Input formats
-/

namespace TypeDraft

/-- The formats that sample data may be written in. -/
inductive InputFormat where
  | json | json5 | yaml | csv | jsonLines
  deriving DecidableEq, Inhabited

namespace InputFormat

def all : List InputFormat := [json, json5, yaml, csv, jsonLines]

def name : InputFormat → String
  | json => "json"
  | json5 => "json5"
  | yaml => "yaml"
  | csv => "csv"
  | jsonLines => "jsonlines"

def title : InputFormat → String
  | json => "JSON"
  | json5 => "JSON5"
  | yaml => "YAML"
  | csv => "CSV"
  | jsonLines => "JSONLINES"

def ofName? (s : String) : Option InputFormat := all.find? (·.name == s)

theorem ofName?_name (f : InputFormat) : ofName? f.name = some f := by
  cases f <;> decide

/-- The format that the extension of a file name stands for, in any case. Files that say they are
JSON may hold kindred formats, so that they are looked into. -/
def ofExtension? (extension : String) : Option InputFormat :=
  match extension.toLower with
  | ".json5" => some json5
  | ".jsonl" | ".ndjson" => some jsonLines
  | ".yaml" | ".yml" => some yaml
  | ".csv" => some csv
  | _ => none

end InputFormat

end TypeDraft
