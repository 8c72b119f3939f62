import TypeDraft.Csv
import TypeDraft.Input.Detection
import TypeDraft.Json5.Decode
import TypeDraft.JsonLines
import TypeDraft.Yaml.Load

/-!
# Reading sample data

A text is read in the format that is asked for, or in the one that it seems to be in. If that
fails, the text is repaired and read as JSON; only if that fails too is there an error, and it
names both causes.

Each parser catches some of the errors raised below it and lets the others through. Which errors
are left in the end is a matter of proof.
-/

namespace TypeDraft

inductive LoadError where
  | json (e : Json.DecodeError)
  | json5
  | yaml (e : Yaml.YamlError)
  | csv (e : Csv.CsvError)
  | jsonLines (e : JsonLines.LineError)
  /-- What the reader delivers is not brought to its normal tree. -/
  | normal (e : Value.NormalError)

namespace LoadError

def message : LoadError → String
  | json e => e.message
  | json5 => "not a JSON5 document"
  | yaml e => e.message
  | csv e => e.message
  | jsonLines e => e.message
  | normal e => e.message

/-- Whether the reader itself raises an error that names the format. -/
def namesFormat : LoadError → Bool
  | csv e => e.namesFormat
  | jsonLines e => e.isNumbered
  | _ => false

/-- Whether an error is one of a value or of too many open steps, as those that name a format are
too. Where JSON is read, only these are caught. -/
def isOfValueOrNesting : LoadError → Bool
  | json (.malformed ..) | json (.integerTooLong _) | json (.tooDeep _) => true
  | normal .keyTooLong | normal .tooDeep => true
  | json5 | jsonLines _ => true
  | csv e => e.namesFormat
  | yaml e => e.isOfValueOrNesting

end LoadError

/-- The failure of reading a text in a format, with that of reading its repaired form as JSON. -/
structure ParseError where
  format : InputFormat
  cause : LoadError
  repair : Option LoadError := none

/-- The message of a failure, the reason being given the text `reason`. -/
def ParseError.messageWith (e : ParseError) (reason : String) : String :=
  "Failed to parse " ++ e.format.title ++ ": " ++ reason ++
    match e.repair, e.format with
    | none, _ => ""
    | some r, .json => " (after auto-repair: " ++ r.message ++ ")"
    | some r, _ => " (JSON auto-repair fallback: " ++ r.message ++ ")"

def ParseError.message (e : ParseError) : String := e.messageWith e.cause.message

/-- What is raised where a text cannot be read. -/
inductive Raised where
  /-- An error of a reader or of normalization as it is. -/
  | load (e : LoadError)
  /-- An error that names the format. -/
  | parse (e : ParseError)

def Raised.message : Raised → String
  | load e => e.message
  | parse e => e.message

/-- The error that leaves the reader of a format. -/
def LoadError.raised (format : InputFormat) (e : LoadError) : Raised :=
  if e.namesFormat then .parse { format, cause := e } else .load e

/-- A text that has been read: its value, the format that it was read in, and whether it had to be
repaired first. -/
structure ParsedInput where
  data : Value
  format : InputFormat
  text : String
  repaired : Bool := false

namespace ParsedInput

/-- The first sample: the first record of JSON Lines, else all of the data. -/
def primary (p : ParsedInput) : Value :=
  match p.format, p.data with
  | .jsonLines, .arr (v :: _) => v
  | .jsonLines, .arr [] => .null
  | _, v => v

def extras (p : ParsedInput) : List Value :=
  match p.format, p.data with
  | .jsonLines, .arr (_ :: vs) => vs
  | _, _ => []

end ParsedInput

/-- What the reader of a format delivers. -/
def rawValue (format : InputFormat) (cs : List Char) : Except LoadError Value :=
  match format with
  | .json => (Json.decode cs).mapError .json
  | .json5 =>
    match Json5.decode cs with
    | some v => .ok v
    | none => .error .json5
  | .yaml => (Yaml.loadFirst cs).mapError .yaml
  | .csv => (Csv.decode cs).mapError .csv
  | .jsonLines => ((JsonLines.decode cs).map .arr).mapError .jsonLines

def load (format : InputFormat) (cs : List Char) : Except LoadError Value := do
  let v ← rawValue format cs
  v.normalTree.mapError .normal

def loadRepaired (cs : List Char) : Except LoadError Value := load .json (Json.repair cs)

/-- Reads the repaired form of a text as JSON where a parser has failed. -/
def orRepaired (text : String) (failed : ParseError) : Except Raised ParsedInput :=
  match loadRepaired text.toList with
  | .ok v => .ok { data := v, format := .json, text, repaired := true }
  | .error e =>
    if e.isOfValueOrNesting then .error (.parse { failed with repair := some e })
    else .error (.load e)

/-- Reads a text as JSON, or else its repaired form. -/
def parseJson (text : String) : Except Raised ParsedInput :=
  match load .json text.toList with
  | .ok v => .ok { data := v, format := .json, text }
  | .error e =>
    if e.isOfValueOrNesting then orRepaired text { format := .json, cause := e }
    else .error (.load e)

/-- Reads a text in another format than JSON. An error that names the format is passed on, any other
one is given the name. -/
def parseOwn (format : InputFormat) (text : String) : Except Raised ParsedInput :=
  match (load format text.toList).mapError (LoadError.raised format) with
  | .ok v => .ok { data := v, format, text }
  | .error (.parse e) => .error (.parse e)
  | .error (.load cause) => .error (.parse { format, cause })

/-- Reads a text in a format; only JSON is repaired. -/
def parseStrict (format : InputFormat) (text : String) : Except Raised ParsedInput :=
  match format with
  | .json => parseJson text
  | format => parseOwn format text

/-- Reads a text in the format given, or in the one that it seems to be in. Where another format
than JSON fails with an error that names it, the repaired form is read. -/
def parse (format : Option InputFormat) (text : String) : Except Raised ParsedInput :=
  match format.getD (detectFormat text.toList) with
  | .json => parseJson text
  | format =>
    match parseOwn format text with
    | .error (.parse e) => orRepaired text e
    | result => result

end TypeDraft
