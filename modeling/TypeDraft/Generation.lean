import TypeDraft.Input.Parse
import TypeDraft.Output.Draft
import TypeDraft.Output.Registry

/-!
# From sample text to type definition

A request names the type, the format wanted and perhaps the format given. Its text is read, all
samples are merged if the format wants that, and the definition is written.
-/

namespace TypeDraft

structure Request where
  name : String
  text : String
  output : OutputFormat
  options : Options := {}
  input : Option InputFormat := none

/-- A definition with what is known about its making. -/
structure Result where
  name : String
  output : OutputFormat
  /-- The format that the text was read in. -/
  input : InputFormat
  repaired : Bool
  text : String
  deriving DecidableEq

def Result.lines (r : Result) : Nat := Text.lineCount r.text

inductive GenerationError where
  | invalidName (name : String)
  | unknownOutput (name : String)
  | unknownInput (name : String)
  | parse (e : Raised)
  | sample (e : SampleError)

def GenerationError.message : GenerationError → String
  | invalidName name =>
    "Invalid type name '" ++ name ++ "': must start with a letter or underscore " ++
      "and contain only letters, digits and underscores"
  | unknownOutput name => "Unknown output format: " ++ name
  | unknownInput name => Text.displayString name ++ " is not a valid InputFormat"
  | parse e => e.message
  | sample e => e.message

def inputNamed (name : String) : Except GenerationError InputFormat :=
  let low := Text.lower name
  match InputFormat.ofName? low with
  | some f => .ok f
  | none => .error (.unknownInput low)

def outputNamed (name : String) : Except GenerationError OutputFormat :=
  match OutputFormat.ofName? name with
  | some f => .ok f
  | none => .error (.unknownOutput name)

def checkName (name : String) : Except GenerationError Unit :=
  if Name.isTypeName name then .ok () else .error (.invalidName name)

namespace Registry

/-- The format whose writer serves a format. -/
def writer (r : Registry) (format : OutputFormat) : Except GenerationError OutputFormat :=
  match r.writer? format with
  | some w => .ok w
  | none => .error (.unknownOutput format.name)

/-- The text for samples in a format, by the writer that serves it. -/
def draft (r : Registry) (format : OutputFormat) (o : Options) (name : String) (primary : Value)
    (extras : List Value) : Except GenerationError String := do
  let w ← r.writer format
  (draftSamples w o name primary extras).mapError .sample

end Registry

def generate (registry : Registry) (r : Request) : Except GenerationError Result := do
  checkName r.name
  let parsed ← (parse r.input r.text).mapError .parse
  let text ← registry.draft r.output r.options r.name parsed.primary parsed.extras
  return { name := r.name, output := r.output, input := parsed.format, repaired := parsed.repaired, text }

def Request.ofNames (name text output : String) (options : Options) (input : Option String) :
    Except GenerationError Request := do
  checkName name
  let output ← outputNamed output
  let input ← input.mapM inputNamed
  return { name, text, output, options, input }

/-- Reads a text in the format named, or in the one that it seems to be in. -/
def parseNamed (input : Option String) (text : String) : Except GenerationError ParsedInput := do
  let input ← input.mapM inputNamed
  (parse input text).mapError .parse

def ParsedInput.schema (p : ParsedInput) : Except GenerationError Schema :=
  (analyze p.primary p.extras).mapError fun e => .sample (.analysis e)

end TypeDraft
