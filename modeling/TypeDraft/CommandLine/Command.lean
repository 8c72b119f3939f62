import TypeDraft.CommandLine.Arguments
import TypeDraft.Files
import TypeDraft.Input.Format
import TypeDraft.Name.Word
import TypeDraft.Output.Format
import TypeDraft.Output.Options

/-!
# Commands

What can be asked for on the command line, and what the options of each command admit.
-/

namespace TypeDraft.CommandLine

/-- What the options of the commands set. -/
inductive Key where
  | output | name | input | profile | switch (w : Switch) | target | json | verbose | version | help
  deriving DecidableEq

inductive Command where
  | generate | detect | analyze | listFormats | initProfile
  deriving DecidableEq

namespace Command

def all : List Command := [generate, detect, analyze, listFormats, initProfile]

def name : Command → String
  | generate => "generate"
  | detect => "detect"
  | analyze => "analyze"
  | listFormats => "list-formats"
  | initProfile => "init-profile"

def ofName? (s : String) : Option Command := all.find? (·.name == s)

def takesInput : Command → Bool
  | generate | detect | analyze => true
  | listFormats | initProfile => false

def usage (c : Command) : String :=
  "Usage: typegen " ++ c.name ++ " [OPTIONS]" ++ if c.takesInput then " INPUT" else ""

end Command

def outputSpec : OptionSpec Key := ⟨"--format", some 'f', .output, .value⟩
def nameSpec : OptionSpec Key := ⟨"--name", some 'n', .name, .value⟩
def inputSpec : OptionSpec Key := ⟨"--input-format", some 'i', .input, .value⟩
def profileSpec : OptionSpec Key := ⟨"--profile", some 'p', .profile, .value⟩
def targetSpec : OptionSpec Key := ⟨"--output", some 'o', .target, .value⟩
def jsonSpec : OptionSpec Key := ⟨"--json", none, .json, .flag true⟩
def helpSpec : OptionSpec Key := ⟨"--help", none, .help, .flag true⟩

def switchName : Switch → String
  | .detectOptionalProperties => "optional"
  | .generateEnums => "enums"
  | .detectUnionTypes => "unions"
  | .useReadonly => "readonly"
  | .generateIndexSignatures => "index-signatures"
  | .detectPatterns => "patterns"

def switchSpecs (w : Switch) : List (OptionSpec Key) :=
  [⟨"--" ++ switchName w, none, .switch w, .flag true⟩,
    ⟨"--no-" ++ switchName w, none, .switch w, .flag false⟩]

def globalSpecs : List (OptionSpec Key) :=
  [⟨"--version", none, .version, .flag true⟩, ⟨"--verbose", some 'v', .verbose, .flag true⟩, helpSpec]

def Command.specs : Command → List (OptionSpec Key)
  | .generate =>
    [outputSpec, nameSpec, inputSpec, profileSpec] ++ Switch.all.flatMap switchSpecs ++
      [targetSpec, helpSpec]
  | .detect => [helpSpec]
  | .analyze => [inputSpec, jsonSpec, helpSpec]
  | .listFormats => [helpSpec]
  | .initProfile => [nameSpec, outputSpec, targetSpec, helpSpec]

/-- How an option with a value is named where that value is refused. -/
def OptionSpec.place (s : OptionSpec Key) : String :=
  "'" ++ s.long ++ "'" ++
    match s.short with
    | some c => " / '-" ++ c.toString ++ "'"
    | none => ""

private def notOneOf (value : String) (names : List String) : String :=
  Text.displayString value ++ " is not one of " ++
    ", ".intercalate (names.map fun n => "'" ++ n ++ "'") ++ "."

def noFile? (fs : Files) (path : String) : Option String :=
  let missing := some ("File " ++ Text.displayString path ++ " does not exist.")
  if path = "" then missing
  else
    match fs.place (Path.ofString path) with
    | .file _ => if Path.wantsDirectory path then missing else none
    | .directory => some ("File " ++ Text.displayString path ++ " is a directory.")
    | _ => missing

private def noTarget? (fs : Files) (path : String) : Option String :=
  if path ≠ "" && fs.place (Path.ofString path) = .directory then
    some ("File " ++ Text.displayString path ++ " is a directory.")
  else none

def refusal? (fs : Files) (key : Key) (value : String) : Option (String × OptionSpec Key) :=
  match key with
  | .output =>
    let names := OutputFormat.all.map OutputFormat.name
    if names.contains value then none else some (notOneOf value names, outputSpec)
  | .input =>
    let names := InputFormat.all.map InputFormat.name
    if names.contains value then none else some (notOneOf value names, inputSpec)
  | .name =>
    if Name.isTypeName value then none
    else
      some ("must start with a letter or underscore and contain only letters, digits and underscores",
        nameSpec)
  | .profile => (noFile? fs value).map (·, profileSpec)
  | .target => (noTarget? fs value).map (·, targetSpec)
  | _ => none

/-- The settings of a command: of each key the last one, in the order in which the keys came up. -/
structure Settings where
  values : List (Key × Setting)

namespace Settings

/-- Sets a key; one that is there keeps its place. -/
def put (key : Key) (s : Setting) : List (Key × Setting) → List (Key × Setting)
  | [] => [(key, s)]
  | (k, t) :: rest => if k = key then (k, s) :: rest else (k, t) :: put key s rest

def ofList (given : List (Key × Setting)) : Settings :=
  ⟨given.foldl (fun values g => put g.1 g.2 values) []⟩

def text? (s : Settings) (key : Key) : Option String :=
  match s.values.lookup key with
  | some (.text t) => some t
  | _ => none

def flag? (s : Settings) (key : Key) : Option Bool :=
  match s.values.lookup key with
  | some (.flag b) => some b
  | _ => none

def output? (s : Settings) : Option OutputFormat := (s.text? .output).bind OutputFormat.ofName?

def input? (s : Settings) : Option InputFormat := (s.text? .input).bind InputFormat.ofName?

/-- The first value that its option does not admit. -/
def firstFault? (fs : Files) (s : Settings) : Option UsageFault :=
  s.values.findSome? fun (key, setting) =>
    match setting with
    | .text value => (refusal? fs key value).map fun r => .invalid r.2.place r.1
    | .flag _ => none

end Settings

/-- A command with its settings and the place of the sample. -/
structure Call where
  command : Command
  settings : Settings
  /-- A path, or a dash for the standard input. -/
  input : String := "-"

/-- What a command line asks for. -/
inductive Wish where
  | call (c : Call)
  | help (command : Option Command)
  | version

/-- The sample of a command, which must be there, and the arguments behind it. -/
def takeInput (fs : Files) (c : Command) (args : List String) :
    Except UsageFault (String × List String) :=
  if c.takesInput then
    match args with
    | [] => .error (.missingArgument "INPUT")
    | path :: rest =>
      if path = "-" then .ok (path, rest)
      else
        match noFile? fs path with
        | none => .ok (path, rest)
        | some reason => .error (.invalid "'INPUT'" reason)
  else .ok ("-", args)

def Command.read (fs : Files) (c : Command) (args : List String) : Except UsageFault Wish := do
  let scanned ← scan c.specs true args
  let settings := Settings.ofList scanned.settings
  if settings.flag? .help = some true then return .help (some c)
  match settings.firstFault? fs with
  | some fault => throw fault
  | none =>
    let (input, rest) ← takeInput fs c scanned.positional
    if rest.isEmpty then return .call { command := c, settings, input }
    else throw (.extraArguments rest)

/-- A fault with the command at which it came up. -/
structure UsageError where
  fault : UsageFault
  command : Option Command
  deriving DecidableEq

def generalUsage : String := "Usage: typegen [OPTIONS] COMMAND [ARGS]..."

def usageOf (command : Option Command) : String := (command.map Command.usage).getD generalUsage

def UsageError.message (e : UsageError) : String :=
  let path := "typegen" ++ (e.command.map fun c => " " ++ c.name).getD ""
  usageOf e.command ++ "\nTry '" ++ path ++ " --help' for help.\n\nError: " ++ e.fault.message

/-- What stands before the command: a wish that the options there settle, or the rest. -/
def readGlobal (args : List String) : Except UsageFault (Wish ⊕ List String) := do
  let scanned ← scan globalSpecs false args
  match (Settings.ofList scanned.settings).values.find? fun g => g.1 = .version || g.1 = .help with
  | some (.version, _) => return .inl .version
  | some _ => return .inl (.help none)
  | none => return .inr scanned.positional

/-- The wish of a command line whose command is not known. What stands for the command may be an
option that a double dash has set apart, and is taken for that once more. -/
def readUnknown (name : String) (rest : List String) : Except UsageFault Wish := do
  match ← readGlobal (name :: rest) with
  | .inl wish => return wish
  | .inr _ => throw (.noSuchCommand name)

def read (fs : Files) (args : List String) : Except UsageError Wish := do
  let general (fault : UsageFault) : UsageError := ⟨fault, none⟩
  if args.isEmpty then return .help none
  match ← (readGlobal args).mapError general with
  | .inl wish => return wish
  | .inr [] => throw (general .missingCommand)
  | .inr (name :: rest) =>
    match Command.ofName? name with
    | none => (readUnknown name rest).mapError general
    | some c => (c.read fs rest).mapError fun fault => ⟨fault, some c⟩

end TypeDraft.CommandLine
