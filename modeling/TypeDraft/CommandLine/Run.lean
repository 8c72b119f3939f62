import TypeDraft.CommandLine.Command
import TypeDraft.Generation
import TypeDraft.Profile
import TypeDraft.Schema.Rows
import TypeDraft.Terminal.Box
import TypeDraft.Terminal.Control

/-!
# Running a command

A run sees its arguments, its standard input and some files. It ends with an exit code, with what it
printed, and with the files that it wrote. A run that fails prints nothing but the reason, and
writes nothing.
-/

namespace TypeDraft.CommandLine

structure Invocation where
  args : List String
  stdin : String := ""
  files : Files := ⟨[], []⟩

structure Outcome where
  exitCode : Nat := 0
  stdout : String := ""
  stderr : String := ""
  written : List (Path × String) := []
  deriving DecidableEq

inductive RunError where
  | file (e : FileError)
  | profile (e : ProfileError)
  | generation (e : GenerationError)

def RunError.message : RunError → String
  | file e => e.message
  | profile e => e.message
  | generation e => e.message

/-- The outcome of a command that fails: the reason, in red where there are colours. -/
def RunError.outcome (e : RunError) : Outcome where
  exitCode := 1
  stderr :=
    Terminal.printed (Terminal.Markup.plain
      ("[red]Error: " ++ Terminal.Markup.escape e.message ++ "[/red]"))

/-- The sample text, and the format that the extension of its file stands for. -/
def readInput (inv : Invocation) (input : String) :
    Except RunError (String × Option InputFormat) :=
  if input = "-" then .ok (Text.unifyLineEnds inv.stdin, none)
  else
    let p := Path.ofString input
    ((inv.files.read p).map fun s => (s, InputFormat.ofExtension? p.extension)).mapError .file

def profileOf (inv : Invocation) (s : Settings) : Except RunError Profile :=
  match s.text? .profile with
  | some path => (Profile.load inv.files (Path.ofString path)).mapError .profile
  | none => .ok {}

/-- The options of a profile, each replaced by its own switch where that is set. -/
def optionsOf (p : Profile) (s : Settings) : Options :=
  Switch.all.foldl (fun o w =>
    match s.flag? (.switch w) with
    | some b => o.set w b
    | none => o) p.options

/-- What a definition is made from: a setting counts before the profile, and that before the
extension. -/
def requestOf (p : Profile) (s : Settings) (text : String) (extension : Option InputFormat) :
    Request where
  name := (s.text? .name).getD p.name
  text
  output := s.output?.getD p.output
  options := optionsOf p s
  input := (s.input?.or p.input).or extension

private def repairNote (r : Result) : String := if r.repaired then " (auto-repaired)" else ""

def panelOf (r : Result) (target : String) : Terminal.Panel where
  title := "Generation Complete"
  body :=
    "[green]Generated " ++ r.output.label ++ "[/green]\n\n" ++
      "[cyan]Input format:[/cyan] " ++ r.input.name ++ repairNote r ++ "\n" ++
      "[cyan]Type name:[/cyan] " ++ r.name ++ "\n" ++
      "[cyan]Output:[/cyan] " ++ Terminal.Markup.escape target

def targetOf (s : Settings) : Option String := (s.text? .target).filter (· ≠ "")

/-- The definition that a call asks for. -/
def produce (inv : Invocation) (c : Call) : Except RunError Result := do
  let profile ← profileOf inv c.settings
  let (text, extension) ← readInput inv c.input
  (generate .standard (requestOf profile c.settings text extension)).mapError .generation

/-- Writes a definition to its target, or prints it. -/
def deliver (inv : Invocation) (result : Result) : Option String → Except RunError Outcome
  | some target => do
    let path := Path.ofString target
    (inv.files.checkWritable path).mapError .file
    return {
      stderr := (panelOf result target).text
      written := [(path, result.text ++ "\n")] }
  | none =>
    .ok {
      stdout := Terminal.echo result.text
      stderr := Terminal.printed ("Detected input format: " ++ result.input.name ++ repairNote result) }

def runGenerate (inv : Invocation) (c : Call) : Except RunError Outcome := do
  deliver inv (← produce inv c) (targetOf c.settings)

def runDetect (inv : Invocation) (c : Call) : Except RunError Outcome := do
  let (text, _) ← readInput inv c.input
  return { stdout := Terminal.echo (detectFormat text.toList).name }

def schemaTable (s : Schema) : Terminal.Table where
  title := "Structural Schema"
  head := ["Field", "Types", "Optional", "Union", "Enum", "Pattern"]
  rows := s.rows.map SchemaRow.cells

def runAnalyze (inv : Invocation) (c : Call) : Except RunError Outcome := do
  let (text, extension) ← readInput inv c.input
  let parsed ← (parse (c.settings.input?.or extension) text).mapError fun e =>
    .generation (.parse e)
  let schema ← parsed.schema.mapError .generation
  if c.settings.flag? .json = some true then
    return { stdout := Terminal.echo (Json.pretty .ascii schema.toValue) }
  else return { stdout := (schemaTable schema).text }

def formatTable (r : Registry) : Terminal.Table where
  title := "Output Formats"
  head := ["Format", "Name", "Description"]
  rows := r.formats.map fun f => [f.name, f.label, f.description]

def runInitProfile (inv : Invocation) (c : Call) : Outcome :=
  let name := (c.settings.text? .name).getD "Root"
  let target := (c.settings.text? .target).getD "typegen.yaml"
  let profile : Profile :=
    { name
      description := "Generation profile for " ++ name
      output := c.settings.output?.getD .advancedInterface }
  let path := Path.ofString target
  if (profile.save inv.files path).isSome then
    { stdout :=
        Terminal.printed (Terminal.Markup.plain
          ("[green]Created profile: " ++ Terminal.Markup.escape target ++ "[/green]"))
      written := [(path, profile.text)] }
  else { exitCode := 1 }

def runCall (inv : Invocation) (c : Call) : Outcome :=
  let outcome (r : Except RunError Outcome) : Outcome :=
    match r with
    | .ok o => o
    | .error e => e.outcome
  match c.command with
  | .generate => outcome (runGenerate inv c)
  | .detect => outcome (runDetect inv c)
  | .analyze => outcome (runAnalyze inv c)
  | .listFormats => { stdout := (formatTable .standard).text }
  | .initProfile => runInitProfile inv c

def version : String := "0.1.0"

def run (inv : Invocation) : Outcome :=
  match read inv.files inv.args with
  | .error e => { exitCode := 2, stderr := e.message ++ "\n" }
  | .ok .version => { stdout := "typegen, version " ++ version ++ "\n" }
  | .ok (.help command) =>
    { exitCode := if inv.args.isEmpty then 2 else 0, stdout := usageOf command ++ "\n" }
  | .ok (.call c) => runCall inv c

end TypeDraft.CommandLine
