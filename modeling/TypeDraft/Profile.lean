import TypeDraft.Files
import TypeDraft.Input.Format
import TypeDraft.Output.Format
import TypeDraft.Output.Options
import TypeDraft.Yaml.Load
import TypeDraft.Yaml.Quoted

/-!
# Generation profiles

A profile holds the settings of a run: the name of the type, the formats and the options. It is
kept as a YAML mapping.
-/

namespace TypeDraft

structure Profile where
  name : String := "Root"
  description : String := ""
  output : OutputFormat := .interface
  /-- The input format, if it is not to be detected. -/
  input : Option InputFormat := none
  options : Options := {}
  deriving DecidableEq

/-- The settings of a profile that may be of the wrong sort. -/
inductive ProfileField where
  | name | description | outputFormat | inputFormat
  deriving DecidableEq

def ProfileField.key : ProfileField → String
  | name => "name"
  | description => "description"
  | outputFormat => "output_format"
  | inputFormat => "input_format"

inductive ProfileFault where
  | notAString
  /-- The setting holds bytes that are no text. -/
  | notUtf8
  | notAFormat
  deriving DecidableEq

inductive ProfileError where
  | missing (path : String)
  | file (e : FileError)
  | yaml (e : Yaml.YamlError)
  | notAMapping
  /-- The formats are known by the display of the value that should name them. -/
  | unknownOutput (shown : String)
  | unknownInput (shown : String)
  /-- The value that should name a format holds an integer that has no text. -/
  | tooLongToShow
  | options (e : OptionsError)
  | fields (faults : List (ProfileField × ProfileFault))

namespace Switch

def faultText (f : Switch × BoolFault) : String := f.1.name ++ ": Input should be a valid boolean"

end Switch

def OptionsError.message : OptionsError → String
  | unknown key => "Unknown analysis option '" ++ key ++ "'"
  | notAMapping sort => "'" ++ sort ++ "' object has no attribute 'items'"
  | invalid faults => "\n".intercalate (faults.map Switch.faultText)

def ProfileError.message : ProfileError → String
  | missing path => "Profile file not found: " ++ path
  | file e => e.message
  | yaml e => e.message
  | notAMapping => "Profile must be a YAML mapping"
  | unknownOutput shown =>
    "Unknown output format '" ++ shown ++ "' (expected one of: " ++ OutputFormat.names ++ ")"
  | unknownInput shown =>
    "Unknown input format '" ++ shown ++ "' (expected one of: " ++
      ", ".intercalate (InputFormat.all.map InputFormat.name) ++ ")"
  | tooLongToShow => Numeral.tooLongToShow
  | options e => e.message
  | fields faults => "\n".intercalate (faults.map fun f => f.1.key ++ ": not a valid value")

namespace Profile

def string? : Value → Option String
  | .str s => some s
  | _ => none

/-- A setting that must be a string; bytes are taken for the text that they encode. -/
def stringSetting : Value → Except ProfileFault String
  | .str s => .ok s
  | .bytes bs => (Text.decodeUtf8 bs).mapError fun _ => .notUtf8
  | _ => .error .notAString

/-- The fault of a setting, if it has one. -/
private def faultOf {α : Type} (field : ProfileField) :
    Except ProfileFault α → List (ProfileField × ProfileFault)
  | .ok _ => []
  | .error f => [(field, f)]

/-- The profile with some settings, unless one is of the wrong sort; all that are get named. -/
def ofFields (name description : Except ProfileFault String)
    (output : Except ProfileFault OutputFormat)
    (input : Except ProfileFault (Option InputFormat)) (options : Options) :
    Except ProfileError Profile :=
  match name, description, output, input with
  | .ok name, .ok description, .ok output, .ok input =>
    .ok { name, description, output, input, options }
  | name, description, output, input =>
    .error (.fields (faultOf .name name ++ faultOf .description description ++
      faultOf .outputFormat output ++ faultOf .inputFormat input))

/-- The value under a key of a mapping. -/
def setting? (v : Value) (key : String) : Option Value :=
  match v with
  | .obj fields => fields.lookup key
  | .map entries => entries.lookup (.str key)
  | _ => none

def outputOf (v : Value) (shown : String) : Except ProfileError OutputFormat :=
  match (string? v).bind OutputFormat.ofName? with
  | some f => .ok f
  | none => .error (if v.isShown then .unknownOutput shown else .tooLongToShow)

/-- The input format that a setting names, in any case; null names none. -/
def inputOf (v : Value) (shown : String) : Except ProfileError (Option InputFormat) :=
  match v with
  | .null => .ok none
  | v =>
    if !v.isShown then .error .tooLongToShow
    else
      match InputFormat.ofName? (Text.lower shown) with
      | some f => .ok (some f)
      | none => .error (.unknownInput shown)

/-- The profile in a YAML document. What is not set keeps its default; null sets nothing. -/
def ofReading (r : Yaml.Reading) : Except ProfileError Profile := do
  let v ←
    match r.value with
    | .null => pure (.obj [])
    | .obj _ | .map _ => pure r.value
    | _ => throw .notAMapping
  let get (key : String) (default : Value) : Value := (setting? v key).getD default
  let shown (key : String) (v : Value) : String := (r.loops.lookup (.str key)).getD v.display
  let output := get "output_format" (.str "interface")
  let output ← outputOf output (shown "output_format" output)
  let input := get "input_format" .null
  let input ← inputOf input (shown "input_format" input)
  let options ← (Options.ofValue (get "options" .null)).mapError .options
  ofFields (stringSetting (get "name" (.str "Root")))
    (stringSetting (get "description" (.str ""))) (.ok output) (.ok input) options

/-- The profile that fields from outside make, with formats by their exact names. -/
def ofOuterFields (v : Value) : Except ProfileError Profile := do
  let options ← (Options.ofValue ((setting? v "options").getD .null)).mapError .options
  let output : Except ProfileFault OutputFormat :=
    match setting? v "output_format" with
    | none => .ok .interface
    | some v =>
      match (string? v).bind OutputFormat.ofName? with
      | some f => .ok f
      | none => .error .notAFormat
  let input : Except ProfileFault (Option InputFormat) :=
    match setting? v "input_format" with
    | none | some .null => .ok none
    | some v =>
      match (string? v).bind InputFormat.ofName? with
      | some f => .ok (some f)
      | none => .error .notAFormat
  ofFields (stringSetting ((setting? v "name").getD (.str "Root")))
    (stringSetting ((setting? v "description").getD (.str ""))) output input options

def ofText (s : String) : Except ProfileError Profile := do
  let r ← (Yaml.loadOnly s.toList).mapError .yaml
  ofReading r

def load (fs : Files) (p : Path) : Except ProfileError Profile :=
  match fs.place p with
  | .file bytes =>
    match Text.decodeUtf8 bytes with
    | .error e => .error (.file (.notUtf8 e.fromTail))
    | .ok s => ofText (Text.unifyLineEnds s)
  | .directory => .error (.file (.isADirectory p.text))
  | .overlong => .error (.file (.nameTooLong p.text))
  | _ => .error (.missing p.text)

/-! ## Text -/

def stringLine (key value : String) : String :=
  key ++ ": " ++ Yaml.writeString (key.length + 2) value ++ "\n"

def switchLine (f : String × Bool) : String :=
  "  " ++ f.1 ++ ": " ++ (if f.2 then "true" else "false") ++ "\n"

def text (p : Profile) : String :=
  stringLine "name" p.name ++ stringLine "description" p.description ++
    stringLine "output_format" p.output.name ++
    (match p.input with
    | none => ""
    | some f => stringLine "input_format" f.name) ++
    "options:\n" ++ String.join (p.options.toList.map switchLine)

/-- Writes a profile to a file. -/
def save (p : Profile) (fs : Files) (path : Path) : Option Files :=
  fs.write path p.text.toUTF8.data.toList

end Profile

end TypeDraft
