import TypeDraft.Text.Similar
import TypeDraft.Value.Display

/-!
# Arguments of a command

Options begin with a dash and may stand anywhere; a double dash ends them. A long option takes its
value from behind an equals sign or from the next argument, a short one from the rest of its own
argument or the next. Short options without values may be run together.
-/

namespace TypeDraft.CommandLine

/-- What an option is followed by. -/
inductive Arity where
  | value
  /-- Nothing; the option sets its key to this. -/
  | flag (b : Bool)
  deriving DecidableEq

/-- The names of an option, the key that it sets, and what it is followed by. -/
structure OptionSpec (κ : Type) where
  long : String
  short : Option Char := none
  key : κ
  arity : Arity

inductive Setting where
  | text (s : String)
  | flag (b : Bool)
  deriving DecidableEq

/-- Why a command line cannot be followed. -/
inductive UsageFault where
  | noSuchOption (name : String) (similar : List String)
  | needsValue (name : String)
  | takesNoValue (name : String)
  /-- A value is not admitted; the place that it was given at is named as in the help. -/
  | invalid (place reason : String)
  | missingArgument (name : String)
  | extraArguments (args : List String)
  | missingCommand
  | noSuchCommand (name : String)
  deriving DecidableEq

def UsageFault.message : UsageFault → String
  | noSuchOption name similar =>
    "No such option: " ++ name ++
      match similar with
      | [] => ""
      | [other] => " Did you mean " ++ other ++ "?"
      | others => " (Possible options: " ++ ", ".intercalate (others.mergeSort (· ≤ ·)) ++ ")"
  | needsValue name => "Option " ++ Text.displayString name ++ " requires an argument."
  | takesNoValue name => "Option " ++ Text.displayString name ++ " does not take a value."
  | invalid place reason => "Invalid value for " ++ place ++ ": " ++ reason
  | missingArgument name => "Missing argument '" ++ name ++ "'."
  | extraArguments [arg] => "Got unexpected extra argument (" ++ arg ++ ")"
  | extraArguments args => "Got unexpected extra arguments (" ++ " ".intercalate args ++ ")"
  | missingCommand => "Missing command."
  | noSuchCommand name => "No such command " ++ Text.displayString name ++ "."

/-- A command line taken apart: settings in order, and the arguments that are no options. -/
structure Scanned (κ : Type) where
  settings : List (κ × Setting) := []
  positional : List String := []

namespace Scanned

variable {κ : Type}

def withSettings (given : List (κ × Setting)) (s : Scanned κ) : Scanned κ :=
  { s with settings := given ++ s.settings }

def withArgument (arg : String) (s : Scanned κ) : Scanned κ :=
  { s with positional := arg :: s.positional }

end Scanned

/-- A run of short options: what they set, and the one at its end that still wants a value. -/
private def scanShort {κ : Type} (specs : List (OptionSpec κ)) :
    List Char → Except UsageFault (List (κ × Setting) × Option (String × κ))
  | [] => .ok ([], none)
  | c :: cs =>
    match specs.find? (·.short = some c) with
    | none => .error (.noSuchOption (String.ofList ['-', c]) [])
    | some spec =>
      match spec.arity with
      | .flag b => (scanShort specs cs).map fun r => ((spec.key, .flag b) :: r.1, r.2)
      | .value =>
        if cs.isEmpty then .ok ([], some (String.ofList ['-', c], spec.key))
        else .ok ([(spec.key, .text (String.ofList cs))], none)

/-- What one argument that begins with a dash sets, and the option that still wants a value. -/
private def scanOption {κ : Type} (specs : List (OptionSpec κ)) (arg : String) :
    Except UsageFault (List (κ × Setting) × Option (String × κ)) :=
  let cs := arg.toList
  let name := String.ofList (cs.takeWhile (· != '='))
  let value : Option String :=
    match cs.dropWhile (· != '=') with
    | _ :: rest => some (String.ofList rest)
    | [] => none
  match specs.find? (·.long = name) with
  | some spec =>
    match spec.arity, value with
    | .value, some v => .ok ([(spec.key, .text v)], none)
    | .value, none => .ok ([], some (name, spec.key))
    | .flag b, none => .ok ([(spec.key, .flag b)], none)
    | .flag _, some _ => .error (.takesNoValue name)
  | none =>
    if "--".toList.isPrefixOf cs then
      .error (.noSuchOption name (Text.similar name (specs.map (·.long))))
    else scanShort specs cs.tail

private def looksLikeOption (arg : String) : Bool :=
  match arg.toList with
  | '-' :: _ :: _ => true
  | _ => false

/-- Takes a command line apart. Unless options may stand anywhere, the first other argument is left
with all that follows it. -/
def scan {κ : Type} (specs : List (OptionSpec κ)) (anywhere : Bool) :
    List String → Except UsageFault (Scanned κ)
  | [] => .ok {}
  | arg :: args =>
    if arg = "--" then .ok { positional := args }
    else if looksLikeOption arg then
      match scanOption specs arg with
      | .error e => .error e
      | .ok (given, none) => (scan specs anywhere args).map (Scanned.withSettings given)
      | .ok (given, some (name, key)) =>
        match args with
        | [] => .error (.needsValue name)
        | value :: args =>
          (scan specs anywhere args).map (Scanned.withSettings (given ++ [(key, .text value)]))
    else if anywhere then (scan specs anywhere args).map (Scanned.withArgument arg)
    else .ok { positional := arg :: args }

end TypeDraft.CommandLine
