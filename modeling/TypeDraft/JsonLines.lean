import TypeDraft.Json.Decode

/-!
# JSON Lines

Each line that is not blank holds one JSON value. Lines are counted in the trimmed text, blank ones
included.
-/

namespace TypeDraft.JsonLines

open Json (DecodeError)

/-- The failure of one line. -/
structure LineError where
  line : Nat
  cause : DecodeError

/-- Whether the failure is raised with the number of its line; an integer of too many digits is
not. -/
def LineError.isNumbered (e : LineError) : Bool :=
  match e.cause with
  | .integerTooLong _ => false
  | .malformed .. | .tooDeep _ => true

def LineError.message (e : LineError) : String :=
  if e.isNumbered then "line " ++ toString e.line ++ ": " ++ e.cause.message else e.cause.message

/-- The values of the lines from number `line` on, up to the first failure. -/
def decodeLines (line : Nat) : List (List Char) → Except LineError (List Value)
  | [] => .ok []
  | cs :: rest =>
    match Text.trim cs with
    | [] => decodeLines (line + 1) rest
    | c :: cs =>
      match Json.decode (c :: cs) with
      | .error e => .error ⟨line, e⟩
      | .ok v => (decodeLines (line + 1) rest).map (v :: ·)

def decode (cs : List Char) : Except LineError (List Value) :=
  decodeLines 1 (Text.lines (Text.trim cs))

end TypeDraft.JsonLines
