import TypeDraft.Text.Blank

/-!
# Repairing JSON-like text

Seven rules run over the text one after another, each on what the one before it left:
trailing commas go, single quotes and bare keys become double quotes, and strings or objects on
neighbouring lines get the comma between them. The rules know nothing of nesting or of string
contents.
-/

namespace TypeDraft.Json

/-- A rule looks at the head of a text. Where it applies it gives what is written instead and how
many characters that replaces. -/
abbrev RepairRule := List Char → Option (List Char × Nat)

/-- Replaces from left to right, `skip` characters having been replaced already. `out` holds what
has been written, last character first. -/
def replaceFrom (rule : RepairRule) (out : List Char) : (skip : Nat) → List Char → List Char
  | _, [] => out.reverse
  | skip + 1, _ :: cs => replaceFrom rule out skip cs
  | 0, c :: cs =>
    match rule (c :: cs) with
    | some (written, size) => replaceFrom rule (written.reverse ++ out) (size - 1) cs
    | none => replaceFrom rule (c :: out) 0 cs

/-- Applies a rule at every place where it fits, going on after each replacement. -/
def replaceAll (rule : RepairRule) (cs : List Char) : List Char := replaceFrom rule [] 0 cs

def blanks (cs : List Char) : List Char := cs.takeWhile Text.isBlank

def afterBlanks (cs : List Char) : List Char := cs.dropWhile Text.isBlank

def quoted? : List Char → Option (List Char × List Char)
  | '\'' :: cs =>
    match cs.dropWhile (· ≠ '\'') with
    | _ :: rest => some (cs.takeWhile (· ≠ '\''), rest)
    | [] => none
  | _ => none

def isBareStart (c : Char) : Bool := c.isAlpha || c == '_'

def isBarePart (c : Char) : Bool := c.isAlphanum || c == '_'

/-- A comma before a closing bracket goes. -/
def dropTrailingComma : RepairRule
  | ',' :: cs =>
    match afterBlanks cs with
    | c :: _ =>
      if c == '\x7d' || c == ']' then some (blanks cs ++ [c], (blanks cs).length + 2) else none
    | [] => none
  | _ => none

/-- A single-quoted key takes double quotes. -/
def requoteKey : RepairRule := fun cs =>
  match quoted? cs with
  | some (inside, ':' :: _) => some ('"' :: inside ++ ['"', ':'], inside.length + 3)
  | _ => none

/-- A single-quoted text after a colon takes double quotes, one blank standing before it. -/
def requoteValue : RepairRule
  | ':' :: cs =>
    match quoted? (afterBlanks cs) with
    | some (inside, _) =>
      some (':' :: ' ' :: '"' :: inside ++ ['"'], (blanks cs).length + inside.length + 3)
    | none => none
  | _ => none

/-- A single-quoted text after an opening bracket or a comma takes double quotes. -/
def requoteElement : RepairRule
  | c :: cs =>
    if c == '[' || c == ',' then
      match quoted? (afterBlanks cs) with
      | some (inside, _) =>
        some (c :: blanks cs ++ '"' :: inside ++ ['"'], (blanks cs).length + inside.length + 3)
      | none => none
    else none
  | [] => none

/-- A bare word before a colon takes double quotes. -/
def quoteBareKey : RepairRule
  | c :: cs =>
    if c == '\x7b' || c == ',' then
      match afterBlanks cs with
      | d :: ds =>
        let word := d :: ds.takeWhile isBarePart
        let rest := ds.dropWhile isBarePart
        match isBareStart d, afterBlanks rest with
        | true, ':' :: _ =>
          some (c :: blanks cs ++ '"' :: word ++ ['"', ':'],
            (blanks cs).length + word.length + (blanks rest).length + 2)
        | _, _ => none
      | [] => none
    else none
  | [] => none

/-- Two marks with only blanks and at least one line end between them get a comma. -/
def separate (left right : Char) : RepairRule
  | c :: cs =>
    if c == left && (blanks cs).contains '\n' then
      match afterBlanks cs with
      | d :: _ =>
        if d == right then some ([left, ',', '\n', right], (blanks cs).length + 2) else none
      | [] => none
    else none
  | [] => none

/-- The rules in the order in which they run. -/
def repairRules : List RepairRule :=
  [dropTrailingComma, requoteKey, requoteValue, requoteElement, quoteBareKey,
    separate '"' '"', separate '\x7d' '\x7b']

/-- The trimmed text after all rules; it need not be valid JSON. -/
def repair (cs : List Char) : List Char :=
  repairRules.foldl (fun text rule => replaceAll rule text) (Text.trim cs)

end TypeDraft.Json
