import TypeDraft.Text.Case

/-!
# Names made from field names

Type names, enum members and property keys of generated code, each from an arbitrary text. All
tests are on ASCII; only raising to upper case looks further.
-/

namespace TypeDraft.Name

def isLetter (c : Char) : Bool := c.isAlpha || c == '_'

def isLetterOrDigit (c : Char) : Bool := c.isAlphanum || c == '_'

/-- A head that satisfies one test, then only characters that satisfy another. -/
def headThenAll (first later : Char → Bool) : List Char → Bool
  | [] => false
  | c :: cs => first c && cs.all later

/-- Whether a text may name a type: a letter or an underscore, then letters, digits and
underscores. A line feed at the end is let pass. -/
def isTypeName (s : String) : Bool :=
  headThenAll isLetter isLetterOrDigit (Text.withoutFinalBreak s.toList)

/-- Raises the first character to upper case and leaves the others. -/
def capitalizeFirst (cs : List Char) : List Char :=
  match cs with
  | [] => []
  | c :: cs => Text.upperChar c ++ cs

/-- The maximal runs of letters and digits, in order. `word` is the run being read, last character
first. -/
def wordsFrom (word : List Char) : List Char → List (List Char)
  | [] => if word.isEmpty then [] else [word.reverse]
  | c :: cs =>
    if c.isAlphanum then wordsFrom (c :: word) cs
    else if word.isEmpty then wordsFrom [] cs
    else word.reverse :: wordsFrom [] cs

def words (cs : List Char) : List (List Char) := wordsFrom [] cs

/-- The words of a text, each with a capital, as one name. A digit at the head is set off by an
underscore, and a text without words is a `Type`. -/
def pascalCase (s : String) : String :=
  match (words s.toList).flatMap capitalizeFirst with
  | [] => "Type"
  | c :: cs => String.ofList (if c.isAlpha then c :: cs else '_' :: c :: cs)

def endsInAny (low : List Char) (endings : List String) : Bool :=
  endings.any fun e => e.toList.isSuffixOf low

/-- A guess at the singular of an English plural, by its last letters alone. -/
def singularize (s : String) : String :=
  let cs := s.toList
  let low := cs.map Char.toLower
  let cut (n : Nat) : List Char := cs.take (cs.length - n)
  if cs.length ≤ 3 ∨ endsInAny low ["ss", "us", "is"] then s
  else if endsInAny low ["ies"] then
    let capital := (cs.drop (cs.length - 3)).head?.any Char.isUpper
    String.ofList (cut 3 ++ [if capital then 'Y' else 'y'])
  else if endsInAny low ["ches", "shes", "xes", "zes", "sses"] then String.ofList (cut 2)
  else if endsInAny low ["s"] then String.ofList (cut 1)
  else s

/-- Replaces every run of characters outside a class by one underscore; `inRun` tells whether the
character before was outside it. -/
def collapse (keep : Char → Bool) (inRun : Bool) : List Char → List Char
  | [] => []
  | c :: cs =>
    if keep c then c :: collapse keep false cs
    else if inRun then collapse keep true cs
    else '_' :: collapse keep true cs

/-- The name of an enum member: upper case, other characters collapsed, no digit at the head. -/
def enumMember (s : String) : String :=
  let key := collapse (fun c => c.isUpper || c.isDigit) false (s.toList.flatMap Text.upperChar)
  match key with
  | [] => "EMPTY"
  | c :: _ => String.ofList (if c.isDigit then '_' :: key else key)

/-- Whether a text can stand as a property key without quotes. -/
def isPropertyName (s : String) : Bool :=
  headThenAll (fun c => isLetter c || c == '$') (fun c => isLetterOrDigit c || c == '$')
    (Text.withoutFinalBreak s.toList)

def escapeQuoted (c : Char) : List Char :=
  if c == '\\' || c == '"' then ['\\', c] else [c]

def quoteProperty (s : String) : String :=
  if isPropertyName s then s
  else String.ofList ('"' :: s.toList.flatMap escapeQuoted ++ ['"'])

end TypeDraft.Name
