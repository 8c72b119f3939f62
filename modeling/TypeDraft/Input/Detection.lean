import TypeDraft.Input.Format
import TypeDraft.Json.Repair

/-!
# Recognising a format

The first heuristic that fires decides; JSON is what remains. All of them look at the trimmed text
only through its lines, a few substrings and two short patterns.
-/

namespace TypeDraft

open Text Json

def isBraced (line : List Char) : Bool :=
  line.head? == some '\x7b' && line.getLast? == some '\x7d'

def startsWithKey (cs : List Char) : Bool :=
  match cs with
  | c :: rest => isBareStart c && (rest.dropWhile isBarePart).head? == some ':'
  | [] => false

def startsWithTrailingComma (cs : List Char) : Bool := (dropTrailingComma cs).isSome

def startsWithBareKey (cs : List Char) : Bool :=
  match cs with
  | c :: rest =>
    (c == '\x7b' || c == '[' || c == ',') &&
      match afterBlanks rest with
      | d :: ds =>
        isBareStart d && (afterBlanks (ds.dropWhile isBarePart)).head? == some ':'
      | [] => false
  | [] => false

def anywhere (test : List Char → Bool) : List Char → Bool
  | [] => test []
  | c :: cs => test (c :: cs) || anywhere test cs

/-- Every line that is not blank is an object of its own. -/
def looksLikeJsonLines (cs : List Char) (filled : List (List Char)) : Bool :=
  cs.contains '\n' && filled.all fun line => isBraced (trim line)

/-- The first two lines have about the same number of commas, and the first has some. -/
def looksLikeCsv (cs : List Char) (filled : List (List Char)) : Bool :=
  cs.contains ',' && cs.contains '\n' &&
    match filled with
    | first :: second :: _ =>
      let m := first.count ','
      let n := second.count ','
      0 < m && m ≤ n + 1 && n ≤ m + 1
    | _ => false

/-- There is a colon, and a list item, an indented line, a leading key or a document mark. -/
def looksLikeYaml (cs : List Char) : Bool :=
  cs.contains ':' &&
    (occurs "\n- ".toList cs || occurs "\n  ".toList cs || startsWithKey cs ||
      occurs "---".toList cs)

/-- There is a comment mark, a trailing comma or a bare key. -/
def looksLikeJson5 (cs : List Char) : Bool :=
  occurs "//".toList cs || occurs "/*".toList cs || anywhere startsWithTrailingComma cs ||
    anywhere startsWithBareKey cs

/-- The format that a text seems to be in. -/
def detectFormat (cs : List Char) : InputFormat :=
  let cs := trim cs
  let filled := (lines cs).filter fun line => !(trim line).isEmpty
  if looksLikeJsonLines cs filled then .jsonLines
  else if looksLikeCsv cs filled then .csv
  else if looksLikeYaml cs then .yaml
  else if looksLikeJson5 cs then .json5
  else .json

end TypeDraft
