import TypeDraft.Json.Quoted
import TypeDraft.Value.Display

/-!
# Writing JSON

Two layouts: on one line with a blank after each comma and colon, or indented by two blanks a
level. Values outside the normal tree have no JSON form and are written as their display.
-/

namespace TypeDraft.Json

/-- A floating-point number, with the names that reading accepts for what is not finite. -/
def floatText (x : Double) : String :=
  if x.isNaN then "NaN"
  else if x.isInfinite then if x.isNegative then "-Infinity" else "Infinity"
  else x.text

def atomChars (charset : Charset) : Value → List Char
  | .null => "null".toList
  | .bool b => if b then "true".toList else "false".toList
  | .int n => (toString n).toList
  | .float x => (floatText x).toList
  | .str s => quoteChars charset s.toList
  | v => quoteChars charset v.display.toList

mutual

def encode (charset : Charset) : Value → List Char
  | .arr items => '[' :: encodeItems charset items ++ [']']
  | .obj fields => '\x7b' :: encodeFields charset fields ++ ['\x7d']
  | v => atomChars charset v
termination_by structural v => v

def encodeItems (charset : Charset) : List Value → List Char
  | [] => []
  | [v] => encode charset v
  | v :: vs => encode charset v ++ ',' :: ' ' :: encodeItems charset vs
termination_by structural vs => vs

def encodeFields (charset : Charset) : List (String × Value) → List Char
  | [] => []
  | [(k, v)] => quoteChars charset k.toList ++ ':' :: ' ' :: encode charset v
  | (k, v) :: fs =>
    quoteChars charset k.toList ++ ':' :: ' ' :: encode charset v ++
      ',' :: ' ' :: encodeFields charset fs
termination_by structural fs => fs

end

private def newLine (depth : Nat) : List Char := '\n' :: List.replicate (2 * depth) ' '

mutual

/-- A value over several lines, its first line starting `depth` levels in. -/
def encodeIndented (charset : Charset) : (depth : Nat) → Value → List Char
  | _, .arr [] => ['[', ']']
  | _, .obj [] => ['\x7b', '\x7d']
  | depth, .arr items =>
    '[' :: indentItems charset (depth + 1) items ++ newLine depth ++ [']']
  | depth, .obj fields =>
    '\x7b' :: indentFields charset (depth + 1) fields ++ newLine depth ++ ['\x7d']
  | _, v => atomChars charset v
termination_by structural _ v => v

def indentItems (charset : Charset) : (depth : Nat) → List Value → List Char
  | _, [] => []
  | depth, [v] => newLine depth ++ encodeIndented charset depth v
  | depth, v :: vs =>
    newLine depth ++ encodeIndented charset depth v ++ ',' :: indentItems charset depth vs
termination_by structural _ vs => vs

def indentFields (charset : Charset) : (depth : Nat) → List (String × Value) → List Char
  | _, [] => []
  | depth, [(k, v)] =>
    newLine depth ++ quoteChars charset k.toList ++ ':' :: ' ' :: encodeIndented charset depth v
  | depth, (k, v) :: fs =>
    newLine depth ++ quoteChars charset k.toList ++ ':' :: ' ' :: encodeIndented charset depth v ++
      ',' :: indentFields charset depth fs
termination_by structural _ fs => fs

end

def pretty (charset : Charset) (v : Value) : String := String.ofList (encodeIndented charset 0 v)

end TypeDraft.Json
