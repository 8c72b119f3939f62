import TypeDraft.Json.Decode
import TypeDraft.Json5.Identifier

/-!
# Reading JSON5

JSON with comments, single-quoted strings, unquoted keys, trailing commas, signs, hexadecimal
integers and numbers that begin or end with their point. Why a text is refused is not recorded.
-/

namespace TypeDraft.Json5

open Json (codeUnit?)
open Numeral (digitsValue hexValue? splitExponent splitSign valueOf)

def nestingLimit : Nat := 90

/-! ## White space and comments -/

def isLineEnd (c : Char) : Bool := c == '\n' || c == '\r' || c == '\u2028' || c == '\u2029'

def isSpace (c : Char) : Bool :=
  isLineEnd c || c == '\t' || c == '\x0b' || c == '\x0c' || c == '\ufeff' ||
    Text.inRanges spaceRanges c.toNat

/-- What the skipping of white space is in the middle of. -/
inductive Skipping where
  | space | lineComment | blockComment

/-- Skips white space and comments. A block comment that is never closed leaves its slash. -/
def skipFrom : Skipping → List Char → List Char
  | .blockComment, [] => ['/']
  | _, [] => []
  | .space, '/' :: '/' :: cs => skipFrom .lineComment cs
  | .space, '/' :: '*' :: cs => skipFrom .blockComment cs
  | .space, c :: cs => if isSpace c then skipFrom .space cs else c :: cs
  | .lineComment, c :: cs => skipFrom (if isLineEnd c then .space else .lineComment) cs
  | .blockComment, '*' :: '/' :: cs => skipFrom .space cs
  | .blockComment, _ :: cs => skipFrom .blockComment cs

def skipSpace (cs : List Char) : List Char := skipFrom .space cs

/-! ## Strings and keys -/

/-- The character that a backslash before `c` stands for, where it stands for a fixed one. -/
def simpleEscape (c : Char) : Char :=
  match c with
  | 'b' => '\x08'
  | 'f' => '\x0c'
  | 'n' => '\n'
  | 'r' => '\r'
  | 't' => '\t'
  | 'v' => '\x0b'
  | c => c

def readString (quote : Char) (out : List Char) : List Char → Option (String × List Char)
  | [] => none
  | '\\' :: '\r' :: '\n' :: cs => readString quote out cs
  | '\\' :: 'u' :: a :: b :: c :: d :: cs =>
    match codeUnit? a b c d with
    | some n => readString quote (Text.pushCodeUnit n out) cs
    | none => none
  | '\\' :: 'x' :: a :: b :: cs =>
    match hexValue? a, hexValue? b with
    | some a, some b => readString quote (Char.ofNat (a * 16 + b) :: out) cs
    | _, _ => none
  | '\\' :: '0' :: cs =>
    match cs.head? with
    | some c => if c.isDigit then none else readString quote ('\x00' :: out) cs
    | none => none
  | '\\' :: c :: cs =>
    if isLineEnd c then readString quote out cs
    else if c.isDigit || c == 'x' || c == 'u' then none
    else readString quote (simpleEscape c :: out) cs
  | c :: cs =>
    if c == quote then some (String.ofList out.reverse, cs)
    else if c == '\\' || isLineEnd c then none
    else readString quote (c :: out) cs

def readIdentifier (out : List Char) : List Char → Option (String × List Char)
  | '\\' :: 'u' :: a :: b :: c :: d :: cs =>
    match codeUnit? a b c d with
    | some n => readIdentifier (Text.pushCodeUnit n out) cs
    | none => none
  | c :: cs =>
    if (if out.isEmpty then isIdentifierStart c else isIdentifierPart c) then
      readIdentifier (c :: out) cs
    else if out.isEmpty then none
    else some (String.ofList out.reverse, c :: cs)
  | [] => if out.isEmpty then none else some (String.ofList out.reverse, [])

def readKey (cs : List Char) : Option (String × List Char) :=
  match cs with
  | '"' :: r => readString '"' [] r
  | '\'' :: r => readString '\'' [] r
  | cs => readIdentifier [] cs

/-! ## Numbers -/

/-- An exponent needs a digit; without the letter there is none. -/
def readExponent (cs : List Char) : Option (Option Int × List Char) :=
  match cs with
  | 'e' :: _ | 'E' :: _ =>
    match splitExponent cs with
    | (some e, r) => some (some e, r)
    | (none, _) => none
  | cs => some (none, cs)

/-- A decimal number: it has digits before or after its point, or both, and no digit follows a
leading zero. -/
def readDecimal (negative : Bool) (cs : List Char) : Option (Value × List Char) :=
  let (whole, afterWhole) := Json.splitWhole cs
  let (point, fraction, rest) :=
    match afterWhole with
    | '.' :: r => (true, r.takeWhile Char.isDigit, r.dropWhile Char.isDigit)
    | r => (false, [], r)
  if (whole ++ fraction).isEmpty || afterWhole.head?.any Char.isDigit then none
  else
    match readExponent rest with
    | none => none
    | some (exponent, rest) =>
      if !point && exponent.isNone then
        if Numeral.maxDigits < whole.length then none
        else
          let n : Int := digitsValue whole
          some (.int (if negative then -n else n), rest)
      else
        some (.float (Double.ofDecimal negative (digitsValue (whole ++ fraction))
          (exponent.getD 0 - fraction.length)), rest)

def readNumber (cs : List Char) : Option (Value × List Char) :=
  let (negative, cs) := splitSign cs
  match cs with
  | '0' :: 'x' :: r | '0' :: 'X' :: r =>
    match r.takeWhile fun c => (hexValue? c).isSome with
    | [] => none
    | ds =>
      let n : Int := valueOf 16 ds
      some (.int (if negative then -n else n), r.dropWhile fun c => (hexValue? c).isSome)
  | 'I' :: 'n' :: 'f' :: 'i' :: 'n' :: 'i' :: 't' :: 'y' :: r =>
    some (.float (.infinity negative), r)
  | 'N' :: 'a' :: 'N' :: r => some (.float .nan, r)
  | cs => readDecimal negative cs

/-! ## Values -/

mutual

def readValue : (fuel depth : Nat) → List Char → Option (Value × List Char)
  | 0, _, _ => none
  | fuel + 1, depth, cs =>
    match cs with
    | 'n' :: 'u' :: 'l' :: 'l' :: r => some (.null, r)
    | 't' :: 'r' :: 'u' :: 'e' :: r => some (.bool true, r)
    | 'f' :: 'a' :: 'l' :: 's' :: 'e' :: r => some (.bool false, r)
    | '"' :: r => (readString '"' [] r).map fun (s, r) => (.str s, r)
    | '\'' :: r => (readString '\'' [] r).map fun (s, r) => (.str s, r)
    | '\x7b' :: r =>
      match depth with
      | 0 => none
      | depth + 1 =>
        match skipSpace r with
        | '\x7d' :: r => some (.obj [], r)
        | r => readFields fuel depth [] r
    | '[' :: r =>
      match depth with
      | 0 => none
      | depth + 1 =>
        match skipSpace r with
        | ']' :: r => some (.arr [], r)
        | r => readItems fuel depth [] r
    | cs => readNumber cs
termination_by structural fuel => fuel

def readItems : (fuel depth : Nat) → (items : List Value) → List Char →
    Option (Value × List Char)
  | 0, _, _, _ => none
  | fuel + 1, depth, items, cs =>
    match readValue fuel depth cs with
    | none => none
    | some (v, r) =>
      let items := v :: items
      match skipSpace r with
      | ']' :: r => some (.arr items.reverse, r)
      | ',' :: r =>
        match skipSpace r with
        | ']' :: r => some (.arr items.reverse, r)
        | r => readItems fuel depth items r
      | _ => none
termination_by structural fuel => fuel

def readFields : (fuel depth : Nat) → (fields : List (String × Value)) → List Char →
    Option (Value × List Char)
  | 0, _, _, _ => none
  | fuel + 1, depth, fields, cs =>
    match readKey cs with
    | none => none
    | some (k, r) =>
      match skipSpace r with
      | ':' :: r =>
        match readValue fuel depth (skipSpace r) with
        | none => none
        | some (v, r) =>
          let fields := (k, v) :: fields
          match skipSpace r with
          | '\x7d' :: r => some (.obj (collectFields fields.reverse), r)
          | ',' :: r =>
            match skipSpace r with
            | '\x7d' :: r => some (.obj (collectFields fields.reverse), r)
            | r => readFields fuel depth fields r
          | _ => none
      | _ => none
termination_by structural fuel => fuel

end

def decode (cs : List Char) : Option Value :=
  match readValue (cs.length + 1) nestingLimit (skipSpace cs) with
  | some (v, r) => if (skipSpace r).isEmpty then some v else none
  | none => none

end TypeDraft.Json5
