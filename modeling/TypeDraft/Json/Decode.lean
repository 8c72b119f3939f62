import TypeDraft.Number.Numeral
import TypeDraft.Value.Normal

/-!
# Reading JSON

A strict reader that also knows the number names `NaN`, `Infinity` and `-Infinity`. A failure has a
cause and a place; integers of very many digits and very deep nesting are refused as such.
-/

namespace TypeDraft.Json

open Numeral (digitsValue hexValue? splitExponent)

/-- Why a text is not JSON. -/
inductive Cause where
  | byteOrderMark
  | expectingValue
  | expectingName
  | expectingColon
  | expectingComma
  | extraData
  | controlCharacter
  | invalidEscape
  | invalidUnicodeEscape
  | unterminatedString
  deriving DecidableEq

def Cause.message : Cause → String
  | byteOrderMark => "Unexpected UTF-8 BOM (decode using utf-8-sig)"
  | expectingValue => "Expecting value"
  | expectingName => "Expecting property name enclosed in double quotes"
  | expectingColon => "Expecting ':' delimiter"
  | expectingComma => "Expecting ',' delimiter"
  | extraData => "Extra data"
  | controlCharacter => "Invalid control character at"
  | invalidEscape => "Invalid \\escape"
  | invalidUnicodeEscape => "Invalid \\uXXXX escape"
  | unterminatedString => "Unterminated string starting at"

/-- A place in a text: the line and the column count from one, the offset from zero. -/
structure Place where
  line : Nat
  column : Nat
  offset : Nat
  deriving DecidableEq

/-- The place that the characters `before` lead up to. -/
def Place.after (before : List Char) : Place where
  line := before.count '\n' + 1
  column := (before.reverse.takeWhile (· ≠ '\n')).length + 1
  offset := before.length

/-- What may hold other values. -/
inductive Container where
  | array | object
  deriving DecidableEq

def Container.name : Container → String
  | array => "array"
  | object => "object"

inductive DecodeError where
  | malformed (cause : Cause) (place : Place)
  | integerTooLong (digits : Nat)
  /-- One array or object more is opened than may be. -/
  | tooDeep (opened : Container)
  deriving DecidableEq

/-- Texts that nest arrays and objects deeper than this are refused: one step is open for each. -/
def nestingLimit : Nat := openSteps

def DecodeError.message : DecodeError → String
  | malformed cause place =>
    cause.message ++ ": line " ++ toString place.line ++ " column " ++ toString place.column ++
      " (char " ++ toString place.offset ++ ")"
  | integerTooLong digits => Numeral.tooLongMessage digits
  | tooDeep opened =>
    tooDeepMessage ++ " while decoding a JSON " ++ opened.name ++ " from a unicode string"

/-- A failure while reading; a malformed text is known by how many characters are left. -/
inductive Fault where
  | malformed (cause : Cause) (left : Nat)
  | integerTooLong (digits : Nat)
  | tooDeep (opened : Container)

private def failAt {α : Type} (cause : Cause) (rest : List Char) : Except Fault α :=
  .error (.malformed cause rest.length)

/-- The white space between tokens. -/
def isSpace (c : Char) : Bool := c == ' ' || c == '\t' || c == '\n' || c == '\r'

def skipSpace (cs : List Char) : List Char := cs.dropWhile isSpace

/-! ## Strings -/

def codeUnit? (a b c d : Char) : Option Nat :=
  match hexValue? a, hexValue? b, hexValue? c, hexValue? d with
  | some a, some b, some c, some d => some (((a * 16 + b) * 16 + c) * 16 + d)
  | _, _, _, _ => none

/-- The character that a backslash before `c` stands for. -/
def simpleEscape? : Char → Option Char
  | '"' => some '"'
  | '\\' => some '\\'
  | '/' => some '/'
  | 'b' => some '\x08'
  | 'f' => some '\x0c'
  | 'n' => some '\n'
  | 'r' => some '\r'
  | 't' => some '\t'
  | _ => none

/-- Reads to the closing quote. `opened` is the text from the opening quote on, `out` what has been
read, last character first. A character must follow every escaped code unit. -/
def readString (opened out : List Char) : List Char → Except Fault (String × List Char)
  | [] => failAt .unterminatedString opened
  | '"' :: cs => .ok (String.ofList out.reverse, cs)
  | ['\\'] => failAt .unterminatedString opened
  | '\\' :: 'u' :: a :: b :: c :: d :: cs =>
    match codeUnit? a b c d with
    | none => failAt .invalidUnicodeEscape ('u' :: a :: b :: c :: d :: cs)
    | some n =>
      if cs.isEmpty then failAt .invalidUnicodeEscape ('u' :: a :: b :: c :: d :: cs)
      else readString opened (Text.pushCodeUnit n out) cs
  | '\\' :: 'u' :: cs => failAt .invalidUnicodeEscape ('u' :: cs)
  | '\\' :: c :: cs =>
    match simpleEscape? c with
    | some d => readString opened (d :: out) cs
    | none => failAt .invalidEscape ('\\' :: c :: cs)
  | c :: cs =>
    if c.toNat < 0x20 then failAt .controlCharacter (c :: cs)
    else readString opened (c :: out) cs

/-! ## Numbers -/

/-- Splits off a fractional part, a point before at least one digit. -/
def splitFraction (cs : List Char) : List Char × List Char :=
  match cs with
  | '.' :: r =>
    match r.takeWhile Char.isDigit with
    | [] => ([], cs)
    | ds => (ds, r.dropWhile Char.isDigit)
  | _ => ([], cs)

/-- The digits before a fractional part; a leading zero stands alone. -/
def splitWhole (cs : List Char) : List Char × List Char :=
  match cs with
  | '0' :: r => (['0'], r)
  | _ => (cs.takeWhile Char.isDigit, cs.dropWhile Char.isDigit)

/-- Reads a number: an integer, or a float when there is a fractional part or an exponent. -/
def readNumber (cs : List Char) : Except Fault (Value × List Char) :=
  let (negative, body) :=
    match cs with
    | '-' :: r => (true, r)
    | _ => (false, cs)
  match splitWhole body with
  | ([], _) => failAt .expectingValue cs
  | (whole, rest) =>
    let (fraction, rest) := splitFraction rest
    let (exponent, rest) := splitExponent rest
    match fraction, exponent with
    | [], none =>
      if Numeral.maxDigits < whole.length then .error (.integerTooLong whole.length)
      else
        let n : Int := digitsValue whole
        .ok (.int (if negative then -n else n), rest)
    | _, _ =>
      .ok (.float (Double.ofDecimal negative (digitsValue (whole ++ fraction))
        (exponent.getD 0 - fraction.length)), rest)

/-! ## Values -/

mutual

/-- Reads the value at the head of the text; `depth` more arrays and objects may be opened. -/
def readValue : (fuel depth : Nat) → List Char → Except Fault (Value × List Char)
  | 0, _, cs => failAt .expectingValue cs
  | fuel + 1, depth, cs =>
    match cs with
    | '"' :: r =>
      match readString cs [] r with
      | .ok (s, r) => .ok (.str s, r)
      | .error e => .error e
    | '\x7b' :: r =>
      match depth with
      | 0 => .error (.tooDeep .object)
      | depth + 1 =>
        match skipSpace r with
        | '\x7d' :: r => .ok (.obj [], r)
        | r => readFields fuel depth [] r
    | '[' :: r =>
      match depth with
      | 0 => .error (.tooDeep .array)
      | depth + 1 =>
        match skipSpace r with
        | ']' :: r => .ok (.arr [], r)
        | r => readItems fuel depth [] r
    | 'n' :: 'u' :: 'l' :: 'l' :: r => .ok (.null, r)
    | 't' :: 'r' :: 'u' :: 'e' :: r => .ok (.bool true, r)
    | 'f' :: 'a' :: 'l' :: 's' :: 'e' :: r => .ok (.bool false, r)
    | 'N' :: 'a' :: 'N' :: r => .ok (.float .nan, r)
    | 'I' :: 'n' :: 'f' :: 'i' :: 'n' :: 'i' :: 't' :: 'y' :: r =>
      .ok (.float (.infinity false), r)
    | '-' :: 'I' :: 'n' :: 'f' :: 'i' :: 'n' :: 'i' :: 't' :: 'y' :: r =>
      .ok (.float (.infinity true), r)
    | cs => readNumber cs
termination_by structural fuel => fuel

/-- Reads the items of an array from the next one on, `items` being those read, last one first. -/
def readItems : (fuel depth : Nat) → (items : List Value) → List Char →
    Except Fault (Value × List Char)
  | 0, _, _, cs => failAt .expectingValue cs
  | fuel + 1, depth, items, cs =>
    match readValue fuel depth cs with
    | .error e => .error e
    | .ok (v, r) =>
      match skipSpace r with
      | ']' :: r => .ok (.arr (v :: items).reverse, r)
      | ',' :: r => readItems fuel depth (v :: items) (skipSpace r)
      | r => failAt .expectingComma r
termination_by structural fuel => fuel

/-- Reads the fields of an object from the next one on. -/
def readFields : (fuel depth : Nat) → (fields : List (String × Value)) → List Char →
    Except Fault (Value × List Char)
  | 0, _, _, cs => failAt .expectingValue cs
  | fuel + 1, depth, fields, cs =>
    match cs with
    | '"' :: r =>
      match readString cs [] r with
      | .error e => .error e
      | .ok (k, r) =>
        match skipSpace r with
        | ':' :: r =>
          match readValue fuel depth (skipSpace r) with
          | .error e => .error e
          | .ok (v, r) =>
            match skipSpace r with
            | '\x7d' :: r => .ok (.obj (collectFields ((k, v) :: fields).reverse), r)
            | ',' :: r => readFields fuel depth ((k, v) :: fields) (skipSpace r)
            | r => failAt .expectingComma r
        | r => failAt .expectingColon r
    | cs => failAt .expectingName cs
termination_by structural fuel => fuel

end

/-- Reads a whole text, white space around the value being skipped. -/
def readDocument (cs : List Char) : Except Fault Value :=
  match cs with
  | '\ufeff' :: _ => failAt .byteOrderMark cs
  | _ =>
    match readValue (cs.length + 1) nestingLimit (skipSpace cs) with
    | .error e => .error e
    | .ok (v, r) =>
      match skipSpace r with
      | [] => .ok v
      | r => failAt .extraData r

/-- The failure of a whole text, with its place. -/
def Fault.locate (cs : List Char) : Fault → DecodeError
  | malformed cause left => .malformed cause (Place.after (cs.take (cs.length - left)))
  | integerTooLong digits => .integerTooLong digits
  | tooDeep opened => .tooDeep opened

def decode (cs : List Char) : Except DecodeError Value :=
  (readDocument cs).mapError (Fault.locate cs)

end TypeDraft.Json
