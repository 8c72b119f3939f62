import TypeDraft.Calendar
import TypeDraft.Number.Numeral
import TypeDraft.Text.Case
import TypeDraft.Yaml.Cursor

/-!
# Types of plain scalars

A scalar without quotes and without a tag is a null, a boolean, a number, a moment or a mark for
merging when it has the form of one, and else a string. Numbers may have underscores, and a number
with colons counts in sixties.
-/

namespace TypeDraft.Yaml

open Numeral (digitsValue hexValue? splitSign)

/-- The types that a node may be tagged with. -/
inductive Tag where
  | null | bool | int | float | str | binary | timestamp | seq | map | set | omap | pairs
  /-- The key `<<`, which takes over the entries of other mappings. -/
  | merge
  /-- The key `=`, which stands for the mapping that holds it. -/
  | value
  | other
  deriving DecidableEq

/-- The handle `!!` stands for this. -/
def coreNames : String := "tag:yaml.org,2002:"

def Tag.ofName (name : String) : Tag :=
  let core : List (String × Tag) :=
    [("null", .null), ("bool", .bool), ("int", .int), ("float", .float), ("str", .str),
      ("binary", .binary), ("timestamp", .timestamp), ("seq", .seq), ("map", .map), ("set", .set),
      ("omap", .omap), ("pairs", .pairs), ("merge", .merge), ("value", .value)]
  ((core.find? fun t => coreNames ++ t.1 == name).map Prod.snd).getD .other

/-! ## Forms -/

def isDigitOrScore (c : Char) : Bool := c.isDigit || c == '_'

/-- A count of sixties: one digit, or two of which the first is at most five. -/
def isSixtieth (cs : List Char) : Bool :=
  match cs with
  | [c] => c.isDigit
  | [c, d] => '0' ≤ c && c ≤ '5' && d.isDigit
  | _ => false

def isSixties (cs : List Char) : Bool :=
  match Text.splitAt ':' cs with
  | first :: second :: rest =>
    first.head?.any Char.isDigit && first.all isDigitOrScore && (second :: rest).all isSixtieth
  | _ => false

def isInteger (cs : List Char) : Bool :=
  let body := (splitSign cs).2
  match body with
  | '0' :: 'b' :: r => !r.isEmpty && r.all fun c => c == '0' || c == '1' || c == '_'
  | '0' :: 'x' :: r => !r.isEmpty && r.all fun c => (hexValue? c).isSome || c == '_'
  | ['0'] => true
  | '0' :: r => r.all fun c => ('0' ≤ c && c ≤ '7') || c == '_'
  | c :: r => c.isDigit && (r.all isDigitOrScore || isSixties body)
  | [] => false

/-- Nothing, or an exponent with its sign. -/
def isExponent (cs : List Char) : Bool :=
  match cs with
  | [] => true
  | c :: s :: ds =>
    (c == 'e' || c == 'E') && (s == '-' || s == '+') && !ds.isEmpty && ds.all Char.isDigit
  | _ => false

def isFloat (cs : List Char) : Bool :=
  let body := (splitSign cs).2
  if body = ".inf".toList || body = ".Inf".toList || body = ".INF".toList then true
  else if cs = ".nan".toList || cs = ".NaN".toList || cs = ".NAN".toList then true
  else
    let whole := body.takeWhile (· ≠ '.')
    match body.dropWhile (· ≠ '.') with
    | '.' :: r =>
      let rest := r.dropWhile isDigitOrScore
      if whole.isEmpty then cs.head? == some '.' && r.head?.any Char.isDigit && isExponent rest
      else if whole.all isDigitOrScore then whole.head?.any Char.isDigit && isExponent rest
      else isSixties whole && rest.isEmpty
    | _ => false

/-! ## Timestamps -/

/-- The parts of a timestamp as written. -/
structure Timestamp where
  year : Nat
  month : List Char
  day : List Char
  /-- Hour, minute, second and the digits of the fraction. -/
  time : Option (Nat × Nat × Nat × List Char) := none
  /-- The distance from universal time, its sign being kept apart. -/
  zone : Option (Bool × Nat × Nat) := none

/-- Takes between `least` and `most` digits, as many as there are. -/
private def takeDigits (least most : Nat) (cs : List Char) : Option (List Char × List Char) :=
  let ds := (cs.take most).takeWhile Char.isDigit
  if least ≤ ds.length then some (ds, cs.drop ds.length) else none

private def takeChar (c : Char) : List Char → Option (List Char)
  | d :: cs => if d = c then some cs else none
  | [] => none

private def isBlank (c : Char) : Bool := c == ' ' || c == '\t'

/-- What may follow the seconds: a fraction, and a zone after blanks. -/
private def readZone? (cs : List Char) : Option (Option (Bool × Nat × Nat)) :=
  match cs with
  | [] => some none
  | _ =>
    match cs.dropWhile isBlank with
    | ['Z'] => some (some (false, 0, 0))
    | s :: r =>
      if s == '+' || s == '-' then do
        let (hours, r) ← takeDigits 1 2 r
        match r with
        | [] => some (some (s == '-', digitsValue hours, 0))
        | ':' :: r =>
          let (minutes, r) ← takeDigits 2 2 r
          if r.isEmpty then
            some (some (s == '-', digitsValue hours, digitsValue minutes))
          else none
        | _ => none
      else none
    | [] => none

/-- The parts of a text that has the form of a timestamp. -/
def Timestamp.ofText? (cs : List Char) : Option Timestamp := do
  let (year, r) ← takeDigits 4 4 cs
  let r ← takeChar '-' r
  let (month, r) ← takeDigits 1 2 r
  let r ← takeChar '-' r
  let (day, r) ← takeDigits 1 2 r
  let date : Timestamp := { year := digitsValue year, month, day }
  match r with
  | [] => some date
  | c :: rest =>
    let r ←
      if c == 'T' || c == 't' then some rest
      else if isBlank c then some (rest.dropWhile isBlank)
      else none
    let (hour, r) ← takeDigits 1 2 r
    let r ← takeChar ':' r
    let (minute, r) ← takeDigits 2 2 r
    let r ← takeChar ':' r
    let (second, r) ← takeDigits 2 2 r
    let (fraction, r) :=
      match r with
      | '.' :: r => (r.takeWhile Char.isDigit, r.dropWhile Char.isDigit)
      | r => ([], r)
    let zone ← readZone? r
    some { date with
      time := some (digitsValue hour, digitsValue minute, digitsValue second,
        fraction)
      zone := zone }

/-- A date on its own has two digits for its month and its day. -/
private def isTimestamp (cs : List Char) : Bool :=
  match Timestamp.ofText? cs with
  | some t => t.time.isSome || (t.month.length == 2 && t.day.length == 2)
  | none => false

/-- The six digits of a fraction of a second. -/
private def microseconds (fraction : List Char) : Nat :=
  digitsValue ((fraction ++ List.replicate 6 '0').take 6)

/-- The moment that a timestamp names. -/
def Timestamp.moment (t : Timestamp) : Except CalendarError Moment := do
  let month := digitsValue t.month
  let day := digitsValue t.day
  match t.time with
  | none => (Date.ofParts t.year month day).map .date
  | some (hour, minute, second, fraction) =>
    let offset ←
      match t.zone with
      | none => pure none
      | some (negative, hours, minutes) =>
        let distance : Int := (hours * 60 + minutes : Nat)
        (Offset.ofMinutes (if negative then -distance else distance)).map some
    let date ← Date.ofParts t.year month day
    let clock ← Clock.ofParts hour minute second (microseconds fraction)
    pure (.dateTime date clock offset)

/-! ## The type of a plain scalar -/

def boolean? (s : String) : Option Bool :=
  if ["yes", "true", "on"].contains s then some true
  else if ["no", "false", "off"].contains s then some false
  else none

/-- A boolean word is all lower case, all upper case or capitalised. -/
def isBoolean (s : String) : Bool :=
  let low := s.toLower
  (boolean? low).isSome && (s == low || s == s.toUpper || s == low.capitalize)

/-- The type of a scalar that has no tag, or only the tag that stands for none. A line feed at the
end is let pass. -/
def plainTag (s : String) : Tag :=
  let cs := Text.withoutFinalBreak s.toList
  let t := String.ofList cs
  if s == "" || t == "~" || t == "null" || t == "Null" || t == "NULL" then .null
  else if isBoolean t then .bool
  else if isFloat cs then .float
  else if isInteger cs then .int
  else if t == "<<" then .merge
  else if isTimestamp cs then .timestamp
  else if t == "=" then .value
  else if t == "!" || t == "&" || t == "*" then .other
  else .str

/-! ## Numbers -/

def integerOf (base : Nat) (cs : List Char) : Except YamlError Int :=
  match Numeral.integer base cs with
  | .ok n => .ok n
  | .error .malformed => .error (.notAnInteger base (String.ofList cs))
  | .error (.tooLong digits) => .error (.integerTooLong digits)

/-- Drops a sign; a text without any character has no number. -/
def signed (cs : List Char) : Except YamlError (Bool × List Char) :=
  if cs.isEmpty then .error .emptyNumber else .ok (splitSign cs)

def integerValue (s : String) : Except YamlError Int := do
  let (negative, body) ← signed (s.toList.filter (· ≠ '_'))
  let n ←
    match body with
    | [] => .error .emptyNumber
    | ['0'] => pure 0
    | '0' :: 'b' :: r => integerOf 2 r
    | '0' :: 'x' :: r => integerOf 16 r
    | '0' :: r => integerOf 8 ('0' :: r)
    | body =>
      if body.contains ':' then
        (Text.splitAt ':' body).foldlM (fun n part => (integerOf 10 part).map (n * 60 + ·)) 0
      else integerOf 10 body
  pure (if negative then -n else n)

def floatOf (cs : List Char) : Except YamlError Double :=
  match Numeral.double? cs with
  | some x => .ok x
  | none => .error (.notAFloat (String.ofList cs))

/-- The number with given digits to the base sixty, the last one first, in floating-point steps.
The first digit is worth `place`. -/
private def sumSixties (place : Nat) (value : Float) : List Double → Except YamlError Float
  | [] => .ok value
  | d :: ds =>
    let worth := Double.ofInt place
    if worth.isInfinite then .error .placeTooLarge
    else sumSixties (place * 60) (value + Float.ofBits d.bits * Float.ofBits worth.bits) ds

def floatValue (s : String) : Except YamlError Double := do
  let (negative, body) ← signed ((Text.lower s).toList.filter (· ≠ '_'))
  let x ←
    if body = ".inf".toList then pure (Double.infinity false)
    else if body = ".nan".toList then pure Double.nan
    else if body.contains ':' then do
      let parts ← (Text.splitAt ':' body).mapM floatOf
      pure ⟨(← sumSixties 1 0 parts.reverse).toBits⟩
    else floatOf body
  pure (if negative && !x.isNaN then x.negate else x)

end TypeDraft.Yaml
