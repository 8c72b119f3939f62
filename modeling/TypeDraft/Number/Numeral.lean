import TypeDraft.Number.Double
import TypeDraft.Text.Blank

/-!
# Numerals

The number that a text of its own stands for. Blanks may stand at either end and a sign before the
number, and the digits may be those of any script.
-/

namespace TypeDraft.Numeral

/-- The zeros of the decimal digits of Unicode, version 14; after each zero come its other nine. -/
def zeros : List Nat :=
  [0x30, 0x660, 0x6f0, 0x7c0, 0x966, 0x9e6, 0xa66, 0xae6, 0xb66, 0xbe6, 0xc66, 0xce6, 0xd66, 0xde6,
   0xe50, 0xed0, 0xf20, 0x1040, 0x1090, 0x17e0, 0x1810, 0x1946, 0x19d0, 0x1a80, 0x1a90, 0x1b50,
   0x1bb0, 0x1c40, 0x1c50, 0xa620, 0xa8d0, 0xa900, 0xa9d0, 0xa9f0, 0xaa50, 0xabf0, 0xff10, 0x104a0,
   0x10d30, 0x11066, 0x110f0, 0x11136, 0x111d0, 0x112f0, 0x11450, 0x114d0, 0x11650, 0x116c0,
   0x11730, 0x118e0, 0x11950, 0x11c50, 0x11d50, 0x11da0, 0x16a60, 0x16ac0, 0x16b50, 0x1d7ce,
   0x1d7d8, 0x1d7e2, 0x1d7ec, 0x1d7f6, 0x1e140, 0x1e2f0, 0x1e950, 0x1fbf0]

/-- The value of a decimal digit of any script. -/
def digit? (c : Char) : Option Nat :=
  (zeros.find? fun z => z ≤ c.toNat && c.toNat < z + 10).map (c.toNat - ·)

/-- A character outside ASCII as the digit or the blank that it stands for; the rest become a mark
that no numeral holds. -/
def toAscii (c : Char) : Char :=
  if c.toNat < 0x7f then c
  else if Text.isBlank c then ' '
  else
    match digit? c with
    | some d => Char.ofNat ('0'.toNat + d)
    | none => '?'

/-- The blanks around a numeral; the separators of records among the control characters are not
among them. -/
def isBlank (c : Char) : Bool := c == ' ' || ('\t' ≤ c && c ≤ '\r')

/-- A sign, if there is one, and what follows it; true is for a minus. -/
def splitSign : List Char → Bool × List Char
  | '-' :: cs => (true, cs)
  | '+' :: cs => (false, cs)
  | cs => (false, cs)

def hexValue? (c : Char) : Option Nat :=
  if '0' ≤ c ∧ c ≤ '9' then some (c.toNat - '0'.toNat)
  else if 'a' ≤ c ∧ c ≤ 'f' then some (c.toNat - 'a'.toNat + 10)
  else if 'A' ≤ c ∧ c ≤ 'F' then some (c.toNat - 'A'.toNat + 10)
  else none

/-- The value of a digit to a base up to sixteen. -/
def digitOf? (base : Nat) (c : Char) : Option Nat := (hexValue? c).filter (· < base)

/-- The number that some digits stand for. -/
def valueOf (base : Nat) (digits : List Char) : Nat :=
  digits.foldl (fun n d => n * base + (hexValue? d).getD 0) 0

/-- The number that some decimal digits stand for. -/
def digitsValue (ds : List Char) : Nat :=
  ds.foldl (fun n d => n * 10 + (d.toNat - '0'.toNat)) 0

/-- The letter that may follow a zero to announce a base. -/
def baseLetter? (base : Nat) : Option Char :=
  match base with
  | 2 => some 'b'
  | 8 => some 'o'
  | 16 => some 'x'
  | _ => none

def dropBase (base : Nat) : List Char → List Char
  | '0' :: c :: cs => if baseLetter? base == some c.toLower then cs else '0' :: c :: cs
  | cs => cs

/-- Decimal integers of more digits than this are refused. -/
def maxDigits : Nat := 4300

def tooLongMessage (digits : Nat) : String :=
  "Exceeds the limit (" ++ toString maxDigits ++
    " digits) for integer string conversion: value has " ++ toString digits ++
    " digits; use sys.set_int_max_str_digits() to increase the limit"

def tooLongToShow : String :=
  "Exceeds the limit (" ++ toString maxDigits ++
    " digits) for integer string conversion; use sys.set_int_max_str_digits() to increase the limit"

inductive IntegerFault where
  | malformed
  | tooLong (digits : Nat)
  deriving DecidableEq

/-- The integer in a text. Only the bases that are powers of two admit any number of digits. -/
def integer (base : Nat) (cs : List Char) : Except IntegerFault Int :=
  let (negative, body) := splitSign ((cs.map toAscii).dropWhile isBlank)
  let body := dropBase base body
  let digits := body.takeWhile fun c => (digitOf? base c).isSome
  let rest := body.dropWhile fun c => (digitOf? base c).isSome
  if (baseLetter? base).isNone && maxDigits < digits.length then .error (.tooLong digits.length)
  else if digits.isEmpty || !rest.all isBlank then .error .malformed
  else
    let n : Int := valueOf base digits
    .ok (if negative then -n else n)

/-- Splits off an exponent, a sign being allowed before at least one digit. -/
def splitExponent (cs : List Char) : Option Int × List Char :=
  let digits (negative : Bool) (r : List Char) : Option Int × List Char :=
    match r.takeWhile Char.isDigit with
    | [] => (none, cs)
    | ds =>
      let n : Int := digitsValue ds
      (some (if negative then -n else n), r.dropWhile Char.isDigit)
  match cs with
  | 'e' :: '-' :: r | 'E' :: '-' :: r => digits true r
  | 'e' :: '+' :: r | 'E' :: '+' :: r => digits false r
  | 'e' :: r | 'E' :: r => digits false r
  | _ => (none, cs)

/-- The digits of a decimal number without its point, the power of ten that they are counted in,
and what follows the number. -/
def splitDecimal (cs : List Char) : Option (List Char × Int × List Char) :=
  let whole := cs.takeWhile Char.isDigit
  let (fraction, rest) :=
    match cs.dropWhile Char.isDigit with
    | '.' :: r => (r.takeWhile Char.isDigit, r.dropWhile Char.isDigit)
    | r => ([], r)
  let (exponent, rest) := splitExponent rest
  if (whole ++ fraction).isEmpty then none
  else some (whole ++ fraction, exponent.getD 0 - fraction.length, rest)

/-- The floating-point number in a text: a decimal number, or one of the names of those that are
not finite. -/
def double? (cs : List Char) : Option Double :=
  let cs := (cs.map toAscii).dropWhile isBlank
  let (negative, body) := splitSign (cs.reverse.dropWhile isBlank).reverse
  let name := (String.ofList body).toLower
  if name == "inf" || name == "infinity" then some (.infinity negative)
  else if name == "nan" then some .nan
  else
    match splitDecimal body with
    | some (digits, exponent, []) => some (.ofDecimal negative (digitsValue digits) exponent)
    | _ => none

end TypeDraft.Numeral
