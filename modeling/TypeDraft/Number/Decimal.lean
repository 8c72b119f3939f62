import TypeDraft.Number.Numeral

/-!
# Decimal numbers

A decimal number keeps the digits that it was written with: `1.50` and `1.5` are equal, but shown
differently.
-/

namespace TypeDraft

/-- A decimal number; a finite one is `digits * 10 ^ exponent`. -/
inductive Decimal where
  | finite (negative : Bool) (digits : Nat) (exponent : Int)
  | infinite (negative : Bool)
  | nan
  deriving DecidableEq

namespace Decimal

def ofText? (s : String) : Option Decimal :=
  let (negative, body) := Numeral.splitSign (Text.trim (s.toList.map Numeral.toAscii))
  let name := (String.ofList body).toLower
  if name == "inf" || name == "infinity" then some (.infinite negative)
  else if name == "nan" then some .nan
  else
    match Numeral.splitDecimal (body.filter (· ≠ '_')) with
    | some (digits, exponent, []) =>
      some (.finite negative (Numeral.digitsValue digits) exponent)
    | _ => none

/-- The point is set among the digits if that takes at most six zeros before them; otherwise it
follows the first digit, with the power of ten after it. -/
def text : Decimal → String
  | infinite negative => (if negative then "-" else "") ++ "Infinity"
  | nan => "NaN"
  | finite negative digits exponent =>
    let ds := Nat.toDigits 10 digits
    let left : Int := exponent + ds.length
    let point : Int := if exponent ≤ 0 ∧ -6 < left then left else 1
    let body :=
      if point ≤ 0 then '0' :: '.' :: List.replicate (-point).toNat '0' ++ ds
      else if ds.length ≤ point then ds
      else ds.take point.toNat ++ '.' :: ds.drop point.toNat
    let power := left - point
    let tail :=
      if power = 0 then "" else (if power < 0 then "E" else "E+") ++ toString power
    (if negative then "-" else "") ++ String.ofList body ++ tail

def toRatio? : Decimal → Option (Int × Nat)
  | finite negative digits exponent =>
    let n : Int := digits * Nat.pow 10 exponent.toNat
    some (if negative then -n else n, Nat.pow 10 (-exponent).toNat)
  | _ => none

def toDouble : Decimal → Double
  | finite negative digits exponent => .ofDecimal negative digits exponent
  | infinite negative => .infinity negative
  | nan => .nan

end Decimal

end TypeDraft
