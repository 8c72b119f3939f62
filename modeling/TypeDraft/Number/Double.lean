/-!
# Binary floating-point numbers

A `Double` is a 64-bit pattern, so that two numbers are equal exactly when their patterns are.
A finite one stands for `m * 2 ^ q`; decimal texts are rounded to it in exact arithmetic.
-/

namespace TypeDraft

/-- A floating-point number of 64 bits, kept as its bit pattern. -/
structure Double where
  bits : UInt64
  deriving DecidableEq, Inhabited

namespace Double

def isNegative (x : Double) : Bool := x.bits >>> 63 == 1

/-- The eleven exponent bits. -/
def exponentField (x : Double) : Nat := ((x.bits >>> 52) &&& 0x7ff).toNat

/-- The fifty-two bits below the exponent. -/
def fractionField (x : Double) : Nat := (x.bits &&& 0xfffffffffffff).toNat

def isNaN (x : Double) : Bool := x.exponentField == 0x7ff && x.fractionField != 0

def isInfinite (x : Double) : Bool := x.exponentField == 0x7ff && x.fractionField == 0

/-- The pair `(m, q)` for which a finite number has the magnitude `m * 2 ^ q`. -/
def magnitude (x : Double) : Nat × Int :=
  if x.exponentField = 0 then (x.fractionField, -1074)
  else (x.fractionField + 0x10000000000000, (x.exponentField : Int) - 1075)

def isIntegral (x : Double) : Bool :=
  x.exponentField != 0x7ff &&
    (0 ≤ x.magnitude.2 || x.magnitude.1 % Nat.pow 2 (-x.magnitude.2).toNat == 0)

def nan : Double := ⟨0x7ff8000000000000⟩

def infinity (negative : Bool) : Double :=
  ⟨if negative then 0xfff0000000000000 else 0x7ff0000000000000⟩

def zero (negative : Bool) : Double := ⟨if negative then 0x8000000000000000 else 0⟩

def negate (x : Double) : Double := ⟨x.bits ^^^ 0x8000000000000000⟩

/-- `n / d` rounded to the nearest natural number, a half to the even neighbour. -/
def roundHalfEven (n d : Nat) : Nat :=
  let quotient := n / d
  let rest := 2 * (n % d)
  if rest > d || (rest == d && quotient % 2 == 1) then quotient + 1 else quotient

/-- The significand of `n / d` at the binary exponent `q`, as a fraction. -/
private def scaled (n d : Nat) (q : Int) : Nat × Nat :=
  if q ≤ 0 then (n * Nat.pow 2 (-q).toNat, d) else (n, d * Nat.pow 2 q.toNat)

/-- The number nearest to `n / d`, a tie going to the even significand. -/
def ofRatio (negative : Bool) (n d : Nat) : Double :=
  if n = 0 then zero negative
  else
    let estimate : Int := max ((n.log2 : Int) - d.log2 - 53) (-1074)
    let (a, b) := scaled n d estimate
    let q := if a / b ≥ 0x20000000000000 then estimate + 1 else estimate
    let (a, b) := scaled n d q
    let pattern := (q + 1074).toNat * 0x10000000000000 + roundHalfEven a b
    if pattern ≥ 0x7ff * 0x10000000000000 then infinity negative
    else ⟨UInt64.ofNat pattern ||| (zero negative).bits⟩

/-- The number nearest to `digits * 10 ^ exponent`. Exponents far outside the range are settled
by the size of the number alone. -/
def ofDecimal (negative : Bool) (digits : Nat) (exponent : Int) : Double :=
  let size : Int := (Nat.toDigits 10 digits).length + exponent
  if digits = 0 then zero negative
  else if size > 310 then infinity negative
  else if size < -330 then zero negative
  else if 0 ≤ exponent then ofRatio negative (digits * Nat.pow 10 exponent.toNat) 1
  else ofRatio negative digits (Nat.pow 10 (-exponent).toNat)

def ofInt (n : Int) : Double := ofRatio (n < 0) n.natAbs 1

/-- The exact value of a finite number as a fraction. -/
def toRatio (x : Double) : Int × Nat :=
  let (m, q) := x.magnitude
  let n : Nat := if 0 ≤ q then m * Nat.pow 2 q.toNat else m
  (if x.isNegative then -(n : Int) else n, if 0 ≤ q then 1 else Nat.pow 2 (-q).toNat)

def eqInt (x : Double) (n : Int) : Bool :=
  x.exponentField != 0x7ff && x.toRatio.1 == n * x.toRatio.2

end Double

end TypeDraft
