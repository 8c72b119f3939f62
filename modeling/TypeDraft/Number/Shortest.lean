import TypeDraft.Number.Double

/-!
# Shortest decimal texts

The shortest decimal that reads back as a given number. The reals that round to `m * 2 ^ q` form an
interval, closed when `m` is even; the first decimal grid with a point in it fixes the digits, and
of two such points the nearer is taken.
-/

namespace TypeDraft.Double

/-- A fraction of two natural numbers, compared by cross multiplication. -/
structure Ratio where
  num : Nat
  den : Nat

namespace Ratio

def lt (a b : Ratio) : Bool := a.num * b.den < b.num * a.den

def ofBinary (n : Nat) (q : Int) : Ratio :=
  if 0 ≤ q then ⟨n * Nat.pow 2 q.toNat, 1⟩ else ⟨n, Nat.pow 2 (-q).toNat⟩

def ofDecimal (n : Nat) (e : Int) : Ratio :=
  if 0 ≤ e then ⟨n * Nat.pow 10 e.toNat, 1⟩ else ⟨n, Nat.pow 10 (-e).toNat⟩

/-- The greatest natural number not above `a / 10 ^ e`. -/
def floorAt (a : Ratio) (e : Int) : Nat :=
  if 0 ≤ e then a.num / (a.den * Nat.pow 10 e.toNat) else a.num * Nat.pow 10 (-e).toNat / a.den

/-- The decimal exponent of the leading digit: the greatest `e` with `10 ^ e ≤ a`. -/
def leading (a : Ratio) : Int :=
  if a.den ≤ a.num then ((Nat.toDigits 10 (a.num / a.den)).length : Int) - 1
  else
    -- `a < 1`: scale by a power of ten that certainly reaches one, and count the digits
    let shift := (Nat.toDigits 10 a.den).length
    ((Nat.toDigits 10 (a.num * Nat.pow 10 shift / a.den)).length : Int) - 1 - shift

end Ratio

/-- The reals that round to a finite positive number. -/
structure Basin where
  low : Ratio
  high : Ratio
  closed : Bool

def Basin.contains (i : Basin) (a : Ratio) : Bool :=
  (i.low.lt a || (i.closed && !a.lt i.low)) && (a.lt i.high || (i.closed && !i.high.lt a))

def basin (x : Double) : Basin :=
  let (m, q) := x.magnitude
  { low :=
      if x.fractionField = 0 ∧ 1 < x.exponentField then Ratio.ofBinary (4 * m - 1) (q - 2)
      else Ratio.ofBinary (2 * m - 1) (q - 1)
    high := Ratio.ofBinary (2 * m + 1) (q - 1)
    closed := m % 2 == 0 }

/-- The point of the grid `10 ^ e` that reads back as the number, the nearer one if there are two. -/
def gridPoint? (x : Double) (e : Int) : Option Nat :=
  let (m, q) := x.magnitude
  let exact := Ratio.ofBinary m q
  let below := exact.floorAt e
  let above := below + 1
  match x.basin.contains (Ratio.ofDecimal below e), x.basin.contains (Ratio.ofDecimal above e) with
  | true, false => some below
  | false, true => some above
  | true, true =>
    -- twice the value lies below the sum of the neighbours when the lower one is nearer
    let twice : Ratio := ⟨2 * exact.num, exact.den⟩
    let middle := Ratio.ofDecimal (below + above) e
    if twice.lt middle || (!middle.lt twice && below % 2 == 0) then some below else some above
  | false, false => none

/-- Digits `d` and exponent `e` with `d * 10 ^ e` the shortest decimal that reads back. -/
def shortest (x : Double) : Nat × Int :=
  let (m, q) := x.magnitude
  if m = 0 then (0, 0)
  else
    let top := (Ratio.ofBinary m q).leading
    let grids := (List.range 17).map fun (k : Nat) => top - (k : Int)
    match grids.findSome? fun e => (x.gridPoint? e).map fun d => (d, e) with
    | some r => r
    | none => ((Ratio.ofBinary m q).floorAt (top - 16), top - 16)

/-- Digits without trailing zeros, the exponent raised to match. -/
def stripZeros (digits : List Char) (e : Int) : List Char × Int :=
  let kept := (digits.reverse.dropWhile (· == '0')).reverse
  (kept, e + (digits.length - kept.length : Nat))

/-- The text of a number: positional from `1e-4` up to `1e16`, always with a fractional part, and
with an exponent of at least two digits elsewhere. -/
def text (x : Double) : String :=
  let sign := if x.isNegative then "-" else ""
  if x.isNaN then "nan"
  else if x.isInfinite then sign ++ "inf"
  else
    let (d, e) := x.shortest
    if d = 0 then sign ++ "0.0"
    else
      let (digits, e) := stripZeros (Nat.toDigits 10 d) e
      let point : Int := digits.length + e
      let body :=
        if -4 < point ∧ point ≤ 16 then
          if point ≤ 0 then "0." ++ String.ofList (List.replicate (-point).toNat '0' ++ digits)
          else if 0 ≤ e then String.ofList (digits ++ List.replicate e.toNat '0') ++ ".0"
          else String.ofList (digits.take point.toNat) ++ "." ++
            String.ofList (digits.drop point.toNat)
        else
          let mantissa :=
            match digits with
            | [] => ""
            | [c] => String.ofList [c]
            | c :: cs => String.ofList (c :: '.' :: cs)
          let power := (point - 1).natAbs
          mantissa ++ (if point ≤ 0 then "e-" else "e+") ++ (if power < 10 then "0" else "") ++
            toString power
      sign ++ body

end TypeDraft.Double
