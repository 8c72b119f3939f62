import TypeDraft.Number.Decimal
import TypeDraft.Value

/-!
# Values that count as one

Two values are alike when a mapping takes them for one key: numbers by their value, whatever their
form, moments by the instant that they name, and mappings without regard to order.
-/

namespace TypeDraft

namespace Value

/-- A finite number of any form as a fraction; a boolean counts as one or zero. -/
def ratio? : Value → Option (Int × Nat)
  | bool b => some (if b then 1 else 0, 1)
  | int n => some (n, 1)
  | float x => if x.isNaN || x.isInfinite then none else some x.toRatio
  | decimal s => (Decimal.ofText? s).bind Decimal.toRatio?
  | _ => none

/-- Whether an infinite number is below zero. -/
def infinity? : Value → Option Bool
  | float x => if x.isInfinite then some x.isNegative else none
  | decimal s =>
    match Decimal.ofText? s with
    | some (.infinite negative) => some negative
    | _ => none
  | _ => none

def isNaN : Value → Bool
  | float x => x.isNaN
  | _ => false

/-- Whether two numbers count as one; a NaN does so with every NaN. -/
def alikeNumbers (v w : Value) : Bool :=
  match v.ratio?, w.ratio? with
  | some (m, d), some (n, e) => m * e == n * d
  | _, _ =>
    match v.infinity?, w.infinity? with
    | some a, some b => a == b
    | _, _ => v.isNaN && w.isNaN

/-- The entries of an object or a mapping. -/
def entries? : Value → Option (List (Value × Value))
  | obj fs => some (fs.map fun f => (str f.1, f.2))
  | map es => some es
  | _ => none

mutual

/-- Whether two values count as one. -/
def alike : Value → Value → Bool
  | null, w => match w with | null => true | _ => false
  | bool b, w => alikeNumbers (bool b) w
  | int m, w => match w with | int n => m == n | w => alikeNumbers (int m) w
  | float x, w => alikeNumbers (float x) w
  | decimal s, w => alikeNumbers (decimal s) w
  | str s, w => match w with | str t => s == t | _ => false
  | bytes s, w => match w with | bytes t => s == t | _ => false
  | moment m, w => match w with | moment n => m.alike n | _ => false
  | arr vs, w => match w with | arr ws => alikeItems vs ws | _ => false
  | tuple vs, w => match w with | tuple ws => alikeItems vs ws | _ => false
  | set vs, w =>
    match w with
    | set ws => vs.length == ws.length && alikeMembers vs ws
    | _ => false
  | obj fs, w =>
    match entries? w with
    | some es => fs.length == es.length && alikeFields fs es
    | none => false
  | map es, w =>
    match entries? w with
    | some fs => es.length == fs.length && alikeEntries es fs
    | none => false
termination_by structural v => v

def alikeItems : List Value → List Value → Bool
  | [], ws => ws.isEmpty
  | v :: vs, ws => match ws with | [] => false | w :: ws => alike v w && alikeItems vs ws
termination_by structural vs => vs

/-- Whether each value is alike to one of the others. -/
def alikeMembers : List Value → List Value → Bool
  | [], _ => true
  | v :: vs, ws => ws.any (alike v) && alikeMembers vs ws
termination_by structural vs => vs

def alikeFields : List (String × Value) → List (Value × Value) → Bool
  | [], _ => true
  | (k, v) :: fs, es => es.any (fun e => e.1 == str k && alike v e.2) && alikeFields fs es
termination_by structural fs => fs

def alikeEntries : List (Value × Value) → List (Value × Value) → Bool
  | [], _ => true
  | (k, v) :: es, fs => fs.any (fun f => alike k f.1 && alike v f.2) && alikeEntries es fs
termination_by structural es => es

end

end Value

end TypeDraft
