import TypeDraft.Value.Alike

/-!
# The order of a set

A set of numbers keeps them in the slots of a table, by their residues, and is listed slot by slot.
Other sets are listed in the order in which they were filled.
-/

namespace TypeDraft

namespace Value

/-- The prime by which residues are taken. -/
def residueModulus : Nat := Nat.pow 2 61 - 1

/-- The residue of a number, which numbers of the same value share. Denominators are powers of two;
minus one is no residue. -/
def residue? (v : Value) : Option Int :=
  match v.ratio?, v.infinity? with
  | some (n, d), _ =>
    let inverse := Nat.pow 2 (61 - d.log2 % 61)
    let r : Int := (n.natAbs * inverse % residueModulus : Nat)
    some (if 0 ≤ n then r else if r = 1 then -2 else -r)
  | none, some negative => some (if negative then -314159 else 314159)
  | none, none => none

/-- How many slots the table of so many elements has: a power of two above twice their number. -/
def slotCount (elements : Nat) : Nat := if elements ≤ 4 then 8 else Nat.pow 2 ((2 * elements).log2 + 1)

/-- The slots that are tried from a slot on before the next leap. -/
def neighbours (slots slot : Nat) : List Nat :=
  if slot + 9 < slots then (List.range 10).map (slot + ·) else [slot]

/-- The first free slot that is found from a slot on. Each leap takes five bits more of the residue
into account. -/
private def freeSlot (slots : Nat) (taken : List Nat) : (leaps slot bits : Nat) → Nat
  | 0, slot, _ => slot
  | leaps + 1, slot, bits =>
    match (neighbours slots slot).find? fun s => !taken.contains s with
    | some s => s
    | none => freeSlot slots taken leaps ((slot * 5 + 1 + bits / 32) % slots) (bits / 32)

/-- Puts numbers with given residues into the slots of a table, one after the other. -/
private def seat (slots : Nat) (seated : List (Nat × Value)) : List (Value × Int) → List (Nat × Value)
  | [] => seated
  | (v, residue) :: rest =>
    let bits := (residue % 0x10000000000000000).toNat
    let slot := freeSlot slots (seated.map Prod.fst) (slots + 16) (bits % slots) bits
    seat slots ((slot, v) :: seated) rest

/-- The elements of a set in the order in which it is listed; no two of them are alike. -/
def setOrder (elements : List Value) : List Value :=
  match elements.mapM fun v => v.residue?.map fun r => (v, r) with
  | none => elements
  | some numbers =>
    ((seat (slotCount numbers.length) [] numbers).mergeSort fun a b => a.1 ≤ b.1).map Prod.snd

end Value

end TypeDraft
