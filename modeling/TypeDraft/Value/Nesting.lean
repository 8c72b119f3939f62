import TypeDraft.Value

/-!
# Limits on nesting

Every walk over a sample opens some number of steps for each array and each object that it enters,
and a fixed number of steps may be open at once.
-/

namespace TypeDraft

/-- How many steps a walk opens for an array and for an object. -/
structure NestingCost where
  array : Nat
  object : Nat

/-- The number of steps that may be open at once. -/
def openSteps : Nat := 990

/-- The text of an error that comes from too many open steps. -/
def tooDeepMessage : String := "maximum recursion depth exceeded"

namespace Value

mutual

/-- How many collections of a value stand in one another. -/
def levels : Value → Nat
  | arr items | tuple items | set items => itemLevels items + 1
  | obj fields => fieldLevels fields + 1
  | map entries => entryLevels entries + 1
  | _ => 0
termination_by structural v => v

def itemLevels : List Value → Nat
  | [] => 0
  | v :: vs => max (levels v) (itemLevels vs)
termination_by structural vs => vs

def fieldLevels : List (String × Value) → Nat
  | [] => 0
  | (_, v) :: fs => max (levels v) (fieldLevels fs)
termination_by structural fs => fs

def entryLevels : List (Value × Value) → Nat
  | [] => 0
  | (_, v) :: es => max (levels v) (entryLevels es)
termination_by structural es => es

end

mutual

/-- Whether a walk over the value would open more than `budget` steps at once. -/
def exceeds (cost : NestingCost) : (budget : Nat) → Value → Bool
  | budget, arr items => budget < cost.array || anyExceeds cost (budget - cost.array) items
  | budget, obj fields => budget < cost.object || anyFieldExceeds cost (budget - cost.object) fields
  | _, _ => false
termination_by structural _ v => v

def anyExceeds (cost : NestingCost) : (budget : Nat) → List Value → Bool
  | _, [] => false
  | budget, v :: vs => exceeds cost budget v || anyExceeds cost budget vs
termination_by structural _ vs => vs

def anyFieldExceeds (cost : NestingCost) : (budget : Nat) → List (String × Value) → Bool
  | _, [] => false
  | budget, (_, v) :: fs => exceeds cost budget v || anyFieldExceeds cost budget fs
termination_by structural _ fs => fs

end

def tooDeepFor (cost : NestingCost) (v : Value) : Bool := v.exceeds cost openSteps

end Value

end TypeDraft
