import TypeDraft.Output.DraftError
import TypeDraft.Value.Nesting

/-!
# The form of a sample

Some formats take the first item of an array for all of them. What they look at of a sample are the
fields of its objects and the first items of its arrays.
-/

namespace TypeDraft.Form

mutual

/-- The first thing that stops a walk through fields and first items: a value outside the normal
tree, or more than `budget` steps open at once. -/
def firstError? (cost : NestingCost) : (budget : Nat) → Value → Option DraftError
  | budget, .arr items =>
    if budget < cost.array then some .sampleTooDeep
    else firstItemError? cost (budget - cost.array) items
  | budget, .obj fields =>
    if budget < cost.object then some .sampleTooDeep
    else firstFieldError? cost (budget - cost.object) fields
  | _, v =>
    match v.kind with
    | .foreign f => some (.unsupportedValue f)
    | _ => none
termination_by structural _ v => v

def firstItemError? (cost : NestingCost) : (budget : Nat) → List Value → Option DraftError
  | _, [] => none
  | budget, v :: _ => firstError? cost budget v
termination_by structural _ vs => vs

def firstFieldError? (cost : NestingCost) :
    (budget : Nat) → List (String × Value) → Option DraftError
  | _, [] => none
  | budget, (_, v) :: fs => (firstError? cost budget v).or (firstFieldError? cost budget fs)
termination_by structural _ fs => fs

end

end TypeDraft.Form
