/-!
# Fresh names

A name that is taken gets the least number from two on that makes it free.
-/

namespace TypeDraft.Name

def numbered (name : String) (n : Nat) : String := name ++ toString n

/-- The name itself if it is free, else the first free one of `name2`, `name3`, …. As many numbers
are tried as there are names taken, and one more. -/
def unique (name : String) (taken : List String) : String :=
  if name ∈ taken then
    (((List.range (taken.length + 1)).map fun k => numbered name (k + 2)).find? (· ∉ taken)).getD name
  else name

end TypeDraft.Name
