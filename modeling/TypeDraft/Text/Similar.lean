/-!
# Similar texts

The likeness of two texts is the share of their characters that stand in common blocks: the longest
common block, and then the longest ones to the left and to the right of it.
-/

namespace TypeDraft.Text

def commonHead : List Char → List Char → Nat
  | a :: as, b :: bs => if a = b then commonHead as bs + 1 else 0
  | _, _ => 0

/-- A block that two texts share, by its places and its length. -/
structure Block where
  left : Nat
  right : Nat
  size : Nat

/-- The first of the longest blocks that two texts share. -/
def longestBlock (as bs : List Char) : Block :=
  let pairs := (List.range as.length).flatMap fun i => (List.range bs.length).map fun j => (i, j)
  pairs.foldl (fun best (i, j) =>
    let size := commonHead (as.drop i) (bs.drop j)
    if best.size < size then ⟨i, j, size⟩ else best) ⟨0, 0, 0⟩

/-- The number of characters in common blocks; `fuel` bounds the number of nested blocks. -/
def commonFrom : (fuel : Nat) → List Char → List Char → Nat
  | 0, _, _ => 0
  | fuel + 1, as, bs =>
    let b := longestBlock as bs
    if b.size = 0 then 0
    else
      commonFrom fuel (as.take b.left) (bs.take b.right) + b.size +
        commonFrom fuel (as.drop (b.left + b.size)) (bs.drop (b.right + b.size))

/-- The number of characters that two texts share in order. -/
def common (as bs : List Char) : Nat := commonFrom as.length as bs

/-- The likeness of two texts in millionths. -/
def likeness (as bs : List Char) : Nat :=
  if as.length + bs.length = 0 then 1000000
  else 2000000 * common as bs / (as.length + bs.length)

/-- The texts that are most like a text, three at most; all share three fifths with it. -/
def similar (s : String) (candidates : List String) : List String :=
  let rated := candidates.map fun c => (likeness c.toList s.toList, c)
  let close := rated.filter fun r => 600000 ≤ r.1
  let order (p q : Nat × String) : Bool := q.1 < p.1 || (p.1 == q.1 && decide (q.2 ≤ p.2))
  ((close.mergeSort order).take 3).map Prod.snd

end TypeDraft.Text
