/-!
# White space and lines

The white space that trimming, detection and repair agree on: the separators of Unicode together
with the control characters that end a line, a page or a record.
-/

namespace TypeDraft.Text

def inRanges (ranges : List (Nat × Nat)) (n : Nat) : Bool :=
  ranges.any fun r => r.1 ≤ n && n ≤ r.2

def blankRanges : List (Nat × Nat) :=
  [(0x9, 0xd), (0x1c, 0x20), (0x85, 0x85), (0xa0, 0xa0), (0x1680, 0x1680), (0x2000, 0x200a),
   (0x2028, 0x2029), (0x202f, 0x202f), (0x205f, 0x205f), (0x3000, 0x3000)]

def isBlank (c : Char) : Bool := inRanges blankRanges c.toNat

def trim (cs : List Char) : List Char :=
  ((cs.dropWhile isBlank).reverse.dropWhile isBlank).reverse

/-- A text without the line feed at its very end, if it has one. -/
def withoutFinalBreak (cs : List Char) : List Char :=
  if cs.getLast? = some '\n' then cs.dropLast else cs

/-- Whether `pattern` occurs somewhere in the text. -/
def occurs (pattern : List Char) : List Char → Bool
  | [] => pattern.isEmpty
  | c :: cs => pattern.isPrefixOf (c :: cs) || occurs pattern cs

private def splitFrom (sep : Char) (line : List Char) (lines : List (List Char)) :
    List Char → List (List Char)
  | [] => (line.reverse :: lines).reverse
  | c :: cs =>
    if c == sep then splitFrom sep [] (line.reverse :: lines) cs
    else splitFrom sep (c :: line) lines cs

/-- The pieces between the separators; a text without one is a single piece. -/
def splitAt (sep : Char) (cs : List Char) : List (List Char) := splitFrom sep [] [] cs

def lines (cs : List Char) : List (List Char) := splitAt '\n' cs

private theorem splitFrom_eq (sep : Char) (line : List Char) (lines : List (List Char))
    (cs : List Char) : splitFrom sep line lines cs = lines.reverse ++ splitFrom sep line [] cs := by
  induction cs generalizing line lines with
  | nil => simp [splitFrom]
  | cons c cs ih =>
      rw [splitFrom, splitFrom]
      split
      · rw [ih, ih _ [line.reverse]]
        simp
      · exact ih _ _

private theorem splitFrom_append {sep : Char} {piece : List Char} (h : sep ∉ piece)
    (line cs : List Char) :
    splitFrom sep line [] (piece ++ cs) = splitFrom sep (piece.reverse ++ line) [] cs := by
  induction piece generalizing line with
  | nil => rfl
  | cons c piece ih =>
      rw [List.mem_cons, not_or] at h
      have hc : (c == sep) = false := beq_eq_false_iff_ne.mpr (Ne.symm h.1)
      rw [List.cons_append, splitFrom, hc, if_neg Bool.false_ne_true, ih h.2]
      simp

theorem splitAt_of_not_mem {sep : Char} {piece : List Char} (h : sep ∉ piece) :
    splitAt sep piece = [piece] := by
  have hsplit := splitFrom_append h [] []
  rw [List.append_nil, List.append_nil] at hsplit
  rw [splitAt, hsplit]
  simp [splitFrom]

theorem splitAt_append {sep : Char} {piece : List Char} (h : sep ∉ piece) (cs : List Char) :
    splitAt sep (piece ++ sep :: cs) = piece :: splitAt sep cs := by
  rw [splitAt, splitFrom_append h, splitFrom, if_pos (beq_self_eq_true sep), splitFrom_eq]
  simp [splitAt]

/-- The characters that end a displayed line; a carriage return and the line feed after it end
one line together. -/
def endsLine (c : Char) : Bool :=
  inRanges [(0x0a, 0x0d), (0x1c, 0x1e), (0x85, 0x85), (0x2028, 0x2029)] c.toNat

private def countLinesFrom (count : Nat) (open_ : Bool) : List Char → Nat
  | [] => if open_ then count + 1 else count
  | '\r' :: '\n' :: cs => countLinesFrom (count + 1) false cs
  | c :: cs =>
    if endsLine c then countLinesFrom (count + 1) false cs else countLinesFrom count true cs

/-- How many lines a text is displayed on; a line end at the very end opens no further line. -/
def lineCount (s : String) : Nat := countLinesFrom 0 false s.toList

def unifyFrom (out : List Char) : List Char → List Char
  | [] => out.reverse
  | '\r' :: '\n' :: cs => unifyFrom ('\n' :: out) cs
  | '\r' :: cs => unifyFrom ('\n' :: out) cs
  | c :: cs => unifyFrom (c :: out) cs

/-- Every line end as a line feed, as a text file is read. -/
def unifyLineEnds (s : String) : String := String.ofList (unifyFrom [] s.toList)

end TypeDraft.Text
