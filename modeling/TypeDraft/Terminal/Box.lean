import TypeDraft.Number.Double
import TypeDraft.Terminal.Markup
import TypeDraft.Terminal.Wrap

/-!
# Tables and panels

A table has a title over it, a head and rows of cells; a panel stands around a text, with a title in
its upper edge. Both are as wide as what they hold, with a blank on either side of it, unless the
screen is narrower.
-/

namespace TypeDraft.Terminal

private def repeated (c : Char) (n : Nat) : String := String.ofList (List.replicate n c)

def centred (n : Nat) (fill : Char) (s : String) : String :=
  let space := n - width s.toList
  repeated fill (space / 2) ++ s ++ repeated fill (space - space / 2)

structure Table where
  title : String
  head : List String
  rows : List (List String)

namespace Table

/-- The lines of a cell, each filled up and set off by a blank on either side. -/
private def cellLines (n : Nat) (cell : String) : List String :=
  (wrap .ellipsis n cell).map fun line => " " ++ String.ofList (pad n line) ++ " "

private def total (widths : List Nat) : Nat := widths.foldl (· + ·) 0

/-- Takes cells from those of some columns that are as wide as the widest, evenly and at most `limit`
from each; `excess` is left to take from `count` of them. -/
private def narrow (widest limit : Nat) : (excess count : Nat) → List Nat → List Nat
  | _, _, [] => []
  | excess, count, n :: widths =>
    if n = widest then
      let taken := min limit (Double.roundHalfEven excess count)
      (n - taken) :: narrow widest limit (excess - taken) (count - 1) widths
    else n :: narrow widest limit excess count widths

/-- Narrows the widest columns to the width of the next, and so on, until all fit in some room. -/
private def fitInto (room : Nat) : (rounds : Nat) → List Nat → List Nat
  | 0, widths => widths
  | rounds + 1, widths =>
    let excess := total widths - room
    let widest := widths.foldl max 0
    let next := (widths.filter (· ≠ widest)).foldl max 0
    if excess = 0 || widest = next then widths
    else
      let limit := min excess (widest - next)
      fitInto room rounds (narrow widest limit excess (widths.count widest) widths)

/-- The width of each column without its margins. Between the borders all columns have to fit on the
screen with their margins. -/
def columnWidths (head : List String) (rows : List (List String)) : List Nat :=
  let room := screenWidth - (head.length + 1)
  let wanted := rows.foldl
    (fun widths row => List.zipWith (fun n cell => max n (widest cell)) widths row)
    (head.map widest)
  let widths := wanted.map fun n => min room (n + 2)
  (fitInto room (total widths) widths).map (· - 2)

/-- The lines of a row between its borders; cells with fewer lines than others end in blank ones. -/
private def rowLines (border : String) (widths : List Nat) (cells : List String) : List String :=
  let columns := List.zipWith cellLines widths cells
  let height := (columns.map List.length).foldl max 1
  let line (i : Nat) : String :=
    let texts := List.zipWith (fun n column => (column[i]?).getD (repeated ' ' (n + 2))) widths columns
    border ++ border.intercalate texts ++ border
  (List.range height).map line

/-- A line between rows: a corner, a run for each column, joints between them, a corner. -/
private def ruleLine (left run joint right : Char) (widths : List Nat) : String :=
  let runs := widths.map fun n => repeated run (n + 2)
  left.toString ++ joint.toString.intercalate runs ++ right.toString

def text (t : Table) : String :=
  let head := t.head.map Markup.plain
  let rows := t.rows.map fun row => row.map Markup.plain
  let widths := columnWidths head rows
  let total := widths.foldl (fun n w => n + w + 3) 1
  let lines := [centred total ' ' (Markup.plain t.title), ruleLine '┏' '━' '┳' '┓' widths] ++
    rowLines "┃" widths head ++ [ruleLine '┡' '━' '╇' '┩' widths] ++
    rows.flatMap (rowLines "│" widths) ++ [ruleLine '└' '─' '┴' '┘' widths]
  String.join (lines.map (· ++ "\n"))

end Table

structure Panel where
  title : String
  body : String

def Panel.text (p : Panel) : String :=
  let body := Markup.plain p.body
  let title := " " ++ p.title ++ " "
  let n := max (min (widest body) (screenWidth - 4)) (width title.toList)
  let inner := (wrap .fold n body).map fun line => "│ " ++ String.ofList (pad n line) ++ " │"
  let lines := ["╭─" ++ centred n '─' title ++ "─╮"] ++ inner ++ ["╰" ++ repeated '─' (n + 2) ++ "╯"]
  String.join (lines.map (· ++ "\n"))

end TypeDraft.Terminal
