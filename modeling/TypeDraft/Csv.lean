import TypeDraft.Text.Blank
import TypeDraft.Value.Normal

/-!
# Comma-separated values

The first row names the columns. A cell in double quotes may hold commas, line ends and doubled
quotes; nothing but a comma or a line end may follow its closing quote. Cells stay texts.
-/

namespace TypeDraft.Csv

inductive CsvError where
  | missingHeader
  | extraCells (row : Nat)
  | expectedComma
  | unclosedQuote
  | cellTooLong
  | strayLineEnd
  deriving DecidableEq

def maxCellLength : Nat := 131072

def CsvError.message : CsvError → String
  | missingHeader => "missing header row"
  | extraCells row => "row " ++ toString row ++ " has more cells than the header"
  | expectedComma => "',' expected after '\"'"
  | unclosedQuote => "unexpected end of data"
  | cellTooLong => "field larger than field limit (" ++ toString maxCellLength ++ ")"
  | strayLineEnd =>
    "new-line character seen in unquoted field - do you need to open the file with newline=''?"

/-- Whether the failure is raised as one of the format. What is wrong with the quotes and line ends
of a row is not. -/
def CsvError.namesFormat : CsvError → Bool
  | missingHeader | extraCells _ => true
  | expectedComma | unclosedQuote | cellTooLong | strayLineEnd => false

/-! ## Rows -/

/-- Where the reader stands in a row. After a carriage return only the end of the line may
follow. -/
inductive Stand where
  | rowStart | cellStart | bare | quoted | afterQuote | lineEnd
  deriving DecidableEq

/-- A row: its cells, and the number of lines of the text up to its end. -/
structure Row where
  line : Nat
  cells : List String

/-- The reader's state: the cell being read, last character first, with its length, and the
finished cells of the row, last one first. -/
structure Reader where
  stand : Stand := .rowStart
  line : Nat := 1
  cell : List Char := []
  size : Nat := 0
  cells : List String := []

/-- What one character leads to: a state inside the row, or a finished row. -/
inductive Step where
  | inside (r : Reader)
  | finished (row : Row) (r : Reader)

namespace Reader

def addChar (r : Reader) (stand : Stand) (c : Char) : Except CsvError Step :=
  if maxCellLength ≤ r.size then .error .cellTooLong
  else .ok (.inside { r with stand := stand, cell := c :: r.cell, size := r.size + 1 })

def saveCell (r : Reader) (stand : Stand) : Reader :=
  { stand := stand, line := r.line, cell := [], size := 0,
    cells := String.ofList r.cell.reverse :: r.cells }

def finish (r : Reader) : Step :=
  .finished ⟨r.line, r.cells.reverse⟩
    { stand := .rowStart, line := r.line + 1, cell := [], size := 0, cells := [] }

def startCell (r : Reader) (c : Char) : Except CsvError Step :=
  match c with
  | '\n' => .ok (r.saveCell .rowStart).finish
  | '\r' => .ok (.inside (r.saveCell .lineEnd))
  | '"' => .ok (.inside { r with stand := .quoted })
  | ',' => .ok (.inside (r.saveCell .cellStart))
  | c => r.addChar .bare c

def step (r : Reader) (c : Char) : Except CsvError Step :=
  match r.stand with
  | .rowStart =>
    match c with
    | '\n' => .ok r.finish
    | '\r' => .ok (.inside { r with stand := .lineEnd })
    | c => r.startCell c
  | .cellStart => r.startCell c
  | .bare =>
    match c with
    | '\n' => .ok (r.saveCell .rowStart).finish
    | '\r' => .ok (.inside (r.saveCell .lineEnd))
    | ',' => .ok (.inside (r.saveCell .cellStart))
    | c => r.addChar .bare c
  | .quoted =>
    match c with
    | '"' => .ok (.inside { r with stand := .afterQuote })
    | '\n' => ({ r with line := r.line + 1 } : Reader).addChar .quoted '\n'
    | c => r.addChar .quoted c
  | .afterQuote =>
    match c with
    | '"' => r.addChar .quoted '"'
    | ',' => .ok (.inside (r.saveCell .cellStart))
    | '\n' => .ok (r.saveCell .rowStart).finish
    | '\r' => .ok (.inside (r.saveCell .lineEnd))
    | _ => .error .expectedComma
  | .lineEnd =>
    match c with
    | '\n' => .ok r.finish
    | '\r' => .ok (.inside r)
    | _ => .error .strayLineEnd

def close (r : Reader) : Except CsvError (List Row) :=
  match r.stand with
  | .rowStart => .ok []
  | .quoted => .error .unclosedQuote
  | .lineEnd => .ok [⟨r.line, r.cells.reverse⟩]
  | .cellStart | .bare | .afterQuote => .ok [⟨r.line, (r.saveCell .rowStart).cells.reverse⟩]

end Reader

/-- The rows of a text in order, and the failure that the reading ended with, if it did. -/
structure Rows where
  rows : List Row
  failure : Option CsvError

def readFrom (rows : List Row) (r : Reader) : List Char → Rows
  | [] =>
    match r.close with
    | .ok last => ⟨rows.reverse ++ last, none⟩
    | .error e => ⟨rows.reverse, some e⟩
  | c :: cs =>
    match r.step c with
    | .ok (.inside r) => readFrom rows r cs
    | .ok (.finished row r) => readFrom (row :: rows) r cs
    | .error e => ⟨rows.reverse, some e⟩

def readRows (cs : List Char) : Rows := readFrom [] {} cs

/-! ## Records -/

/-- The record of a row. A column without a cell holds the empty text; where two columns share a
name the last one counts. -/
def record (header cells : List String) : List (String × String) :=
  collectFields (header.zip (cells ++ List.replicate (header.length - cells.length) ""))

/-- Whether all cells of a record are blank. -/
def isBlankRecord (fields : List (String × String)) : Bool :=
  fields.all fun f => (Text.trim f.2.toList).isEmpty

/-- The records of the rows below the header, and the failure in their course if there is one. Rows
without any cell are passed over. -/
def recordsFrom (header : List String) (failure : Option CsvError) :
    List Row → Except CsvError (List (List (String × String)))
  | [] =>
    match failure with
    | none => .ok []
    | some e => .error e
  | row :: rows =>
    if row.cells.isEmpty then recordsFrom header failure rows
    else if header.length < row.cells.length then .error (.extraCells row.line)
    else
      match recordsFrom header failure rows with
      | .error e => .error e
      | .ok records =>
        let fields := record header row.cells
        .ok (if isBlankRecord fields then records else fields :: records)

def records (cs : List Char) : Except CsvError (List (List (String × String))) :=
  let table := readRows (Text.trim cs)
  match table.rows with
  | header :: rows =>
    if header.cells.isEmpty then .error .missingHeader
    else recordsFrom header.cells table.failure rows
  | [] => .error (table.failure.getD .missingHeader)

def decode (cs : List Char) : Except CsvError Value :=
  (records cs).map fun rs =>
    .arr (rs.map fun fields => .obj (fields.map fun f => (f.1, .str f.2)))

end TypeDraft.Csv
