import TypeDraft.Number.Shortest
import TypeDraft.Text.Printable
import TypeDraft.Text.Surrogate
import TypeDraft.Value

/-!
# Display texts of values

How a value is shown in an error message, in a table cell, or as the text of a key that is not a
string. Inside another value a string is quoted, and a moment or a decimal is shown as the
expression that builds it.
-/

namespace TypeDraft

namespace Text

private def hexWidth (width n : Nat) : List Char :=
  let digits := Nat.toDigits 16 n
  List.replicate (width - digits.length) '0' ++ digits

private def displayChar (quote c : Char) : List Char :=
  if c == quote || c == '\\' then ['\\', c]
  else if c == '\n' then ['\\', 'n']
  else if c == '\r' then ['\\', 'r']
  else if c == '\t' then ['\\', 't']
  else
    match loneSurrogate? c with
    | some n => '\\' :: 'u' :: hexWidth 4 n
    | none =>
      if isPrintable c then [c]
      else if c.toNat < 0x100 then '\\' :: 'x' :: hexWidth 2 c.toNat
      else if c.toNat < 0x10000 then '\\' :: 'u' :: hexWidth 4 c.toNat
      else '\\' :: 'U' :: hexWidth 8 c.toNat

/-- Single quotes are used unless they alone occur in the text. -/
private def displayQuote (cs : List Char) : Char :=
  if cs.contains '\'' && !cs.contains '"' then '"' else '\''

def displayString (s : String) : String :=
  let cs := s.toList
  let quote := displayQuote cs
  String.ofList (quote :: cs.flatMap (displayChar quote) ++ [quote])

private def displayByte (quote : Char) (b : UInt8) : List Char :=
  let c := Char.ofNat b.toNat
  if c == quote || c == '\\' then ['\\', c]
  else if c == '\n' then ['\\', 'n']
  else if c == '\r' then ['\\', 'r']
  else if c == '\t' then ['\\', 't']
  else if 0x20 ≤ b && b < 0x7f then [c]
  else '\\' :: 'x' :: hexWidth 2 b.toNat

def displayBytes (bs : List UInt8) : String :=
  let quote := displayQuote (bs.map fun b => Char.ofNat b.toNat)
  String.ofList ('b' :: quote :: bs.flatMap (displayByte quote) ++ [quote])

end Text

private def joinNumbers (ns : List Nat) : String := ", ".intercalate (ns.map toString)

/-- Seconds and microseconds are left out where they and all that follows are zero. -/
private def Clock.displayParts (c : Clock) : List Nat :=
  if c.microsecond ≠ 0 then [c.hour, c.minute, c.second, c.microsecond]
  else if c.second ≠ 0 then [c.hour, c.minute, c.second]
  else [c.hour, c.minute]

private def Offset.display (offset : Offset) : String :=
  if offset = 0 then "datetime.timezone.utc"
  else "datetime.timezone(" ++ offset.lengthText ++ ")"

/-- The expression that builds a moment. -/
def Moment.display : Moment → String
  | date d => "datetime.date(" ++ joinNumbers [d.year, d.month, d.day] ++ ")"
  | time c => "datetime.time(" ++ joinNumbers c.displayParts ++ ")"
  | dateTime d c offset =>
    "datetime.datetime(" ++ joinNumbers ([d.year, d.month, d.day] ++ c.displayParts) ++
      (match offset with | none => "" | some o => ", tzinfo=" ++ o.display) ++ ")"

namespace Value

mutual

/-- The display of a value inside another one. -/
def displayQuoted : Value → String
  | null => "None"
  | bool b => if b then "True" else "False"
  | int n => toString n
  | float x => x.text
  | str s => Text.displayString s
  | arr items => "[" ++ ", ".intercalate (displayItems items) ++ "]"
  | obj fields => "\x7b" ++ ", ".intercalate (displayFields fields) ++ "\x7d"
  | tuple items =>
    match displayItems items with
    | [s] => "(" ++ s ++ ",)"
    | ss => "(" ++ ", ".intercalate ss ++ ")"
  | set items =>
    match displayItems items with
    | [] => "set()"
    | ss => "\x7b" ++ ", ".intercalate ss ++ "\x7d"
  | map entries => "\x7b" ++ ", ".intercalate (displayEntries entries) ++ "\x7d"
  | bytes bs => Text.displayBytes bs
  | moment m => m.display
  | decimal text => "Decimal('" ++ text ++ "')"
termination_by structural v => v

def displayItems : List Value → List String
  | [] => []
  | v :: vs => displayQuoted v :: displayItems vs
termination_by structural vs => vs

def displayFields : List (String × Value) → List String
  | [] => []
  | (k, v) :: fs => (Text.displayString k ++ ": " ++ displayQuoted v) :: displayFields fs
termination_by structural fs => fs

def displayEntries : List (Value × Value) → List String
  | [] => []
  | (k, v) :: es => (displayQuoted k ++ ": " ++ displayQuoted v) :: displayEntries es
termination_by structural es => es

end

/-- The display of a value on its own: a string, a moment and a decimal are shown plainly. -/
def display : Value → String
  | str s => s
  | moment m => m.iso " "
  | decimal text => text
  | v => v.displayQuoted

end Value

end TypeDraft
