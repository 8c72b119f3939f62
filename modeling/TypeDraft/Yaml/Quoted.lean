import TypeDraft.Json.Quoted
import TypeDraft.Yaml.Plain

/-!
# Writing strings as YAML

A string is written plain where that reads back as the same string, else between single quotes, and
between double quotes with escapes where even those do not keep it. Lines are broken once they
have passed the eightieth column; continued lines are indented by two blanks.
-/

namespace TypeDraft.Yaml

inductive ScalarStyle where
  | plain | single | double
  deriving DecidableEq

/-- A blank, a line end or a null character. -/
def isGap (c : Char) : Bool := c == '\x00' || c == ' ' || c == '\t' || isBreak c

/-- What neither plain nor singly quoted text may hold. -/
def isSpecial (c : Char) : Bool := c != '\n' && !(0x20 ≤ c.toNat && c.toNat ≤ 0x7e)

/-- The characters that mean something else at the head of a plain scalar. -/
def leadIndicators : List Char :=
  ['#', ',', '[', ']', '\x7b', '\x7d', '&', '*', '!', '|', '>', '\'', '"', '%', '@', '\x60']

/-- Whether a text holds a colon before a gap or a hash after one, from a place on that `afterGap`
may tell of. -/
def hasInnerIndicator (afterGap : Bool) : List Char → Bool
  | [] => false
  | c :: cs =>
    (c == ':' && cs.head?.all isGap) || (c == '#' && afterGap) || hasInnerIndicator (isGap c) cs

/-- Whether a text read as a plain scalar would not be that scalar alone. -/
def hasIndicator (cs : List Char) : Bool :=
  match cs with
  | [] => false
  | c :: rest =>
    "---".toList.isPrefixOf cs || "...".toList.isPrefixOf cs || leadIndicators.contains c ||
      ((c == '?' || c == '-') && rest.head?.all isGap) || hasInnerIndicator true cs

/-- Whether one character stands right before another of some sort. -/
def hasPair (first second : Char → Bool) : List Char → Bool
  | c :: d :: cs => (first c && second d) || hasPair first second (d :: cs)
  | _ => false

def isSpaceChar (c : Char) : Bool := c == ' '

def scalarStyle (s : String) : ScalarStyle :=
  let cs := s.toList
  let edge (c : Option Char) : Bool := c.any fun c => c == ' ' || isBreak c
  let keepsSingle := !cs.any isSpecial && !hasPair isBreak isSpaceChar cs &&
    !hasPair isSpaceChar isBreak cs
  if plainTag s = .str && keepsSingle && !cs.any isBreak && !edge cs.head? && !edge cs.getLast? &&
      !hasIndicator cs then .plain
  else if keepsSingle then .single
  else .double

/-- The column after which a line is broken. -/
def lineWidth : Nat := 80

/-- A line end with the indentation of a continued line. -/
def continued : List Char := ['\n', ' ', ' ']

/-- A text that is being written, the last character first, and the column reached. -/
structure Written where
  out : List Char
  column : Nat

namespace Written

def push (w : Written) (cs : List Char) : Written := ⟨cs.reverse ++ w.out, w.column + cs.length⟩

def breakLine (w : Written) : Written := ⟨continued.reverse ++ w.out, 2⟩

end Written

/-- Writes the rest of a text whose lines are kept: a single blank past the width becomes a line
end if it stands between other characters, and a line end is doubled. `quote` tells how the quotes
in the text are written. -/
def writeFolded (quote : List Char) (isFirst : Bool) (w : Written) (cs : List Char) : Written :=
  match cs with
  | [] => w
  | c :: rest =>
    if c == ' ' then
      let blanks := rest.takeWhile (· == ' ')
      let after := rest.dropWhile (· == ' ')
      let w :=
        if blanks.isEmpty && lineWidth < w.column && !isFirst && !after.isEmpty then w.breakLine
        else w.push (c :: blanks)
      writeFolded quote false w after
    else if c == '\n' then
      let breaks := rest.takeWhile (· == '\n')
      let w : Written := ⟨List.replicate (breaks.length + 2) '\n' ++ w.out, 0⟩
      writeFolded quote false (w.push [' ', ' ']) (rest.dropWhile (· == '\n'))
    else writeFolded quote false (w.push (if c == '\'' then quote else [c])) rest
termination_by cs.length
decreasing_by
  · have : (rest.dropWhile (· == ' ')).length ≤ rest.length := (List.dropWhile_suffix _).length_le
    simp only [List.length_cons]
    omega
  · have : (rest.dropWhile (· == '\n')).length ≤ rest.length := (List.dropWhile_suffix _).length_le
    simp only [List.length_cons]
    omega
  · simp

def hexPadded (width n : Nat) : List Char :=
  let digits := (Nat.toDigits 16 n).map Char.toUpper
  List.replicate (width - digits.length) '0' ++ digits

/-- How a character is written between double quotes, if not as itself. -/
def escapeOf? (c : Char) : Option (List Char) :=
  let n := c.toNat
  match c with
  | '"' => some ['\\', '"']
  | '\\' => some ['\\', '\\']
  | '\x00' => some ['\\', '0']
  | '\x07' => some ['\\', 'a']
  | '\x08' => some ['\\', 'b']
  | '\t' => some ['\\', 't']
  | '\n' => some ['\\', 'n']
  | '\x0b' => some ['\\', 'v']
  | '\x0c' => some ['\\', 'f']
  | '\r' => some ['\\', 'r']
  | '\x1b' => some ['\\', 'e']
  | '\u0085' => some ['\\', 'N']
  | '\u00a0' => some ['\\', '_']
  | '\u2028' => some ['\\', 'L']
  | '\u2029' => some ['\\', 'P']
  | _ =>
    if 0x20 ≤ n && n ≤ 0x7e then none
    else if n ≤ 0xff then some ('\\' :: 'x' :: hexPadded 2 n)
    else if n ≤ 0xffff then some ('\\' :: 'u' :: hexPadded 4 n)
    else some ('\\' :: 'U' :: hexPadded 8 n)

/-- Writes the rest of a text between double quotes. Once the width is passed a line is ended with a
backslash, after an escape or before a blank; a blank that begins the next line has one before it.
`held` holds characters that do not count towards the width yet, the last first. -/
def writeEscaped (isFirst : Bool) (held : List Char) (w : Written) : List Char → Written
  | [] => w.push held.reverse
  | c :: cs =>
    let mayBreak := !isFirst && !cs.isEmpty
    let onward (next : Option Char) (w : Written) : Written :=
      if next = some ' ' then w.breakLine.push ['\\'] else w.breakLine
    match escapeOf? c with
    | some e =>
      let w := (w.push held.reverse).push e
      if mayBreak && lineWidth + 1 < w.column then
        writeEscaped false [] (onward cs.head? (w.push ['\\'])) cs
      else writeEscaped false [] w cs
    | none =>
      if mayBreak && (c == ' ' || held.isEmpty) && lineWidth < w.column + held.length then
        writeEscaped false [c] (onward (some c) ((w.push held.reverse).push ['\\'])) cs
      else writeEscaped false (c :: held) w cs

def writeString (column : Nat) (s : String) : String :=
  let cs := s.toList
  let w : Written := ⟨[], column⟩
  let w :=
    match scalarStyle s with
    | .plain => writeFolded ['\''] true w cs
    | .single => (writeFolded ['\'', '\''] true (w.push ['\'']) cs).push ['\'']
    | .double => (writeEscaped true [] (w.push ['"']) cs).push ['"']
  String.ofList w.out.reverse

end TypeDraft.Yaml
