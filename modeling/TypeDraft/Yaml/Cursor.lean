import TypeDraft.Calendar

/-!
# A place in a YAML text

A cursor knows the text that is left and where it stands: how many characters came before it, on
which line, in which column.
-/

namespace TypeDraft.Yaml

/-- Why a text has no YAML value. All faults of form are one; the others arise when a well-formed
scalar has no value of the type that it is tagged with. -/
inductive YamlError where
  | malformed
  | tooDeep
  | calendar (e : CalendarError)
  | notATimestamp
  /-- A timestamp is given by a mapping. -/
  | notAText
  | notAnInteger (base : Nat) (text : String)
  | integerTooLong (digits : Nat)
  /-- A place of a number that counts in sixties is worth more than any floating-point number. -/
  | placeTooLarge
  | notAFloat (text : String)
  | notABoolean (text : String)
  | emptyNumber
  | noSuchCharacter
  /-- An escape gives a code point of more than thirty-one bits. -/
  | codeTooLarge
  deriving DecidableEq

/-- A position in a text. -/
structure Cursor where
  rest : List Char
  index : Nat := 0
  line : Nat := 0
  column : Nat := 0

def isBreak (c : Char) : Bool :=
  c == '\n' || c == '\r' || c == '\u0085' || c == '\u2028' || c == '\u2029'

/-- What may follow an indicator or a document mark: a blank, a line end or the end of the text. -/
def endsWord : Option Char → Bool
  | none => true
  | some c => c == ' ' || c == '\t' || isBreak c

/-- A line end or the end of the text. -/
def endsLine : Option Char → Bool
  | none => true
  | some c => isBreak c

/-- The characters that a text may hold. -/
def isReadable (c : Char) : Bool :=
  let n := c.toNat
  n == 0x09 || n == 0x0a || n == 0x0d || (0x20 ≤ n && n ≤ 0x7e) || n == 0x85 ||
    (0xa0 ≤ n && n ≤ 0xd7ff) || (0xe000 ≤ n && n ≤ 0xfffd) || 0x10000 ≤ n

def isWordChar (c : Char) : Bool := c.isAlphanum || c == '-' || c == '_'

namespace Cursor

def peek (c : Cursor) : Option Char := c.rest.head?

def peekAt (c : Cursor) (n : Nat) : Option Char := (c.rest.drop n).head?

/-- One character on. A carriage return ends its line unless a line feed follows, and a byte order
mark takes no column. -/
def next (c : Cursor) : Cursor :=
  match c.rest with
  | [] => c
  | ch :: rest =>
    if ch == '\r' && rest.head? == some '\n' then
      { rest := rest, index := c.index + 1, line := c.line, column := c.column + 1 }
    else if isBreak ch then
      { rest := rest, index := c.index + 1, line := c.line + 1, column := 0 }
    else
      { rest := rest, index := c.index + 1, line := c.line,
        column := if ch == '\ufeff' then c.column else c.column + 1 }

def advance (c : Cursor) : Nat → Cursor
  | 0 => c
  | n + 1 => c.next.advance n

def takeWhile (c : Cursor) (test : Char → Bool) : List Char × Cursor :=
  let taken := c.rest.takeWhile test
  (taken, c.advance taken.length)

def skipWhile (c : Cursor) (test : Char → Bool) : Cursor := (c.takeWhile test).2

/-- Takes a line end, if there is one; the text of it is a line feed, or the separator itself. -/
def takeBreak (c : Cursor) : Option (Char × Cursor) :=
  match c.rest with
  | '\r' :: '\n' :: _ => some ('\n', c.advance 2)
  | ch :: _ =>
    if ch == '\r' || ch == '\n' || ch == '\u0085' then some ('\n', c.next)
    else if isBreak ch then some (ch, c.next)
    else none
  | [] => none

def skipComment (c : Cursor) : Cursor :=
  if c.peek == some '#' then c.skipWhile fun ch => !isBreak ch else c

/-- Skips blanks and a comment that nothing but the end of the line may follow, and the line
end. -/
def skipRestOfLine (c : Cursor) : Except YamlError Cursor :=
  let c := (c.skipWhile (· == ' ')).skipComment
  match c.takeBreak with
  | some (_, c) => .ok c
  | none => if c.peek.isNone then .ok c else .error .malformed

/-- Whether a document mark stands here: three equal signs of the kind, then no word goes on. -/
def atMark (c : Cursor) (sign : Char) : Bool :=
  match c.rest with
  | x :: y :: z :: rest => x == sign && y == sign && z == sign && endsWord rest.head?
  | _ => false

def atDocumentMark (c : Cursor) : Bool := c.atMark '-' || c.atMark '.'

end Cursor

end TypeDraft.Yaml
