import TypeDraft.Terminal.Width

/-!
# Lines on a terminal

A text is broken into lines that fit a width: at its line feeds, and else between words. A word that
is too wide for any line is folded over several lines or cut.
-/

namespace TypeDraft.Terminal

/-- What becomes of a word that is wider than a line. -/
inductive Overflow where
  | fold
  /-- The line is cut and ends in an ellipsis. -/
  | ellipsis
  deriving DecidableEq

def movesCursor (c : Char) : Bool :=
  c == '\x07' || c == '\x08' || c == '\x0b' || c == '\x0c' || c == '\r'

def blanks (n : Nat) : List Char := List.replicate n ' '

/-- Fills a text up to a width. -/
def pad (n : Nat) (cs : List Char) : List Char := cs ++ blanks (n - width cs)

def tabSize : Nat := 8

/-- Replaces each tab by the blanks up to the next tab stop; `out` is the line so far, the last
character first, and `column` where it ends. -/
private def expandFrom (out : List Char) (column : Nat) : List Char → List Char
  | [] => out.reverse
  | c :: cs =>
    if c == '\t' then
      let next := (column / tabSize + 1) * tabSize
      expandFrom (blanks (next - column) ++ out) next cs
    else expandFrom (c :: out) (column + charWidth c) cs

def expandTabs (line : List Char) : List Char := expandFrom [] 0 line

/-- The longest head of a text that fits a width. -/
def fitting (n : Nat) : List Char → List Char
  | [] => []
  | c :: cs => if charWidth c ≤ n then c :: fitting (n - charWidth c) cs else []

/-- A text cut or filled up to a width. -/
def setWidth (n : Nat) (cs : List Char) : List Char := pad n (fitting n cs)

/-- Cuts a line that is too wide. -/
def truncate (overflow : Overflow) (n : Nat) (line : List Char) : List Char :=
  if width line ≤ n then line
  else
    match overflow with
    | .fold => setWidth n line
    | .ellipsis => setWidth (n - 1) line ++ ['…']

/-- The words of a line, each with the blanks behind it and the first with those before it. `word`
is the word being read, the last character first, and `ended` tells whether blanks behind it have
been met. -/
private def wordsFrom (word : List Char) (begun ended : Bool) : List Char → List (List Char)
  | [] => if begun then [word.reverse] else []
  | c :: cs =>
    if Text.isBlank c then wordsFrom (c :: word) begun begun cs
    else if ended then word.reverse :: wordsFrom [c] true false cs
    else wordsFrom (c :: word) true false cs

def words (line : List Char) : List (List Char) := wordsFrom [] false false line

/-- The pieces of a word that fit a width, in order. -/
private def foldFrom (n used : Nat) (piece : List Char) : List Char → List (List Char)
  | [] => [piece.reverse]
  | c :: cs =>
    if n < used + charWidth c then piece.reverse :: foldFrom n (charWidth c) [c] cs
    else foldFrom n (used + charWidth c) (c :: piece) cs

def foldWord (n : Nat) (word : List Char) : List (List Char) := foldFrom n 0 [] word

private def trimEnd (cs : List Char) : List Char := (cs.reverse.dropWhile Text.isBlank).reverse

/-- Puts a word behind the line so far, whose width is `used`: the lines that are full by then, and
the line that it stands in. -/
private def place (overflow : Overflow) (n : Nat) (line : List Char) (used : Nat)
    (word : List Char) : List (List Char) × List Char × Nat :=
  let bare := width (trimEnd word)
  let before := if line.isEmpty then [] else [line]
  if bare + used ≤ n then ([], line ++ word, used + width word)
  else if n < bare then
    let pieces :=
      match overflow with
      | .fold => foldWord n word
      | .ellipsis => [word]
    let last := pieces.getLastD []
    (before ++ pieces.dropLast, last, width last)
  else if used = 0 || line.isEmpty then ([], line ++ word, used)
  else (before, word, width word)

private def fill (overflow : Overflow) (n : Nat) (line : List Char) (used : Nat) :
    List (List Char) → List (List Char)
  | [] => [line]
  | word :: words =>
    let (full, line, used) := place overflow n line used word
    full ++ fill overflow n line used words

/-- Takes blanks from the end of a line that has more characters than the width. -/
private def trimTo (n : Nat) (line : List Char) : List Char :=
  let spaces := (line.reverse.takeWhile Text.isBlank).length
  line.take (line.length - min spaces (line.length - n))

/-- The lines of one line of text; blanks behind its last word stay with it. -/
private def wrapLine (overflow : Overflow) (n : Nat) (line : List Char) : List (List Char) :=
  let line := if line.contains '\t' then expandTabs line else line
  let ws := words line
  let lines := if ws.isEmpty then [line] else fill overflow n [] 0 ws
  lines.map fun l => truncate overflow n (trimTo n l)

def wrap (overflow : Overflow) (n : Nat) (s : String) : List (List Char) :=
  (Text.lines (s.toList.filter fun c => !movesCursor c)).flatMap (wrapLine overflow n)

/-- The lines of a text as they are counted, however they end. -/
private def linesOf (s : String) : List (List Char) :=
  (s.toList.filter fun c => !movesCursor c).splitBy fun c _ => !Text.endsLine c

/-- The width of the widest line of a text. -/
def widest (s : String) : Nat :=
  ((linesOf s).map fun l => width (l.filter fun c => !Text.endsLine c)).foldl max 0

/-- The width of the terminal that output is written for. -/
def screenWidth : Nat := 1000

/-- A text as it is printed, with a line end behind every line. -/
def printed (s : String) : String :=
  String.join ((wrap .fold screenWidth s).map fun l => String.ofList l ++ "\n")

end TypeDraft.Terminal
