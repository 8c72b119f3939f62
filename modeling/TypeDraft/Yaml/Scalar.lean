import TypeDraft.Json.Decode
import TypeDraft.Text.Utf8
import TypeDraft.Yaml.Cursor

/-!
# Scalars, names and tags as written

The lexical forms of a YAML text that hold characters of their own: plain, quoted and block
scalars, anchors, tags and directives. Each reader starts at a cursor and gives the text and the
cursor after it.
-/

namespace TypeDraft.Yaml

open Numeral (hexValue?)

/-! ## Quoted scalars -/

def escape? (c : Char) : Option Char :=
  match c with
  | '0' => some '\x00'
  | 'a' => some '\x07'
  | 'b' => some '\x08'
  | 't' | '\t' => some '\t'
  | 'n' => some '\n'
  | 'v' => some '\x0b'
  | 'f' => some '\x0c'
  | 'r' => some '\r'
  | 'e' => some '\x1b'
  | ' ' => some ' '
  | '"' => some '"'
  | '\\' => some '\\'
  | '/' => some '/'
  | 'N' => some '\u0085'
  | '_' => some '\u00a0'
  | 'L' => some '\u2028'
  | 'P' => some '\u2029'
  | _ => none

/-- How many hexadecimal digits follow an escape that gives a code point. -/
def escapeDigits? (c : Char) : Option Nat :=
  match c with
  | 'x' => some 2
  | 'u' => some 4
  | 'U' => some 8
  | _ => none

def takeHex (count : Nat) (c : Cursor) : Except YamlError (Nat × Cursor) :=
  let digits := c.rest.take count
  match digits.mapM hexValue? with
  | some values =>
    if values.length = count then
      .ok (values.foldl (fun n v => n * 16 + v) 0, c.advance count)
    else .error .malformed
  | none => .error .malformed

/-- Skips line ends and the blanks before and after them, collecting the line ends, last one first.
A document mark at the start of a line is refused. -/
def takeBreaks (out : List Char) : (fuel : Nat) → Cursor → Except YamlError (List Char × Cursor)
  | 0, c => .ok (out, c)
  | fuel + 1, c =>
    if c.atDocumentMark then .error .malformed
    else
      let c := c.skipWhile fun ch => ch == ' ' || ch == '\t'
      match c.takeBreak with
      | some (b, c) => takeBreaks (b :: out) fuel c
      | none => .ok (out, c)

/-- Folds a line end inside a quoted scalar: one becomes a blank, of several the first one goes. -/
def foldBreaks (first : Char) (later : List Char) : List Char :=
  if first != '\n' then later ++ [first]
  else if later.isEmpty then [' ']
  else later

/-- Reads to the closing quote. `out` is what has been read, last character first. -/
def readQuoted (quote : Char) (out : List Char) :
    (fuel : Nat) → Cursor → Except YamlError (String × Cursor)
  | 0, _ => .error .malformed
  | fuel + 1, c =>
    match c.rest with
    | [] => .error .malformed
    | ch :: rest =>
      if ch == quote then
        if quote == '\'' && rest.head? == some '\'' then
          readQuoted quote ('\'' :: out) fuel (c.advance 2)
        else .ok (String.ofList out.reverse, c.next)
      else if ch == '\\' && quote == '"' then
        match rest with
        | [] => .error .malformed
        | e :: _ =>
          match escape? e, escapeDigits? e with
          | some d, _ => readQuoted quote (d :: out) fuel (c.advance 2)
          | none, some count =>
            match takeHex count (c.advance 2) with
            | .error err => .error err
            | .ok (n, c) =>
              if n < 0x110000 then readQuoted quote (Text.ofCodeUnit n :: out) fuel c
              else .error (if n < 0x80000000 then .noSuchCharacter else .codeTooLarge)
          | none, none =>
            match c.next.takeBreak with
            | none => .error .malformed
            | some (_, c) =>
              match takeBreaks [] fuel c with
              | .error err => .error err
              | .ok (breaks, c) => readQuoted quote (breaks ++ out) fuel c
      else if ch == ' ' || ch == '\t' || isBreak ch then
        let (blanks, c) := c.takeWhile fun ch => ch == ' ' || ch == '\t'
        match c.takeBreak with
        | some (first, c) =>
          match takeBreaks [] fuel c with
          | .error err => .error err
          | .ok (later, c) => readQuoted quote (foldBreaks first later ++ out) fuel c
        | none =>
          if c.peek.isNone then .error .malformed
          else readQuoted quote (blanks.reverse ++ out) fuel c
      else readQuoted quote (ch :: out) fuel c.next

/-! ## Plain scalars -/

/-- Whether a plain scalar stops before the character at the head of the text. -/
def stopsPlain (flow : Bool) : List Char → Bool
  | [] => true
  | c :: rest =>
    endsWord (some c) ||
      (c == ':' &&
        (endsWord rest.head? || (flow && (rest.head?.any fun d => ",[]\x7b\x7d".contains d)))) ||
      (flow && ",?[]\x7b\x7d".contains c)

/-- The characters up to where a plain scalar stops, last one first. -/
def plainRun (flow : Bool) (out : List Char) : List Char → List Char
  | [] => out
  | c :: cs => if stopsPlain flow (c :: cs) then out else plainRun flow (c :: out) cs

/-- The blanks and line ends after a piece of a plain scalar. -/
structure PlainGap where
  /-- What the gap contributes to the text, last character first; nothing ends the scalar. -/
  text : List Char
  /-- Whether a line end was passed. -/
  newLine : Bool
  cursor : Cursor

/-- Skips blanks and line ends up to the next word or a document mark; true is for the mark. -/
def plainBreaks (out : List Char) : (fuel : Nat) → Cursor → Bool × List Char × Cursor
  | 0, c => (false, out, c)
  | fuel + 1, c =>
    if c.peek == some ' ' then plainBreaks out fuel c.next
    else
      match c.takeBreak with
      | none => (false, out, c)
      | some (b, c) =>
        if c.atDocumentMark then (true, b :: out, c) else plainBreaks (b :: out) fuel c

def plainGap (fuel : Nat) (c : Cursor) : PlainGap :=
  let (blanks, c) := c.takeWhile (· == ' ')
  match c.takeBreak with
  | none => ⟨blanks, false, c⟩
  | some (first, c) =>
    if c.atDocumentMark then ⟨[], true, c⟩
    else
      match plainBreaks [] fuel c with
      | (true, _, c) => ⟨[], true, c⟩
      | (false, later, c) => ⟨foldBreaks first later, true, c⟩

/-- A plain scalar, and whether the line that it ends on is a new one. -/
structure PlainScalar where
  text : String
  newLine : Bool
  cursor : Cursor

/-- Reads a plain scalar whose lines stand at least `indent` columns in. `gap` is what separates
the next piece from what has been read. -/
def readPlain (flow : Bool) (indent : Int) (out gap : List Char) (newLine : Bool) :
    (fuel : Nat) → Cursor → PlainScalar
  | 0, c => ⟨String.ofList out.reverse, newLine, c⟩
  | fuel + 1, c =>
    let piece := if c.peek == some '#' then [] else plainRun flow [] c.rest
    if piece.isEmpty then ⟨String.ofList out.reverse, newLine, c⟩
    else
      let out := piece ++ gap ++ out
      let next := plainGap fuel (c.advance piece.length)
      let c := next.cursor
      if next.text.isEmpty || c.peek == some '#' || (!flow && c.column < indent) then
        ⟨String.ofList out.reverse, next.newLine, c⟩
      else readPlain flow indent out next.text next.newLine fuel c

/-! ## Block scalars -/

/-- What happens to the line ends at the end of a block scalar. -/
inductive Chomping where
  | clip | strip | keep
  deriving DecidableEq

def chomping? : Option Char → Option Chomping
  | some '+' => some .keep
  | some '-' => some .strip
  | _ => none

/-- The indicators after `|` or `>`: chomping and an indentation from one to nine, in either
order. -/
def blockHeader (c : Cursor) : Except YamlError (Chomping × Option Nat × Cursor) :=
  let increment (c : Cursor) : Except YamlError (Option Nat × Cursor) :=
    match c.peek with
    | some d =>
      if d == '0' then .error .malformed
      else if d.isDigit then .ok (some (d.toNat - '0'.toNat), c.next)
      else .ok (none, c)
    | none => .ok (none, c)
  let header : Except YamlError (Chomping × Option Nat × Cursor) :=
    match chomping? c.peek with
    | some chomping => (increment c.next).map fun (i, c) => (chomping, i, c)
    | none =>
      match increment c with
      | .error e => .error e
      | .ok (none, c) => .ok (.clip, none, c)
      | .ok (some i, c) =>
        match chomping? c.peek with
        | some chomping => .ok (chomping, some i, c.next)
        | none => .ok (.clip, some i, c)
  match header with
  | .error e => .error e
  | .ok (chomping, i, c) =>
    if endsLine c.peek || c.peek == some ' ' then .ok (chomping, i, c) else .error .malformed

/-- Skips leading blank lines, collecting the line ends, last one first, and the greatest column
that blanks lead to. -/
def blockIndentation (out : List Char) (widest : Nat) :
    (fuel : Nat) → Cursor → List Char × Nat × Cursor
  | 0, c => (out, widest, c)
  | fuel + 1, c =>
    if c.peek == some ' ' then
      let c := c.next
      blockIndentation out (max widest c.column) fuel c
    else
      match c.takeBreak with
      | some (b, c) => blockIndentation (b :: out) widest fuel c
      | none => (out, widest, c)

def skipIndent (indent : Nat) (c : Cursor) : Cursor :=
  c.advance ((c.rest.take (indent - c.column)).takeWhile (· == ' ')).length

/-- Skips blank lines inside a block scalar, collecting the line ends, last one first. -/
def blockBreaks (indent : Nat) (out : List Char) : (fuel : Nat) → Cursor → List Char × Cursor
  | 0, c => (out, c)
  | fuel + 1, c =>
    let c := skipIndent indent c
    match c.takeBreak with
    | some (b, c) => blockBreaks indent (b :: out) fuel c
    | none => (out, c)

private def isBlankChar (c : Option Char) : Bool := c == some ' ' || c == some '\t'

/-- The text and the end of a block scalar body: what has been read, the last line end and the
blank lines after it, all last character first. -/
structure BlockBody where
  text : List Char
  lastBreak : List Char
  breaks : List Char
  cursor : Cursor

/-- Reads the lines of a block scalar; `breaks` are the blank lines before the next one. -/
def blockLines (folded : Bool) (indent : Nat) (out lastBreak breaks : List Char) :
    (fuel : Nat) → Cursor → BlockBody
  | 0, c => ⟨out, lastBreak, breaks, c⟩
  | fuel + 1, c =>
    if c.column = indent ∧ c.peek.isSome then
      let startsFull := !isBlankChar c.peek
      let (line, c) := c.takeWhile fun ch => !isBreak ch
      let out := line.reverse ++ breaks ++ out
      let (lastBreak, c) :=
        match c.takeBreak with
        | some (b, c) => ([b], c)
        | none => ([], c)
      let (breaks, c) := blockBreaks indent [] fuel c
      if c.column = indent ∧ c.peek.isSome then
        let joined :=
          if folded && lastBreak == ['\n'] && startsFull && !isBlankChar c.peek then
            if breaks.isEmpty then [' '] else []
          else lastBreak
        blockLines folded indent (joined ++ out) lastBreak breaks fuel c
      else ⟨out, lastBreak, breaks, c⟩
    else ⟨out, lastBreak, breaks, c⟩

/-- Reads a block scalar from after its `|` or `>`; `parent` is the column of what holds it. -/
def readBlock (folded : Bool) (parent : Int) (fuel : Nat) (c : Cursor) :
    Except YamlError (String × Cursor) :=
  match blockHeader c with
  | .error e => .error e
  | .ok (chomping, increment, c) =>
    match c.skipRestOfLine with
    | .error e => .error e
    | .ok c =>
      let least := (max (parent + 1) 1).toNat
      let (indent, breaks, c) :=
        match increment with
        | none =>
          let (breaks, widest, c) := blockIndentation [] 0 fuel c
          (max least widest, breaks, c)
        | some i =>
          let indent := least + i - 1
          let (breaks, c) := blockBreaks indent [] fuel c
          (indent, breaks, c)
      let body := blockLines folded indent [] [] breaks fuel c
      let tail :=
        match chomping with
        | .strip => []
        | .clip => body.lastBreak
        | .keep => body.breaks ++ body.lastBreak
      .ok (String.ofList (tail ++ body.text).reverse, body.cursor)

/-! ## Names, tags and directives -/

def readName (c : Cursor) : Except YamlError (String × Cursor) :=
  let (name, c) := c.takeWhile isWordChar
  if name.isEmpty then .error .malformed
  else if endsWord c.peek || (c.peek.any fun ch => "?:,]\x7d%@\x60".contains ch) then
    .ok (String.ofList name, c)
  else .error .malformed

private def isUriChar (c : Char) : Bool :=
  c.isAlphanum || "-;/?:@&=+$,_.!~*'()[]".contains c

/-- Takes a run of percent-encoded bytes. -/
def uriBytes (out : List UInt8) : (fuel : Nat) → Cursor → Except YamlError (List UInt8 × Cursor)
  | 0, c => .ok (out.reverse, c)
  | fuel + 1, c =>
    if c.peek == some '%' then
      match takeHex 2 c.next with
      | .error e => .error e
      | .ok (n, c) => uriBytes (UInt8.ofNat n :: out) fuel c
    else .ok (out.reverse, c)

def readUri (out : List Char) : (fuel : Nat) → Cursor → Except YamlError (String × Cursor)
  | 0, _ => .error .malformed
  | fuel + 1, c =>
    match c.peek with
    | some '%' =>
      match uriBytes [] fuel c with
      | .error e => .error e
      | .ok (bs, c) =>
        match Text.decodeUtf8 bs with
        | .error _ => .error .malformed
        | .ok s => readUri (s.toList.reverse ++ out) fuel c
    | some ch =>
      if isUriChar ch then readUri (ch :: out) fuel c.next
      else if out.isEmpty then .error .malformed
      else .ok (String.ofList out.reverse, c)
    | none => if out.isEmpty then .error .malformed else .ok (String.ofList out.reverse, c)

/-- Reads a tag handle: a mark of exclamation, or a name between two of them. -/
def readHandle (c : Cursor) : Except YamlError (String × Cursor) :=
  if c.peek != some '!' then .error .malformed
  else if c.peekAt 1 == some ' ' then .ok ("!", c.next)
  else
    let (name, c) := c.next.takeWhile isWordChar
    if c.peek == some '!' then .ok ("!" ++ String.ofList name ++ "!", c.next)
    else .error .malformed

/-- A tag as written: a handle to be replaced, unless the tag is given in full, and the rest. -/
structure TagName where
  handle : Option String
  suffix : String

private def endsTag (c : Option Char) : Bool := endsLine c || c == some ' '

def readTag (fuel : Nat) (c : Cursor) : Except YamlError (TagName × Cursor) := do
  let (tag, c) ←
    match c.peekAt 1 with
    | some '<' => do
      let (suffix, c) ← readUri [] fuel (c.advance 2)
      if c.peek == some '>' then pure (TagName.mk none suffix, c.next) else .error .malformed
    | ch =>
      if endsWord ch then pure (TagName.mk none "!", c.next)
      else do
        let word := c.next.rest.takeWhile fun ch => !endsTag (some ch)
        let (handle, c) ← if word.contains '!' then readHandle c else pure ("!", c.next)
        let (suffix, c) ← readUri [] fuel c
        pure (TagName.mk (some handle) suffix, c)
  if endsTag c.peek then pure (tag, c) else .error .malformed

inductive Directive where
  | version (major : Nat)
  | tag (handle replacement : String)
  | other

private def readNumber (c : Cursor) : Except YamlError (Nat × Cursor) :=
  let (digits, c) := c.takeWhile Char.isDigit
  if digits.isEmpty then .error .malformed else .ok (Numeral.digitsValue digits, c)

/-- Reads a directive from after its percent sign, with the line that it stands on. -/
def readDirective (fuel : Nat) (c : Cursor) : Except YamlError (Directive × Cursor) := do
  let (name, c) := c.takeWhile isWordChar
  if name.isEmpty || !endsTag c.peek then .error .malformed
  let (directive, c) ←
    if name == "YAML".toList then do
      let (major, c) ← readNumber (c.skipWhile (· == ' '))
      if c.peek != some '.' then .error .malformed
      let (_, c) ← readNumber c.next
      if endsTag c.peek then pure (Directive.version major, c) else .error .malformed
    else if name == "TAG".toList then do
      let (handle, c) ← readHandle (c.skipWhile (· == ' '))
      if c.peek != some ' ' then .error .malformed
      let (replacement, c) ← readUri [] fuel (c.skipWhile (· == ' '))
      if endsTag c.peek then pure (Directive.tag handle replacement, c) else .error .malformed
    else pure (Directive.other, c.skipWhile fun ch => !isBreak ch)
  let c ← c.skipRestOfLine
  pure (directive, c)

end TypeDraft.Yaml
