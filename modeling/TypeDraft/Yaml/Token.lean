import TypeDraft.Yaml.Scalar

/-!
# Tokens of YAML

A `TokenSource` gives the tokens of a text one after another. Block structure is not written out in
the text: it follows from columns, and a mapping key is only known as one when its colon comes.
The source therefore keeps the open columns, and remembers where a key may have begun.
-/

namespace TypeDraft.Yaml

inductive Token where
  | streamEnd
  | directive (d : Directive)
  | documentStart
  | documentEnd
  | blockSequenceStart
  | blockMappingStart
  | blockEnd
  | flowSequenceStart
  | flowSequenceEnd
  | flowMappingStart
  | flowMappingEnd
  | flowEntry
  | blockEntry
  | key
  | value
  | reference (name : String)
  | anchor (name : String)
  | tag (name : TagName)
  | scalar (text : String) (isPlain : Bool)

/-- A place where a key may have begun: the number of its first token and where it stands. A
required key stands in the column of the mapping that is open. -/
structure KeyStart where
  token : Nat
  required : Bool
  index : Nat
  line : Nat
  column : Nat

/-- A key begins and ends on one line and is at most 1024 characters long. -/
def KeyStart.isStale (k : KeyStart) (c : Cursor) : Bool :=
  k.line != c.line || 1024 < c.index - k.index

/-- A text on its way to tokens. -/
structure TokenSource where
  cursor : Cursor
  /-- More than the characters of the text: no reading takes as many steps. -/
  bound : Nat
  /-- The tokens found but not yet taken, in order. -/
  queue : List Token := []
  taken : Nat := 0
  finished : Bool := false
  /-- How many flow collections are open. -/
  flowLevel : Nat := 0
  /-- The column of the innermost open block collection, `-1` for none, then the outer ones. -/
  indent : Int := -1
  indents : List Int := []
  keyAllowed : Bool := true
  /-- At most one possible key for each flow level. -/
  keyStarts : List (Nat × KeyStart) := []

namespace TokenSource

abbrev Result := Except YamlError TokenSource

def push (s : TokenSource) (t : Token) : TokenSource := { s with queue := s.queue ++ [t] }

def inFlow (s : TokenSource) : Bool := 0 < s.flowLevel

/-! ## Possible keys -/

def keyStart? (s : TokenSource) : Option KeyStart := s.keyStarts.lookup s.flowLevel

def forgetKey (s : TokenSource) : TokenSource :=
  { s with keyStarts := s.keyStarts.filter fun k => k.1 != s.flowLevel }

/-- Gives up the keys whose colon can no longer come. -/
def dropStaleKeys (s : TokenSource) : Result :=
  if s.keyStarts.any fun k => k.2.isStale s.cursor && k.2.required then .error .malformed
  else .ok { s with keyStarts := s.keyStarts.filter fun k => !k.2.isStale s.cursor }

def dropKey (s : TokenSource) : Result :=
  match s.keyStart? with
  | some k => if k.required then .error .malformed else .ok s.forgetKey
  | none => .ok s

def noteKey (s : TokenSource) : Result :=
  if s.keyAllowed then
    s.dropKey.map fun s =>
      let start : KeyStart :=
        { token := s.taken + s.queue.length
          required := !s.inFlow && s.indent == s.cursor.column
          index := s.cursor.index, line := s.cursor.line, column := s.cursor.column }
      { s with keyStarts := s.keyStarts ++ [(s.flowLevel, start)] }
  else .ok s

/-! ## Columns -/

/-- Closes the block collections that stand further in than a column. -/
def unwind (s : TokenSource) (column : Int) : TokenSource :=
  if s.inFlow then s
  else
    let (closed, rest) := (s.indent :: s.indents).span fun i => column < i
    { s with
      queue := s.queue ++ List.replicate closed.length .blockEnd
      indent := rest.headD (-1)
      indents := rest.tail }

/-- Opens a block collection at a column further in than the open ones; false when it is not. -/
def openColumn (s : TokenSource) (column : Nat) : Bool × TokenSource :=
  if s.indent < column then
    (true, { s with indent := column, indents := s.indent :: s.indents })
  else (false, s)

/-! ## Finding tokens -/

/-- Skips blanks, comments and line ends. In block context a key may begin on a new line. -/
def skipToToken (s : TokenSource) : (fuel : Nat) → TokenSource
  | 0 => s
  | fuel + 1 =>
    let c := (s.cursor.skipWhile (· == ' ')).skipComment
    match c.takeBreak with
    | some (_, c) =>
      skipToToken { s with cursor := c, keyAllowed := s.keyAllowed || !s.inFlow } fuel
    | none => { s with cursor := c }

def finishStream (s : TokenSource) : Result :=
  (s.unwind (-1)).dropKey.map fun s =>
    { s with keyAllowed := false, keyStarts := [], finished := true }.push .streamEnd

def takeDirective (fuel : Nat) (s : TokenSource) : Result := do
  let s ← (s.unwind (-1)).dropKey
  let (d, c) ← readDirective fuel s.cursor.next
  pure ({ s with keyAllowed := false, cursor := c }.push (.directive d))

def takeDocumentMark (s : TokenSource) (t : Token) : Result :=
  (s.unwind (-1)).dropKey.map fun s =>
    { s with keyAllowed := false, cursor := s.cursor.advance 3 }.push t

def openFlow (s : TokenSource) (t : Token) : Result :=
  s.noteKey.map fun s =>
    { s with flowLevel := s.flowLevel + 1, keyAllowed := true, cursor := s.cursor.next }.push t

/-- A closing mark for which no collection is open stays a token: it ends the document before. -/
def closeFlow (s : TokenSource) (t : Token) : Result :=
  s.dropKey.map fun s =>
    { s with flowLevel := s.flowLevel - 1, keyAllowed := false, cursor := s.cursor.next }.push t

def takeFlowEntry (s : TokenSource) : Result :=
  s.dropKey.map fun s => { s with keyAllowed := true, cursor := s.cursor.next }.push .flowEntry

/-- An entry of a block sequence, or a key that is marked as one, may open its collection. -/
def openBlock (s : TokenSource) (start : Token) : Result :=
  if s.inFlow then .ok s
  else if !s.keyAllowed then .error .malformed
  else
    match s.openColumn s.cursor.column with
    | (true, s) => .ok (s.push start)
    | (false, s) => .ok s

def takeBlockEntry (s : TokenSource) : Result := do
  let s ← s.openBlock .blockSequenceStart
  let s ← s.dropKey
  pure ({ s with keyAllowed := true, cursor := s.cursor.next }.push .blockEntry)

def takeKey (s : TokenSource) : Result := do
  let s ← s.openBlock .blockMappingStart
  let s ← s.dropKey
  pure ({ s with keyAllowed := !s.inFlow, cursor := s.cursor.next }.push .key)

/-- Puts tokens in front of the one with a given number. -/
def insertAt (s : TokenSource) (token : Nat) (ts : List Token) : TokenSource :=
  let n := token - s.taken
  { s with queue := s.queue.take n ++ ts ++ s.queue.drop n }

/-- A colon makes the possible key of this level a key; else the key before it is empty or was
marked. -/
def takeValue (s : TokenSource) : Result := do
  let s ←
    match s.keyStart? with
    | some k =>
      let s := s.forgetKey
      let (opened, s) := if s.inFlow then (false, s) else s.openColumn k.column
      let s := s.insertAt k.token (if opened then [.blockMappingStart, .key] else [.key])
      pure { s with keyAllowed := false }
    | none =>
      let s ← s.openBlock .blockMappingStart
      ({ s with keyAllowed := !s.inFlow } : TokenSource).dropKey
  pure ({ s with cursor := s.cursor.next }.push .value)

/-- Takes a token that may begin a key. -/
def takeNode (s : TokenSource) (read : Cursor → Except YamlError (Token × Cursor)) :
    Result := do
  let s ← s.noteKey
  let (t, c) ← read s.cursor
  pure ({ s with keyAllowed := false, cursor := c }.push t)

def takePlain (fuel : Nat) (s : TokenSource) : Result :=
  s.noteKey.map fun s =>
    let p := readPlain s.inFlow (s.indent + 1) [] [] false fuel s.cursor
    { s with keyAllowed := p.newLine, cursor := p.cursor }.push (.scalar p.text true)

def takeBlockScalar (fuel : Nat) (folded : Bool) (s : TokenSource) : Result := do
  let s ← s.dropKey
  let (text, c) ← readBlock folded s.indent fuel s.cursor.next
  pure ({ s with keyAllowed := true, cursor := c }.push (.scalar text false))

def startsPlain (s : TokenSource) (ch : Char) : Bool :=
  !(endsWord (some ch) || "-?:,[]\x7b\x7d#&*!|>'\"%@\x60".contains ch) ||
    (!endsWord (s.cursor.peekAt 1) && (ch == '-' || (!s.inFlow && (ch == '?' || ch == ':'))))

def takeToken (fuel : Nat) (s : TokenSource) : Result :=
  let c := s.cursor
  let wordEnds := endsWord (c.peekAt 1)
  match c.peek with
  | none => s.finishStream
  | some ch =>
    if ch == '%' && c.column == 0 then s.takeDirective fuel
    else if c.column == 0 && c.atMark '-' then s.takeDocumentMark .documentStart
    else if c.column == 0 && c.atMark '.' then s.takeDocumentMark .documentEnd
    else if ch == '[' then s.openFlow .flowSequenceStart
    else if ch == '\x7b' then s.openFlow .flowMappingStart
    else if ch == ']' then s.closeFlow .flowSequenceEnd
    else if ch == '\x7d' then s.closeFlow .flowMappingEnd
    else if ch == ',' then s.takeFlowEntry
    else if ch == '-' && wordEnds then s.takeBlockEntry
    else if ch == '?' && (s.inFlow || wordEnds) then s.takeKey
    else if ch == ':' && (s.inFlow || wordEnds) then s.takeValue
    else if ch == '*' then
      s.takeNode fun c => (readName c.next).map fun (name, c) => (.reference name, c)
    else if ch == '&' then
      s.takeNode fun c => (readName c.next).map fun (name, c) => (.anchor name, c)
    else if ch == '!' then
      s.takeNode fun c => (readTag fuel c).map fun (name, c) => (.tag name, c)
    else if ch == '|' && !s.inFlow then s.takeBlockScalar fuel false
    else if ch == '>' && !s.inFlow then s.takeBlockScalar fuel true
    else if ch == '\'' || ch == '"' then
      s.takeNode fun c =>
        (readQuoted ch [] fuel c.next).map fun (text, c) => (.scalar text false, c)
    else if s.startsPlain ch then s.takePlain fuel
    else .error .malformed

def fetch (s : TokenSource) : Result := do
  let s ← (s.skipToToken s.bound).dropStaleKeys
  (s.unwind s.cursor.column).takeToken s.bound

/-- Whether the first token of the queue may still turn out to follow the start of a key. -/
def isUndecided (s : TokenSource) : Bool := s.keyStarts.any fun k => k.2.token == s.taken

/-- Reads on until the first token of the queue is certain. -/
def settle : (fuel : Nat) → TokenSource → Result
  | 0, s => .ok s
  | fuel + 1, s =>
    if s.finished then .ok s
    else if s.queue.isEmpty then s.fetch >>= settle fuel
    else
      match s.dropStaleKeys with
      | .error e => .error e
      | .ok s => if s.isUndecided then s.fetch >>= settle fuel else .ok s

def peek (s : TokenSource) : Except YamlError (Token × TokenSource) := do
  let s ← s.settle (s.bound + 1)
  match s.queue with
  | t :: _ => pure (t, s)
  | [] => .error .malformed

def drop (s : TokenSource) : TokenSource :=
  { s with queue := s.queue.tail, taken := s.taken + 1 }

/-- The source of a text. A byte order mark at its very start is skipped. -/
def ofText (cs : List Char) : Result :=
  if cs.all isReadable then
    let c : Cursor := { rest := cs }
    .ok { cursor := if c.peek == some '\ufeff' then c.next else c, bound := cs.length + 1 }
  else .error .malformed

end TokenSource

end TypeDraft.Yaml
