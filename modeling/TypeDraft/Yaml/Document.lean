import TypeDraft.Yaml.Graph
import TypeDraft.Yaml.Token

/-!
# Reading YAML documents

The tokens of a text are read into the graph of its first document. A collection has its number
before its parts are read, so that an alias among them can name it.
-/

namespace TypeDraft.Yaml

namespace Document

/-- Collections may be nested this deep. -/
def nestingLimit : Nat := 480

/-- What reading a document keeps track of. -/
structure Reader where
  source : TokenSource
  graph : Graph := #[]
  /-- The anchored nodes so far. -/
  anchors : List (String × Nat) := []
  handles : List (String × String) := []

abbrev Reading := StateT Reader (Except YamlError)

def defaultHandles : List (String × String) := [("!", "!"), ("!!", coreNames)]

def look : Reading Token := do
  let r ← get
  let (t, source) ← (r.source.peek : Except YamlError _)
  set { r with source }
  pure t

def skip : Reading Unit := modify fun r => { r with source := r.source.drop }

def malformed {α : Type} : Reading α := throw .malformed

def resolve (name : TagName) : Reading String := do
  match name.handle with
  | none => pure name.suffix
  | some handle =>
    match (← get).handles.lookup handle with
    | some stem => pure (stem ++ name.suffix)
    | none => malformed

/-- An anchor and a tag before a node, in either order. -/
def properties : Reading (Option String × Option String) := do
  match ← look with
  | .anchor a =>
    skip
    match ← look with
    | .tag t => do
      skip
      pure (some a, some (← resolve t))
    | _ => pure (some a, none)
  | .tag t =>
    skip
    match ← look with
    | .anchor a => do
      skip
      pure (some a, some (← resolve t))
    | _ => pure (none, some (← resolve t))
  | _ => pure (none, none)

/-- Adds a node, under its anchor if it has one; one name may be set down once. -/
def add (anchor : Option String) (node : Node) : Reading Nat := do
  let r ← get
  let n := r.graph.size
  match anchor with
  | none => set { r with graph := r.graph.push node }
  | some a =>
    if (r.anchors.lookup a).isSome then malformed
    else set { r with graph := r.graph.push node, anchors := (a, n) :: r.anchors }
  pure n

/-- The tag of a collection: the one that is written, or the usual one. -/
def collectionTag (usual : Tag) (tag : Option String) : Tag :=
  match tag with
  | none => usual
  | some name => if name == "!" then usual else .ofName name

def scalarNode (tag : Option String) (text : String) (isPlain : Bool) : Node where
  tag :=
    match tag with
    | none => if isPlain then plainTag text else .str
    | some name => if name == "!" then plainTag text else .ofName name
  content := .scalar text

/-- Adds what a missing node stands for. -/
def addEmpty : Reading Nat := add none ⟨.null, .scalar ""⟩

/-- The surroundings of a node: in flow context no block collection may begin, and a mapping value
may be a sequence in the column of its key. -/
inductive Context where
  | flow | block | blockValue
  deriving DecidableEq

/-- Adds a collection without its parts, of which `depth` may still be opened. -/
def addCollection (depth : Nat) (anchor : Option String) (tag : Tag) : Reading Nat :=
  if depth = 0 then throw .tooDeep else add anchor ⟨tag, .seq []⟩

def close (n : Nat) (content : Content) : Reading Nat := do
  modify fun r => { r with graph := r.graph.setContent n content }
  pure n

/-- A node that begins with nothing is empty if it has an anchor or a tag. -/
def addNothing (anchor tag : Option String) : Reading Nat :=
  if anchor.isNone && tag.isNone then malformed else add anchor (scalarNode tag "" true)

/-- Whether a value is missing before a token. -/
def endsBlockItem : Token → Bool
  | .key | .value | .blockEnd => true
  | _ => false

mutual

/-- Reads a node; `depth` more collections may be opened. -/
def read (context : Context) : (fuel depth : Nat) → Reading Nat
  | 0, _ => malformed
  | fuel + 1, depth => do
    match ← look with
    | .reference name =>
      skip
      match (← get).anchors.lookup name with
      | some n => pure n
      | none => malformed
    | _ =>
      let (anchor, tag) ← properties
      match ← look, context with
      | .scalar text isPlain, _ =>
        let n ← add anchor (scalarNode tag text isPlain)
        skip
        pure n
      | .flowSequenceStart, _ =>
        let n ← addCollection depth anchor (collectionTag .seq tag)
        skip
        let items ← readFlowItems true [] fuel (depth - 1)
        close n (.seq items)
      | .flowMappingStart, _ =>
        let n ← addCollection depth anchor (collectionTag .map tag)
        skip
        let entries ← readFlowEntries true [] fuel (depth - 1)
        close n (.map entries)
      | .blockEntry, .blockValue =>
        let n ← addCollection depth anchor (collectionTag .seq tag)
        let items ← readIndentless [] fuel (depth - 1)
        close n (.seq items)
      | .blockSequenceStart, .block | .blockSequenceStart, .blockValue =>
        let n ← addCollection depth anchor (collectionTag .seq tag)
        skip
        let items ← readBlockItems [] fuel (depth - 1)
        close n (.seq items)
      | .blockMappingStart, .block | .blockMappingStart, .blockValue =>
        let n ← addCollection depth anchor (collectionTag .map tag)
        skip
        let entries ← readBlockEntries [] fuel (depth - 1)
        close n (.map entries)
      | _, _ => addNothing anchor tag
termination_by structural fuel => fuel

/-- Reads the entries of a block sequence to its end. -/
def readBlockItems (items : List Nat) : (fuel depth : Nat) → Reading (List Nat)
  | 0, _ => malformed
  | fuel + 1, depth => do
    match ← look with
    | .blockEntry =>
      skip
      match ← look with
      | .blockEntry | .blockEnd =>
        let item ← addEmpty
        readBlockItems (item :: items) fuel depth
      | _ =>
        let item ← read .block fuel depth
        readBlockItems (item :: items) fuel depth
    | .blockEnd =>
      skip
      pure items.reverse
    | _ => malformed
termination_by structural fuel => fuel

/-- Reads the entries of a sequence in the column of the key before it. -/
def readIndentless (items : List Nat) : (fuel depth : Nat) → Reading (List Nat)
  | 0, _ => malformed
  | fuel + 1, depth => do
    match ← look with
    | .blockEntry =>
      skip
      match ← look with
      | .blockEntry | .key | .value | .blockEnd =>
        let item ← addEmpty
        readIndentless (item :: items) fuel depth
      | _ =>
        let item ← read .block fuel depth
        readIndentless (item :: items) fuel depth
    | _ => pure items.reverse
termination_by structural fuel => fuel

/-- Reads the entries of a block mapping to its end; a key or a value may be missing. -/
def readBlockEntries (entries : List (Nat × Nat)) :
    (fuel depth : Nat) → Reading (List (Nat × Nat))
  | 0, _ => malformed
  | fuel + 1, depth => do
    match ← look with
    | .key =>
      skip
      let key ← if endsBlockItem (← look) then addEmpty else read .blockValue fuel depth
      match ← look with
      | .value =>
        skip
        let value ← if endsBlockItem (← look) then addEmpty else read .blockValue fuel depth
        readBlockEntries ((key, value) :: entries) fuel depth
      | _ =>
        let value ← addEmpty
        readBlockEntries ((key, value) :: entries) fuel depth
    | .blockEnd =>
      skip
      pure entries.reverse
    | _ => malformed
termination_by structural fuel => fuel

/-- Reads the items of a flow sequence; an item with a key is a mapping of one entry. -/
def readFlowItems (first : Bool) (items : List Nat) : (fuel depth : Nat) → Reading (List Nat)
  | 0, _ => malformed
  | fuel + 1, depth => do
    match ← look with
    | .flowSequenceEnd =>
      skip
      pure items.reverse
    | t =>
      if !first then
        match t with
        | .flowEntry => skip
        | _ => malformed
      match ← look with
      | .key =>
        skip
        let key ←
          match ← look with
          | .value | .flowEntry | .flowSequenceEnd => addEmpty
          | _ => read .flow fuel depth
        let value ←
          match ← look with
          | .value =>
            skip
            match ← look with
            | .flowEntry | .flowSequenceEnd => addEmpty
            | _ => read .flow fuel depth
          | _ => addEmpty
        let item ← add none ⟨.map, .map [(key, value)]⟩
        readFlowItems false (item :: items) fuel depth
      | .flowSequenceEnd =>
        skip
        pure items.reverse
      | _ =>
        let item ← read .flow fuel depth
        readFlowItems false (item :: items) fuel depth
termination_by structural fuel => fuel

/-- Reads the entries of a flow mapping; a node without a colon is a key without a value. -/
def readFlowEntries (first : Bool) (entries : List (Nat × Nat)) :
    (fuel depth : Nat) → Reading (List (Nat × Nat))
  | 0, _ => malformed
  | fuel + 1, depth => do
    match ← look with
    | .flowMappingEnd =>
      skip
      pure entries.reverse
    | t =>
      if !first then
        match t with
        | .flowEntry => skip
        | _ => malformed
      match ← look with
      | .key =>
        skip
        let key ←
          match ← look with
          | .value | .flowEntry | .flowMappingEnd => addEmpty
          | _ => read .flow fuel depth
        let value ←
          match ← look with
          | .value =>
            skip
            match ← look with
            | .flowEntry | .flowMappingEnd => addEmpty
            | _ => read .flow fuel depth
          | _ => addEmpty
        readFlowEntries false ((key, value) :: entries) fuel depth
      | .flowMappingEnd =>
        skip
        pure entries.reverse
      | _ =>
        let key ← read .flow fuel depth
        let value ← addEmpty
        readFlowEntries false ((key, value) :: entries) fuel depth
termination_by structural fuel => fuel

end

/-! ## Documents -/

/-- Reads the directives before a document. -/
private def readDirectives (version : Bool) (handles : List (String × String)) :
    (fuel : Nat) → Reading (List (String × String))
  | 0 => malformed
  | fuel + 1 => do
    match ← look with
    | .directive (.version major) =>
      if version || major != 1 then malformed
      skip
      readDirectives true handles fuel
    | .directive (.tag handle replacement) =>
      if (handles.lookup handle).isSome then malformed
      skip
      readDirectives version ((handle, replacement) :: handles) fuel
    | .directive .other =>
      skip
      readDirectives version handles fuel
    | _ => pure handles

def skipDocumentEnds : (fuel : Nat) → Reading Unit
  | 0 => malformed
  | fuel + 1 => do
    match ← look with
    | .documentEnd =>
      skip
      skipDocumentEnds fuel
    | _ => pure ()

def readFirst (fuel : Nat) : Reading (Option Nat) := do
  modify fun r => { r with handles := defaultHandles }
  match ← look with
  | .streamEnd => pure none
  | .directive _ | .documentStart =>
    let handles ← readDirectives false [] fuel
    modify fun r => { r with handles := handles ++ defaultHandles }
    match ← look with
    | .documentStart => skip
    | _ => malformed
    let root ←
      match ← look with
      | .directive _ | .documentStart | .documentEnd | .streamEnd => addEmpty
      | _ => read .block fuel nestingLimit
    discard look
    pure (some root)
  | _ =>
    let root ← read .block fuel nestingLimit
    discard look
    pure (some root)

def readOnly (fuel : Nat) : Reading (Option Nat) := do
  let root ← readFirst fuel
  if root.isSome then
    skipDocumentEnds fuel
    match ← look with
    | .streamEnd => pure ()
    | _ => malformed
  pure root

/-- Enough steps for a text: each step of reading takes a token, or opens a collection. -/
def fuelFor (cs : List Char) : Nat := 4 * cs.length + 64

def run (reading : Nat → Reading (Option Nat)) (cs : List Char) :
    Except YamlError (Option (Graph × Nat)) := do
  let source ← TokenSource.ofText cs
  let (root, r) ← (reading (fuelFor cs)).run { source }
  pure (root.map fun n => (r.graph, n))

/-- The graph and the root of the first document of a text; those after it are not looked at. -/
def first (cs : List Char) : Except YamlError (Option (Graph × Nat)) := run readFirst cs

/-- The graph and the root of the document of a text that has no other. -/
def only (cs : List Char) : Except YamlError (Option (Graph × Nat)) := run readOnly cs

end Document

end TypeDraft.Yaml
