import TypeDraft.Text.Base64
import TypeDraft.Value.Normal
import TypeDraft.Value.SetOrder
import TypeDraft.Yaml.Document

/-!
# Values of YAML documents

A node has the value that its tag asks for, and a node that is used twice has it once. Collections
are filled in turn, those that hold others before the others, and come to stand in the value of the
document only at the end: a collection may hold itself, and then it has no value.
-/

namespace TypeDraft.Yaml

def YamlError.message : YamlError → String
  | malformed => "not a YAML document"
  | tooDeep => tooDeepMessage
  | calendar e => e.message
  | notATimestamp => "'NoneType' object has no attribute 'groupdict'"
  | notAText => "expected string or bytes-like object, got 'list'"
  | notAnInteger base text =>
    "invalid literal for int() with base " ++ toString base ++ ": " ++
      String.ofList ((Text.displayString text).toList.take 200)
  | integerTooLong digits => Numeral.tooLongMessage digits
  | placeTooLarge => "int too large to convert to float"
  | notAFloat text => "could not convert string to float: " ++ Text.displayString text
  | notABoolean text => Text.displayString text
  | emptyNumber => "string index out of range"
  | noSuchCharacter => "chr() arg not in range(0x110000)"
  | codeTooLarge => "Python int too large to convert to C int"

/-- Whether an error is one of a value or of too many open steps. -/
def YamlError.isOfValueOrNesting : YamlError → Bool
  | tooDeep | calendar _ | notAnInteger .. | integerTooLong _ | notAFloat _ | noSuchCharacter => true
  | malformed | notATimestamp | notAText | placeTooLarge | notABoolean _ | emptyNumber
  | codeTooLarge => false

/-! ## Scalars -/

def timestampValue (text : String) : Except YamlError Value :=
  match Timestamp.ofText? (Text.withoutFinalBreak text.toList) with
  | some t =>
    match t.moment with
    | .ok m => .ok (.moment m)
    | .error e => .error (.calendar e)
  | none => .error .notATimestamp

def scalarValue (tag : Tag) (text : String) : Except YamlError Value :=
  match tag with
  | .null => .ok .null
  | .bool =>
    match boolean? (Text.lower text) with
    | some b => .ok (.bool b)
    | none => .error (.notABoolean (Text.lower text))
  | .int => (integerValue text).map .int
  | .float => (floatValue text).map .float
  | .str => .ok (.str text)
  | .binary =>
    match Text.decodeBase64 text.toList with
    | some bs => .ok (.bytes bs)
    | none => .error .malformed
  | .timestamp => timestampValue text
  | _ => .error .malformed

def Tag.isCollection : Tag → Bool
  | seq | map | set | omap | pairs => true
  | _ => false

/-- The value of a node whose tag is that of a scalar. A mapping may give the text, but not that of
a timestamp. -/
def Graph.scalar (g : Graph) (n : Nat) : Except YamlError Value := do
  let text ← g.text (g.size + 1) n
  match g.tag n, g[n]?.map Node.content with
  | .timestamp, some (.map _) => throw .notAText
  | tag, _ => scalarValue tag text

/-! ## Collections -/

/-- A value inside a collection: a scalar, or the collection of a node. -/
inductive Part where
  | scalar (v : Value)
  | collection (n : Nat)

/-- What a collection holds. Keys are scalars, save those of pairs. -/
inductive Collection where
  | list (items : List Part)
  | mapping (entries : List (Value × Part))
  | set (keys : List Value)
  | pairs (items : List (Part × Part))

/-- The values of the nodes of a graph, as far as they are known. -/
structure Values where
  graph : Graph
  /-- At least the number of entries in the graph. -/
  bound : Nat
  parts : Array (Option Part)
  collections : Array Collection
  /-- The collections that are still to be filled, the last one first. -/
  waiting : List Nat := []

namespace Values

abbrev Finding := StateT Values (Except YamlError)

/-- Nothing is known of the nodes of a graph. -/
def ofGraph (g : Graph) : Values where
  graph := g
  bound := g.entryCount
  parts := Array.replicate g.size none
  collections := Array.replicate g.size (.list [])

def malformed {α : Type} : Finding α := throw .malformed

def content (n : Nat) : Finding (Option Content) := do
  return (← get).graph[n]?.map Node.content

/-- The value of a node. A collection is to be filled later. -/
def part (n : Nat) : Finding Part := do
  let vs ← get
  match vs.parts[n]?.join with
  | some p => pure p
  | none =>
    if (vs.graph.tag n).isCollection then
      set { vs with
        parts := vs.parts.modify n fun _ => some (.collection n), waiting := n :: vs.waiting }
      pure (.collection n)
    else
      let v ← (vs.graph.scalar n : Except YamlError _)
      set { vs with parts := vs.parts.modify n fun _ => some (.scalar v) }
      pure (.scalar v)

/-- The entries of a mapping in order, those that it takes over coming first. -/
def entries (n : Nat) : Finding (List (Value × Part)) := do
  match ← content n with
  | some (.map _) =>
    let vs ← get
    let graph ← (vs.graph.merge (vs.bound + 1) n : Except YamlError _)
    set { vs with graph }
    let found ← (graph.entries n).mapM fun (key, v) => do
      match ← part key with
      | .scalar key => pure (key, ← part v)
      | .collection _ => malformed
    pure (Value.collectEntries found)
  | _ => malformed

/-- The pairs in a sequence of mappings of one entry each. -/
def pairs (items : List Nat) : Finding (List (Part × Part)) :=
  items.mapM fun item => do
    match ← content item with
    | some (.map [(key, v)]) => pure (← part key, ← part v)
    | _ => malformed

/-- Finds what a collection holds. -/
def fill (n : Nat) : Finding Unit := do
  let collection ←
    match (← get).graph.tag n, ← content n with
    | .seq, some (.seq items) => Collection.list <$> items.mapM part
    | .map, _ => Collection.mapping <$> entries n
    | .set, _ => (fun es => Collection.set (Value.setOrder (es.map Prod.fst))) <$> entries n
    | .omap, some (.seq items) | .pairs, some (.seq items) => Collection.pairs <$> pairs items
    | _, _ => malformed
  modify fun vs => { vs with collections := vs.collections.modify n fun _ => collection }

/-- Fills the collections that wait, then those that were found in them, and so on. -/
def fillAll : (rounds : Nat) → Finding Unit
  | 0 => pure ()
  | rounds + 1 => do
    let waiting ← modifyGet fun vs => (vs.waiting.reverse, { vs with waiting := [] })
    if !waiting.isEmpty then
      waiting.forM fill
      fillAll rounds

/-- The value of a node and all that it holds; no collection is filled twice. -/
def ofNode (g : Graph) (n : Nat) : Except YamlError (Part × Values) :=
  (do
    let p ← part n
    fillAll (g.size + 1)
    pure p : Finding Part).run (ofGraph g)

/-! ## Trees -/

/-- A value may be nested this deep. -/
def nestingLimit : Nat := 490

/-- What stands for a collection inside itself. -/
private def cut : Collection → Value
  | .mapping _ => .obj []
  | .set _ => .set []
  | _ => .arr []

/-- The tree of a value; `path` holds the collections that it stands in. A collection inside itself
is cut off, or else there is no tree. -/
def tree (vs : Values) (cutting : Bool) : (depth : Nat) → (path : List Nat) → Part →
    Except YamlError Value
  | _, _, .scalar v => .ok v
  | 0, _, .collection _ => .error .tooDeep
  | depth + 1, path, .collection n =>
    match vs.collections[n]? with
    | none => .error .malformed
    | some c =>
      if path.contains n then if cutting then .ok (cut c) else .error .tooDeep
      else
        let tree := tree vs cutting depth (n :: path)
        match c with
        | .list items => (items.mapM tree).map .arr
        | .mapping es =>
          (es.mapM fun e => (tree e.2).map fun v => (e.1, v)).map Value.ofDistinct
        | .set keys => .ok (.set keys)
        | .pairs items =>
          (items.mapM fun (k, v) => do pure (Value.tuple [← tree k, ← tree v])).map .arr

/-- What hints at a collection inside itself where its value is shown. -/
private def hint : Collection → String
  | .mapping _ => "\x7b...\x7d"
  | _ => "[...]"

/-- How the value of a node is shown, with hints at collections inside themselves. -/
def shown (vs : Values) : (depth : Nat) → (path : List Nat) → Part → String
  | _, _, .scalar v => v.displayQuoted
  | 0, _, .collection n => (vs.collections[n]?.map hint).getD ""
  | depth + 1, path, .collection n =>
    match vs.collections[n]? with
    | none => ""
    | some c =>
      if path.contains n then hint c
      else
        let shown := shown vs depth (n :: path)
        match c with
        | .list items => "[" ++ ", ".intercalate (items.map shown) ++ "]"
        | .mapping es =>
          let entry (e : Value × Part) : String := e.1.displayQuoted ++ ": " ++ shown e.2
          "\x7b" ++ ", ".intercalate (es.map entry) ++ "\x7d"
        | .set keys => (Value.set keys).displayQuoted
        | .pairs items =>
          let pair (e : Part × Part) : String := "(" ++ shown e.1 ++ ", " ++ shown e.2 ++ ")"
          "[" ++ ", ".intercalate (items.map pair) ++ "]"

end Values

def loadFirst (cs : List Char) : Except YamlError Value := do
  match ← Document.first cs with
  | none => pure .null
  | some (g, root) =>
    let (p, vs) ← Values.ofNode g root
    vs.tree false Values.nestingLimit [] p

/-- The only document of a text. -/
structure Reading where
  value : Value
  /-- The keys of the entries that hold themselves, with how their values are shown. -/
  loops : List (Value × String) := []

/-- Reads the only document of a text. The entries of a mapping are each a tree of its own, in which
collections inside themselves are cut off. -/
def loadOnly (cs : List Char) : Except YamlError Reading := do
  match ← Document.only cs with
  | none => pure { value := .null }
  | some (g, root) =>
    let (p, vs) ← Values.ofNode g root
    let tree (cutting : Bool) := vs.tree cutting Values.nestingLimit []
    let loop? (e : Value × Part) : Option (Value × String) :=
      match tree false e.2 with
      | .ok _ => none
      | .error _ => some (e.1, vs.shown Values.nestingLimit [] e.2)
    match p with
    | .collection n =>
      match vs.collections[n]? with
      | some (.mapping es) =>
        let entries ← es.mapM fun e => (tree true e.2).map fun v => (e.1, v)
        pure { value := .ofDistinct entries, loops := es.filterMap loop? }
      | _ => (tree true p).map ({ value := · })
    | _ => (tree true p).map ({ value := · })

end TypeDraft.Yaml
