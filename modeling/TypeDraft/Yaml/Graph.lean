import TypeDraft.Yaml.Plain

/-!
# The graph of a YAML document

The nodes of a document are numbered. An alias is one more use of the number of its node, so that
nodes are shared, and a collection may be part of itself. `Graph.merge` puts in place of the merge
keys of a mapping the entries that they take over; what it changes is changed wherever the node is
used.
-/

namespace TypeDraft.Yaml

/-- What a node holds; the parts of a collection are known by their numbers. -/
inductive Content where
  | scalar (text : String)
  | seq (items : List Nat)
  | map (entries : List (Nat × Nat))

structure Node where
  tag : Tag
  content : Content

abbrev Graph := Array Node

namespace Graph

/-- The tag of a node. -/
def tag (g : Graph) (n : Nat) : Tag :=
  match g[n]? with
  | some node => node.tag
  | none => .other

/-- The entries of a mapping; other nodes have none. -/
def entries (g : Graph) (n : Nat) : List (Nat × Nat) :=
  match g[n]? with
  | some ⟨_, .map es⟩ => es
  | _ => []

def setTag (g : Graph) (n : Nat) (tag : Tag) : Graph := g.modify n fun node => { node with tag }

def setContent (g : Graph) (n : Nat) (content : Content) : Graph :=
  g.modify n fun node => { node with content }

/-! ## Merge keys -/

/-- The entries that a merge key with the value `v` takes over: those of a mapping, or those of
several mappings in a sequence, the last of which comes first. Each mapping is merged before. -/
private def takeOver (merge : Nat → Graph → Except YamlError Graph) (v : Nat) (g : Graph) :
    Except YamlError (List (Nat × Nat) × Graph) := do
  match g[v]?.map Node.content with
  | some (.map _) =>
    let g ← merge v g
    pure (g.entries v, g)
  | some (.seq items) =>
    items.foldlM (fun (taken, g) item => do
      match g[item]?.map Node.content with
      | some (.map _) =>
        let g ← merge item g
        pure (g.entries item ++ taken, g)
      | _ => .error .malformed) ([], g)
  | _ => .error .malformed

/-- Goes through `count` entries of the mapping `n` from the one at `index` on. Merge keys go, and
what they take over is collected before the other entries; the key `=` becomes a string. -/
private def mergeFrom (merge : Nat → Graph → Except YamlError Graph) (n : Nat) :
    (count index : Nat) → (taken : List (Nat × Nat)) → Graph → Except YamlError Graph
  | 0, _, taken, g => .ok (g.setContent n (.map (taken ++ g.entries n)))
  | count + 1, index, taken, g =>
    match (g.entries n)[index]? with
    | none => mergeFrom merge n count index taken g
    | some (key, v) =>
      match g.tag key with
      | .merge => do
        let g := g.setContent n (.map ((g.entries n).eraseIdx index))
        let (more, g) ← takeOver merge v g
        mergeFrom merge n count index (taken ++ more) g
      | .value => mergeFrom merge n count (index + 1) taken (g.setTag key .str)
      | _ => mergeFrom merge n count (index + 1) taken g

/-- The graph with the merge keys of a mapping replaced. Every mapping that is merged on the way
has lost a merge key before, so `depth` need not exceed the number of entries. -/
def merge : (depth : Nat) → Nat → Graph → Except YamlError Graph
  | 0, _, _ => .error .tooDeep
  | depth + 1, n, g =>
    let special (e : Nat × Nat) : Bool := g.tag e.1 == .merge || g.tag e.1 == .value
    if (g.entries n).any special then
      mergeFrom (fun m g => merge depth m g) n (g.entries n).length 0 [] g
    else .ok g

def entryCount (g : Graph) : Nat :=
  g.foldl (fun count node =>
    match node.content with
    | .map es => count + es.length
    | _ => count) 0

/-! ## Texts -/

/-- The text of a node that must be a scalar. A mapping with the key `=` stands for the value
there. -/
def text (g : Graph) : (depth : Nat) → Nat → Except YamlError String
  | 0, _ => .error .tooDeep
  | depth + 1, n =>
    match g[n]?.map Node.content with
    | some (.scalar s) => .ok s
    | some (.map es) =>
      match es.find? fun e => g.tag e.1 == .value with
      | some (_, v) => text g depth v
      | none => .error .malformed
    | _ => .error .malformed

end Graph

end TypeDraft.Yaml
