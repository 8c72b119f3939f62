import TypeDraft.Proofs.Yaml.Graph
import TypeDraft.Proofs.Yaml.Numbers
import TypeDraft.Proofs.Yaml.Source

/-!
# Reading the nodes of JSON

The nodes of YAML that are read from the tokens of a text of JSON stand for the value of the text.
What is read is added to the graph behind what is there, which stays as it is.
-/

namespace TypeDraft.Yaml

namespace Document

open TokenSource (Ahead)

/-! ## Steps of reading -/

section

variable {α : Type} {a : α} {r r' : Reader} {t : Token} {us : List Token} {context : Context}
  {fuel depth n : Nat}

theorem exists_of_look_eq (h : look r = .ok (t, r')) :
    ∃ source, r.source.peek = .ok (t, source) ∧ r' = { r with source } := by
  obtain ⟨⟨⟨u, source⟩, r₁⟩, hlift, hset⟩ := bind_eq_ok.mp h
  obtain ⟨⟨u', source'⟩, hpeek, heq⟩ := bind_eq_ok.mp hlift
  obtain ⟨hpair, rfl⟩ := Prod.mk.inj (Except.ok.inj heq)
  obtain ⟨rfl, rfl⟩ := Prod.mk.inj hpair
  obtain ⟨rfl, rfl⟩ := Prod.mk.inj (Except.ok.inj hset)
  exact ⟨_, hpeek, rfl⟩

/-- The next token is looked at, and may be skipped then. -/
theorem exists_of_look {k : Token → Reading α} (hahead : Ahead r.source (t :: us))
    (h : (look >>= k) r = .ok (a, r')) : ∃ source, Ahead source (t :: us) ∧
      Ahead source.drop us ∧ k t { r with source } = .ok (a, r') := by
  obtain ⟨⟨u, r₁⟩, hlook, h⟩ := bind_eq_ok.mp h
  obtain ⟨source, hpeek, rfl⟩ := exists_of_look_eq hlook
  obtain ⟨us', hus, hbefore, hbehind⟩ := hahead.peek hpeek
  obtain ⟨rfl, rfl⟩ := List.cons.inj hus
  exact ⟨source, hbefore, hbehind, h⟩

theorem modify_bind {f : Reader → Reader} {k : Unit → Reading α} :
    (modify f >>= k) r = k () (f r) := rfl

theorem skip_bind {k : Unit → Reading α} :
    (skip >>= k) r = k () { r with source := r.source.drop } := rfl

/-- The tokens that begin a value of JSON. -/
def beginsValue : Token → Bool
  | .scalar .. | .flowSequenceStart | .flowMappingStart => true
  | _ => false

/-- A value of JSON has neither an anchor nor a tag. -/
theorem exists_of_properties {k : Option String × Option String → Reading α}
    (hahead : Ahead r.source (t :: us)) (ht : beginsValue t = true)
    (h : (properties >>= k) r = .ok (a, r')) : ∃ source, Ahead source (t :: us) ∧
      k (none, none) { r with source } = .ok (a, r') := by
  obtain ⟨⟨p, r₁⟩, hproperties, h⟩ := bind_eq_ok.mp h
  obtain ⟨source, hbefore, -, hread⟩ := exists_of_look hahead hproperties
  refine ⟨source, hbefore, ?_⟩
  cases t with
  | scalar text isPlain | flowSequenceStart | flowMappingStart =>
      obtain ⟨rfl, rfl⟩ := Prod.mk.inj (Except.ok.inj hread)
      exact h
  | _ => cases ht

theorem exists_of_addCollection {k : Nat → Reading α} {tag : Tag}
    (h : (addCollection depth none tag >>= k) r = .ok (a, r')) :
    k r.graph.size { r with graph := r.graph.push ⟨tag, .seq []⟩ } = .ok (a, r') := by
  unfold addCollection at h
  split at h
  · cases h
  · exact h

theorem read_scalar {text : String} {isPlain : Bool}
    (hahead : Ahead r.source (.scalar text isPlain :: us))
    (h : read context (fuel + 1) depth r = .ok (n, r')) :
    Ahead r'.source us ∧ n = r.graph.size ∧
      r'.graph = r.graph.push (scalarNode none text isPlain) := by
  rw [read] at h
  obtain ⟨source, hahead, -, h⟩ := exists_of_look hahead h
  obtain ⟨source, hahead, h⟩ := exists_of_properties hahead rfl h
  obtain ⟨source, -, hbehind, h⟩ := exists_of_look hahead h
  obtain ⟨rfl, rfl⟩ := Prod.mk.inj (Except.ok.inj h)
  exact ⟨hbehind, rfl, rfl⟩

theorem read_array (hahead : Ahead r.source (.flowSequenceStart :: us))
    (h : read context (fuel + 1) depth r = .ok (n, r')) :
    n = r.graph.size ∧ ∃ r₁ r₂ items, Ahead r₁.source us ∧
      r₁.graph = r.graph.push ⟨.seq, .seq []⟩ ∧
      readFlowItems true [] fuel (depth - 1) r₁ = .ok (items, r₂) ∧
      r' = { r₂ with graph := r₂.graph.setContent n (.seq items) } := by
  rw [read] at h
  obtain ⟨source, hahead, -, h⟩ := exists_of_look hahead h
  obtain ⟨source, hahead, h⟩ := exists_of_properties hahead rfl h
  obtain ⟨source, -, hbehind, h⟩ := exists_of_look hahead h
  have h := exists_of_addCollection h
  obtain ⟨⟨items, r₂⟩, hitems, h⟩ := bind_eq_ok.mp h
  obtain ⟨rfl, rfl⟩ := Prod.mk.inj (Except.ok.inj h)
  exact ⟨rfl, _, r₂, items, hbehind, rfl, hitems, rfl⟩

theorem read_object (hahead : Ahead r.source (.flowMappingStart :: us))
    (h : read context (fuel + 1) depth r = .ok (n, r')) :
    n = r.graph.size ∧ ∃ r₁ r₂ entries, Ahead r₁.source us ∧
      r₁.graph = r.graph.push ⟨.map, .seq []⟩ ∧
      readFlowEntries true [] fuel (depth - 1) r₁ = .ok (entries, r₂) ∧
      r' = { r₂ with graph := r₂.graph.setContent n (.map entries) } := by
  rw [read] at h
  obtain ⟨source, hahead, -, h⟩ := exists_of_look hahead h
  obtain ⟨source, hahead, h⟩ := exists_of_properties hahead rfl h
  obtain ⟨source, -, hbehind, h⟩ := exists_of_look hahead h
  have h := exists_of_addCollection h
  obtain ⟨⟨entries, r₂⟩, hentries, h⟩ := bind_eq_ok.mp h
  obtain ⟨rfl, rfl⟩ := Prod.mk.inj (Except.ok.inj h)
  exact ⟨rfl, _, r₂, entries, hbehind, rfl, hentries, rfl⟩

/-- What stands before a part of a collection. -/
def separator (first : Bool) : List Token := if first then [] else [.flowEntry]

/-! ### Items -/

section

variable {first : Bool} {items found : List Nat}

theorem readFlowItems_close (hahead : Ahead r.source (.flowSequenceEnd :: us))
    (h : readFlowItems first items (fuel + 1) depth r = .ok (found, r')) :
    found = items.reverse ∧ Ahead r'.source us ∧ r'.graph = r.graph := by
  rw [readFlowItems] at h
  obtain ⟨source, -, hbehind, h⟩ := exists_of_look hahead h
  obtain ⟨rfl, rfl⟩ := Prod.mk.inj (Except.ok.inj h)
  exact ⟨rfl, hbehind, rfl⟩

theorem readFlowItems_item (hahead : Ahead r.source (separator first ++ t :: us))
    (ht : beginsValue t = true)
    (h : readFlowItems first items (fuel + 1) depth r = .ok (found, r')) :
    ∃ r₁ r₂ n, Ahead r₁.source (t :: us) ∧ r₁.graph = r.graph ∧
      read .flow fuel depth r₁ = .ok (n, r₂) ∧
      readFlowItems false (n :: items) fuel depth r₂ = .ok (found, r') := by
  rw [readFlowItems] at h
  cases t with
  | scalar text isPlain | flowSequenceStart | flowMappingStart =>
      cases first
      case' true => obtain ⟨source, hahead, -, h⟩ := exists_of_look hahead h
      case' false => obtain ⟨source, -, hahead, h⟩ := exists_of_look hahead h
      all_goals
        simp only [Bool.not_true, Bool.not_false, Bool.false_eq_true, if_true, if_false,
          skip_bind] at h
        obtain ⟨source, hahead, -, h⟩ := exists_of_look hahead h
        obtain ⟨⟨n, r₂⟩, hitem, h⟩ := bind_eq_ok.mp h
        exact ⟨{ r with source }, r₂, n, hahead, rfl, hitem, h⟩
  | _ => cases ht

end

/-! ### Entries -/

section

variable {first : Bool} {entries found : List (Nat × Nat)} {text : String} {isPlain : Bool}

theorem readFlowEntries_close (hahead : Ahead r.source (.flowMappingEnd :: us))
    (h : readFlowEntries first entries (fuel + 1) depth r = .ok (found, r')) :
    found = entries.reverse ∧ Ahead r'.source us ∧ r'.graph = r.graph := by
  rw [readFlowEntries] at h
  obtain ⟨source, -, hbehind, h⟩ := exists_of_look hahead h
  obtain ⟨rfl, rfl⟩ := Prod.mk.inj (Except.ok.inj h)
  exact ⟨rfl, hbehind, rfl⟩

/-- A key, its colon and its value are read as an entry. -/
theorem readFlowEntries_entry
    (hahead : Ahead r.source
      (separator first ++ .key :: .scalar text isPlain :: .value :: t :: us))
    (ht : beginsValue t = true)
    (h : readFlowEntries first entries (fuel + 1) depth r = .ok (found, r')) :
    ∃ r₁ r₂ n, Ahead r₁.source (t :: us) ∧
      r₁.graph = r.graph.push (scalarNode none text isPlain) ∧
      read .flow fuel depth r₁ = .ok (n, r₂) ∧
      readFlowEntries false ((r.graph.size, n) :: entries) fuel depth r₂ = .ok (found, r') := by
  rw [readFlowEntries] at h
  cases first
  case' true => obtain ⟨source, hahead, -, h⟩ := exists_of_look hahead h
  case' false => obtain ⟨source, -, hahead, h⟩ := exists_of_look hahead h
  all_goals
    simp only [Bool.not_true, Bool.not_false, Bool.false_eq_true, if_true, if_false,
      skip_bind] at h
    obtain ⟨source, -, hbehind, h⟩ := exists_of_look hahead h
    simp only [skip_bind] at h
    obtain ⟨source, hahead, -, h⟩ := exists_of_look hbehind h
    obtain ⟨⟨key, r₁⟩, hkey, h⟩ := bind_eq_ok.mp h
    cases fuel with
    | zero => cases hkey
    | succ fuel =>
        obtain ⟨hahead, rfl, hgraph⟩ := read_scalar hahead hkey
        obtain ⟨source, -, hbehind, h⟩ := exists_of_look hahead h
        simp only [skip_bind] at h
        obtain ⟨source, hahead, -, h⟩ := exists_of_look hbehind h
        cases t with
        | scalar text isPlain | flowSequenceStart | flowMappingStart =>
            obtain ⟨⟨n, r₂⟩, hvalue, h⟩ := bind_eq_ok.mp h
            exact ⟨{ r₁ with source }, r₂, n, hahead, hgraph, hvalue, h⟩
        | _ => cases ht

theorem readFlowEntries_value (hahead : Ahead r.source (.value :: us)) :
    readFlowEntries false entries (fuel + 1) depth r ≠ .ok (found, r') := by
  intro h
  rw [readFlowEntries] at h
  obtain ⟨source, -, -, h⟩ := exists_of_look hahead h
  cases h

/-- Behind a key that was given up there may be no colon. -/
theorem readFlowEntries_late
    (hahead : Ahead r.source (separator first ++ .scalar text isPlain :: .value :: us)) :
    readFlowEntries first entries fuel depth r ≠ .ok (found, r') := by
  intro h
  cases fuel with
  | zero => cases h
  | succ fuel =>
      rw [readFlowEntries] at h
      cases first
      case' true => obtain ⟨source, hahead, -, h⟩ := exists_of_look hahead h
      case' false => obtain ⟨source, -, hahead, h⟩ := exists_of_look hahead h
      all_goals
        simp only [Bool.not_true, Bool.not_false, Bool.false_eq_true, if_true, if_false,
          skip_bind] at h
        obtain ⟨source, hahead, -, h⟩ := exists_of_look hahead h
        obtain ⟨⟨key, r₁⟩, hkey, h⟩ := bind_eq_ok.mp h
        have h : readFlowEntries false ((key, r₁.graph.size) :: entries) fuel depth
          { r₁ with graph := r₁.graph.push ⟨.null, .scalar ""⟩ } = .ok (found, r') := h
        cases fuel with
        | zero => cases h
        | succ fuel => exact absurd h (readFlowEntries_value (read_scalar hahead hkey).1)

end

end

/-! ## Nodes of lexemes -/

open Yaml.Graph (Grows)
open Json (Escapes IsAtom IsGap IsStrict KeyForm Lexeme Setting Writes WritesFieldsAfter
  WritesItemsAfter textOf)

/-- Whether every word among lexemes has the same value in YAML. -/
def KeepsWords (ls : List Lexeme) : Prop :=
  ∀ l ∈ ls, ∀ cs, l.token = .word cs → keepsWord cs = true

section

variable {l : Lexeme} {ls ms : List Lexeme}

@[simp] theorem keepsWords_cons :
    KeepsWords (l :: ls) ↔ (∀ cs, l.token = .word cs → keepsWord cs = true) ∧ KeepsWords ls :=
  List.forall_mem_cons

@[simp] theorem keepsWords_append : KeepsWords (ls ++ ms) ↔ KeepsWords ls ∧ KeepsWords ms :=
  List.forall_mem_append

end

theorem exists_beginsValue {s : Setting} {v : Value} {ls : List Lexeme}
    (h : Writes IsAtom Escapes s v ls) (c : Cursor) (us : List Token) :
    ∃ t ts, tokensFrom c ls ++ us = t :: ts ∧ beginsValue t = true := by
  cases h <;> exact ⟨_, _, rfl, rfl⟩

/-! ### What reading adds -/

/-- What a graph is when a value has been added to it as a node. -/
structure Adds (g g' : Graph) (n : Nat) (v : Value) : Prop where
  grows : Grows g g'
  represents : g'.Represents g.size n v

/-- The items that have been added are behind those that were there. -/
structure AddsItems (g g' : Graph) (before found : List Nat) (vs : List Value) : Prop where
  grows : Grows g g'
  represents : ∃ items, found = before.reverse ++ items ∧ g'.RepresentsItems g.size items vs

structure AddsEntries (g g' : Graph) (before found : List (Nat × Nat))
    (fs : List (String × Value)) : Prop where
  grows : Grows g g'
  represents : ∃ entries, found = before.reverse ++ entries ∧
    g'.RepresentsEntries g.size entries fs

section

variable {g g₁ g₂ g' : Graph} {n : Nat} {text : String} {isPlain : Bool} {v : Value}

theorem adds_scalar
    (hvalue : scalarValue (if isPlain then plainTag text else .str) text = .ok v)
    (hnormal : v.normalize = v) : Adds g (g.push (scalarNode none text isPlain)) g.size v where
  grows := Graph.grows_push _ _
  represents := .scalar (le_refl _) Array.getElem?_push_size hvalue hnormal

theorem addsItems_nil (before : List Nat) : AddsItems g g before before.reverse [] :=
  ⟨.refl _, [], by simp, .nil⟩

theorem addsEntries_nil (before : List (Nat × Nat)) : AddsEntries g g before before.reverse [] :=
  ⟨.refl _, [], by simp, .nil⟩

theorem getElem?_setContent_of_grows {tag : Tag} {content : Content}
    (hgraph : g₁ = g.push ⟨tag, content⟩) (hgrows : Grows g₁ g₂) (content' : Content) :
    (g₂.setContent g.size content')[g.size]? = some ⟨tag, content'⟩ := by
  have hnode : g₂[g.size]? = some ⟨tag, content⟩ :=
    hgrows.keeps _ (Nat.zero_le _) _ (by rw [hgraph]; exact Array.getElem?_push_size)
  rw [Graph.setContent, Array.getElem?_modify, if_pos rfl, hnode]
  rfl

theorem AddsItems.adds {items : List Nat} {vs : List Value} (hgraph : g₁ = g.push ⟨.seq, .seq []⟩)
    (h : AddsItems g₁ g₂ [] items vs) :
    Adds g (g₂.setContent g.size (.seq items)) g.size (.arr vs) := by
  obtain ⟨_, rfl, hitems⟩ := h.represents
  have hsize : g₁.size = g.size + 1 := by rw [hgraph, Array.size_push]
  refine ⟨?_, .array (le_refl _) (getElem?_setContent_of_grows hgraph h.grows _) ?_⟩
  · exact ((hgraph ▸ Graph.grows_push g _).trans h.grows).setContent (le_refl _) _
  · rw [← hsize]
    refine hitems.mono (le_refl _) fun m hm node hnode => ?_
    rwa [Graph.getElem?_setContent_ne (by omega)]

theorem AddsEntries.adds {entries : List (Nat × Nat)} {fs : List (String × Value)}
    (hgraph : g₁ = g.push ⟨.map, .seq []⟩) (h : AddsEntries g₁ g₂ [] entries fs) :
    Adds g (g₂.setContent g.size (.map entries)) g.size (.obj fs) := by
  obtain ⟨_, rfl, hentries⟩ := h.represents
  have hsize : g₁.size = g.size + 1 := by rw [hgraph, Array.size_push]
  refine ⟨?_, .object (le_refl _) (getElem?_setContent_of_grows hgraph h.grows _) ?_⟩
  · exact ((hgraph ▸ Graph.grows_push g _).trans h.grows).setContent (le_refl _) _
  · rw [← hsize]
    refine hentries.mono (le_refl _) fun m hm node hnode => ?_
    rwa [Graph.getElem?_setContent_ne (by omega)]

/-- An item, and those behind it. -/
theorem Adds.cons {before found : List Nat} {vs : List Value} (h : Adds g g₂ n v)
    (hrest : AddsItems g₂ g' (n :: before) found vs) : AddsItems g g' before found (v :: vs) where
  grows := h.grows.trans hrest.grows
  represents := by
    obtain ⟨items, rfl, hitems⟩ := hrest.represents
    refine ⟨n :: items, by simp, .cons ?_ ?_⟩
    · exact h.represents.mono (le_refl _) fun m _ => hrest.grows.keeps m (Nat.zero_le _)
    · exact hitems.mono h.grows.size_le fun _ _ _ hnode => hnode

/-- An entry, whose key has been added before its value, and those behind it. -/
theorem Adds.entry {before found : List (Nat × Nat)} {fs : List (String × Value)}
    (hkey : g₁ = g.push ⟨.str, .scalar text⟩) (h : Adds g₁ g₂ n v)
    (hrest : AddsEntries g₂ g' ((g.size, n) :: before) found fs) :
    AddsEntries g g' before found ((text, v) :: fs) where
  grows := (hkey ▸ Graph.grows_push g _).trans (h.grows.trans hrest.grows)
  represents := by
    obtain ⟨entries, rfl, hentries⟩ := hrest.represents
    have hsize : g.size ≤ g₁.size := by rw [hkey, Array.size_push]; omega
    have hnode : g₁[g.size]? = some ⟨.str, .scalar text⟩ := by
      rw [hkey]
      exact Array.getElem?_push_size
    refine ⟨(g.size, n) :: entries, by simp, .cons (le_refl _) ?_ ?_ ?_⟩
    · exact (h.grows.trans hrest.grows).keeps _ (Nat.zero_le _) _ hnode
    · exact h.represents.mono hsize fun m _ => hrest.grows.keeps m (Nat.zero_le _)
    · exact hentries.mono (hsize.trans h.grows.size_le) fun _ _ _ hnode => hnode

end

/-! ### What has been read -/

/-- What has been read when the tokens of a value have been taken. -/
structure HasRead (r r' : Reader) (n : Nat) (v : Value) (us : List Token) : Prop where
  ahead : Ahead r'.source us
  adds : Adds r.graph r'.graph n v

structure HasReadItems (r r' : Reader) (before found : List Nat) (vs : List Value)
    (us : List Token) : Prop where
  ahead : Ahead r'.source us
  adds : AddsItems r.graph r'.graph before found vs

structure HasReadEntries (r r' : Reader) (before found : List (Nat × Nat))
    (fs : List (String × Value)) (us : List Token) : Prop where
  ahead : Ahead r'.source us
  adds : AddsEntries r.graph r'.graph before found fs

section

variable {r r₁ r₂ r' : Reader} {n fuel depth : Nat} {v : Value} {us us' : List Token}

theorem hasReadItems_of_close {first : Bool} {before found : List Nat}
    (hahead : Ahead r.source (.flowSequenceEnd :: us))
    (h : readFlowItems first before fuel depth r = .ok (found, r')) :
    HasReadItems r r' before found [] us := by
  cases fuel with
  | zero => cases h
  | succ fuel =>
      obtain ⟨rfl, hahead, hgraph⟩ := readFlowItems_close hahead h
      exact ⟨hahead, hgraph ▸ addsItems_nil before⟩

theorem hasReadEntries_of_close {first : Bool} {before found : List (Nat × Nat)}
    (hahead : Ahead r.source (.flowMappingEnd :: us))
    (h : readFlowEntries first before fuel depth r = .ok (found, r')) :
    HasReadEntries r r' before found [] us := by
  cases fuel with
  | zero => cases h
  | succ fuel =>
      obtain ⟨rfl, hahead, hgraph⟩ := readFlowEntries_close hahead h
      exact ⟨hahead, hgraph ▸ addsEntries_nil before⟩

/-- Reading an item and then those behind it. -/
theorem hasReadItems_of_item (first : Bool) {before found : List Nat} {vs : List Value}
    {s : Setting} {ls : List Lexeme} {c : Cursor} (hwrites : Writes IsAtom Escapes s v ls)
    (hahead : Ahead r.source (separator first ++ (tokensFrom c ls ++ us')))
    (h : readFlowItems first before fuel depth r = .ok (found, r'))
    (hvalue : ∀ {r₁ r₂ n fuel}, Ahead r₁.source (tokensFrom c ls ++ us') →
      read .flow fuel depth r₁ = .ok (n, r₂) → HasRead r₁ r₂ n v us')
    (hrest : ∀ {r₂ n fuel}, Ahead r₂.source us' →
      readFlowItems false (n :: before) fuel depth r₂ = .ok (found, r') →
      HasReadItems r₂ r' (n :: before) found vs us) :
    HasReadItems r r' before found (v :: vs) us := by
  cases fuel with
  | zero => cases h
  | succ fuel =>
      obtain ⟨t, ts, hts, ht⟩ := exists_beginsValue hwrites c us'
      rw [hts] at hahead hvalue
      obtain ⟨r₁, r₂, n, hahead, hgraph, hread, h⟩ := readFlowItems_item hahead ht h
      have hitem := hvalue hahead hread
      have hitems := hrest hitem.ahead h
      exact ⟨hitems.ahead, hgraph ▸ hitem.adds.cons hitems.adds⟩

/-- Reading a key with its value and then the entries behind them. -/
theorem hasReadEntries_of_entry (first : Bool) {before found : List (Nat × Nat)}
    {fs : List (String × Value)} {form : KeyForm} {body gap : List Char} {k : String}
    {ls : List Lexeme} {c c' : Cursor} (hk : Escapes body k)
    (hwrites : Writes IsAtom Escapes .field v ls)
    (hahead : Ahead r.source
      (separator first ++ (tokensOf c (.key form body gap) ++ (tokensFrom c' ls ++ us'))))
    (h : readFlowEntries first before fuel depth r = .ok (found, r'))
    (hvalue : ∀ {r₁ r₂ n fuel}, Ahead r₁.source (tokensFrom c' ls ++ us') →
      read .flow fuel depth r₁ = .ok (n, r₂) → HasRead r₁ r₂ n v us')
    (hrest : ∀ {r₂ e fuel}, Ahead r₂.source us' →
      readFlowEntries false (e :: before) fuel depth r₂ = .ok (found, r') →
      HasReadEntries r₂ r' (e :: before) found fs us) :
    HasReadEntries r r' before found ((k, v) :: fs) us := by
  obtain ⟨t, ts, hts, ht⟩ := exists_beginsValue hwrites c' us'
  rw [tokensOf, contents_of_escapes hk] at hahead
  split at hahead
  · exact absurd h (readFlowEntries_late hahead)
  · cases fuel with
    | zero => cases h
    | succ fuel =>
        rw [hts] at hahead hvalue
        obtain ⟨r₁, r₂, n, hahead, hgraph, hread, h⟩ := readFlowEntries_entry hahead ht h
        have hentry := hvalue hahead hread
        have hentries := hrest hentry.ahead h
        exact ⟨hentries.ahead, hentry.adds.entry hgraph hentries.adds⟩

end

mutual

theorem read_of_writes {s : Setting} {v : Value} {ls : List Lexeme} :
    Writes IsAtom Escapes s v ls → IsStrict ls → KeepsWords ls → ∀ {c : Cursor} {us : List Token}
    {context : Context} {fuel depth n : Nat} {r r' : Reader},
    Ahead r.source (tokensFrom c ls ++ us) → read context fuel depth r = .ok (n, r') →
    HasRead r r' n v us
  | _, _, _, _, _, _, 0, _, _, _, _, _, h => by cases h
  | .word hg ha, hstrict, hwords, c, us, context, fuel + 1, depth, n, r, r', hahead, h => by
    obtain ⟨hahead, rfl, hgraph⟩ := read_scalar hahead h
    exact ⟨hahead, hgraph ▸ adds_scalar
      (scalarValue_of_isAtom ha (hwords _ List.mem_cons_self _ rfl)) ha.normalize⟩
  | .string hg hb, hstrict, hwords, c, us, context, fuel + 1, depth, n, r, r', hahead, h => by
    obtain ⟨hahead, rfl, hgraph⟩ := read_scalar hahead h
    rw [contents_of_escapes hb] at hgraph
    exact ⟨hahead, hgraph ▸ adds_scalar rfl rfl⟩
  | .emptyArray hg hg', hstrict, hwords, c, us, context, fuel + 1, depth, n, r, r', hahead, h => by
    obtain ⟨rfl, r₁, r₂, items, hahead, hgraph, hitems, rfl⟩ := read_array hahead h
    have hclose := hasReadItems_of_close hahead hitems
    exact ⟨hclose.ahead, hclose.adds.adds hgraph⟩
  | .array hg hv hvs, hstrict, hwords, c, us, context, fuel + 1, depth, n, r, r', hahead, h => by
    rw [Json.isStrict_cons, Json.isStrict_append] at hstrict
    rw [keepsWords_cons, keepsWords_append] at hwords
    rw [tokensFrom_cons, tokensFrom_append, List.append_assoc, List.append_assoc] at hahead
    obtain ⟨rfl, r₁, r₂, items, hahead, hgraph, hitems, rfl⟩ := read_array hahead h
    have hread := hasReadItems_of_item true hv hahead hitems
      (fun hahead h => read_of_writes hv hstrict.2.1 hwords.2.1 hahead h)
      fun hahead h => readFlowItems_of_writes hvs hstrict.2.2 hwords.2.2 hahead h
    exact ⟨hread.ahead, hread.adds.adds hgraph⟩
  | .emptyObject hg hg', hstrict, hwords, c, us, context, fuel + 1, depth, n, r, r', hahead, h => by
    obtain ⟨rfl, r₁, r₂, entries, hahead, hgraph, hentries, rfl⟩ := read_object hahead h
    have hclose := hasReadEntries_of_close hahead hentries
    exact ⟨hclose.ahead, hclose.adds.adds hgraph⟩
  | .object hg hg' hgap hform hk hv hfs, hstrict, hwords, c, us, context, fuel + 1, depth, n, r, r',
      hahead, h => by
    rw [Json.isStrict_cons, Json.isStrict_cons, Json.isStrict_append] at hstrict
    rw [keepsWords_cons, keepsWords_cons, keepsWords_append] at hwords
    rw [tokensFrom_cons, tokensFrom_cons, tokensFrom_append, List.append_assoc, List.append_assoc,
      List.append_assoc] at hahead
    obtain ⟨rfl, r₁, r₂, entries, hahead, hgraph, hentries, rfl⟩ := read_object hahead h
    have hread := hasReadEntries_of_entry true hk hv hahead hentries
      (fun hahead h => read_of_writes hv hstrict.2.2.1 hwords.2.2.1 hahead h)
      fun hahead h => readFlowEntries_of_writes hfs hstrict.2.2.2 hwords.2.2.2 hahead h
    exact ⟨hread.ahead, hread.adds.adds hgraph⟩

theorem readFlowItems_of_writes {vs : List Value} {ms : List Lexeme} :
    WritesItemsAfter IsAtom Escapes vs ms → IsStrict ms → KeepsWords ms → ∀ {c : Cursor}
    {us : List Token} {fuel depth : Nat} {before found : List Nat} {r r' : Reader},
    Ahead r.source (tokensFrom c ms ++ us) →
    readFlowItems false before fuel depth r = .ok (found, r') → HasReadItems r r' before found vs us
  | .close hg, hstrict, hwords, c, us, fuel, depth, before, found, r, r', hahead, h =>
    hasReadItems_of_close hahead h
  | .trailing hg hg', hstrict, hwords, c, us, fuel, depth, before, found, r, r', hahead, h =>
    absurd rfl (Json.isStrict_cons.mp hstrict).1
  | .next hg hv hvs, hstrict, hwords, c, us, fuel, depth, before, found, r, r', hahead, h => by
    rw [Json.isStrict_cons, Json.isStrict_append] at hstrict
    rw [keepsWords_cons, keepsWords_append] at hwords
    rw [tokensFrom_cons, tokensFrom_append, List.append_assoc, List.append_assoc] at hahead
    exact hasReadItems_of_item false hv hahead h
      (fun hahead h => read_of_writes hv hstrict.2.1 hwords.2.1 hahead h)
      fun hahead h => readFlowItems_of_writes hvs hstrict.2.2 hwords.2.2 hahead h

theorem readFlowEntries_of_writes {fs : List (String × Value)} {ms : List Lexeme} :
    WritesFieldsAfter IsAtom Escapes fs ms → IsStrict ms → KeepsWords ms → ∀ {c : Cursor}
    {us : List Token} {fuel depth : Nat} {before found : List (Nat × Nat)} {r r' : Reader},
    Ahead r.source (tokensFrom c ms ++ us) →
    readFlowEntries false before fuel depth r = .ok (found, r') →
    HasReadEntries r r' before found fs us
  | .close hg, hstrict, hwords, c, us, fuel, depth, before, found, r, r', hahead, h =>
    hasReadEntries_of_close hahead h
  | .trailing hg hg', hstrict, hwords, c, us, fuel, depth, before, found, r, r', hahead, h =>
    absurd rfl (Json.isStrict_cons.mp hstrict).1
  | .next hg hg' hgap hform hk hv hfs, hstrict, hwords, c, us, fuel, depth, before, found, r, r',
      hahead, h => by
    rw [Json.isStrict_cons, Json.isStrict_cons, Json.isStrict_append] at hstrict
    rw [keepsWords_cons, keepsWords_cons, keepsWords_append] at hwords
    rw [tokensFrom_cons, tokensFrom_cons, tokensFrom_append, List.append_assoc, List.append_assoc,
      List.append_assoc] at hahead
    exact hasReadEntries_of_entry false hk hv hahead h
      (fun hahead h => read_of_writes hv hstrict.2.2.1 hwords.2.2.1 hahead h)
      fun hahead h => readFlowEntries_of_writes hfs hstrict.2.2.2 hwords.2.2.2 hahead h

end

/-- The first document of a text of lexemes stands for what they write. -/
theorem represents_of_first {v : Value} {ls : List Lexeme} {g : List Char}
    {found : Option (Graph × Nat)} (hwrites : Writes IsAtom Escapes .item v ls)
    (hstrict : IsStrict ls) (hwords : KeepsWords ls) (hls : IsReadable 0 ls) (hg : IsGap g)
    (h : first (textOf ls ++ g) = .ok found) :
    ∃ graph root, found = some (graph, root) ∧ graph.Represents 0 root v := by
  obtain ⟨l, ls, rfl⟩ := List.exists_cons_of_ne_nil
    (hwrites.isValueRun Json.atomsAreWords_isAtom).nonempty
  obtain ⟨source, hsource, h⟩ := bind_eq_ok.mp h
  obtain ⟨⟨root, r⟩, hfirst, h⟩ := bind_eq_ok.mp h
  obtain ⟨c, hahead⟩ := TokenSource.ahead_of_ofText hls hg hsource
  obtain ⟨t, ts, hts, ht⟩ := exists_beginsValue hwrites c [.streamEnd]
  rw [hts] at hahead
  rw [readFirst, StateT.run, modify_bind] at hfirst
  obtain ⟨source, hbefore, -, hfirst⟩ := exists_of_look hahead hfirst
  rw [← hts] at hbefore
  cases t with
  | scalar text isPlain | flowSequenceStart | flowMappingStart =>
      obtain ⟨⟨n, r₁⟩, hread, hfirst⟩ := bind_eq_ok.mp hfirst
      have hroot := read_of_writes hwrites hstrict hwords hbefore hread
      obtain ⟨⟨_, r₂⟩, hdiscard, hfirst⟩ := bind_eq_ok.mp hfirst
      obtain ⟨⟨_, r₃⟩, hlook, hsame⟩ := bind_eq_ok.mp hdiscard
      obtain ⟨source, -, rfl⟩ := exists_of_look_eq hlook
      obtain ⟨-, rfl⟩ := Prod.mk.inj (Except.ok.inj hsame)
      obtain ⟨rfl, rfl⟩ := Prod.mk.inj (Except.ok.inj hfirst)
      exact ⟨_, n, (Except.ok.inj h).symm, hroot.adds.represents⟩
  | _ => cases ht

end Document

end TypeDraft.Yaml
