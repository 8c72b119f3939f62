import TypeDraft.Proofs.Except
import TypeDraft.Proofs.Yaml.Lines
import TypeDraft.Proofs.Yaml.Nodes

/-!
# Reading block mappings

Where the source gives the tokens of a value whose mappings are block mappings, a node for it is
added to the graph. Reading succeeds if its fuel exceeds the number of the tokens and the mappings
are not nested too deep.
-/

namespace TypeDraft.Yaml

mutual

/-- The tokens of a value that is a scalar or a block mapping of such values. -/
inductive IsBlock : Value → List Token → Prop
  | scalar {text isPlain v} : scalarValue (if isPlain then plainTag text else .str) text = .ok v →
      v.normalize = v → IsBlock v [.scalar text isPlain]
  | mapping {fs ts} : AreBlockEntries fs ts →
      IsBlock (.obj fs) (.blockMappingStart :: (ts ++ [.blockEnd]))

inductive AreBlockEntries : List (String × Value) → List Token → Prop
  | nil : AreBlockEntries [] []
  | cons {k v fs ts us} : plainTag k = .str → IsBlock v ts → AreBlockEntries fs us →
      AreBlockEntries ((k, v) :: fs) (.key :: .scalar k true :: .value :: (ts ++ us))

end

/-- The tokens that begin such a value. -/
def beginsBlock : Token → Bool
  | .scalar .. | .blockMappingStart => true
  | _ => false

section

variable {v : Value} {fs fs' : List (String × Value)} {ts ts' : List Token}

theorem IsBlock.exists_beginsBlock (h : IsBlock v ts) (us : List Token) :
    ∃ t ts', ts ++ us = t :: ts' ∧ beginsBlock t = true := by
  cases h <;> exact ⟨_, _, rfl, rfl⟩

theorem AreBlockEntries.append (h : AreBlockEntries fs ts) (h' : AreBlockEntries fs' ts') :
    AreBlockEntries (fs ++ fs') (ts ++ ts') := by
  induction fs generalizing ts with
  | nil =>
      cases h
      exact h'
  | cons f fs ih =>
      cases h with
      | cons hkey hvalue hrest =>
          have hentries := AreBlockEntries.cons hkey hvalue (ih hrest)
          rwa [← List.append_assoc] at hentries

end

namespace Document

open Json (exists_depth_of_object level)
open TokenSource (Gives)

/-! ## Steps of reading -/

section

variable {r : Reader} {t : Token} {us : List Token} {context : Context} {fuel depth : Nat}
  {text : String} {isPlain : Bool}

/-- The next token is there, and may be skipped then. -/
theorem look_bind (h : Gives r.source (t :: us)) :
    ∃ source, Gives source (t :: us) ∧ Gives source.drop us ∧
      ∀ {α : Type} (k : Token → Reading α), (look >>= k) r = k t { r with source } := by
  obtain ⟨source, hpeek, hagain, hdrop⟩ := h
  refine ⟨source, ⟨source, hagain, hagain, hdrop⟩, hdrop, bind_of_eq_ok ?_⟩
  have hlift : (liftM r.source.peek : Reading (Token × TokenSource)) r = .ok ((t, source), r) := by
    rw [hpeek]
    rfl
  exact bind_of_eq_ok hlift fun p => do
    set { r with source := p.2 }
    pure p.1

/-- Such a value has neither an anchor nor a tag. -/
theorem properties_bind (h : Gives r.source (t :: us)) (ht : beginsBlock t = true) :
    ∃ source, Gives source (t :: us) ∧ ∀ {α : Type} (k : Option String × Option String → Reading α),
      (properties >>= k) r = k (none, none) { r with source } := by
  obtain ⟨source, hbefore, -, hlook⟩ := look_bind h
  refine ⟨source, hbefore, bind_of_eq_ok ?_⟩
  rw [properties, hlook]
  cases t with
  | scalar text isPlain | blockMappingStart => rfl
  | _ => cases ht

theorem read_of_gives_scalar (context : Context) (fuel depth : Nat)
    (h : Gives r.source (.scalar text isPlain :: us)) :
    ∃ source, Gives source us ∧ read context (fuel + 1) depth r = .ok (r.graph.size,
      { r with source, graph := r.graph.push (scalarNode none text isPlain) }) := by
  obtain ⟨source, h, -, hlook⟩ := look_bind h
  obtain ⟨source, h, hproperties⟩ := properties_bind (r := { r with source }) h rfl
  obtain ⟨source, -, hbehind, hlook'⟩ := look_bind (r := { r with source }) h
  refine ⟨source.drop, hbehind, ?_⟩
  rw [read]
  refine (hlook _).trans ?_
  refine (hproperties _).trans ?_
  exact hlook' _

/-- The node of a mapping is added before its entries are read. -/
theorem read_of_gives_mapping (h : Gives r.source (.blockMappingStart :: us))
    (hcontext : context ≠ .flow) :
    ∃ source, Gives source us ∧ read context (fuel + 1) (depth + 1) r =
      (readBlockEntries [] fuel depth >>= fun entries => close r.graph.size (.map entries))
        { r with source, graph := r.graph.push ⟨.map, .seq []⟩ } := by
  obtain ⟨source, h, -, hlook⟩ := look_bind h
  obtain ⟨source, h, hproperties⟩ := properties_bind (r := { r with source }) h rfl
  obtain ⟨source, -, hbehind, hlook'⟩ := look_bind (r := { r with source }) h
  refine ⟨source.drop, hbehind, ?_⟩
  rw [read]
  refine (hlook _).trans ?_
  refine (hproperties _).trans ?_
  refine (hlook' _).trans ?_
  cases context with
  | flow => exact absurd rfl hcontext
  | block | blockValue => rfl

theorem readBlockEntries_of_gives_end {entries : List (Nat × Nat)}
    (h : Gives r.source (.blockEnd :: us)) : ∃ source, Gives source us ∧
      readBlockEntries entries (fuel + 1) depth r = .ok (entries.reverse, { r with source }) := by
  obtain ⟨source, -, hbehind, hlook⟩ := look_bind h
  refine ⟨source.drop, hbehind, ?_⟩
  rw [readBlockEntries, hlook]
  rfl

/-- The key of an entry is read, and then its value. -/
theorem readBlockEntries_of_gives_key {entries : List (Nat × Nat)}
    (h : Gives r.source (.key :: .scalar text isPlain :: .value :: t :: us))
    (ht : beginsBlock t = true) : ∃ source, Gives source (t :: us) ∧
      readBlockEntries entries (fuel + 2) depth r =
        (read .blockValue (fuel + 1) depth >>= fun value =>
          readBlockEntries ((r.graph.size, value) :: entries) (fuel + 1) depth)
          { r with source, graph := r.graph.push (scalarNode none text isPlain) } := by
  obtain ⟨source, -, h, hkey⟩ := look_bind h
  obtain ⟨source, h, -, hscalar⟩ := look_bind (r := { r with source := source.drop }) h
  obtain ⟨source, h, hread⟩ :=
    read_of_gives_scalar .blockValue fuel depth (r := { r with source }) h
  obtain ⟨source, -, h, hcolon⟩ := look_bind (r := { r with
    source, graph := r.graph.push (scalarNode none text isPlain) }) h
  obtain ⟨source, h, -, hvalue⟩ := look_bind (r := { r with
    source := source.drop, graph := r.graph.push (scalarNode none text isPlain) }) h
  refine ⟨source, h, ?_⟩
  rw [readBlockEntries]
  refine (hkey _).trans (skip_bind.trans ?_)
  refine (hscalar _).trans ?_
  refine (bind_of_eq_ok hread _).trans ?_
  refine (hcolon _).trans (skip_bind.trans ?_)
  refine (hvalue _).trans ?_
  cases t with
  | scalar text isPlain | blockMappingStart => rfl
  | _ => cases ht

end

/-! ## Nodes -/

mutual

theorem exists_read_of_isBlock {v : Value} {ts : List Token} :
    IsBlock v ts → ∀ (context : Context) (fuel : Nat) {depth : Nat} {r : Reader} {us : List Token},
    Gives r.source (ts ++ us) → context ≠ .flow → ts.length < fuel →
    v.exceeds level depth = false → ∃ r', read context fuel depth r = .ok (r.graph.size, r') ∧
      Gives r'.source us ∧ Adds r.graph r'.graph r.graph.size v
  | .scalar hvalue hnormal, _, fuel + 1, _, _, _, h, _, _, _ => by
    obtain ⟨source, h, hread⟩ := read_of_gives_scalar _ fuel _ h
    exact ⟨_, hread, h, adds_scalar hvalue hnormal⟩
  | .mapping hfs, _, fuel + 1, depth, r, us, h, hcontext, hfuel, hdepth => by
    obtain ⟨depth, rfl, hfits⟩ := exists_depth_of_object hdepth
    simp only [List.length_cons, List.length_append, List.length_nil] at hfuel
    rw [List.cons_append, List.append_assoc] at h
    obtain ⟨source, h, hread⟩ := read_of_gives_mapping h hcontext
    obtain ⟨entries, r', hentries, h, hadds⟩ := exists_readBlockEntries hfs [] fuel
      (r := { r with source, graph := r.graph.push ⟨.map, .seq []⟩ }) h (by omega) hfits
    refine ⟨_, hread.trans (bind_of_eq_ok hentries _), h, ?_⟩
    exact hadds.adds rfl

theorem exists_readBlockEntries {fs : List (String × Value)} {ts : List Token} :
    AreBlockEntries fs ts → ∀ (before : List (Nat × Nat)) (fuel : Nat) {depth : Nat} {r : Reader}
    {us : List Token}, Gives r.source (ts ++ .blockEnd :: us) → ts.length < fuel →
    Value.anyFieldExceeds level depth fs = false →
    ∃ entries r', readBlockEntries before fuel depth r = .ok (entries, r') ∧
      Gives r'.source us ∧ AddsEntries r.graph r'.graph before entries fs
  | .nil, before, fuel + 1, _, _, _, h, _, _ => by
    obtain ⟨source, h, hread⟩ := readBlockEntries_of_gives_end h
    exact ⟨_, _, hread, h, addsEntries_nil before⟩
  | .cons (k := k) hkey hv hfs, before, fuel, depth, r, us, h, hfuel, hdepth => by
    rw [Value.anyFieldExceeds, Bool.or_eq_false_iff] at hdepth
    simp only [List.length_cons, List.length_append] at hfuel
    obtain ⟨fuel, rfl⟩ : ∃ m, fuel = m + 2 := ⟨fuel - 2, by omega⟩
    simp only [List.cons_append, List.append_assoc] at h
    obtain ⟨t, ts', hts, ht⟩ := hv.exists_beginsBlock _
    rw [hts] at h
    obtain ⟨source, h, hread⟩ := readBlockEntries_of_gives_key h ht
    rw [← hts] at h
    obtain ⟨r₂, hvalue, h, hadds⟩ := exists_read_of_isBlock hv .blockValue (fuel + 1)
      (r := { r with source, graph := r.graph.push (scalarNode none k true) }) h nofun (by omega)
      hdepth.1
    obtain ⟨entries, r', hentries, h, hrest⟩ :=
      exists_readBlockEntries hfs ((r.graph.size, _) :: before) (fuel + 1) h (by omega) hdepth.2
    refine ⟨entries, r', hread.trans ((bind_of_eq_ok hvalue _).trans hentries), h, ?_⟩
    refine hadds.entry ?_ hrest
    rw [scalarNode, if_pos rfl, hkey]

end

section

variable {source : TokenSource} {v : Value} {ts : List Token} {fuel : Nat}

theorem exists_readFirst_of_isBlock (hts : IsBlock v ts) (h : Gives source (ts ++ [.streamEnd]))
    (hfuel : ts.length < fuel) (hdepth : v.exceeds level nestingLimit = false) :
    ∃ r, readFirst fuel { source } = .ok (some 0, r) ∧ Gives r.source [.streamEnd] ∧
      r.graph.Represents 0 0 v := by
  obtain ⟨t, ts', hbegin, ht⟩ := hts.exists_beginsBlock [.streamEnd]
  rw [hbegin] at h
  obtain ⟨source', h, -, hlook⟩ := look_bind (r := { source, handles := defaultHandles }) h
  rw [← hbegin] at h
  obtain ⟨r, hread, h, hadds⟩ := exists_read_of_isBlock hts .block fuel
    (r := { source := source', handles := defaultHandles }) h nofun hfuel hdepth
  obtain ⟨source', h, -, hend⟩ := look_bind h
  have hdiscard : discard look r = .ok ((), { r with source := source' }) := hend fun _ => pure ()
  refine ⟨{ r with source := source' }, ?_, h, hadds.represents⟩
  rw [readFirst, modify_bind]
  refine (hlook _).trans ?_
  cases t with
  | scalar text isPlain | blockMappingStart =>
      refine (bind_of_eq_ok hread _).trans ?_
      exact bind_of_eq_ok hdiscard _
  | _ => cases ht

/-- The only document of a text that gives the tokens of a value stands for that. -/
theorem exists_only_of_isBlock {cs : List Char} (hsource : TokenSource.ofText cs = .ok source)
    (hts : IsBlock v ts) (h : Gives source (ts ++ [.streamEnd])) (hfuel : ts.length < fuelFor cs)
    (hdepth : v.exceeds level nestingLimit = false) :
    ∃ graph root, only cs = .ok (some (graph, root)) ∧ graph.Represents 0 root v := by
  obtain ⟨r, hfirst, h, hroot⟩ := exists_readFirst_of_isBlock hts h hfuel hdepth
  obtain ⟨source', h, -, hends⟩ := look_bind h
  obtain ⟨source'', h, -, hend⟩ := look_bind (r := { r with source := source' }) h
  have hskip : skipDocumentEnds (fuelFor cs) r = .ok ((), { r with source := source' }) := by
    rw [fuelFor, skipDocumentEnds]
    exact hends _
  have honly : readOnly (fuelFor cs) { source } = .ok (some 0, { r with source := source'' }) := by
    rw [readOnly]
    refine (bind_of_eq_ok hfirst _).trans ?_
    refine (bind_of_eq_ok hskip _).trans ?_
    exact hend _
  refine ⟨r.graph, 0, ?_, hroot⟩
  rw [only, run, hsource]
  change (readOnly (fuelFor cs) { source } >>= _) = _
  rw [honly]
  rfl

end

end Document

end TypeDraft.Yaml
