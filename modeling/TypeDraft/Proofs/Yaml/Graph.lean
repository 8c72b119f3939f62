import TypeDraft.Yaml.Load

/-!
# Graphs of values

A node of a graph stands for a value when it and the nodes that it holds have the contents and tags
for it. This stays so as long as nodes are only added, or changed in front of them.
-/

namespace TypeDraft.Yaml

namespace Graph

variable {g g' g'' : Graph}

/-- Whether the nodes from a number on are in another graph as well. -/
def KeepsFrom (low : Nat) (g g' : Graph) : Prop :=
  ∀ n, low ≤ n → ∀ node, g[n]? = some node → g'[n]? = some node

/-- Whether a graph has grown: its nodes are still there, and others may stand behind them. -/
structure Grows (g g' : Graph) : Prop where
  size_le : g.size ≤ g'.size
  keeps : g.KeepsFrom 0 g'

theorem Grows.refl (g : Graph) : Grows g g := ⟨Nat.le_refl _, fun _ _ _ h => h⟩

theorem Grows.trans (h : Grows g g') (h' : Grows g' g'') : Grows g g'' :=
  ⟨Nat.le_trans h.size_le h'.size_le, fun n hn node hnode => h'.keeps n hn node (h.keeps n hn node hnode)⟩

theorem grows_push (g : Graph) (node : Node) : Grows g (g.push node) where
  size_le := by simp
  keeps n _ node' h := by
    obtain ⟨hn, rfl⟩ := Array.getElem?_eq_some_iff.mp h
    rw [Array.getElem?_push_lt hn]

theorem getElem?_setContent_ne {m n : Nat} (h : m ≠ n) (content : Content) :
    (g.setContent m content)[n]? = g[n]? := by
  rw [setContent, Array.getElem?_modify, if_neg h]

theorem Grows.setContent {n : Nat} (h : Grows g g') (hn : g.size ≤ n) (content : Content) :
    Grows g (g'.setContent n content) where
  size_le := by simpa [Graph.setContent] using h.size_le
  keeps m _ node hnode := by
    have hm : n ≠ m := fun heq => by
      obtain ⟨hlt, -⟩ := Array.getElem?_eq_some_iff.mp hnode
      omega
    rw [getElem?_setContent_ne hm]
    exact h.keeps m (Nat.zero_le _) node hnode

mutual

/-- A node, and what it holds, stands for a value, the fields of whose objects are listed as they
are written. Collections hold only nodes behind themselves, and no node stands before `low`. -/
inductive Represents (g : Graph) : (low n : Nat) → Value → Prop
  | scalar {low n tag text v} : low ≤ n → g[n]? = some ⟨tag, .scalar text⟩ →
      scalarValue tag text = .ok v → v.normalize = v → Represents g low n v
  | array {low n items vs} : low ≤ n → g[n]? = some ⟨.seq, .seq items⟩ →
      RepresentsItems g (n + 1) items vs → Represents g low n (.arr vs)
  | object {low n entries fs} : low ≤ n → g[n]? = some ⟨.map, .map entries⟩ →
      RepresentsEntries g (n + 1) entries fs → Represents g low n (.obj fs)

inductive RepresentsItems (g : Graph) : Nat → List Nat → List Value → Prop
  | nil {low} : RepresentsItems g low [] []
  | cons {low n v items vs} : Represents g low n v → RepresentsItems g low items vs →
      RepresentsItems g low (n :: items) (v :: vs)

inductive RepresentsEntries (g : Graph) : Nat → List (Nat × Nat) → List (String × Value) → Prop
  | nil {low} : RepresentsEntries g low [] []
  | cons {low key k n v entries fs} : low ≤ key → g[key]? = some ⟨.str, .scalar k⟩ →
      Represents g low n v → RepresentsEntries g low entries fs →
      RepresentsEntries g low ((key, n) :: entries) ((k, v) :: fs)

end

/-- A mapping whose keys are strings has no merge key. -/
theorem merge_eq_self {n : Nat} (h : ∀ e ∈ g.entries n, g.tag e.1 = .str) (depth : Nat) :
    merge (depth + 1) n g = .ok g := by
  rw [merge, if_neg]
  rw [List.any_eq_true]
  rintro ⟨e, he, hspecial⟩
  rw [h e he] at hspecial
  cases hspecial

theorem Represents.low_le {low n : Nat} {v : Value} (h : g.Represents low n v) : low ≤ n := by
  cases h <;> assumption

theorem Represents.lt_size {low n : Nat} {v : Value} (h : g.Represents low n v) : n < g.size := by
  cases h with
  | scalar _ hnode _ _ => exact (Array.getElem?_eq_some_iff.mp hnode).1
  | array _ hnode _ | object _ hnode _ => exact (Array.getElem?_eq_some_iff.mp hnode).1

theorem RepresentsEntries.tag_key {low : Nat} {entries : List (Nat × Nat)}
    {fs : List (String × Value)} (h : g.RepresentsEntries low entries fs) :
    ∀ e ∈ entries, g.tag e.1 = .str := by
  induction entries generalizing fs with
  | nil => exact nofun
  | cons e entries ih =>
      cases h with
      | cons _ hnode _ hentries =>
          exact List.forall_mem_cons.mpr ⟨by rw [tag, hnode], ih hentries⟩

theorem scalar_eq {n : Nat} {t : Tag} {text : String} (h : g[n]? = some ⟨t, .scalar text⟩) :
    g.scalar n = scalarValue t text := by
  have htext : g.text (g.size + 1) n = .ok text := by rw [Graph.text, h]; rfl
  have htag : g.tag n = t := by rw [tag, h]
  rw [Graph.scalar, htext, htag, h]
  cases t <;> rfl

theorem isCollection_eq_false {t : Tag} {text : String} {v : Value}
    (h : scalarValue t text = .ok v) : t.isCollection = false := by
  cases t <;> first | rfl | cases h

mutual

/-- What stands before a node does not matter for it. -/
theorem Represents.mono {low low' n : Nat} {v : Value} (hlow : low' ≤ low)
    (hkeeps : g.KeepsFrom low g') : g.Represents low n v → g'.Represents low' n v
  | .scalar hn hnode hvalue hnormal =>
    .scalar (Nat.le_trans hlow hn) (hkeeps n hn _ hnode) hvalue hnormal
  | .array hn hnode hitems =>
    .array (Nat.le_trans hlow hn) (hkeeps n hn _ hnode)
      (hitems.mono (Nat.le_refl _) fun m hm => hkeeps m (by omega))
  | .object hn hnode hentries =>
    .object (Nat.le_trans hlow hn) (hkeeps n hn _ hnode)
      (hentries.mono (Nat.le_refl _) fun m hm => hkeeps m (by omega))

theorem RepresentsItems.mono {low low' : Nat} {items : List Nat} {vs : List Value}
    (hlow : low' ≤ low) (hkeeps : g.KeepsFrom low g') :
    g.RepresentsItems low items vs → g'.RepresentsItems low' items vs
  | .nil => .nil
  | .cons hv hvs => .cons (hv.mono hlow hkeeps) (hvs.mono hlow hkeeps)

theorem RepresentsEntries.mono {low low' : Nat} {entries : List (Nat × Nat)}
    {fs : List (String × Value)} (hlow : low' ≤ low) (hkeeps : g.KeepsFrom low g') :
    g.RepresentsEntries low entries fs → g'.RepresentsEntries low' entries fs
  | .nil => .nil
  | .cons hkey hnode hv hfs =>
    .cons (Nat.le_trans hlow hkey) (hkeeps _ hkey _ hnode) (hv.mono hlow hkeeps) (hfs.mono hlow hkeeps)

end

end Graph

end TypeDraft.Yaml
