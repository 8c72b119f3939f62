import Mathlib.Data.List.Forall2
import TypeDraft.Proofs.Yaml.Graph
import TypeDraft.Proofs.Yaml.Scanning

/-!
# The values of the nodes of JSON

The nodes that stand for a value have their parts found one after another, and every collection that
is found is filled in one of the rounds: what it holds stands behind it, so that each round has only
nodes further on to fill.
-/

namespace TypeDraft.Yaml

namespace Values

/-! ## Known parts -/

/-- The part of a node is known. -/
def HasPart (vs : Values) (n : Nat) (p : Part) : Prop := vs.parts[n]?.join = some p

/-- What is known of the parts stays so. -/
def Keeps (vs vs' : Values) : Prop := ∀ n p, vs.HasPart n p → vs'.HasPart n p

/-- A collection holds the parts of what its node holds. -/
inductive IsFilled (vs : Values) (n : Nat) : Prop
  | list {items ps} : vs.graph[n]? = some ⟨.seq, .seq items⟩ →
      vs.collections[n]? = some (.list ps) → List.Forall₂ vs.HasPart items ps → IsFilled vs n
  | mapping {entries found} : vs.graph[n]? = some ⟨.map, .map entries⟩ →
      vs.collections[n]? = some (.mapping (Value.collectEntries found)) →
      List.Forall₂ (fun e f => vs.HasPart e.1 (.scalar f.1) ∧ vs.HasPart e.2 f.2) entries found →
      IsFilled vs n

/-- The right part for a node. -/
inductive IsPartOf (g : Graph) (n : Nat) : Part → Prop
  | scalar {v} : (g.tag n).isCollection = false → g.scalar n = .ok v → IsPartOf g n (.scalar v)
  | collection : (g.tag n).isCollection = true → IsPartOf g n (.collection n)

/-- Every part that is known is right, and every collection that is known is filled, is one of
those that are about to be filled, or waits. -/
structure IsSound (g : Graph) (pending : List Nat) (vs : Values) : Prop where
  graph : vs.graph = g
  size_parts : vs.parts.size = g.size
  size_collections : vs.collections.size = g.size
  part : ∀ n p, vs.HasPart n p → IsPartOf g n p
  filled : ∀ n, vs.HasPart n (.collection n) → n ∈ pending ∨ n ∈ vs.waiting ∨ vs.IsFilled n

/-- Whether nodes are collections that stand for values, none of them before `low`. -/
def AreCollections (g : Graph) (low : Nat) (ns : List Nat) : Prop :=
  ∀ n ∈ ns, (g.tag n).isCollection = true ∧ ∃ v, g.Represents low n v

section

variable {g : Graph} {pending : List Nat} {vs vs' vs'' : Values} {low n : Nat} {p : Part}
  {v : Value}

theorem Keeps.refl (vs : Values) : Keeps vs vs := fun _ _ h => h

theorem Keeps.trans (h : Keeps vs vs') (h' : Keeps vs' vs'') : Keeps vs vs'' :=
  fun n p hp => h' n p (h n p hp)

theorem getElem?_modify_self {α : Type} {xs : Array α} (h : n < xs.size) (a : α) :
    (xs.modify n fun _ => a)[n]? = some a := by
  rw [Array.getElem?_modify, if_pos rfl, Array.getElem?_eq_getElem h]
  rfl

theorem getElem?_modify_ne {α : Type} {xs : Array α} {m : Nat} (h : n ≠ m) (f : α → α) :
    (xs.modify n f)[m]? = xs[m]? := by
  rw [Array.getElem?_modify, if_neg h]

theorem IsFilled.mono (h : vs.IsFilled n) (hgraph : vs'.graph = vs.graph) (hkeeps : Keeps vs vs')
    (hcollection : vs'.collections[n]? = vs.collections[n]?) : vs'.IsFilled n := by
  cases h with
  | list hnode hlist hparts =>
      exact .list (hgraph ▸ hnode) (hcollection ▸ hlist)
        (hparts.imp fun m p => hkeeps m p)
  | mapping hnode hmapping hparts =>
      exact .mapping (hgraph ▸ hnode) (hcollection ▸ hmapping)
        (hparts.imp fun e f hef => ⟨hkeeps _ _ hef.1, hkeeps _ _ hef.2⟩)

/-! ## Finding a part -/

theorem get_bind {α : Type} {k : Values → Finding α} : (get >>= k) vs = k vs vs := rfl

/-- The collections that wait once a part has been found. -/
def waitingWith (waiting : List Nat) : Part → List Nat
  | .scalar _ => waiting
  | .collection n => n :: waiting

theorem part_cases (h : part n vs = .ok (p, vs')) :
    (vs.HasPart n p ∧ vs' = vs) ∨
      (vs.parts[n]?.join = none ∧ IsPartOf vs.graph n p ∧
        vs' = { vs with
          parts := vs.parts.modify n fun _ => some p
          waiting := waitingWith vs.waiting p }) := by
  rw [part, get_bind] at h
  cases hpart : vs.parts[n]?.join with
  | some q =>
      simp only [hpart] at h
      obtain ⟨rfl, rfl⟩ := Prod.mk.inj (Except.ok.inj h)
      exact .inl ⟨hpart, rfl⟩
  | none =>
      simp only [hpart] at h
      cases hcollection : (vs.graph.tag n).isCollection with
      | true =>
          rw [hcollection, if_pos rfl] at h
          obtain ⟨rfl, rfl⟩ := Prod.mk.inj (Except.ok.inj h)
          exact .inr ⟨rfl, .collection hcollection, rfl⟩
      | false =>
          rw [hcollection, if_neg Bool.false_ne_true] at h
          obtain ⟨⟨v, vs₁⟩, hlift, h⟩ := bind_eq_ok.mp h
          obtain ⟨v', hv, hsame⟩ := bind_eq_ok.mp hlift
          obtain ⟨rfl, rfl⟩ := Prod.mk.inj (Except.ok.inj hsame)
          obtain ⟨rfl, rfl⟩ := Prod.mk.inj (Except.ok.inj h)
          exact .inr ⟨rfl, .scalar hcollection hv, rfl⟩

/-- Learning the part of a node that was not known. -/
theorem IsSound.learn (waiting : List Nat) (h : IsSound g pending vs)
    (hnone : vs.parts[n]?.join = none) (hn : n < g.size) (hp : IsPartOf g n p)
    (hsubset : ∀ m ∈ vs.waiting, m ∈ waiting) (hwaits : p = .collection n → n ∈ waiting) :
    let vs' := { vs with parts := vs.parts.modify n fun _ => some p, waiting }
    IsSound g pending vs' ∧ Keeps vs vs' ∧ vs'.HasPart n p := by
  intro vs'
  have hself : vs'.HasPart n p := by
    rw [HasPart, getElem?_modify_self (h.size_parts.symm ▸ hn)]
    rfl
  have hother : ∀ {m}, n ≠ m → ∀ q, vs'.HasPart m q ↔ vs.HasPart m q := by
    intro m hm q
    rw [HasPart, getElem?_modify_ne hm, HasPart]
  have hkeeps : Keeps vs vs' := by
    intro m q hq
    by_cases hm : n = m
    · subst hm
      rw [HasPart, hnone] at hq
      cases hq
    · exact (hother hm q).mpr hq
  refine ⟨⟨h.graph, by simp [vs', h.size_parts], h.size_collections, fun m q hq => ?_,
    fun m hm => ?_⟩, hkeeps, hself⟩
  · by_cases hm : n = m
    · subst hm
      obtain rfl := Option.some.inj (hself.symm.trans hq)
      exact hp
    · exact h.part m q ((hother hm q).mp hq)
  · by_cases heq : n = m
    · subst heq
      exact .inr (.inl (hwaits (Option.some.inj (hself.symm.trans hm))))
    · rcases h.filled m ((hother heq _).mp hm) with hpending | hwaiting | hfilled
      · exact .inl hpending
      · exact .inr (.inl (hsubset m hwaiting))
      · exact .inr (.inr (hfilled.mono rfl hkeeps rfl))

/-- What finding parts leads to. -/
structure Finds (g : Graph) (pending : List Nat) (low : Nat) (vs vs' : Values) : Prop where
  sound : IsSound g pending vs'
  keeps : Keeps vs vs'
  waiting : AreCollections g low vs'.waiting

theorem finds_part (hvs : IsSound g pending vs) (hwaiting : AreCollections g low vs.waiting)
    (hn : g.Represents low n v) (h : part n vs = .ok (p, vs')) :
    Finds g pending low vs vs' ∧ vs'.HasPart n p := by
  rcases part_cases h with ⟨hp, rfl⟩ | ⟨hnone, hp, rfl⟩
  · exact ⟨⟨hvs, .refl vs', hwaiting⟩, hp⟩
  · rw [hvs.graph] at hp
    obtain ⟨hsound, hkeeps, hpart⟩ := hvs.learn (waitingWith vs.waiting p) hnone
      hn.lt_size hp (fun m hm => by cases p <;> simp [waitingWith, hm])
      (by rintro rfl; exact List.mem_cons_self)
    refine ⟨⟨hsound, hkeeps, ?_⟩, hpart⟩
    cases hp with
    | scalar _ _ => exact hwaiting
    | collection hcollection => exact List.forall_mem_cons.mpr ⟨⟨hcollection, v, hn⟩, hwaiting⟩

theorem Finds.trans (h : Finds g pending low vs vs') (h' : Finds g pending low vs' vs'') :
    Finds g pending low vs vs'' :=
  ⟨h'.sound, h.keeps.trans h'.keeps, h'.waiting⟩

theorem finds_items {items : List Nat} {ws : List Value} {ps : List Part}
    (hitems : g.RepresentsItems low items ws) (hvs : IsSound g pending vs)
    (hwaiting : AreCollections g low vs.waiting) (h : items.mapM part vs = .ok (ps, vs')) :
    Finds g pending low vs vs' ∧ List.Forall₂ vs'.HasPart items ps := by
  induction items generalizing ws vs ps with
  | nil =>
      rw [List.mapM_nil] at h
      obtain ⟨rfl, rfl⟩ := Prod.mk.inj (Except.ok.inj h)
      exact ⟨⟨hvs, .refl _, hwaiting⟩, .nil⟩
  | cons n items ih =>
      cases hitems with
      | cons hn hitems =>
          rw [List.mapM_cons] at h
          obtain ⟨⟨p, vs₁⟩, hpart, h⟩ := bind_eq_ok.mp h
          obtain ⟨⟨ps, vs₂⟩, hrest, h⟩ := bind_eq_ok.mp h
          obtain ⟨rfl, rfl⟩ := Prod.mk.inj (Except.ok.inj h)
          obtain ⟨hfirst, hp⟩ := finds_part hvs hwaiting hn hpart
          obtain ⟨hfinds, hps⟩ := ih hitems hfirst.sound hfirst.waiting hrest
          exact ⟨hfirst.trans hfinds, .cons (hfinds.keeps _ _ hp) hps⟩

/-- Finding the parts of an entry, the key being a scalar. -/
def entryParts (e : Nat × Nat) : Finding (Value × Part) := do
  match ← part e.1 with
  | .scalar key => pure (key, ← part e.2)
  | .collection _ => malformed

theorem finds_entries {entries : List (Nat × Nat)} {fs : List (String × Value)}
    {found : List (Value × Part)} (hentries : g.RepresentsEntries low entries fs)
    (hvs : IsSound g pending vs) (hwaiting : AreCollections g low vs.waiting)
    (h : entries.mapM entryParts vs = .ok (found, vs')) :
    Finds g pending low vs vs' ∧
      List.Forall₂ (fun e f => vs'.HasPart e.1 (.scalar f.1) ∧ vs'.HasPart e.2 f.2)
        entries found := by
  induction entries generalizing fs vs found with
  | nil =>
      rw [List.mapM_nil] at h
      obtain ⟨rfl, rfl⟩ := Prod.mk.inj (Except.ok.inj h)
      exact ⟨⟨hvs, .refl _, hwaiting⟩, .nil⟩
  | cons e entries ih =>
      cases hentries with
      | cons hkey hnode hn hentries =>
          rw [List.mapM_cons] at h
          obtain ⟨⟨f, vs₁⟩, hentry, h⟩ := bind_eq_ok.mp h
          obtain ⟨⟨found, vs₂⟩, hrest, h⟩ := bind_eq_ok.mp h
          obtain ⟨rfl, rfl⟩ := Prod.mk.inj (Except.ok.inj h)
          obtain ⟨⟨p, vs₃⟩, hpart, hentry⟩ := bind_eq_ok.mp hentry
          obtain ⟨hfirst, hp⟩ := finds_part hvs hwaiting (.scalar hkey hnode rfl rfl) hpart
          cases p with
          | collection n => cases hentry
          | scalar key =>
              obtain ⟨⟨q, vs₄⟩, hvalue, hentry⟩ := bind_eq_ok.mp hentry
              obtain ⟨rfl, rfl⟩ := Prod.mk.inj (Except.ok.inj hentry)
              obtain ⟨hsecond, hq⟩ := finds_part hfirst.sound hfirst.waiting hn hvalue
              obtain ⟨hfinds, hfound⟩ := ih hentries hsecond.sound hsecond.waiting hrest
              exact ⟨hfirst.trans (hsecond.trans hfinds),
                .cons ⟨hfinds.keeps _ _ (hsecond.keeps _ _ hp), hfinds.keeps _ _ hq⟩ hfound⟩

/-! ## Filling a collection -/

theorem IsSound.fill {c : Collection} (h : IsSound g (n :: pending) vs)
    (hfilled : ({ vs with
      collections := vs.collections.modify n fun _ => c } : Values).IsFilled n) :
    IsSound g pending { vs with collections := vs.collections.modify n fun _ => c } where
  graph := h.graph
  size_parts := h.size_parts
  size_collections := by rw [Array.size_modify, h.size_collections]
  part := h.part
  filled m hm := by
    rcases h.filled m hm with hpending | hwaiting | hm
    · rcases List.mem_cons.mp hpending with rfl | hpending
      · exact .inr (.inr hfilled)
      · exact .inl hpending
    · exact .inr (.inl hwaiting)
    · by_cases heq : n = m
      · subst heq
        exact .inr (.inr hfilled)
      · exact .inr (.inr (hm.mono rfl (.refl _) (getElem?_modify_ne heq _)))

theorem modifyGet_bind {α β : Type} {f : Values → α × Values} {k : α → Finding β} :
    (modifyGet f >>= k) vs = k (f vs).1 (f vs).2 := rfl

theorem content_bind {α : Type} {k : Option Content → Finding α} :
    (content n >>= k) vs = k (vs.graph[n]?.map Node.content) vs := rfl

/-- Sets what a collection holds. -/
def store (n : Nat) (c : Collection) : Finding Unit :=
  modify fun vs => { vs with collections := vs.collections.modify n fun _ => c }

theorem fill_array {items : List Nat} (hnode : vs.graph[n]? = some ⟨.seq, .seq items⟩) :
    fill n vs = (items.mapM part >>= fun ps => store n (.list ps)) vs := by
  have htag : vs.graph.tag n = .seq := by rw [Graph.tag, hnode]
  rw [fill, get_bind, content_bind, htag, hnode]
  exact congrFun (bind_map_left ..) vs

/-- No merge key is among keys that are strings, so the entries are those of the node. -/
theorem fill_object {entries : List (Nat × Nat)}
    (hnode : vs.graph[n]? = some ⟨.map, .map entries⟩)
    (hkeys : ∀ e ∈ entries, vs.graph.tag e.1 = .str) :
    fill n vs = (entries.mapM entryParts >>= fun found =>
      store n (.mapping (Value.collectEntries found))) vs := by
  have htag : vs.graph.tag n = .map := by rw [Graph.tag, hnode]
  have hentries : vs.graph.entries n = entries := by rw [Graph.entries, hnode]
  have hmerge : vs.graph.merge (vs.bound + 1) n = .ok vs.graph :=
    Graph.merge_eq_self (hentries ▸ hkeys) _
  have hfound : Values.entries n vs =
      (entries.mapM entryParts >>= fun found => pure (Value.collectEntries found)) vs := by
    rw [Values.entries, content_bind, hnode]
    simp only [Option.map_some, get_bind, hmerge]
    rw [← hentries]
    rfl
  rw [fill, get_bind, content_bind, htag, hnode]
  calc
    _ = (Values.entries n >>= fun es => store n (.mapping es)) vs :=
      congrFun (bind_map_left ..) vs
    _ = ((entries.mapM entryParts >>= fun found => pure (Value.collectEntries found)) >>=
          fun es => store n (.mapping es)) vs := by
      change (Values.entries n vs >>= _) = (_ >>= _)
      rw [hfound]
    _ = _ := by simp only [bind_assoc, pure_bind]

theorem AreCollections.mono {low' : Nat} {ns : List Nat} (h : AreCollections g low ns)
    (hlow : low' ≤ low) : AreCollections g low' ns := by
  intro n hn
  obtain ⟨hcollection, v, hv⟩ := h n hn
  exact ⟨hcollection, v, hv.mono hlow fun _ _ _ hnode => hnode⟩

/-- What a collection holds stands behind it. -/
theorem finds_fill (hvs : IsSound g (n :: pending) vs)
    (hwaiting : AreCollections g (low + 1) vs.waiting) (hcollection : (g.tag n).isCollection = true)
    (hn : g.Represents low n v) (h : fill n vs = .ok ((), vs')) :
    Finds g pending (low + 1) vs vs' := by
  cases hn with
  | scalar _ hnode hvalue _ =>
      rw [Graph.tag, hnode] at hcollection
      exact absurd hcollection (by simp [Graph.isCollection_eq_false hvalue])
  | array hlow hnode hitems =>
      rw [fill_array (hvs.graph.symm ▸ hnode)] at h
      obtain ⟨⟨ps, vs₁⟩, hparts, h⟩ := bind_eq_ok.mp h
      obtain ⟨-, rfl⟩ := Prod.mk.inj (Except.ok.inj h)
      have hitems := hitems.mono (Nat.succ_le_succ hlow) fun _ _ _ hnode => hnode
      obtain ⟨hfinds, hps⟩ := finds_items hitems hvs hwaiting hparts
      have hlt := (Array.getElem?_eq_some_iff.mp hnode).1
      refine ⟨hfinds.sound.fill (.list (hfinds.sound.graph.symm ▸ hnode)
        (getElem?_modify_self ?_ _) hps), hfinds.keeps, hfinds.waiting⟩
      rw [hfinds.sound.size_collections]
      exact hlt
  | @object _ _ entries fs hlow hnode hentries =>
      have hkeys : ∀ e ∈ entries, vs.graph.tag e.1 = .str := hvs.graph.symm ▸ hentries.tag_key
      rw [fill_object (hvs.graph.symm ▸ hnode) hkeys] at h
      obtain ⟨⟨found, vs₁⟩, hparts, h⟩ := bind_eq_ok.mp h
      obtain ⟨-, rfl⟩ := Prod.mk.inj (Except.ok.inj h)
      have hentries := hentries.mono (Nat.succ_le_succ hlow) fun _ _ _ hnode => hnode
      obtain ⟨hfinds, hfound⟩ := finds_entries hentries hvs hwaiting hparts
      have hlt := (Array.getElem?_eq_some_iff.mp hnode).1
      refine ⟨hfinds.sound.fill (.mapping (hfinds.sound.graph.symm ▸ hnode)
        (getElem?_modify_self ?_ _) hfound), hfinds.keeps, hfinds.waiting⟩
      rw [hfinds.sound.size_collections]
      exact hlt

/-! ## Rounds -/

theorem finds_round {ns : List Nat} (hvs : IsSound g ns vs)
    (hwaiting : AreCollections g (low + 1) vs.waiting) (hns : AreCollections g low ns)
    (h : ns.forM fill vs = .ok ((), vs')) : Finds g [] (low + 1) vs vs' := by
  induction ns generalizing vs with
  | nil =>
      obtain ⟨-, rfl⟩ := Prod.mk.inj (Except.ok.inj h)
      exact ⟨hvs, .refl _, hwaiting⟩
  | cons n ns ih =>
      obtain ⟨⟨hcollection, v, hn⟩, hns⟩ := List.forall_mem_cons.mp hns
      obtain ⟨⟨⟨⟩, vs₁⟩, hfill, h⟩ := bind_eq_ok.mp h
      have hfirst := finds_fill hvs hwaiting hcollection hn hfill
      have hrest := ih hfirst.sound hfirst.waiting hns h
      exact ⟨hrest.sound, hfirst.keeps.trans hrest.keeps, hrest.waiting⟩

/-- A round begins with nothing waiting. -/
theorem IsSound.start (hvs : IsSound g [] vs) :
    IsSound g vs.waiting.reverse { vs with waiting := [] } where
  graph := hvs.graph
  size_parts := hvs.size_parts
  size_collections := hvs.size_collections
  part := hvs.part
  filled n hn := by
    rcases hvs.filled n hn with hpending | hwaits | hfilled
    · cases hpending
    · exact .inl (List.mem_reverse.mpr hwaits)
    · exact .inr (.inr (hfilled.mono rfl (.refl _) rfl))

/-- Nothing waits once the rounds have passed all nodes. -/
theorem finds_fillAll {rounds : Nat} (hvs : IsSound g [] vs)
    (hwaiting : AreCollections g low vs.waiting) (hrounds : g.size < low + rounds)
    (h : fillAll rounds vs = .ok ((), vs')) :
    IsSound g [] vs' ∧ Keeps vs vs' ∧ vs'.waiting = [] := by
  induction rounds generalizing low vs with
  | zero =>
      obtain ⟨-, rfl⟩ := Prod.mk.inj (Except.ok.inj h)
      refine ⟨hvs, .refl _, List.eq_nil_iff_forall_not_mem.mpr fun n hn => ?_⟩
      obtain ⟨-, v, hv⟩ := hwaiting n hn
      have hlt := hv.lt_size
      have hle := hv.low_le
      omega
  | succ rounds ih =>
      rw [fillAll, modifyGet_bind] at h
      have hstart := hvs.start
      cases hempty : vs.waiting.reverse.isEmpty with
      | true =>
          rw [hempty] at h
          obtain ⟨-, rfl⟩ := Prod.mk.inj (Except.ok.inj h)
          rw [List.isEmpty_iff.mp hempty] at hstart
          exact ⟨hstart, fun _ _ h => h, rfl⟩
      | false =>
          rw [hempty] at h
          obtain ⟨⟨⟨⟩, vs₁⟩, hround, h⟩ := bind_eq_ok.mp h
          have hfinds := finds_round hstart nofun
            (fun n hn => hwaiting n (List.mem_reverse.mp hn)) hround
          obtain ⟨hsound, hkeeps, hnone⟩ := ih hfinds.sound hfinds.waiting (by omega) h
          exact ⟨hsound, fun n p hp => hkeeps n p (hfinds.keeps n p hp), hnone⟩

theorem isSound_ofGraph (g : Graph) : IsSound g [] (ofGraph g) := by
  have hnone : ∀ n p, ¬ (ofGraph g).HasPart n p := by
    intro n p hp
    rw [HasPart, ofGraph, Array.getElem?_replicate] at hp
    split at hp <;> cases hp
  exact ⟨rfl, Array.size_replicate, Array.size_replicate, fun n p hp => absurd hp (hnone n p),
    fun n hp => absurd hp (hnone n _)⟩

/-- Once all collections are filled none waits. -/
theorem isSound_of_ofNode {root : Nat} (hroot : g.Represents 0 root v)
    (h : ofNode g root = .ok (p, vs)) : IsSound g [] vs ∧ vs.waiting = [] ∧ vs.HasPart root p := by
  obtain ⟨⟨q, vs₁⟩, hpart, h⟩ := bind_eq_ok.mp h
  obtain ⟨⟨⟨⟩, vs₂⟩, hfill, h⟩ := bind_eq_ok.mp h
  obtain ⟨rfl, rfl⟩ := Prod.mk.inj (Except.ok.inj h)
  obtain ⟨hfinds, hp⟩ := finds_part (isSound_ofGraph g) nofun hroot hpart
  obtain ⟨hsound, hkeeps, hnone⟩ := finds_fillAll hfinds.sound hfinds.waiting (by omega) hfill
  exact ⟨hsound, hnone, hkeeps _ _ hp⟩

end

/-! ## Trees -/

section

variable {α β : Type} {R : α → β → Prop}

/-- An entry whose key is the string of a field, with related values. -/
def IsEntryOf (R : α → β → Prop) (e : Value × α) (f : String × β) : Prop :=
  e.1 = .str f.1 ∧ R e.2 f.2

theorem forall₂_putEntry {key : String} {a : α} {b : β} (hvalue : R a b)
    {es : List (Value × α)} {fs : List (String × β)} (h : List.Forall₂ (IsEntryOf R) es fs) :
    List.Forall₂ (IsEntryOf R) (Value.putEntry (.str key) a es) (putField key b fs) := by
  induction h with
  | nil => exact .cons ⟨rfl, hvalue⟩ .nil
  | @cons e f es fs hef hrest ih =>
      obtain ⟨k, a'⟩ := e
      obtain ⟨rfl, hold⟩ := hef
      rw [Value.putEntry, putField]
      by_cases heq : f.1 = key
      · rw [if_pos heq, if_pos (by simp [Value.alike, heq])]
        exact .cons ⟨rfl, hvalue⟩ hrest
      · rw [if_neg heq, if_neg (by simp [Value.alike, heq])]
        exact .cons ⟨rfl, hold⟩ ih

theorem forall₂_collectEntries {es : List (Value × α)} {fs : List (String × β)}
    (h : List.Forall₂ (IsEntryOf R) es fs) :
    List.Forall₂ (IsEntryOf R) (Value.collectEntries es) (collectFields fs) := by
  have hfold : ∀ {as : List (Value × α)} {bs : List (String × β)},
      List.Forall₂ (IsEntryOf R) as bs →
      List.Forall₂ (IsEntryOf R) (es.foldl (fun es e => Value.putEntry e.1 e.2 es) as)
        (fs.foldl (fun fs f => putField f.1 f.2 fs) bs) := by
    induction h with
    | nil => exact id
    | @cons e f es fs hef _ ih =>
        obtain ⟨k, a⟩ := e
        obtain ⟨rfl, hvalue⟩ := hef
        exact fun hacc => ih (forall₂_putEntry hvalue hacc)
  exact hfold .nil

end

theorem ofDistinct_strings (fs : List (String × Value)) :
    Value.ofDistinct (fs.map fun f => (.str f.1, f.2)) = .obj fs := by
  have hfields : (fs.map fun f => (Value.str f.1, f.2)).mapM Value.field? = some fs := by
    induction fs with
    | nil => rfl
    | cons f fs ih =>
        rw [List.map_cons, List.mapM_cons, ih]
        rfl
  rw [Value.ofDistinct, hfields]

/-- Whatever tree a part has is a given value. -/
def Yields (tree : Part → Except YamlError Value) (p : Part) (w : Value) : Prop :=
  ∀ w', tree p = .ok w' → w' = w

theorem mapM_eq_of_yields {tree : Part → Except YamlError Value} {ps : List Part}
    {ws ws' : List Value} (h : List.Forall₂ (Yields tree) ps ws) (hmap : ps.mapM tree = .ok ws') :
    ws' = ws := by
  induction h generalizing ws' with
  | nil => exact (Except.ok.inj hmap).symm
  | cons hp _ ih =>
      rw [List.mapM_cons] at hmap
      obtain ⟨w, hw, hmap⟩ := bind_eq_ok.mp hmap
      obtain ⟨ws, hws, hmap⟩ := bind_eq_ok.mp hmap
      obtain rfl := Except.ok.inj hmap
      rw [hp w hw, ih hws]

theorem mapM_entries_eq {tree : Part → Except YamlError Value} {es : List (Value × Part)}
    {fs : List (String × Value)} {ws : List (Value × Value)}
    (h : List.Forall₂ (IsEntryOf (Yields tree)) es fs)
    (hmap : (es.mapM fun e => (tree e.2).map fun v => (e.1, v)) = .ok ws) :
    ws = fs.map fun f => (.str f.1, f.2) := by
  induction h generalizing ws with
  | nil => exact (Except.ok.inj hmap).symm
  | @cons e f es fs hef _ ih =>
      rw [List.mapM_cons] at hmap
      obtain ⟨w, hw, hmap⟩ := bind_eq_ok.mp hmap
      obtain ⟨ws, hws, hmap⟩ := bind_eq_ok.mp hmap
      obtain ⟨v, hv, rfl⟩ := map_eq_ok.mp hw
      obtain rfl := Except.ok.inj hmap
      rw [hef.1, hef.2 v hv, ih hws, List.map_cons]

section

variable {g : Graph} {pending : List Nat} {vs : Values} {n : Nat} {p : Part}

theorem IsSound.eq_scalar {tag : Tag} {text : String} {v : Value} (hvs : IsSound g pending vs)
    (hnode : g[n]? = some ⟨tag, .scalar text⟩) (hvalue : scalarValue tag text = .ok v)
    (hp : vs.HasPart n p) : p = .scalar v := by
  cases hvs.part n p hp with
  | scalar _ hscalar =>
      rw [Graph.scalar_eq hnode, hvalue] at hscalar
      rw [Except.ok.inj hscalar]
  | collection hcollection =>
      rw [Graph.tag, hnode] at hcollection
      exact absurd hcollection (by simp [Graph.isCollection_eq_false hvalue])

theorem IsSound.isFilled (hvs : IsSound g [] vs) (hnone : vs.waiting = [])
    (hcollection : (g.tag n).isCollection = true) (hp : vs.HasPart n p) :
    p = .collection n ∧ vs.IsFilled n := by
  cases hvs.part n p hp with
  | scalar hscalar _ => exact absurd (hcollection.symm.trans hscalar) (by decide)
  | collection _ =>
      rcases hvs.filled n hp with hpending | hwaiting | hfilled
      · cases hpending
      · rw [hnone] at hwaiting
        cases hwaiting
      · exact ⟨rfl, hfilled⟩

theorem IsSound.exists_list {items : List Nat} (hvs : IsSound g [] vs) (hnone : vs.waiting = [])
    (hnode : g[n]? = some ⟨.seq, .seq items⟩) (hp : vs.HasPart n p) :
    p = .collection n ∧ ∃ ps, vs.collections[n]? = some (.list ps) ∧
      List.Forall₂ vs.HasPart items ps := by
  obtain ⟨rfl, hfilled⟩ := hvs.isFilled hnone (by rw [Graph.tag, hnode]; rfl) hp
  refine ⟨rfl, ?_⟩
  cases hfilled with
  | list hnode' hlist hparts =>
      rw [hvs.graph, hnode] at hnode'
      cases hnode'
      exact ⟨_, hlist, hparts⟩
  | mapping hnode' _ _ =>
      rw [hvs.graph, hnode] at hnode'
      cases hnode'

theorem IsSound.exists_mapping {entries : List (Nat × Nat)} (hvs : IsSound g [] vs)
    (hnone : vs.waiting = []) (hnode : g[n]? = some ⟨.map, .map entries⟩) (hp : vs.HasPart n p) :
    p = .collection n ∧ ∃ found,
      vs.collections[n]? = some (.mapping (Value.collectEntries found)) ∧
      List.Forall₂ (fun e f => vs.HasPart e.1 (.scalar f.1) ∧ vs.HasPart e.2 f.2) entries found := by
  obtain ⟨rfl, hfilled⟩ := hvs.isFilled hnone (by rw [Graph.tag, hnode]; rfl) hp
  refine ⟨rfl, ?_⟩
  cases hfilled with
  | list hnode' _ _ =>
      rw [hvs.graph, hnode] at hnode'
      cases hnode'
  | mapping hnode' hmapping hparts =>
      rw [hvs.graph, hnode] at hnode'
      cases hnode'
      exact ⟨_, hmapping, hparts⟩

theorem exists_of_tree_list {ps : List Part} {depth : Nat} {path : List Nat} {w : Value}
    (hlist : vs.collections[n]? = some (.list ps))
    (h : vs.tree false depth path (.collection n) = .ok w) :
    ∃ depth' path' ws, ps.mapM (vs.tree false depth' path') = .ok ws ∧ w = .arr ws := by
  cases depth with
  | zero => cases h
  | succ depth =>
      simp only [tree, hlist] at h
      split at h
      · cases h
      · obtain ⟨ws, hws, rfl⟩ := map_eq_ok.mp h
        exact ⟨depth, n :: path, ws, hws, rfl⟩

theorem exists_of_tree_mapping {es : List (Value × Part)} {depth : Nat} {path : List Nat}
    {w : Value} (hmapping : vs.collections[n]? = some (.mapping es))
    (h : vs.tree false depth path (.collection n) = .ok w) : ∃ depth' path' ws,
      (es.mapM fun e => (vs.tree false depth' path' e.2).map fun v => (e.1, v)) = .ok ws ∧
        w = .ofDistinct ws := by
  cases depth with
  | zero => cases h
  | succ depth =>
      simp only [tree, hmapping] at h
      split at h
      · cases h
      · obtain ⟨ws, hws, rfl⟩ := map_eq_ok.mp h
        exact ⟨depth, n :: path, ws, hws, rfl⟩

mutual

theorem tree_eq (hvs : IsSound g [] vs) (hnone : vs.waiting = []) {low n : Nat} {v : Value} :
    g.Represents low n v → ∀ {p : Part} {depth : Nat} {path : List Nat}, vs.HasPart n p →
    Yields (vs.tree false depth path) p v.normalize
  | .scalar hlow hnode hvalue hnormal, p, depth, path, hp => by
    obtain rfl := hvs.eq_scalar hnode hvalue hp
    intro w h
    cases depth <;> exact (Except.ok.inj h).symm.trans hnormal.symm
  | .array hlow hnode hitems, p, depth, path, hp => by
    obtain ⟨rfl, ps, hlist, hparts⟩ := hvs.exists_list hnone hnode hp
    intro w h
    obtain ⟨depth, path, ws, hws, rfl⟩ := exists_of_tree_list hlist h
    rw [mapM_eq_of_yields (items_yield hvs hnone hitems hparts) hws, Value.normalize]
  | .object hlow hnode hentries, p, depth, path, hp => by
    obtain ⟨rfl, found, hmapping, hparts⟩ := hvs.exists_mapping hnone hnode hp
    intro w h
    obtain ⟨depth, path, ws, hws, rfl⟩ := exists_of_tree_mapping hmapping h
    have hfound : List.Forall₂ (IsEntryOf (Yields (vs.tree false depth path))) _ _ :=
      entries_yield hvs hnone hentries hparts
    rw [mapM_entries_eq (forall₂_collectEntries hfound) hws, ofDistinct_strings, Value.normalize]

theorem items_yield (hvs : IsSound g [] vs) (hnone : vs.waiting = []) {low : Nat}
    {items : List Nat} {ws : List Value} : g.RepresentsItems low items ws → ∀ {ps : List Part}
    {depth : Nat} {path : List Nat}, List.Forall₂ vs.HasPart items ps →
    List.Forall₂ (Yields (vs.tree false depth path)) ps (Value.normalizeItems ws)
  | .nil, _, _, _, .nil => .nil
  | .cons hn hitems, _, _, _, .cons hp hps =>
    .cons (tree_eq hvs hnone hn hp) (items_yield hvs hnone hitems hps)

theorem entries_yield (hvs : IsSound g [] vs) (hnone : vs.waiting = []) {low : Nat}
    {entries : List (Nat × Nat)} {fs : List (String × Value)} :
    g.RepresentsEntries low entries fs → ∀ {found : List (Value × Part)} {depth : Nat}
    {path : List Nat},
    List.Forall₂ (fun e f => vs.HasPart e.1 (.scalar f.1) ∧ vs.HasPart e.2 f.2) entries found →
    List.Forall₂ (IsEntryOf (Yields (vs.tree false depth path))) found (Value.normalizeFields fs)
  | .nil, _, _, _, .nil => .nil
  | .cons _ hnode hn hentries, _, _, _, .cons hef hrest =>
    .cons ⟨Part.scalar.inj (hvs.eq_scalar hnode rfl hef.1), tree_eq hvs hnone hn hef.2⟩
      (entries_yield hvs hnone hentries hrest)

end

end

end Values

end TypeDraft.Yaml
