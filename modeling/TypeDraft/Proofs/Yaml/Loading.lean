import TypeDraft.Proofs.Except
import TypeDraft.Proofs.Json.Writing
import TypeDraft.Proofs.Yaml.Mappings
import TypeDraft.Proofs.Yaml.Values

/-!
# Loading a mapping

Where nodes stand for a value whose collections are not nested too deep, their parts are found, all
collections are filled, and each part has a tree, whether or not collections inside themselves are
cut off: there are none.
-/

namespace TypeDraft.Yaml

open Json (exceeds_object exists_depth_of_array exists_depth_of_object level)

theorem forall_mem_of_forall₂ {α β : Type} {R : α → β → Prop} {P : α → Prop} {xs : List α}
    {ys : List β} (h : List.Forall₂ R xs ys) (hP : ∀ x y, R x y → P x) : ∀ x ∈ xs, P x :=
  ((List.forall₂_and_left _ _).mp (h.imp fun x y hxy => ⟨hP x y hxy, hxy⟩)).1

namespace Values

/-! ## Finding and filling -/

section

variable {g : Graph} {pending : List Nat} {vs : Values} {low n : Nat} {v : Value}

theorem exists_scalar (hn : g.Represents low n v) (h : (g.tag n).isCollection = false) :
    ∃ w, g.scalar n = .ok w := by
  cases hn with
  | scalar _ hnode hvalue _ => exact ⟨v, (Graph.scalar_eq hnode).trans hvalue⟩
  | array _ hnode _ | object _ hnode _ =>
      rw [Graph.tag, hnode] at h
      cases h

theorem exists_part (hvs : IsSound g pending vs) (hn : g.Represents low n v) :
    ∃ p vs', part n vs = .ok (p, vs') := by
  rw [part, get_bind]
  cases vs.parts[n]?.join with
  | some p => exact ⟨p, vs, rfl⟩
  | none =>
      rw [hvs.graph]
      cases hcollection : (g.tag n).isCollection with
      | true => exact ⟨_, _, rfl⟩
      | false =>
          obtain ⟨w, hw⟩ := exists_scalar hn hcollection
          rw [hw]
          exact ⟨_, _, rfl⟩

theorem exists_items {items : List Nat} {ws : List Value} (hitems : g.RepresentsItems low items ws)
    (hvs : IsSound g pending vs) (hwaiting : AreCollections g low vs.waiting) :
    ∃ ps vs', items.mapM part vs = .ok (ps, vs') := by
  induction items generalizing ws vs with
  | nil => exact ⟨[], vs, rfl⟩
  | cons n items ih =>
      cases hitems with
      | cons hn hitems =>
          obtain ⟨p, vs₁, hpart⟩ := exists_part hvs hn
          obtain ⟨hfinds, -⟩ := finds_part hvs hwaiting hn hpart
          obtain ⟨ps, vs₂, hrest⟩ := ih hitems hfinds.sound hfinds.waiting
          rw [List.mapM_cons]
          exact ⟨p :: ps, vs₂, (bind_of_eq_ok hpart _).trans (bind_of_eq_ok hrest _)⟩

theorem exists_entries {entries : List (Nat × Nat)} {fs : List (String × Value)}
    (hentries : g.RepresentsEntries low entries fs) (hvs : IsSound g pending vs)
    (hwaiting : AreCollections g low vs.waiting) :
    ∃ found vs', entries.mapM entryParts vs = .ok (found, vs') := by
  induction entries generalizing fs vs with
  | nil => exact ⟨[], vs, rfl⟩
  | cons e entries ih =>
      cases hentries with
      | @cons _ key k m v _ fs hkey hnode hn hentries =>
          have hk : g.Represents low key (.str k) := .scalar hkey hnode rfl rfl
          obtain ⟨p, vs₁, hpart⟩ := exists_part hvs hk
          obtain ⟨hfirst, hp⟩ := finds_part hvs hwaiting hk hpart
          obtain rfl := hfirst.sound.eq_scalar hnode rfl hp
          obtain ⟨q, vs₂, hvalue⟩ := exists_part hfirst.sound hn
          obtain ⟨hsecond, -⟩ := finds_part hfirst.sound hfirst.waiting hn hvalue
          obtain ⟨found, vs₃, hrest⟩ := ih hentries hsecond.sound hsecond.waiting
          have hentry : entryParts (key, m) vs = .ok ((.str k, q), vs₂) :=
            (bind_of_eq_ok hpart _).trans (bind_of_eq_ok hvalue _)
          rw [List.mapM_cons]
          exact ⟨_ :: found, vs₃, (bind_of_eq_ok hentry _).trans (bind_of_eq_ok hrest _)⟩

theorem exists_fill (hvs : IsSound g (n :: pending) vs)
    (hwaiting : AreCollections g (low + 1) vs.waiting) (hcollection : (g.tag n).isCollection = true)
    (hn : g.Represents low n v) : ∃ vs', fill n vs = .ok ((), vs') := by
  cases hn with
  | scalar _ hnode hvalue _ =>
      rw [Graph.tag, hnode] at hcollection
      exact absurd hcollection (by simp [Graph.isCollection_eq_false hvalue])
  | array hlow hnode hitems =>
      have hitems := hitems.mono (Nat.succ_le_succ hlow) fun _ _ _ hnode => hnode
      obtain ⟨ps, vs₁, hparts⟩ := exists_items hitems hvs hwaiting
      rw [fill_array (hvs.graph.symm ▸ hnode)]
      exact ⟨_, bind_of_eq_ok hparts _⟩
  | @object _ _ entries fs hlow hnode hentries =>
      have hkeys : ∀ e ∈ entries, vs.graph.tag e.1 = .str := hvs.graph.symm ▸ hentries.tag_key
      have hentries := hentries.mono (Nat.succ_le_succ hlow) fun _ _ _ hnode => hnode
      obtain ⟨found, vs₁, hparts⟩ := exists_entries hentries hvs hwaiting
      rw [fill_object (hvs.graph.symm ▸ hnode) hkeys]
      exact ⟨_, bind_of_eq_ok hparts _⟩

theorem exists_round {ns : List Nat} (hvs : IsSound g ns vs)
    (hwaiting : AreCollections g (low + 1) vs.waiting) (hns : AreCollections g low ns) :
    ∃ vs', ns.forM fill vs = .ok ((), vs') := by
  induction ns generalizing vs with
  | nil => exact ⟨vs, rfl⟩
  | cons n ns ih =>
      obtain ⟨⟨hcollection, v, hn⟩, hns⟩ := List.forall_mem_cons.mp hns
      obtain ⟨vs₁, hfill⟩ := exists_fill hvs hwaiting hcollection hn
      have hfinds := finds_fill hvs hwaiting hcollection hn hfill
      obtain ⟨vs₂, hrest⟩ := ih hfinds.sound hfinds.waiting hns
      exact ⟨vs₂, (bind_of_eq_ok hfill _).trans hrest⟩

theorem exists_fillAll (hvs : IsSound g [] vs) (hwaiting : AreCollections g low vs.waiting)
    (rounds : Nat) : ∃ vs', fillAll rounds vs = .ok ((), vs') := by
  induction rounds generalizing low vs with
  | zero => exact ⟨vs, rfl⟩
  | succ rounds ih =>
      rw [fillAll, modifyGet_bind]
      cases hempty : vs.waiting.reverse.isEmpty with
      | true => exact ⟨_, rfl⟩
      | false =>
          have hns : AreCollections g low vs.waiting.reverse :=
            fun n hn => hwaiting n (List.mem_reverse.mp hn)
          have hnone : AreCollections g (low + 1) [] := List.forall_mem_nil _
          obtain ⟨vs₁, hround⟩ := exists_round hvs.start hnone hns
          have hfinds := finds_round hvs.start hnone hns hround
          obtain ⟨vs₂, hrest⟩ := ih hfinds.sound hfinds.waiting
          exact ⟨vs₂, (bind_of_eq_ok hround _).trans hrest⟩

theorem exists_ofNode {root : Nat} (hroot : g.Represents 0 root v) :
    ∃ p vs, ofNode g root = .ok (p, vs) := by
  obtain ⟨p, vs₁, hpart⟩ := exists_part (isSound_ofGraph g) hroot
  obtain ⟨hfinds, -⟩ := finds_part (isSound_ofGraph g) nofun hroot hpart
  obtain ⟨vs₂, hfill⟩ := exists_fillAll hfinds.sound hfinds.waiting (g.size + 1)
  exact ⟨p, vs₂, (bind_of_eq_ok hpart _).trans (bind_of_eq_ok hfill _)⟩

end

/-! ## Trees -/

section

variable {g : Graph} {vs : Values} {cutting : Bool} {n depth : Nat} {path : List Nat}

theorem tree_list {ps : List Part} (hlist : vs.collections[n]? = some (.list ps))
    (hpath : n ∉ path) : vs.tree cutting (depth + 1) path (.collection n) =
      (ps.mapM (vs.tree cutting depth (n :: path))).map .arr := by
  have hfresh : path.contains n = false := by simpa using hpath
  simp only [tree, hlist, hfresh, Bool.false_eq_true, if_false]

theorem tree_mapping {es : List (Value × Part)}
    (hmapping : vs.collections[n]? = some (.mapping es)) (hpath : n ∉ path) :
    vs.tree cutting (depth + 1) path (.collection n) =
      (es.mapM fun e => (vs.tree cutting depth (n :: path) e.2).map fun v => (e.1, v)).map
        .ofDistinct := by
  have hfresh : path.contains n = false := by simpa using hpath
  simp only [tree, hmapping, hfresh, Bool.false_eq_true, if_false]

/-- The entries with the trees of their parts. -/
theorem mapM_entries_of_forall₂ {tree : Part → Except YamlError Value} {es : List (Value × Part)}
    {fs : List (String × Value)}
    (h : List.Forall₂ (IsEntryOf fun p w => tree p = .ok w) es fs) :
    (es.mapM fun e => (tree e.2).map fun v => (e.1, v)) =
      .ok (fs.map fun f => (.str f.1, f.2)) := by
  apply mapM_eq_ok_of_forall₂
  rw [List.forall₂_map_right_iff]
  refine h.imp fun e f hef => ?_
  rw [hef.1, hef.2]
  rfl

/-- What a collection holds stands behind it, and behind the collections that it stands in. -/
theorem forall_mem_path {low : Nat} (hlow : low ≤ n) (hpath : ∀ m ∈ path, m < low) :
    ∀ m ∈ n :: path, m < n + 1 :=
  List.forall_mem_cons.mpr ⟨n.lt_succ_self, fun m hm => by have := hpath m hm; omega⟩

mutual

/-- The tree of a part is the value of its node. The collections that it stands in stand before
that. -/
theorem tree_eq_ok (hvs : IsSound g [] vs) (hnone : vs.waiting = []) {low n : Nat} {v : Value} :
    g.Represents low n v → ∀ {p : Part} {depth : Nat} {path : List Nat}, vs.HasPart n p →
    v.exceeds level depth = false → (∀ m ∈ path, m < low) →
    vs.tree cutting depth path p = .ok v.normalize
  | .scalar hlow hnode hvalue hnormal, p, depth, path, hp, _, _ => by
    obtain rfl := hvs.eq_scalar hnode hvalue hp
    rw [hnormal]
    cases depth <;> rfl
  | .array hlow hnode hitems, p, depth, path, hp, hdepth, hpath => by
    obtain ⟨rfl, ps, hlist, hparts⟩ := hvs.exists_list hnone hnode hp
    obtain ⟨depth, rfl, hfits⟩ := exists_depth_of_array hdepth
    have hps := items_eq_ok hvs hnone hitems hparts hfits (forall_mem_path hlow hpath)
    rw [tree_list hlist (fun hmem => Nat.not_lt.mpr hlow (hpath n hmem)),
      mapM_eq_ok_of_forall₂ hps, Value.normalize]
    rfl
  | .object hlow hnode hentries, p, depth, path, hp, hdepth, hpath => by
    obtain ⟨rfl, found, hmapping, hparts⟩ := hvs.exists_mapping hnone hnode hp
    obtain ⟨depth, rfl, hfits⟩ := exists_depth_of_object hdepth
    have hfound := entries_eq_ok hvs hnone hentries hparts hfits (forall_mem_path hlow hpath)
    rw [tree_mapping hmapping (fun hmem => Nat.not_lt.mpr hlow (hpath n hmem)),
      mapM_entries_of_forall₂ (forall₂_collectEntries hfound), Value.normalize]
    exact congrArg Except.ok (ofDistinct_strings _)

theorem items_eq_ok (hvs : IsSound g [] vs) (hnone : vs.waiting = []) {low : Nat}
    {items : List Nat} {ws : List Value} : g.RepresentsItems low items ws → ∀ {ps : List Part}
    {depth : Nat} {path : List Nat}, List.Forall₂ vs.HasPart items ps →
    Value.anyExceeds level depth ws = false → (∀ m ∈ path, m < low) →
    List.Forall₂ (fun p w => vs.tree cutting depth path p = .ok w) ps (Value.normalizeItems ws)
  | .nil, _, _, _, .nil, _, _ => .nil
  | .cons hn hitems, _, _, _, .cons hp hps, hdepth, hpath => by
    rw [Value.anyExceeds, Bool.or_eq_false_iff] at hdepth
    exact .cons (tree_eq_ok hvs hnone hn hp hdepth.1 hpath)
      (items_eq_ok hvs hnone hitems hps hdepth.2 hpath)

theorem entries_eq_ok (hvs : IsSound g [] vs) (hnone : vs.waiting = []) {low : Nat}
    {entries : List (Nat × Nat)} {fs : List (String × Value)} :
    g.RepresentsEntries low entries fs → ∀ {found : List (Value × Part)} {depth : Nat}
    {path : List Nat},
    List.Forall₂ (fun e f => vs.HasPart e.1 (.scalar f.1) ∧ vs.HasPart e.2 f.2) entries found →
    Value.anyFieldExceeds level depth fs = false → (∀ m ∈ path, m < low) →
    List.Forall₂ (IsEntryOf fun p w => vs.tree cutting depth path p = .ok w) found
      (Value.normalizeFields fs)
  | .nil, _, _, _, .nil, _, _ => .nil
  | .cons _ hnode hn hentries, _, _, _, .cons hef hrest, hdepth, hpath => by
    rw [Value.anyFieldExceeds, Bool.or_eq_false_iff] at hdepth
    exact .cons ⟨Part.scalar.inj (hvs.eq_scalar hnode rfl hef.1),
      tree_eq_ok hvs hnone hn hef.2 hdepth.1 hpath⟩
      (entries_eq_ok hvs hnone hentries hrest hdepth.2 hpath)

end

end

end Values

/-! ## The only document -/

/-- A scalar has no levels. -/
theorem exceeds_of_scalarValue {tag : Tag} {text : String} {v : Value}
    (h : scalarValue tag text = .ok v) (depth : Nat) : v.exceeds level depth = false := by
  cases tag with
  | null | str =>
      cases h
      rfl
  | bool | binary =>
      rw [scalarValue] at h
      split at h <;> cases h
      rfl
  | int | float =>
      obtain ⟨x, -, rfl⟩ := map_eq_ok.mp h
      rfl
  | timestamp =>
      rw [scalarValue, timestampValue] at h
      repeat' split at h
      all_goals cases h
      rfl
  | _ => cases h

/-- A mapping that is the only document of a text is loaded with the trees of its entries, none of
which holds itself. -/
theorem loadOnly_of_represents {cs : List Char} {g : Graph} {root : Nat}
    {fs : List (String × Value)} (honly : Document.only cs = .ok (some (g, root)))
    (hroot : g.Represents 0 root (.obj fs))
    (hfits : Value.anyFieldExceeds level Values.nestingLimit fs = false) :
    loadOnly cs = .ok { value := (Value.obj fs).normalize } := by
  obtain ⟨p, vs, hnode⟩ := Values.exists_ofNode hroot
  obtain ⟨hsound, hnone, hp⟩ := Values.isSound_of_ofNode hroot hnode
  cases hroot with
  | scalar _ _ hvalue _ =>
      obtain ⟨d, hd, -⟩ := exists_depth_of_object (exceeds_of_scalarValue hvalue 0)
      cases hd
  | object hlow hentry hentries =>
      obtain ⟨rfl, found, hmapping, hparts⟩ := hsound.exists_mapping hnone hentry hp
      have htrees (cutting : Bool) : List.Forall₂
          (Values.IsEntryOf fun p w => vs.tree cutting Values.nestingLimit [] p = .ok w)
          (Value.collectEntries found) (collectFields (Value.normalizeFields fs)) :=
        Values.forall₂_collectEntries
          (Values.entries_eq_ok hsound hnone hentries hparts hfits nofun)
      have hvalues := Values.mapM_entries_of_forall₂ (htrees true)
      have hwhole : ∀ e ∈ Value.collectEntries found,
          ∃ w, vs.tree false Values.nestingLimit [] e.2 = .ok w :=
        forall_mem_of_forall₂ (htrees false) fun e f hef => ⟨f.2, hef.2⟩
      rw [loadOnly, honly]
      change (Values.ofNode g root >>= _) = _
      rw [hnode]
      simp only [bind, Except.bind, hmapping, hvalues, pure, Except.pure,
        Values.ofDistinct_strings, Value.normalize]
      refine congrArg (fun loops => Except.ok (Reading.mk _ loops)) ?_
      rw [List.filterMap_eq_nil_iff]
      intro e he
      obtain ⟨w, hw⟩ := hwhole e he
      simp only [hw]

/-! ## Lines -/

/-- What a line must be for an entry of a mapping that is a scalar. -/
structure ScalarLine.Holds (column : Nat) (l : ScalarLine) (f : String × Value) : Prop
    extends l.IsProper column where
  key : l.key = f.1
  tag : plainTag l.key = .str
  isPlain : ∀ d ∈ l.body, Text.IsPlain d
  value : scalarValue (if l.isPlain then plainTag l.text else .str) l.text = .ok f.2
  normal : f.2.normalize = f.2

section

variable {column : Nat} {l : ScalarLine} {lines : List ScalarLine} {f : String × Value}
  {fs : List (String × Value)}

/-- What is written for a string stands for it, and for nothing else. -/
theorem WrittenAs.value {s : String} {body : List Char} {isPlain : Bool}
    (h : WrittenAs s body isPlain) :
    scalarValue (if isPlain then plainTag s else .str) s = .ok (.str s) := by
  cases h with
  | plain htag _ _ =>
      rw [if_pos rfl, htag]
      rfl
  | single _ _ | double _ => rfl

theorem TokenSource.IsKey.isPlain {key : List Char} (h : TokenSource.IsKey key) :
    ∀ d ∈ key, Text.IsPlain d := by
  intro d hd
  rcases h.all d hd with halphanum | rfl
  · exact (Text.isPrintable_of_isAlphanum halphanum).isPlain
  · decide

theorem ScalarLine.Holds.isPlain_chars (h : l.Holds column f) :
    ∀ d ∈ l.chars column, Text.IsPlain d := by
  have hblank : Text.IsPlain ' ' := by decide
  have hcolon : Text.IsPlain ':' := by decide
  have hfeed : Text.IsPlain '\n' := by decide
  intro d hd
  simp only [chars, List.mem_append, List.mem_replicate, List.mem_cons, List.not_mem_nil,
    or_false] at hd
  rcases hd with ⟨-, rfl⟩ | hkey | rfl | rfl | hbody | rfl
  · exact hblank
  · exact h.isKey.isPlain d hkey
  · exact hcolon
  · exact hblank
  · exact h.isPlain d hbody
  · exact hfeed

/-- A string stands on its line for itself: what would be taken for anything else is in quotes. -/
theorem holds_of_writtenAs {key text : String} {body : List Char} {isPlain : Bool}
    (hkey : TokenSource.IsKey key.toList) (htag : plainTag key = .str)
    (h : WrittenAs text body isPlain) :
    (ScalarLine.mk key body text isPlain).Holds 0 (key, .str text) where
  isKey := hkey
  reads := TokenSource.readsAs_of_writtenAs h
  key := rfl
  tag := htag
  isPlain := h.isPlain
  value := h.value
  normal := rfl

theorem areBlockEntries_of_holds (h : List.Forall₂ (ScalarLine.Holds column) lines fs) :
    AreBlockEntries fs (lines.flatMap ScalarLine.tokens) := by
  induction h with
  | nil => exact .nil
  | @cons l f lines fs hl _ ih =>
      obtain ⟨k, v⟩ := f
      obtain rfl := hl.key
      exact .cons hl.tag (.scalar hl.value hl.normal) ih

/-- Entries that may each stand on a line are written on lines. -/
theorem exists_lines {α : Type} {field : α → String × Value} {write : α → List Char} (xs : List α)
    (h : ∀ x ∈ xs, ∃ l : ScalarLine, l.Holds column (field x) ∧ l.chars column = write x) :
    ∃ lines, List.Forall₂ (ScalarLine.Holds column) lines (xs.map field) ∧
      lines.flatMap (ScalarLine.chars column) = xs.flatMap write := by
  induction xs with
  | nil => exact ⟨[], .nil, rfl⟩
  | cons x xs ih =>
      obtain ⟨⟨l, hl, hwrite⟩, hxs⟩ := List.forall_mem_cons.mp h
      obtain ⟨lines, hlines, hchars⟩ := ih hxs
      refine ⟨l :: lines, .cons hl hlines, ?_⟩
      rw [List.flatMap_cons, List.flatMap_cons, hwrite, hchars]

theorem anyFieldExceeds_of_holds (h : List.Forall₂ (ScalarLine.Holds column) lines fs)
    (depth : Nat) : Value.anyFieldExceeds level depth fs = false := by
  induction h with
  | nil => rfl
  | @cons l f lines fs hl _ ih =>
      obtain ⟨k, v⟩ := f
      rw [Value.anyFieldExceeds, exceeds_of_scalarValue hl.value, ih]
      rfl

theorem anyFieldExceeds_append (depth : Nat) (fs gs : List (String × Value)) :
    Value.anyFieldExceeds level depth (fs ++ gs) =
      (Value.anyFieldExceeds level depth fs || Value.anyFieldExceeds level depth gs) := by
  induction fs with
  | nil => rfl
  | cons f fs ih =>
      simp only [List.cons_append, Value.anyFieldExceeds, ih, Bool.or_assoc]

theorem length_le_length_chars (column : Nat) (lines : List ScalarLine) :
    lines.length ≤ (lines.flatMap (ScalarLine.chars column)).length := by
  induction lines with
  | nil => exact le_refl _
  | cons l lines ih =>
      simp only [List.flatMap_cons, List.length_append, List.length_cons, ScalarLine.chars]
      omega

theorem length_tokens (lines : List ScalarLine) :
    (lines.flatMap ScalarLine.tokens).length = 4 * lines.length := by
  induction lines with
  | nil => rfl
  | cons l lines ih =>
      simp only [List.flatMap_cons, List.length_append, List.length_cons, ScalarLine.tokens, ih,
        List.length_nil]
      omega

theorem isPlain_of_holds (h : List.Forall₂ (ScalarLine.Holds column) lines fs) :
    ∀ d ∈ lines.flatMap (ScalarLine.chars column), Text.IsPlain d := by
  rw [List.forall_mem_flatMap]
  exact forall_mem_of_forall₂ h fun l f hl => hl.isPlain_chars

theorem isPlain_nestedChars {inner : List ScalarLine} {gs : List (String × Value)} {key : String}
    (hlines : List.Forall₂ (ScalarLine.Holds 0) lines fs)
    (hinners : List.Forall₂ (ScalarLine.Holds 2) inner gs) (hkey : TokenSource.IsKey key.toList) :
    ∀ d ∈ TokenSource.nestedChars lines key inner, Text.IsPlain d := by
  have hfeed : ∀ d ∈ [':', '\n'], Text.IsPlain d := by decide
  refine List.forall_mem_append.mpr ⟨isPlain_of_holds hlines, ?_⟩
  refine List.forall_mem_append.mpr ⟨hkey.isPlain, ?_⟩
  exact List.forall_mem_append.mpr ⟨hfeed, isPlain_of_holds hinners⟩

/-- A mapping of scalars whose last entry is such a mapping itself is loaded from its lines. -/
theorem loadOnly_nestedChars {inner : List ScalarLine} {gs : List (String × Value)} {key : String}
    (hlines : List.Forall₂ (ScalarLine.Holds 0) lines fs)
    (hinners : List.Forall₂ (ScalarLine.Holds 2) inner gs) (hne : lines ≠ []) (hinner : inner ≠ [])
    (hkey : TokenSource.IsKey key.toList) (htag : plainTag key = .str) :
    loadOnly (TokenSource.nestedChars lines key inner) =
      .ok { value := (Value.obj (fs ++ [(key, .obj gs)])).normalize } := by
  have hplain := isPlain_nestedChars hlines hinners hkey
  obtain ⟨source, hsource, hgives⟩ := TokenSource.exists_gives_nested hplain hne
    (forall_mem_of_forall₂ hlines fun l f hl => hl.toIsProper) hkey hinner
    (forall_mem_of_forall₂ hinners fun l f hl => hl.toIsProper)
  have hblock : IsBlock (.obj (fs ++ [(key, .obj gs)])) (.blockMappingStart ::
      (lines.flatMap ScalarLine.tokens ++ .key :: .scalar key true :: .value ::
        (.blockMappingStart :: (inner.flatMap ScalarLine.tokens ++ [.blockEnd]) ++ []) ++
          [.blockEnd])) := by
    refine .mapping ((areBlockEntries_of_holds hlines).append ?_)
    exact .cons htag (.mapping (areBlockEntries_of_holds hinners)) .nil
  have hfits (depth : Nat) :
      Value.anyFieldExceeds level (depth + 1) (fs ++ [(key, .obj gs)]) = false := by
    have hinside := exceeds_object (anyFieldExceeds_of_holds hinners depth)
    rw [anyFieldExceeds_append, anyFieldExceeds_of_holds hlines, Value.anyFieldExceeds, hinside]
    rfl
  have houter := length_le_length_chars 0 lines
  have hinside := length_le_length_chars 2 inner
  obtain ⟨g, root, honly, hroot⟩ := Document.exists_only_of_isBlock hsource hblock
    (by simpa using hgives) (by
      simp only [Document.fuelFor, TokenSource.nestedChars, length_tokens, List.length_append,
        List.length_cons, List.length_nil]
      omega) (exceeds_object (hfits _))
  exact loadOnly_of_represents honly hroot (hfits _)

end

end TypeDraft.Yaml
