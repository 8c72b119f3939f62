import TypeDraft.Proofs.Json.Lexemes
import TypeDraft.Proofs.Schema.Places
import TypeDraft.Schema.Rows

/-!
# The rows of a merged schema

The text of a path tells the steps that lead to a place, if no key holds a sign of the path. So the
table has one row for each field and for each plain value that is no field, in the order of a walk
in depth, and no path stands there twice.
-/

namespace TypeDraft.Schema

open Terminal.Markup (escape tag?)

/-! ## The text of a path -/

/-- What may stand in a path without being taken for a sign of it. -/
structure IsPlainKey (key : String) : Prop where
  ne_empty : key ≠ ""
  no_dot : '.' ∉ key.toList
  no_opening : '[' ∉ key.toList
  no_closing : ']' ∉ key.toList
  no_backslash : '\\' ∉ key.toList

/-- Whether all keys within a schema are plain. -/
def HasPlainKeys (s : Schema) : Prop :=
  s.EachObject fun fields => ∀ field ∈ fields, IsPlainKey field.1

def PathStep.IsPlain : PathStep → Prop
  | key name => IsPlainKey name
  | items => True

/-- The text of some steps behind others. -/
def further : List PathStep → List Char
  | [] => []
  | .key name :: steps => '.' :: (name.toList ++ further steps)
  | .items :: steps => '[' :: ']' :: further steps

/-- The text of a path. No dot stands before a key with which it begins. -/
def pathText : List PathStep → String
  | .key name :: steps => String.ofList (name.toList ++ further steps)
  | steps => String.ofList (further steps)

theorem further_append (steps steps' : List PathStep) :
    further (steps ++ steps') = further steps ++ further steps' := by
  induction steps with
  | nil => rfl
  | cons step steps ih => cases step <;> simp [further, ih]

theorem pathText_append {steps : List PathStep} (h : steps ≠ []) (steps' : List PathStep) :
    pathText (steps ++ steps') = pathText steps ++ String.ofList (further steps') := by
  obtain ⟨step, rest, rfl⟩ := List.exists_cons_of_ne_nil h
  cases step <;> simp [pathText, further, further_append, String.ofList_append, String.append_assoc]

theorem pathText_ne_empty {steps : List PathStep} (h : steps ≠ [])
    (hplain : ∀ s ∈ steps, s.IsPlain) : pathText steps ≠ "" := by
  obtain ⟨step, rest, rfl⟩ := List.exists_cons_of_ne_nil h
  cases step with
  | key name =>
      have hname : IsPlainKey name := hplain _ List.mem_cons_self
      simp [pathText, hname.ne_empty]
  | items => simp [pathText, further]

theorem pathText_key {steps : List PathStep} (hplain : ∀ s ∈ steps, s.IsPlain) (name : String) :
    pathText (steps ++ [.key name]) = joinPath (pathText steps) name := by
  rw [joinPath]
  by_cases h : steps = []
  · subst h
    simp [pathText, further]
  · rw [if_neg (by simpa using pathText_ne_empty h hplain), pathText_append h]
    simp [further, String.append_assoc]

theorem pathText_items (steps : List PathStep) :
    pathText (steps ++ [.items]) = pathText steps ++ "[]" := by
  by_cases h : steps = []
  · subst h
    rfl
  · rw [pathText_append h]
    rfl

/-- Whether a character does not end a key within a path. -/
def isKeyChar (c : Char) : Bool := c != '.' && c != '['

theorem IsPlainKey.isKeyChar {key : String} (h : IsPlainKey key) :
    ∀ c ∈ key.toList, isKeyChar c = true := by
  intro c hc
  have hdot : c ≠ '.' := fun heq => h.no_dot (heq ▸ hc)
  have hopening : c ≠ '[' := fun heq => h.no_opening (heq ▸ hc)
  simp [Schema.isKeyChar, hdot, hopening]

theorem isKeyChar_head_further (steps : List PathStep) :
    ∀ c ∈ (further steps).head?, isKeyChar c = false := by
  cases steps with
  | nil => simp [further]
  | cons step steps => cases step <;> simp [further, isKeyChar]

theorem key_append_injective {key key' : String} (h : IsPlainKey key) (h' : IsPlainKey key')
    {steps steps' : List PathStep}
    (heq : key.toList ++ further steps = key'.toList ++ further steps') :
    key = key' ∧ further steps = further steps' := by
  obtain ⟨hkey, hsteps⟩ := Json.append_inj_of_head h.isKeyChar (isKeyChar_head_further steps)
    h'.isKeyChar (isKeyChar_head_further steps') heq
  exact ⟨String.toList_injective hkey, hsteps⟩

theorem further_injective {steps steps' : List PathStep} (hplain : ∀ s ∈ steps, s.IsPlain)
    (hplain' : ∀ s ∈ steps', s.IsPlain) (h : further steps = further steps') : steps = steps' := by
  -- The first character tells the kind of a step, and a key ends where the next step begins.
  induction steps generalizing steps' with
  | nil =>
      cases steps' with
      | nil => rfl
      | cons step' steps' => cases step' <;> cases h
  | cons step steps ih =>
      obtain ⟨hstep, hsteps⟩ := List.forall_mem_cons.mp hplain
      cases steps' with
      | nil => cases step <;> cases h
      | cons step' steps' =>
          obtain ⟨hstep', hsteps'⟩ := List.forall_mem_cons.mp hplain'
          cases step with
          | key name =>
              cases step' with
              | key name' =>
                  obtain ⟨rfl, hrest⟩ := key_append_injective hstep hstep' (List.cons.inj h).2
                  rw [ih hsteps hsteps' hrest]
              | items => exact absurd (List.cons.inj h).1 (by decide)
          | items =>
              cases step' with
              | key name' => exact absurd (List.cons.inj h).1 (by decide)
              | items => rw [ih hsteps hsteps' (List.cons.inj (List.cons.inj h).2).2]

theorem key_append_ne_further {key : String} (h : IsPlainKey key) (r : List Char)
    (steps : List PathStep) : key.toList ++ r ≠ further steps := by
  intro heq
  obtain ⟨c, cs, hchars⟩ := List.exists_cons_of_ne_nil (mt String.toList_eq_nil_iff.mp h.ne_empty)
  have hc := h.isKeyChar c (hchars ▸ List.mem_cons_self)
  have hhead := isKeyChar_head_further steps c (by rw [← heq, hchars]; rfl)
  exact Bool.false_ne_true (hhead.symm.trans hc)

/-- The text of a path tells its steps. -/
theorem pathText_injective {steps steps' : List PathStep} (hplain : ∀ s ∈ steps, s.IsPlain)
    (hplain' : ∀ s ∈ steps', s.IsPlain) (h : pathText steps = pathText steps') :
    steps = steps' := by
  have hcases : ∀ steps, (∃ name rest, steps = PathStep.key name :: rest) ∨
      pathText steps = String.ofList (further steps) := by
    intro steps
    rcases steps with _ | ⟨_ | _, rest⟩
    · exact .inr rfl
    · exact .inl ⟨_, rest, rfl⟩
    · exact .inr rfl
  rcases hcases steps with ⟨name, rest, rfl⟩ | hsteps <;>
    rcases hcases steps' with ⟨name', rest', rfl⟩ | hsteps'
  · obtain ⟨hname, hrest⟩ := List.forall_mem_cons.mp hplain
    obtain ⟨hname', hrest'⟩ := List.forall_mem_cons.mp hplain'
    obtain ⟨rfl, heq⟩ := key_append_injective hname hname' (String.ofList_injective h)
    rw [further_injective hrest hrest' heq]
  · rw [hsteps'] at h
    exact absurd (String.ofList_injective h)
      (key_append_ne_further (List.forall_mem_cons.mp hplain).1 _ _)
  · rw [hsteps] at h
    exact absurd (String.ofList_injective h).symm
      (key_append_ne_further (List.forall_mem_cons.mp hplain').1 _ _)
  · rw [hsteps, hsteps'] at h
    exact further_injective hplain hplain' (String.ofList_injective h)

/-! ## Paths show as they stand -/

/-- Whether nothing in a text is taken for a tag. -/
structure IsUntagged (cs : List Char) : Prop where
  no_backslash : '\\' ∉ cs
  no_tag : ∀ tail, tail <:+ cs → tag? tail = none

theorem IsUntagged.escape_eq_self {s : String} (h : IsUntagged s.toList) : escape s = s :=
  Terminal.Markup.escape_eq_self h.no_backslash h.no_tag

theorem isUntagged_nil : IsUntagged [] :=
  ⟨List.not_mem_nil, fun tail htail => by rw [List.suffix_nil.mp htail]; rfl⟩

theorem IsUntagged.cons {c : Char} {cs : List Char} (hcs : IsUntagged cs) (hslash : c ≠ '\\')
    (hc : tag? (c :: cs) = none) : IsUntagged (c :: cs) := by
  refine ⟨by simp [hcs.no_backslash, hslash.symm], fun tail htail => ?_⟩
  rcases List.suffix_cons_iff.mp htail with rfl | htail
  · exact hc
  · exact hcs.no_tag tail htail

theorem tag?_cons_of_ne {c : Char} (hc : c ≠ '[') (cs : List Char) : tag? (c :: cs) = none := by
  rw [tag?]
  simp [hc]

theorem IsUntagged.append {as cs : List Char} (hcs : IsUntagged cs)
    (has : ∀ c ∈ as, c ≠ '\\' ∧ c ≠ '[') : IsUntagged (as ++ cs) := by
  induction as with
  | nil => exact hcs
  | cons a as ih =>
      obtain ⟨ha, has⟩ := List.forall_mem_cons.mp has
      exact (ih has).cons ha.1 (tag?_cons_of_ne ha.2 _)

theorem IsPlainKey.not_tag {key : String} (h : IsPlainKey key) :
    ∀ c ∈ key.toList, c ≠ '\\' ∧ c ≠ '[' :=
  fun _ hc => ⟨fun heq => h.no_backslash (heq ▸ hc), fun heq => h.no_opening (heq ▸ hc)⟩

theorem isUntagged_further {steps : List PathStep} (hplain : ∀ s ∈ steps, s.IsPlain) :
    IsUntagged (further steps) := by
  induction steps with
  | nil => exact isUntagged_nil
  | cons step steps ih =>
      obtain ⟨hstep, hsteps⟩ := List.forall_mem_cons.mp hplain
      cases step with
      | key name =>
          exact ((ih hsteps).append hstep.not_tag).cons (by decide) (tag?_cons_of_ne (by decide) _)
      | items =>
          exact ((ih hsteps).cons (by decide) (tag?_cons_of_ne (by decide) _)).cons (by decide) rfl

theorem escape_pathText {steps : List PathStep} (hplain : ∀ s ∈ steps, s.IsPlain) :
    escape (pathText steps) = pathText steps := by
  refine IsUntagged.escape_eq_self ?_
  rcases steps with _ | ⟨name | _, rest⟩
  · exact isUntagged_nil
  · obtain ⟨hname, hrest⟩ := List.forall_mem_cons.mp hplain
    rw [pathText, String.toList_ofList]
    exact (isUntagged_further hrest).append hname.not_tag
  · have hpath : pathText (.items :: rest) = String.ofList (further (.items :: rest)) := rfl
    rw [hpath, String.toList_ofList]
    exact isUntagged_further hplain

/-! ## Rows -/

/-- The row for what is told of a place. -/
def Entry.row (path : String) : Entry → SchemaRow
  | field facts => .field path facts
  | plain kind => .plain path kind

/-- How a place is named in the table. -/
def placeText : List PathStep → String
  | [] => "(root)"
  | steps => pathText steps

theorem placeText_of_ne_nil {steps : List PathStep} (h : steps ≠ []) :
    placeText steps = pathText steps := by
  obtain ⟨step, rest, rfl⟩ := List.exists_cons_of_ne_nil h
  rfl

/-- What stands in a row beside the path. -/
def Entry.cells : Entry → List String
  | field facts => [
      if facts.kinds.isEmpty then "-" else ", ".intercalate (facts.kinds.map Kind.name),
      if facts.isOptional then "[green]Yes[/green]" else "No",
      if facts.isUnion then "[green]Yes[/green]" else "No",
      if facts.isEnum then escape (", ".intercalate (facts.distinct.map Value.display)) else "-",
      (facts.pattern.map StringPattern.name).getD "-"]
  | plain kind => [kind.name, "-", "-", "-", "-"]

theorem fieldRows_eq {fields : List (String × Facts × Option Schema)} {before : List PathStep}
    (hbefore : ∀ s ∈ before, s.IsPlain)
    (hnested : ∀ key facts t, (key, facts, some t) ∈ fields →
      rowsFrom (pathText (before ++ [.key key])) t =
        (placesOf t).map fun p => p.2.row (pathText (before ++ [.key key] ++ p.1))) :
    fieldRows (pathText before) fields =
      (fieldPlaces fields).map fun p => p.2.row (pathText (before ++ p.1)) := by
  induction fields with
  | nil => rfl
  | cons f fields ih =>
      obtain ⟨key, facts, nested⟩ := f
      have hrest := ih fun key facts t hmem => hnested key facts t (List.mem_cons_of_mem _ hmem)
      rw [fieldRows, hrest, ← pathText_key hbefore, fieldPlaces, List.map_append, List.map_cons,
        List.map_map]
      congr 2
      cases nested with
      | none => rfl
      | some t =>
          rw [nestedRows, hnested key facts t List.mem_cons_self, nestedPlaces]
          simp [under, Function.comp_def]

/-- The rows from a place on are those for the places within. -/
theorem rowsFrom_eq {s : Schema} (hs : s.HasPlainKeys) {before : List PathStep}
    (hbefore : ∀ s ∈ before, s.IsPlain) :
    rowsFrom (pathText before) s =
      (placesOf s).map fun p => p.2.row (pathText (before ++ p.1)) := by
  induction s using induction_on_fields generalizing before with
  | object fields ih =>
      refine fieldRows_eq hbefore fun key facts t hmem => ih key facts t hmem (hs.field hmem) ?_
      have hkey : (PathStep.key key).IsPlain := hs.here _ hmem
      simpa [or_imp, forall_and, hkey] using hbefore
  | array items ih =>
      cases items with
      | none => rfl
      | some t =>
          have hbefore' : ∀ s ∈ before ++ [PathStep.items], s.IsPlain := by
            simpa [or_imp, forall_and, PathStep.IsPlain] using hbefore
          rw [rowsFrom, ← pathText_items, ih t rfl hs.items hbefore', placesOf, List.map_map]
          simp [under, Function.comp_def]
  | scalar kind =>
      rw [rowsFrom, placesOf, List.map_singleton, List.append_nil]
      rfl
  | unsupported => rfl

theorem LeadsTo.isPlain {s t : Schema} {steps : List PathStep} (h : s.LeadsTo steps t)
    (hs : s.HasPlainKeys) : ∀ step ∈ steps, step.IsPlain := by
  induction h with
  | here => exact fun _ hstep => absurd hstep List.not_mem_nil
  | items _ ih => exact List.forall_mem_cons.mpr ⟨trivial, ih hs.items⟩
  | field hmem _ ih => exact List.forall_mem_cons.mpr ⟨hs.here _ hmem, ih (hs.field hmem)⟩

theorem Shows.isPlain {s : Schema} {steps : List PathStep} {entry : Entry}
    (h : s.Shows steps entry) (hs : s.HasPlainKeys) : ∀ step ∈ steps, step.IsPlain := by
  cases h with
  | field hsteps hmem =>
      refine List.forall_mem_append.mpr ⟨hsteps.isPlain hs, List.forall_mem_singleton.mpr ?_⟩
      exact hs _ _ hsteps _ hmem
  | root => exact fun _ hstep => absurd hstep List.not_mem_nil
  | items hsteps =>
      exact List.forall_mem_append.mpr
        ⟨hsteps.isPlain hs, List.forall_mem_singleton.mpr trivial⟩

theorem kinds_isEmpty (kinds : List Kind) :
    (", ".intercalate (kinds.map Kind.name)).isEmpty = kinds.isEmpty := by
  cases kinds with
  | nil => rfl
  | cons kind kinds =>
      have hname : kind.name ≠ "" := by
        cases kind with
        | foreign f => cases f <;> simp [Kind.name, Foreign.name]
        | _ => simp [Kind.name]
      cases kinds <;> simp [String.intercalate_cons_cons, hname]

/-- The cells of a row: the name of the place and what is told of it. -/
theorem cells_row {s : Schema} {steps : List PathStep} {entry : Entry}
    (h : s.Shows steps entry) (hs : s.HasPlainKeys) :
    (entry.row (pathText steps)).cells = placeText steps :: entry.cells := by
  have hplain := h.isPlain hs
  have hpath := escape_pathText hplain
  cases h with
  | field =>
      rw [placeText_of_ne_nil (by simp), Entry.row, SchemaRow.cells, hpath]
      simp only [kinds_isEmpty]
      rfl
  | root =>
      have huntagged : IsUntagged ("(root)".toList ++ []) := isUntagged_nil.append (by simp)
      rw [List.append_nil] at huntagged
      have hroot := huntagged.escape_eq_self
      rw [Entry.row, SchemaRow.cells, if_pos (by simp [pathText, further]), hroot]
      rfl
  | items =>
      have hne := pathText_ne_empty (by simp) hplain
      rw [placeText_of_ne_nil (by simp), Entry.row, SchemaRow.cells, if_neg (by simpa using hne),
        hpath]
      rfl

/-- No place is named like another one: the whole has no path, but then nothing stands beside it. -/
theorem nodup_placeTexts {s : Schema} (hordered : s.EachObject AreOrdered)
    (hs : s.HasPlainKeys) : ((placesOf s).map fun p => placeText p.1).Nodup := by
  by_cases hcompound : s.IsCompound
  · refine List.pairwise_map.mpr ((pairwise_placesOf hordered).imp_of_mem ?_)
    intro p q hp hq hprecedes heq
    rw [placeText_of_ne_nil (ne_nil_of_mem_placesOf hcompound hp),
      placeText_of_ne_nil (ne_nil_of_mem_placesOf hcompound hq)] at heq
    exact hprecedes.ne hordered (pathText_injective
      ((shows_of_mem_placesOf hordered hp).isPlain hs)
      ((shows_of_mem_placesOf hordered hq).isPlain hs) heq)
  · cases s with
    | object | array => exact absurd trivial hcompound
    | scalar kind => exact List.nodup_singleton _
    | unsupported => exact List.nodup_nil

/-- Whatever the samples, if no key is empty or holds a sign of a path, the table has one row for
each field at any depth, with all that is known of it, and one for each plain value that is the
whole or an item, in the order of a walk in depth; no two rows have the same path. -/
theorem rows_list_each_place_once {primary : Value} {extras : List Value} {s : Schema}
    (h : analyze primary extras = .ok s) (hkeys : s.HasPlainKeys) :
    ∃ places : List (List PathStep × Entry),
      s.rows = places.map (fun p => p.2.row (pathText p.1)) ∧
      s.rows.map SchemaRow.cells = places.map (fun p => placeText p.1 :: p.2.cells) ∧
      (∀ steps entry, (steps, entry) ∈ places ↔ s.Shows steps entry) ∧
      (places.map Prod.fst).Nodup ∧
      (places.Pairwise fun p q => s.Precedes p.1 q.1) ∧
      (s.rows.map fun row => row.cells.head?).Nodup := by
  have hordered : s.EachObject AreOrdered := eq_ofSamples_of_analyze h ▸ areOrdered_ofSamples _ _
  have hpairwise := pairwise_placesOf hordered
  have hrows : s.rows = (placesOf s).map fun p => p.2.row (pathText p.1) :=
    rowsFrom_eq hkeys fun _ hstep => absurd hstep List.not_mem_nil
  have hcells : s.rows.map SchemaRow.cells =
      (placesOf s).map fun p => placeText p.1 :: p.2.cells := by
    rw [hrows, List.map_map]
    exact List.map_congr_left fun p hp => cells_row (shows_of_mem_placesOf hordered hp) hkeys
  refine ⟨placesOf s, hrows, hcells, fun steps entry => ?_, ?_, hpairwise, ?_⟩
  · exact ⟨shows_of_mem_placesOf hordered, mem_placesOf_of_shows⟩
  · exact List.pairwise_map.mpr (hpairwise.imp fun hprecedes => hprecedes.ne hordered)
  · have hheads : (s.rows.map fun row => row.cells.head?) =
        ((placesOf s).map fun p => placeText p.1).map some := by
      simpa [Function.comp_def] using congrArg (List.map List.head?) hcells
    rw [hheads]
    exact (nodup_placeTexts hordered hkeys).map (Option.some_injective _)

/-- The keys of a schema are all found along the ways to its places. -/
theorem hasPlainKeys_of_places {s : Schema}
    (h : ∀ steps ∈ (placesOf s).map Prod.fst, ∀ step ∈ steps, step.IsPlain) : s.HasPlainKeys := by
  intro steps fields hsteps f hf
  have hplace := mem_placesOf_of_shows (.field hsteps hf)
  exact h _ (List.mem_map_of_mem hplace) (.key f.1) (List.mem_append_right _ List.mem_cons_self)

/-- Arrays within arrays, and an array of plain values. -/
theorem rows_list_each_place_once_nested :
    ∃ s, analyze
        (.obj [("grid", .arr [.arr [.obj [("x", .int 1)]]]), ("tags", .arr [.str "a"])]) [] =
        .ok s ∧ (s.rows.map fun row => row.cells.head?) =
          [some "grid", some "grid[][].x", some "tags", some "tags[]"] ∧
      (s.rows.map fun row => row.cells.head?).Nodup := by
  let sample : Value :=
    .obj [("grid", .arr [.arr [.obj [("x", .int 1)]]]), ("tags", .arr [.str "a"])]
  have hs : analyze sample [] = .ok (.ofSamples sample []) := by
    rw [analyze, show failure? openSteps sample [] = none by decide +kernel]
  have hplaces : (placesOf (ofSamples sample [])).map Prod.fst =
      [[.key "grid"], [.key "grid", .items, .items, .key "x"], [.key "tags"],
        [.key "tags", .items]] := by decide +kernel
  have hgrid : IsPlainKey "grid" := ⟨by decide, by decide, by decide, by decide, by decide⟩
  have htags : IsPlainKey "tags" := ⟨by decide, by decide, by decide, by decide, by decide⟩
  have hx : IsPlainKey "x" := ⟨by decide, by decide, by decide, by decide, by decide⟩
  have hkeys : (ofSamples sample []).HasPlainKeys := by
    refine hasPlainKeys_of_places ?_
    rw [hplaces]
    simp [PathStep.IsPlain, hgrid, htags, hx]
  obtain ⟨_, -, -, -, -, -, hnodup⟩ := rows_list_each_place_once hs hkeys
  exact ⟨_, hs, by decide +kernel, hnodup⟩

end TypeDraft.Schema
