import TypeDraft.Proofs.TypeScript.Basic.Layers
import TypeDraft.Proofs.TypeScript.Basic.Modules

/-!
# Walks along references

Definitions follow one another in the order in which a walk along references first comes to them, if
it goes all the way down from each name before it turns to the next. There is such a walk, for each
definition refers to those before it alone.
-/

namespace TypeDraft.TypeScript.Basic

/-! ## Walks -/

/-- A walk from some names, one after another: each is followed by the walk from the names that it
refers to, also where it has been come to before. -/
inductive Walks (refs : String → List String) : List String → List String → Prop
  | nil : Walks refs [] []
  | cons {n : String} {ns below after : List String} : Walks refs (refs n) below →
      Walks refs ns after → Walks refs (n :: ns) (n :: below ++ after)

section

variable {refs : String → List String} {n : String} {ns walk walk' found : List String}

theorem Walks.unique (h : Walks refs ns walk) (h' : Walks refs ns walk') : walk = walk' := by
  induction h generalizing walk' with
  | nil =>
      cases h'
      rfl
  | cons _ _ ihbelow ihafter =>
      cases h' with
      | cons hbelow hafter => rw [ihbelow hbelow, ihafter hafter]

theorem Walks.subset (h : Walks refs ns walk) : ns ⊆ walk := by
  induction h with
  | nil => exact List.nil_subset _
  | cons _ _ _ ih =>
      exact List.cons_subset.mpr ⟨List.mem_cons_self, fun m hm => List.mem_append_right _ (ih hm)⟩

/-- What is referred to on a walk lies on a shorter walk of its own. -/
theorem Walks.exists_shorter (h : Walks refs ns walk) (hn : n ∈ walk) :
    ∃ below, Walks refs (refs n) below ∧ below ⊆ walk ∧ below.length < walk.length := by
  induction h with
  | nil => cases hn
  | @cons m ns below after hbelow hafter ihbelow ihafter =>
      have hsub : below ⊆ m :: below ++ after := fun k hk =>
        List.mem_append_left _ (List.mem_cons_of_mem m hk)
      have hlength : (m :: below ++ after).length = below.length + after.length + 1 := by
        simp only [List.length_append, List.length_cons]
        omega
      rcases List.mem_append.mp hn with hn | hn
      · rcases List.mem_cons.mp hn with rfl | hn
        · exact ⟨below, hbelow, hsub, by omega⟩
        · obtain ⟨below', hwalk, hsub', hshort⟩ := ihbelow hn
          exact ⟨below', hwalk, List.Subset.trans hsub' hsub, by omega⟩
      · obtain ⟨below', hwalk, hsub', hshort⟩ := ihafter hn
        exact ⟨below', hwalk, List.Subset.trans hsub' (List.subset_append_right _ _), by omega⟩

theorem Walks.refs_subset (h : Walks refs ns walk) (hn : n ∈ walk) : refs n ⊆ walk := by
  obtain ⟨below, hbelow, hsub, -⟩ := h.exists_shorter hn
  exact List.Subset.trans hbelow.subset hsub

/-- No walk comes back to where it set out. -/
theorem Walks.not_mem (h : Walks refs (refs n) walk) : n ∉ walk := by
  intro hn
  obtain ⟨below, hbelow, -, hshort⟩ := h.exists_shorter hn
  rw [hbelow.unique h] at hshort
  exact Nat.lt_irrefl _ hshort

/-- A walk stays among names that hold all that they refer to. -/
theorem Walks.subset_of_closed (h : Walks refs ns walk) (hns : ns ⊆ found)
    (hclosed : ∀ m ∈ walk, m ∈ found → refs m ⊆ found) : walk ⊆ found := by
  induction h with
  | nil => exact List.nil_subset _
  | @cons m ns below after _ _ ihbelow ihafter =>
      rw [List.forall_mem_append, List.forall_mem_cons] at hclosed
      obtain ⟨⟨hm, hbelow⟩, hafter⟩ := hclosed
      obtain ⟨hmem, hns⟩ := List.cons_subset.mp hns
      exact List.append_subset.mpr
        ⟨List.cons_subset.mpr ⟨hmem, ihbelow (hm hmem) hbelow⟩, ihafter hns hafter⟩

end

/-! ## What is found -/

section

variable {E : List Definition} {n : String} {found ns : List String} {e : Definition}

theorem reached_of_mem (h : n ∈ found) : reached E found (n :: ns) = reached E found ns := by
  rw [reached, dif_pos h]

theorem reached_of_not_declared (h : n ∉ E.map Definition.name) :
    reached E found (n :: ns) = reached E found ns := by
  have hnone : E.find? (·.name = n) = none :=
    List.find?_eq_none.mpr fun e he heq => h (List.mem_map.mpr ⟨e, he, of_decide_eq_true heq⟩)
  by_cases hfound : n ∈ found
  · exact reached_of_mem hfound
  · rw [reached, dif_neg hfound]
    split
    · rfl
    · rename_i d hd
      cases hnone.symm.trans hd

theorem reached_of_find? (h : n ∉ found) (he : E.find? (·.name = n) = some e) :
    reached E found (n :: ns) = e :: reached E (found ++ [e.name]) (e.references ++ ns) := by
  rw [reached, dif_neg h]
  split
  · rename_i hd
    cases hd.symm.trans he
  · rename_i d hd
    obtain rfl := Option.some.inj (hd.symm.trans he)
    rfl

/-- Some names are dealt with before the next. -/
theorem reached_append (E : List Definition) (found as bs : List String) :
    reached E found (as ++ bs) = reached E found as ++
      reached E (found ++ (reached E found as).map Definition.name) bs := by
  fun_induction reached E found as with
  | case1 found => simp
  | case2 found n ns hfound ih => rw [List.cons_append, reached_of_mem hfound, ih]
  | case3 found n ns hfound hnone ih =>
      have hn : n ∉ E.map Definition.name := by
        intro hmem
        obtain ⟨e, he, heq⟩ := List.mem_map.mp hmem
        exact List.find?_eq_none.mp hnone e he (decide_eq_true heq)
      rw [List.cons_append, reached_of_not_declared hn, ih]
  | case4 found n ns hfound e hsome ih =>
      rw [List.cons_append, reached_of_find? hfound hsome, ← List.append_assoc, ih]
      simp

/-- Only the first mention of a name counts. -/
theorem reached_eraseDups (E : List Definition) (found ns : List String) :
    reached E found ns.eraseDups = reached E found ns := by
  induction ns using List.reverseRecOn with
  | nil => rfl
  | append_singleton ns n ih =>
      rw [eraseDups_concat, reached_append E found ns [n]]
      by_cases hn : n ∈ ns
      · have hnothing : reached E (found ++ (reached E found ns).map Definition.name) [n] = [] := by
          by_cases hdeclared : n ∈ E.map Definition.name
          · have hcovered := (areReached_reached E found ns).covers n hn hdeclared
            rw [reached_of_mem (List.mem_append.mpr hcovered), reached]
          · rw [reached_of_not_declared hdeclared, reached]
        rw [if_pos hn, ih, hnothing, List.append_nil]
      · rw [if_neg hn, reached_append, ih]

theorem reached_congr {ns' : List String} (h : ns.eraseDups = ns'.eraseDups) :
    reached E found ns = reached E found ns' := by
  rw [← reached_eraseDups, h, reached_eraseDups]

/-- A definition that is found is among the names asked for, or one before it refers to it. -/
theorem reached_follows (E : List Definition) (found ns : List String) :
    ∀ before e after, reached E found ns = before ++ e :: after →
      e.name ∈ ns ∨ ∃ d ∈ before, e.name ∈ d.references := by
  fun_induction reached E found ns with
  | case1 found => exact fun before e after h => absurd h (by simp)
  | case2 found n ns _ ih | case3 found n ns _ _ ih =>
      intro before e after h
      exact (ih before e after h).imp_left (List.mem_cons_of_mem n)
  | case4 found n ns _ d hsome ih =>
      have hname : d.name = n := by simpa using List.find?_some hsome
      intro before e after h
      cases before with
      | nil =>
          obtain ⟨rfl, -⟩ := List.cons.inj h
          exact .inl (hname ▸ List.mem_cons_self)
      | cons d' before =>
          obtain ⟨rfl, hrest⟩ := List.cons.inj h
          rcases ih before e after hrest with hmem | ⟨d', hd', hmem⟩
          · rcases List.mem_append.mp hmem with hmem | hmem
            · exact .inr ⟨d, List.mem_cons_self, hmem⟩
            · exact .inl (List.mem_cons_of_mem n hmem)
          · exact .inr ⟨d', List.mem_cons_of_mem d hd', hmem⟩

/-- What nothing refers to makes no difference. -/
theorem reached_cons_of_free (root : Definition) (hfree : ∀ e ∈ E, root.name ∉ e.references) :
    root.name ∉ ns → reached (root :: E) (root.name :: found) ns = reached E found ns := by
  fun_induction reached E found ns with
  | case1 found =>
      intro _
      rw [reached]
  | case2 found n ns hfound ih =>
      intro hns
      rw [reached_of_mem (List.mem_cons_of_mem _ hfound), ih fun h => hns (List.mem_cons_of_mem n h)]
  | case3 found n ns hfound hnone ih =>
      intro hns
      have hn : n ∉ (root :: E).map Definition.name := by
        rw [List.map_cons, List.mem_cons, not_or]
        refine ⟨fun h => hns (h ▸ List.mem_cons_self), fun hmem => ?_⟩
        obtain ⟨e, he, heq⟩ := List.mem_map.mp hmem
        exact List.find?_eq_none.mp hnone e he (decide_eq_true heq)
      rw [reached_of_not_declared hn, ih fun h => hns (List.mem_cons_of_mem n h)]
  | case4 found n ns hfound e hsome ih =>
      intro hns
      have hne : root.name ≠ n := fun h => hns (h ▸ List.mem_cons_self)
      have hfind : (root :: E).find? (·.name = n) = some e := by
        rwa [List.find?_cons_of_neg (by simpa using hne)]
      have hnot : n ∉ root.name :: found := by
        rw [List.mem_cons, not_or]
        exact ⟨hne.symm, hfound⟩
      rw [reached_of_find? hnot hfind, List.cons_append, ih ?_]
      rw [List.mem_append, not_or]
      exact ⟨hfree e (List.mem_of_find?_eq_some hsome), fun h => hns (List.mem_cons_of_mem n h)⟩

/-! ## The order in which definitions are found -/

variable {refs : String → List String}

/-- Names are found in the order in which a walk comes to them. What has been found before is closed
as far as the walk goes: a name whose references are still to be dealt with is not come to again. -/
theorem eraseDups_append_walk {walk : List String}
    (hrefs : ∀ e ∈ E, (refs e.name).eraseDups = e.references.eraseDups)
    (h : Walks refs ns walk) : ∀ {found : List String}, found.Nodup →
    (∀ n ∈ walk, n ∈ found → refs n ⊆ found) → walk ⊆ E.map Definition.name →
    (found ++ walk).eraseDups = found ++ (reached E found ns).map Definition.name := by
  induction h with
  | nil =>
      intro found hfound _ _
      rw [reached, List.append_nil, (eraseDups_eq_self_iff found).mpr hfound, List.map_nil,
        List.append_nil]
  | @cons n ns below after hbelow hafter ihbelow ihafter =>
      intro found hfound hclosed hdeclared
      rw [List.forall_mem_append, List.forall_mem_cons] at hclosed
      obtain ⟨⟨hn, hclosedBelow⟩, hclosedAfter⟩ := hclosed
      obtain ⟨hdeclared, hdeclaredAfter⟩ := List.append_subset.mp hdeclared
      obtain ⟨hndeclared, hdeclaredBelow⟩ := List.cons_subset.mp hdeclared
      by_cases hmem : n ∈ found
      · have hsub : n :: below ⊆ found :=
          List.cons_subset.mpr ⟨hmem, hbelow.subset_of_closed (hn hmem) hclosedBelow⟩
        rw [reached_of_mem hmem, ← ihafter hfound hclosedAfter hdeclaredAfter, ← List.append_assoc]
        exact eraseDups_append_congr (eraseDups_append_of_subset hsub) rfl
      · obtain ⟨e, he⟩ : ∃ e, E.find? (·.name = n) = some e := by
          rw [← Option.isSome_iff_exists, List.find?_isSome]
          obtain ⟨e, he, heq⟩ := List.mem_map.mp hndeclared
          exact ⟨e, he, decide_eq_true heq⟩
        have heE := List.mem_of_find?_eq_some he
        obtain rfl : e.name = n := by simpa using List.find?_some he
        have hfound' : (found ++ [e.name]).Nodup :=
          hfound.append (List.nodup_singleton _) (by simpa using hmem)
        -- The names below come first; the walk does not come back to `e` on the way.
        have hfirst := ihbelow hfound' (fun m hm hm' => by
          rcases List.mem_append.mp hm' with hm' | hm'
          · exact List.Subset.trans (hclosedBelow m hm hm') (List.subset_append_left _ _)
          · rw [List.mem_singleton.mp hm'] at hm
            exact absurd hm hbelow.not_mem) hdeclaredBelow
        rw [reached_congr (hrefs e heE)] at hfirst
        have hreached : ∀ {m}, m ∈ found ++ [e.name] ++
            (reached E (found ++ [e.name]) e.references).map Definition.name ↔
              m ∈ found ++ [e.name] ++ below := by
          intro m
          rw [← hfirst, List.mem_eraseDups]
        have hnodup : (found ++ [e.name] ++
            (reached E (found ++ [e.name]) e.references).map Definition.name).Nodup :=
          hfirst ▸ nodup_eraseDups _
        -- Then all below `e` has been found.
        have hsecond := ihafter hnodup (fun m hm hm' k hk => by
          rw [hreached, List.append_assoc, List.mem_append, List.singleton_append,
            List.mem_cons] at hm' ⊢
          rcases hm' with hm' | rfl | hm'
          · exact .inl (hclosedAfter m hm hm' hk)
          · exact .inr (.inr (hbelow.subset hk))
          · exact .inr (.inr (hbelow.refs_subset hm' hk))) hdeclaredAfter
        calc (found ++ (e.name :: below ++ after)).eraseDups
            = ((found ++ [e.name] ++ below) ++ after).eraseDups := by simp
          _ = (found ++ [e.name] ++
                (reached E (found ++ [e.name]) e.references).map Definition.name ++
                  after).eraseDups := by rw [← eraseDups_eraseDups_append, hfirst]
          _ = found ++ (reached E found (e.name :: ns)).map Definition.name := by
            rw [hsecond, reached_of_find? hmem he, reached_append]
            simp

theorem exists_walks_of_each {names : List String} (hns : ns ⊆ names)
    (h : ∀ n ∈ names, ∃ below, Walks refs (refs n) below ∧ below ⊆ names) :
    ∃ walk, Walks refs ns walk ∧ walk ⊆ names := by
  induction ns with
  | nil => exact ⟨[], .nil, List.nil_subset _⟩
  | cons n ns ih =>
      obtain ⟨hn, hns⟩ := List.cons_subset.mp hns
      obtain ⟨below, hbelow, hsub⟩ := h n hn
      obtain ⟨after, hafter, hsub'⟩ := ih hns
      exact ⟨_, .cons hbelow hafter,
        List.append_subset.mpr ⟨List.cons_subset.mpr ⟨hn, hsub⟩, hsub'⟩⟩

/-- There is a walk from all names of definitions that have been added one at a time. -/
theorem AreLayered.exists_walks {ds : List Definition} (h : AreLayered ds)
    (hrefs : ∀ e ∈ ds, refs e.name ⊆ e.references) {ns : List String}
    (hns : ns ⊆ ds.map Definition.name) :
    ∃ walk, Walks refs ns walk ∧ walk ⊆ ds.map Definition.name := by
  induction h generalizing ns with
  | nil =>
      obtain rfl := List.subset_nil.mp hns
      exact ⟨[], .nil, List.nil_subset _⟩
  | @concat ds e hds hadded ih =>
      rw [List.forall_mem_append] at hrefs
      have hmono : ds.map Definition.name ⊆ (ds ++ [e]).map Definition.name :=
        List.map_subset _ (List.subset_append_left ds [e])
      refine exists_walks_of_each hns fun n hn => ?_
      obtain ⟨e', he', rfl⟩ := List.mem_map.mp hn
      have hearlier : refs e'.name ⊆ ds.map Definition.name := by
        rcases List.mem_append.mp he' with he' | he'
        · exact List.Subset.trans (hrefs.1 e' he') (hds.references he')
        · rw [List.mem_singleton.mp he']
          exact List.Subset.trans (hrefs.2 e (List.mem_singleton_self e)) hadded.references
      obtain ⟨below, hbelow, hsub⟩ := ih hrefs.1 hearlier
      exact ⟨below, hbelow, List.Subset.trans hsub hmono⟩

end

end TypeDraft.TypeScript.Basic
