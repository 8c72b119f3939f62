import TypeDraft.Proofs.TypeScript.Advanced.Success

/-!
# Hoisted declarations are closed

Whatever the schema and the options, a name is handed out for exactly one declaration, each type
refers to declarations that are there, and each hoisted declaration is referred to by another one.
-/

namespace TypeDraft.TypeScript

/-! ## Headings -/

/-- What stands before the name of a declaration. -/
def Declaration.keyword (style : Style) : Declaration → String
  | .shape .. => match style with | .interface => "interface " | .type => "type "
  | .synonym .. => "type "
  | .enum .. => "enum "

/-- The text of a declaration begins with its keyword and its name, and a blank ends the name. -/
theorem Declaration.exists_text_eq (style : Style) (d : Declaration) : ∃ body : String,
    d.text style = d.keyword style ++ d.name ++ body ∧ body.toList.head? = some ' ' := by
  cases d with
  | shape name members isOpen =>
      have hheader : ∃ rest : String, header style name =
          (shape name members isOpen).keyword style ++ name ++ rest ∧
            rest.toList.head? = some ' ' := by
        cases style with
        | interface => exact ⟨" \x7b", rfl, rfl⟩
        | type => exact ⟨" = \x7b", rfl, rfl⟩
      obtain ⟨rest, hrest, hblank⟩ := hheader
      have happend : ∀ more : String, (rest ++ more).toList.head? = some ' ' := by
        intro more
        rw [String.toList_append, List.head?_append, hblank]
        rfl
      simp only [text, hrest]
      generalize members.map Member.text ++ _ = lines
      by_cases hlines : lines.isEmpty
      · rw [if_pos hlines]
        exact ⟨rest ++ "\x7d", String.append_assoc, happend _⟩
      · rw [if_neg hlines]
        refine ⟨rest ++ ("\n" ++ "\n".intercalate lines ++ "\n\x7d"), ?_, happend _⟩
        simp only [String.append_assoc, Declaration.name]
  | synonym name type =>
      refine ⟨" = " ++ type.text ++ ";", by simp [text, keyword, Declaration.name,
        String.append_assoc], ?_⟩
      rw [String.append_assoc, String.toList_append, List.head?_append]
      rfl
  | enum name members =>
      refine ⟨" \x7b\n" ++ (",\n".intercalate (members.map enumLine) ++ "\n\x7d"), ?_, ?_⟩
      · simp [text, keyword, Declaration.name, String.append_assoc]
      · rw [String.toList_append, List.head?_append]
        rfl

/-! ## What hoisting adds -/

/-- Between two states of hoisting some declarations are added, `roots` being the names that are
used for them outside. -/
structure Supplies (h h' : Hoisted Declaration) (roots : List String) (new : List Declaration) :
    Prop where
  definitions : h'.definitions = h.definitions ++ new
  /-- The names that are handed out are those of the declarations. -/
  handed : ∃ names, h'.names = names ++ h.names ∧ names.Perm (new.map Declaration.name)
  fresh : ∀ d ∈ new, d.name ∉ h.names
  nodup : (new.map Declaration.name).Nodup
  identifiers : ∀ d ∈ new, Name.IsIdentifier d.name
  closed : ∀ d ∈ new, d.references ⊆ new.map Declaration.name
  rooted : roots ⊆ new.map Declaration.name
  used : ∀ d ∈ new, d.name ∈ roots ∨ ∃ e ∈ new, e.name ≠ d.name ∧ d.name ∈ e.references

namespace Supplies

variable {h h' h'' : Hoisted Declaration} {roots roots' : List String} {new new' : List Declaration}

theorem refl (h : Hoisted Declaration) : Supplies h h [] [] where
  definitions := (List.append_nil _).symm
  handed := ⟨[], rfl, List.Perm.refl []⟩
  fresh := nofun
  nodup := List.nodup_nil
  identifiers := nofun
  closed := nofun
  rooted := List.nil_subset _
  used := nofun

theorem mem_names (hn : Supplies h h' roots new) {d : Declaration} (hd : d ∈ new) :
    d.name ∈ h'.names := by
  obtain ⟨names, heq, hperm⟩ := hn.handed
  rw [heq]
  exact List.mem_append_left _ (hperm.mem_iff.mpr (List.mem_map_of_mem hd))

theorem names_subset (hn : Supplies h h' roots new) : h.names ⊆ h'.names := by
  obtain ⟨names, heq, -⟩ := hn.handed
  rw [heq]
  exact List.subset_append_right names h.names

theorem trans (hn : Supplies h h' roots new) (hn' : Supplies h' h'' roots' new') :
    Supplies h h'' (roots ++ roots') (new ++ new') where
  definitions := by rw [hn'.definitions, hn.definitions, List.append_assoc]
  handed := by
    obtain ⟨names, heq, hperm⟩ := hn.handed
    obtain ⟨names', heq', hperm'⟩ := hn'.handed
    refine ⟨names' ++ names, by rw [heq', heq, List.append_assoc], ?_⟩
    rw [List.map_append]
    exact List.perm_append_comm.trans (hperm.append hperm')
  fresh := by
    intro d hd hmem
    rcases List.mem_append.mp hd with hd | hd
    · exact hn.fresh d hd hmem
    · exact hn'.fresh d hd (hn.names_subset hmem)
  nodup := by
    rw [List.map_append, List.nodup_append]
    refine ⟨hn.nodup, hn'.nodup, fun a ha b hb heq => ?_⟩
    obtain ⟨d, hd, rfl⟩ := List.mem_map.mp ha
    obtain ⟨e, he, rfl⟩ := List.mem_map.mp hb
    exact hn'.fresh e he (heq ▸ hn.mem_names hd)
  identifiers := by
    intro d hd
    rcases List.mem_append.mp hd with hd | hd
    · exact hn.identifiers d hd
    · exact hn'.identifiers d hd
  closed := by
    intro d hd
    rw [List.map_append]
    rcases List.mem_append.mp hd with hd | hd
    · exact List.Subset.trans (hn.closed d hd) (List.subset_append_left _ _)
    · exact List.Subset.trans (hn'.closed d hd) (List.subset_append_right _ _)
  rooted := by
    rw [List.map_append]
    exact List.append_subset.mpr ⟨List.Subset.trans hn.rooted (List.subset_append_left _ _),
      List.Subset.trans hn'.rooted (List.subset_append_right _ _)⟩
  used := by
    intro d hd
    rcases List.mem_append.mp hd with hd | hd
    · refine (hn.used d hd).imp (List.mem_append_left _) ?_
      rintro ⟨e, he, huse⟩
      exact ⟨e, List.mem_append_left _ he, huse⟩
    · refine (hn'.used d hd).imp (List.mem_append_right _) ?_
      rintro ⟨e, he, huse⟩
      exact ⟨e, List.mem_append_right _ he, huse⟩

/-- A declaration whose name was reserved before what it refers to was hoisted. -/
theorem declare {context : String}
    (hn : Supplies (h.reserve (Name.pascalCase context)).2 h' roots new) {d : Declaration}
    (hd : d.name = (h.reserve (Name.pascalCase context)).1) (hreferences : d.references = roots) :
    Supplies h (h'.add d) [d.name] (new ++ [d]) := by
  have hfresh : d.name ∉ h.names := hd ▸ Name.unique_not_mem _ _
  have hinner : ∀ e ∈ new, e.name ≠ d.name ∧ e.name ∉ h.names := by
    intro e he
    have hnot : e.name ∉ (h.reserve (Name.pascalCase context)).1 :: h.names := hn.fresh e he
    rw [← hd] at hnot
    exact not_or.mp (mt List.mem_cons.mpr hnot)
  refine ⟨?_, ?_, ?_, ?_, ?_, ?_, ?_, ?_⟩
  · change h'.definitions ++ [d] = h.definitions ++ (new ++ [d])
    rw [hn.definitions, List.append_assoc]
    rfl
  · obtain ⟨names, heq, hperm⟩ := hn.handed
    refine ⟨names ++ [d.name], ?_, ?_⟩
    · change h'.names = _
      rw [heq, hd, List.append_assoc]
      rfl
    · rw [List.map_append]
      exact hperm.append_right _
  · intro e he
    rcases List.mem_append.mp he with he | he
    · exact (hinner e he).2
    · obtain rfl := List.mem_singleton.mp he
      exact hfresh
  · rw [List.map_append, List.nodup_append]
    refine ⟨hn.nodup, List.nodup_singleton d.name, fun a ha b hb heq => ?_⟩
    obtain ⟨e, he, rfl⟩ := List.mem_map.mp ha
    obtain rfl := List.mem_singleton.mp hb
    exact (hinner e he).1 heq
  · intro e he
    rcases List.mem_append.mp he with he | he
    · exact hn.identifiers e he
    · obtain rfl := List.mem_singleton.mp he
      exact hd ▸ Name.isIdentifier_unique (Name.isIdentifier_pascalCase context) _
  · intro e he
    rw [List.map_append]
    refine List.Subset.trans ?_ (List.subset_append_left _ _)
    rcases List.mem_append.mp he with he | he
    · exact hn.closed e he
    · obtain rfl := List.mem_singleton.mp he
      exact hreferences ▸ hn.rooted
  · rw [List.map_append]
    exact List.subset_append_right _ _
  · intro e he
    rcases List.mem_append.mp he with he | he
    · refine Or.inr ?_
      rcases hn.used e he with hroot | ⟨f, hf, huse⟩
      · exact ⟨d, List.mem_append_right _ (List.mem_singleton_self d), (hinner e he).1.symm,
          hreferences ▸ hroot⟩
      · exact ⟨f, List.mem_append_left _ hf, huse⟩
    · obtain rfl := List.mem_singleton.mp he
      exact Or.inl (List.mem_singleton_self _)

end Supplies

namespace Advanced

/-! ## Each step of writing -/

/-- A type that is made from the facts of a field alone needs no declaration. -/
theorem references_of_plain {o : Options} {facts : Facts} {t : TypeExpr}
    (h : fieldForm o facts = .plain t) : t.references = [] := by
  rw [fieldForm] at h
  split at h
  · cases h
  · split at h
    · cases h
      rfl
    · split at h
      · cases h
        rfl
      · cases h

theorem references_of_nested {o : Options} {facts : Facts} {t : TypeExpr}
    (h : fieldForm o facts = .nested t) : t.references = [] := by
  rw [fieldForm] at h
  split at h
  · cases h
  · split at h
    · cases h
    · split at h
      · cases h
      · cases h
        cases facts.kinds.head? <;> rfl

mutual

theorem supplies_typeOf (o : Options) (context : String) :
    (s : Schema) → (h : Hoisted Declaration) → ∃ new,
      Supplies h (typeOf o context s h).2 (typeOf o context s h).1.references new
  | .object fields, h => by
    obtain ⟨new, hn⟩ := supplies_membersOf o fields (h.reserve (Name.pascalCase context)).2
    rw [typeOf]
    exact ⟨_, hn.declare rfl rfl⟩
  | .array none, h => ⟨[], Supplies.refl h⟩
  | .array (some items), h => by
    rw [typeOf]
    exact supplies_typeOf o (Name.singularize context) items h
  | .scalar kind, h => ⟨[], Supplies.refl h⟩
  | .unsupported sort, h => ⟨[], Supplies.refl h⟩

theorem supplies_nestedTypeOf (o : Options) (context : String) {fallback : TypeExpr}
    (hfallback : fallback.references = []) :
    (s : Option Schema) → (h : Hoisted Declaration) → ∃ new,
      Supplies h (nestedTypeOf o context fallback s h).2
        (nestedTypeOf o context fallback s h).1.references new
  | none, h => by
    rw [nestedTypeOf, hfallback]
    exact ⟨[], Supplies.refl h⟩
  | some s, h => by
    rw [nestedTypeOf]
    exact supplies_typeOf o context s h

theorem supplies_membersOf (o : Options) :
    (fields : List (String × Facts × Option Schema)) → (h : Hoisted Declaration) → ∃ new,
      Supplies h (membersOf o fields h).2
        ((membersOf o fields h).1.flatMap (·.type.references)) new
  | [], h => ⟨[], Supplies.refl h⟩
  | (key, facts, nested) :: fields, h => by
    rw [membersOf]
    cases hform : fieldForm o facts with
    | enumeration =>
        let enumeration : Declaration :=
          .enum (h.reserve (Name.pascalCase key)).1 (enumMembers (enumValues facts))
        have hown : Supplies h _ [enumeration.name] _ :=
          Supplies.declare (d := enumeration) (Supplies.refl _) rfl rfl
        obtain ⟨new, hn⟩ := supplies_membersOf o fields _
        exact ⟨_, hown.trans hn⟩
    | plain t =>
        obtain ⟨new, hn⟩ := supplies_membersOf o fields h
        refine ⟨new, ?_⟩
        simp only [List.flatMap_cons, member, references_of_plain hform, List.nil_append]
        exact hn
    | nested fallback =>
        obtain ⟨own, hown⟩ :=
          supplies_nestedTypeOf o key (references_of_nested hform) nested h
        obtain ⟨new, hn⟩ := supplies_membersOf o fields (nestedTypeOf o key fallback nested h).2
        exact ⟨_, hown.trans hn⟩

end

/-! ## The whole output -/

theorem supplies_rootOf (o : Options) (name : String) (s : Schema) :
    (rootOf o name s).1.name = name ∧ ∃ new,
      Supplies ⟨[], [name]⟩ (rootOf o name s).2 (rootOf o name s).1.references new := by
  cases s with
  | object fields => exact ⟨rfl, supplies_membersOf o fields _⟩
  | array items =>
      cases items with
      | none => exact ⟨rfl, [], Supplies.refl _⟩
      | some items => exact ⟨rfl, supplies_typeOf o (name ++ "Item") items _⟩
  | scalar kind => exact ⟨rfl, [], Supplies.refl _⟩
  | unsupported sort => exact ⟨rfl, [], Supplies.refl _⟩

/-- What is right about a root and the declarations behind it, `handed` being the names that were
handed out while they were written. -/
structure IsClosed (name : String) (root : Declaration) (new : List Declaration)
    (handed : List String) : Prop where
  root_name : root.name = name
  nodup : ((root :: new).map Declaration.name).Nodup
  handed_perm : handed.Perm (new.map Declaration.name)
  identifiers : ∀ n ∈ handed, Name.IsIdentifier n
  closed : ∀ d ∈ root :: new, d.references ⊆ new.map Declaration.name
  used : ∀ d ∈ new, ∃ e ∈ root :: new, e.name ≠ d.name ∧ d.name ∈ e.references

theorem exists_isClosed (o : Options) (name : String) (s : Schema) : ∃ handed,
    (rootOf o name s).2.names = handed ++ [name] ∧
      IsClosed name (rootOf o name s).1 (rootOf o name s).2.definitions handed := by
  obtain ⟨hroot, new, hn⟩ := supplies_rootOf o name s
  obtain ⟨handed, hnames, hperm⟩ := hn.handed
  have hdefinitions : (rootOf o name s).2.definitions = new := hn.definitions
  have hne : ∀ d ∈ new, (rootOf o name s).1.name ≠ d.name := by
    intro d hd heq
    exact hn.fresh d hd (List.mem_singleton.mpr (heq.symm.trans hroot))
  refine ⟨handed, hnames, hroot, ?_, hdefinitions ▸ hperm, ?_, ?_, ?_⟩
  · rw [hdefinitions, List.map_cons, List.nodup_cons]
    refine ⟨fun hmem => ?_, hn.nodup⟩
    obtain ⟨d, hd, heq⟩ := List.mem_map.mp hmem
    exact hne d hd heq.symm
  · intro n hmem
    obtain ⟨d, hd, rfl⟩ := List.mem_map.mp (hperm.mem_iff.mp hmem)
    exact hn.identifiers d hd
  · rw [hdefinitions]
    intro d hd
    rcases List.mem_cons.mp hd with rfl | hd
    · exact hn.rooted
    · exact hn.closed d hd
  · rw [hdefinitions]
    intro d hd
    rcases hn.used d hd with hmem | ⟨e, he, huse⟩
    · exact ⟨_, List.mem_cons_self, hne d hd, hmem⟩
    · exact ⟨e, List.mem_cons_of_mem _ he, huse⟩

/-- Whenever samples can be analyzed, the text for their merged schema joins the root declaration
and the hoisted ones. Their names are distinct, those behind the root being the identifiers that
were handed out; each name that stands in a type has its declaration, and each hoisted declaration
is referred to by another one. -/
theorem draft_joins_closed_declarations {primary : Value} {extras : List Value} {s : Schema}
    (h : analyze primary extras = .ok s) (o : Options) (name : String) (style : Style) :
    draft style o name s = .ok ("\n\n".intercalate
        (((rootOf o name s).1 :: (rootOf o name s).2.definitions).map (Declaration.text style))) ∧
      (∃ handed, (rootOf o name s).2.names = handed ++ [name] ∧
        IsClosed name (rootOf o name s).1 (rootOf o name s).2.definitions handed) ∧
      ∀ d ∈ (rootOf o name s).1 :: (rootOf o name s).2.definitions, ∃ body : String,
        d.text style = d.keyword style ++ d.name ++ body ∧ body.toList.head? = some ' ' := by
  have hfailure : Schema.failure? openSteps primary extras = none := by
    rw [analyze] at h
    split at h
    · cases h
    · assumption
  have herror : firstError? o openSteps s = none := by
    rw [Schema.eq_ofSamples_of_analyze h]
    exact firstError?_eq_none (Nat.le_refl openSteps) hfailure
  refine ⟨?_, exists_isClosed o name s, fun d _ => d.exists_text_eq style⟩
  rw [draft, herror]
  rfl

/-- Two nested shapes and an enumeration that all ask for the name of the root get three others. -/
theorem draft_joins_closed_declarations_colliding :
    ∃ s text, analyze (.arr [
        .obj [("item", .obj [("items", .arr [.obj [("Item", .str "a")]])])],
        .obj [("item", .obj [("items", .arr [.obj [("Item", .str "b")],
          .obj [("Item", .str "a")]])])]]) [] = .ok s ∧
      draft .interface {} "Item" s = .ok text ∧
      IsClosed "Item" (rootOf {} "Item" s).1 (rootOf {} "Item" s).2.definitions
        ["Item4", "Item3", "Item2", "ItemItem"] := by
  let sample : Value := .arr [
    .obj [("item", .obj [("items", .arr [.obj [("Item", .str "a")]])])],
    .obj [("item", .obj [("items", .arr [.obj [("Item", .str "b")], .obj [("Item", .str "a")]])])]]
  have hs : analyze sample [] = .ok (.ofSamples sample []) := by
    rw [analyze, show Schema.failure? openSteps sample [] = none by decide +kernel]
  have hnames : (rootOf {} "Item" (.ofSamples sample [])).2.names =
      ["Item4", "Item3", "Item2", "ItemItem"] ++ ["Item"] := by decide +kernel
  obtain ⟨htext, ⟨handed, hhanded, hclosed⟩, -⟩ :=
    draft_joins_closed_declarations hs {} "Item" .interface
  obtain rfl := List.append_cancel_right (hhanded.symm.trans hnames)
  exact ⟨_, _, hs, htext, hclosed⟩

end Advanced

end TypeDraft.TypeScript
