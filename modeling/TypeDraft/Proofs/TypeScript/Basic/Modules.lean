import TypeDraft.Proofs.TypeScript.Basic.Acceptance

/-!
# The module for a sample

The definitions that are reached from some names are all that these refer to, directly or not. The
text for a module is read statement by statement, if its types can be read.
-/

namespace TypeDraft.TypeScript.Basic

/-! ## Definitions that are reached -/

/-- Some definitions, each once, that are all that certain names refer to, beside those found
before. -/
structure AreReached (definitions : List Definition) (found names : List String)
    (ds : List Definition) : Prop where
  subset : ds ⊆ definitions
  nodup : (ds.map Definition.name).Nodup
  fresh : ∀ d ∈ ds, d.name ∉ found
  covers : ∀ n ∈ names, n ∈ definitions.map Definition.name → n ∈ found ∨ n ∈ ds.map Definition.name
  closed : ∀ d ∈ ds, ∀ n ∈ d.references, n ∈ definitions.map Definition.name →
    n ∈ found ∨ n ∈ ds.map Definition.name

theorem areReached_reached (definitions : List Definition) (found names : List String) :
    AreReached definitions found names (reached definitions found names) := by
  fun_induction reached definitions found names with
  | case1 found => exact ⟨List.nil_subset _, List.nodup_nil, nofun, nofun, nofun⟩
  | case2 found name names hfound ih =>
      refine ⟨ih.subset, ih.nodup, ih.fresh, fun n hn hdeclared => ?_, ih.closed⟩
      rcases List.mem_cons.mp hn with rfl | hn
      · exact Or.inl hfound
      · exact ih.covers n hn hdeclared
  | case3 found name names _ hnone ih =>
      refine ⟨ih.subset, ih.nodup, ih.fresh, fun n hn hdeclared => ?_, ih.closed⟩
      rcases List.mem_cons.mp hn with rfl | hn
      · obtain ⟨e, he, hname⟩ := List.mem_map.mp hdeclared
        exact absurd (decide_eq_true hname) (List.find?_eq_none.mp hnone e he)
      · exact ih.covers n hn hdeclared
  | case4 found name names hfound d hsome ih =>
      have hd := List.mem_of_find?_eq_some hsome
      have hname : d.name = name := by simpa using List.find?_some hsome
      subst hname
      have hsplit : ∀ {n}, n ∈ found ++ [d.name] ∨
          n ∈ (reached definitions (found ++ [d.name]) (d.references ++ names)).map
            Definition.name → n ∈ found ∨
          n ∈ (d :: reached definitions (found ++ [d.name]) (d.references ++ names)).map
            Definition.name := by
        intro n hn
        rw [List.mem_append, List.mem_singleton] at hn
        rw [List.map_cons, List.mem_cons]
        tauto
      constructor
      · exact List.cons_subset.mpr ⟨hd, ih.subset⟩
      · rw [List.map_cons, List.nodup_cons]
        refine ⟨fun hmem => ?_, ih.nodup⟩
        obtain ⟨e, he, heq⟩ := List.mem_map.mp hmem
        exact ih.fresh e he (heq ▸ List.mem_append_right _ (List.mem_singleton_self _))
      · intro e he
        rcases List.mem_cons.mp he with rfl | he
        · exact hfound
        · exact fun hmem => ih.fresh e he (List.mem_append_left _ hmem)
      · intro n hn hdeclared
        rcases List.mem_cons.mp hn with rfl | hn
        · exact Or.inr List.mem_cons_self
        · exact hsplit (ih.covers n (List.mem_append_right _ hn) hdeclared)
      · intro e he n hn hdeclared
        rcases List.mem_cons.mp he with rfl | he
        · exact hsplit (ih.covers n (List.mem_append_left _ hn) hdeclared)
        · exact hsplit (ih.closed e he n hn hdeclared)

/-! ## Texts -/

def Field.written (f : Field) : WrittenProperty := ⟨f.key, false, f.isOptional, f.type.tokens⟩

def Definition.written (style : Style) (e : Definition) : WrittenStatement :=
  .object style e.name (e.fields.map Field.written) false

variable {P : Ty → Prop} {references : List String} {e : Definition}

theorem Field.spells_text {f : Field} (hkey : OnOneLine f.key) (htype : AreParts P f.type) :
    SpellsFully f.text.toList f.written.tokens := by
  have hindent : SpellsFully [' ', ' ', ' ', ' '] [] := fun _ => rfl
  have htext : f.text = "    " ++ propertyText f.key f.isOptional f.type.text := by
    simp only [Field.text, propertyText, String.append_assoc]
  rw [htext]
  simpa [Field.written] using hindent.append (spells_propertyText hkey htype.spells f.isOptional)

theorem Definition.text_eq (style : Style) (e : Definition) :
    e.text style = "export " ++ Declaration.header style e.name ++ "\n" ++
      "\n".intercalate (e.fields.map Field.text) ++ "\n\x7d" := by
  cases style <;>
    simp only [Declaration.header, ← String.append_assoc] <;>
    rfl

theorem Definition.spells_text (hname : IsWord e.name) (hfields : AreSoundFields references e.fields)
    (style : Style) : SpellsFully (e.text style).toList ((e.written style).tokens true) := by
  have hexport : SpellsFully "export ".toList [.word "export"] := fun _ => rfl
  have hheader := hexport.append (spells_header hname style)
  have hbreak : SpellsFully ['\n'] [] := fun _ => rfl
  have hend : SpellsFully ['\n', '\x7d'] [.mark .closeBrace] := fun _ => rfl
  have hlines := spells_intercalate (by decide) hbreak (fun f : Field => f.text.toList)
    (fun f => f.written.tokens)
    fun f hf => (Field.spells_text (hfields.onOneLine f hf) (hfields.types f hf)).spells
  rw [intercalate_nil_left] at hlines
  have hbody := hbreak.append (hlines.append (by decide) hend)
  have htokens : (e.written style).tokens true = [.word "export"] ++ styleTokens style e.name ++
      ((e.fields.map fun f => f.written.tokens).flatten ++ [.mark .closeBrace]) := by
    simp [Definition.written, WrittenStatement.tokens, WrittenStatement.bodyTokens,
      List.flatMap_def, List.map_map, Function.comp_def]
  rw [Definition.text_eq, htokens]
  simpa [String.toList_intercalate, List.map_map, Function.comp_def] using hheader.append hbody

theorem Definition.statement?_written (hfields : AreSoundFields references e.fields)
    (style : Style) : (e.written style).statement? =
      (e.fields.mapM Field.property?).map fun ps => ⟨e.name, .object ps false⟩ := by
  have hproperty : ∀ f ∈ e.fields, f.written.property? = f.property? := by
    intro f hf
    rw [WrittenProperty.property?, Field.property?, (hfields.types f hf).type?_eq]
    rfl
  have hmap : ∀ fields : List Field, (∀ f ∈ fields, f.written.property? = f.property?) →
      (fields.map Field.written).mapM WrittenProperty.property? =
        fields.mapM Field.property? := by
    intro fields h
    induction fields with
    | nil => rfl
    | cons f fields ih =>
        rw [List.map_cons, List.mapM_cons, List.mapM_cons, h f List.mem_cons_self,
          ih fun g hg => h g (List.mem_cons_of_mem f hg)]
  rw [Definition.written, WrittenStatement.statement?, hmap e.fields hproperty]

theorem Definition.isRegular_written (hfields : AreSoundFields references e.fields)
    (style : Style) : (e.written style).IsRegular := by
  refine ⟨fun p hp => ?_, nofun⟩
  obtain ⟨f, hf, rfl⟩ := List.mem_map.mp hp
  exact (hfields.types f hf).no_semicolon

/-! ## Modules -/

namespace Module

def names (m : Module) : List String :=
  m.root.toList.map Prod.fst ++ m.definitions.map Definition.name

/-- A module with different names, whose types refer to its own definitions only. -/
structure IsSound (m : Module) : Prop where
  nodup : m.names.Nodup
  not_plain : ∀ n ∈ m.names, n ∉ plainWords
  root_word : ∀ r ∈ m.root, IsWord r.1
  root_type : ∀ r ∈ m.root, AreParts (IsLeaf True (m.definitions.map Definition.name)) r.2
  definitions : ∀ e ∈ m.definitions, e.IsSound (m.definitions.map Definition.name)

def written (style : Style) (m : Module) : List WrittenStatement :=
  m.root.toList.map (fun r => .synonym r.1 r.2.tokens) ++
    m.definitions.map (Definition.written style)

variable {m : Module} {style : Style}

theorem spells_root {name : String} (hname : IsWord name) {type : Parts} (htype : AreParts P type) :
    Spells ("export type " ++ name ++ " = " ++ type.text ++ ";").toList
      ((WrittenStatement.synonym name type.tokens).tokens true) := by
  have hexport : SpellsFully "export type ".toList [.word "export", .word "type"] := fun _ => rfl
  have hequals : SpellsFully [' ', '=', ' '] [.mark .equals] := fun _ => rfl
  have hend : SpellsFully [';'] [.mark .semicolon] := fun _ => rfl
  have hrest := hequals.append (htype.spells.append (by decide) hend)
  have hall := hexport.append ((spells_word hname).append (by decide) hrest)
  simpa [WrittenStatement.tokens] using hall.spells

/-- The text of a module is read as its statements, if their types can be read. -/
theorem IsSound.readModule?_text (h : m.IsSound) (style : Style) :
    readModule? (m.text style) = (m.written style).mapM WrittenStatement.statement? := by
  obtain ⟨texts, htexts⟩ : ∃ texts : List (String × WrittenStatement), texts =
      m.root.toList.map (fun r =>
        ("export type " ++ r.1 ++ " = " ++ r.2.text ++ ";", .synonym r.1 r.2.tokens)) ++
      m.definitions.map (fun e => (e.text style, e.written style)) := ⟨_, rfl⟩
  have hspells : ∀ x ∈ texts, Spells x.1.toList (x.2.tokens true) := by
    intro x hx
    rw [htexts, List.mem_append, List.mem_map, List.mem_map] at hx
    rcases hx with ⟨r, hr, rfl⟩ | ⟨e, he, rfl⟩
    · have hr := Option.mem_toList.mp hr
      exact spells_root (h.root_word r hr) (h.root_type r hr)
    · exact (Definition.spells_text (h.definitions e he).word (h.definitions e he).fields style).spells
  have hregular : ∀ s ∈ m.written style, s.IsRegular := by
    intro s hs
    rw [written, List.mem_append, List.mem_map, List.mem_map] at hs
    rcases hs with ⟨r, hr, rfl⟩ | ⟨e, he, rfl⟩
    · have htype := h.root_type r (Option.mem_toList.mp hr)
      exact ⟨htype.no_semicolon, htype.head_tokens.1, htype.head_tokens.2⟩
    · exact Definition.isRegular_written (h.definitions e he).fields style
  have hwritten : texts.map Prod.snd = m.written style := by
    rw [htexts, written, List.map_append, List.map_map, List.map_map]
    rfl
  have htext : "\n\n".intercalate (texts.map Prod.fst) = m.text style := by
    rw [htexts, text, List.map_append, List.map_map, List.map_map]
    cases m.root <;> rfl
  have hmodule := spells_statements Prod.fst Prod.snd true hspells
  rw [hwritten, htext] at hmodule
  exact readModule?_of_spells hregular hmodule

section

variable {statements : List Statement}

theorem map_name_statements
    (hread : (m.written style).mapM WrittenStatement.statement? = some statements) :
    statements.map Statement.name = m.names := by
  rw [map_eq_of_mapM hread fun _ _ => WrittenStatement.name_of_statement?, written, names,
    List.map_append, List.map_map, List.map_map]
  rfl

theorem IsSound.body?_root (h : m.IsSound)
    (hread : (m.written style).mapM WrittenStatement.statement? = some statements)
    {r : String × Parts} (hr : r ∈ m.root) :
    ∃ t, r.2.type? = some t ∧ body? statements r.1 = some (.synonym t) := by
  have hmem : .synonym r.1 r.2.tokens ∈ m.written style :=
    List.mem_append_left _ (List.mem_map.mpr ⟨r, Option.mem_toList.mpr hr, rfl⟩)
  obtain ⟨s, hs, hstatement⟩ := exists_mem_of_mem_mapM hread hmem
  obtain ⟨t, ht, rfl⟩ := Option.map_eq_some_iff.mp hstatement
  refine ⟨t, (h.root_type r hr).type?_eq.trans ht, ?_⟩
  exact body?_of_mem (by rw [map_name_statements hread]; exact h.nodup) hs

theorem IsSound.body?_definition (h : m.IsSound)
    (hread : (m.written style).mapM WrittenStatement.statement? = some statements)
    {e : Definition} (he : e ∈ m.definitions) :
    ∃ properties, e.fields.mapM Field.property? = some properties ∧
      body? statements e.name = some (.object properties false) := by
  have hmem : e.written style ∈ m.written style :=
    List.mem_append_right _ (List.mem_map_of_mem he)
  obtain ⟨s, hs, hstatement⟩ := exists_mem_of_mem_mapM hread hmem
  rw [Definition.statement?_written (h.definitions e he).fields] at hstatement
  obtain ⟨properties, hproperties, rfl⟩ := Option.map_eq_some_iff.mp hstatement
  refine ⟨properties, hproperties, ?_⟩
  exact body?_of_mem (by rw [map_name_statements hread]; exact h.nodup) hs

theorem IsSound.body?_plain (h : m.IsSound)
    (hread : (m.written style).mapM WrittenStatement.statement? = some statements) :
    ∀ word ∈ plainWords, body? statements word = none := by
  intro word hword
  refine body?_eq_none ?_
  rw [map_name_statements hread]
  exact fun hmem => h.not_plain word hmem hword

theorem names_of_type? {declared : List String} {type : Parts}
    (hparts : AreParts (IsLeaf True declared) type) {t : Ty} (ht : type.type? = some t) :
    ∀ name ∈ t.names, name ∈ predefined ∨ name ∈ declared := by
  intro name hname
  have hplain : ∀ word ∈ ["null", "boolean", "number", "string"], word ∈ predefined := by decide
  cases (hparts.leaves_of_type? ht).2 _ ((Ty.mem_names_iff t).mp hname) with
  | plain h => exact Or.inl (hplain name h)
  | any _ => exact Or.inl (by decide)
  | reference h => exact Or.inr h

/-- What is read from a sound module is well-formed. -/
theorem IsSound.wellFormed (h : m.IsSound)
    (hread : (m.written style).mapM WrittenStatement.statement? = some statements) :
    WellFormed statements := by
  have hnames := map_name_statements hread
  have hstatement : ∀ s ∈ statements,
      (∃ r ∈ m.root, ∃ t, r.2.type? = some t ∧ s = ⟨r.1, .synonym t⟩) ∨
        ∃ e ∈ m.definitions, ∃ properties, e.fields.mapM Field.property? = some properties ∧
          s = ⟨e.name, .object properties false⟩ := by
    intro s hs
    obtain ⟨w, hw, hread⟩ := exists_mem_of_mapM hread hs
    rw [written, List.mem_append, List.mem_map, List.mem_map] at hw
    rcases hw with ⟨r, hr, rfl⟩ | ⟨e, he, rfl⟩
    · obtain ⟨t, ht, rfl⟩ := Option.map_eq_some_iff.mp hread
      have hr := Option.mem_toList.mp hr
      exact Or.inl ⟨r, hr, t, (h.root_type r hr).type?_eq.trans ht, rfl⟩
    · rw [Definition.statement?_written (h.definitions e he).fields] at hread
      obtain ⟨properties, hproperties, rfl⟩ := Option.map_eq_some_iff.mp hread
      exact Or.inr ⟨e, he, properties, hproperties, rfl⟩
  have hdeclared : m.definitions.map Definition.name ⊆ statements.map Statement.name := by
    rw [hnames]
    exact List.subset_append_right _ _
  constructor
  · rw [hnames]
    exact h.nodup
  · intro s hs name hname
    rcases hstatement s hs with ⟨r, hr, t, ht, rfl⟩ | ⟨e, he, properties, hproperties, rfl⟩
    · exact (names_of_type? (h.root_type r hr) ht name hname).imp_right fun hn => hdeclared hn
    · obtain ⟨p, hp, hname⟩ := List.mem_flatMap.mp hname
      obtain ⟨f, hf, hproperty⟩ := exists_mem_of_mapM hproperties hp
      have htype := (Field.property?_eq_some hproperty).2.2
      have hsound := h.definitions e he
      exact (names_of_type? (hsound.fields.types f hf) htype name hname).imp_right fun hn =>
        hdeclared (hsound.references hn)
  · intro s hs
    rcases hstatement s hs with ⟨r, hr, t, ht, rfl⟩ | ⟨e, he, properties, hproperties, rfl⟩
    · exact List.nodup_nil
    · have hkeys : properties.map Property.key = e.fields.map Field.key :=
        map_eq_of_mapM hproperties fun f p hp => (Field.property?_eq_some hp).1
      change (properties.map Property.key).Nodup
      rw [hkeys]
      exact (h.definitions e he).fields.nodup_keys

end

end Module

end TypeDraft.TypeScript.Basic
