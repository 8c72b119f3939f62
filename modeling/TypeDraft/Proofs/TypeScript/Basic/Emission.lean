import TypeDraft.Proofs.TypeScript.Basic.Modules
import TypeDraft.Proofs.TypeScript.Basic.Soundness

/-!
# The text for a sample

The declarations for a sample form one module. Its root type accepts the sample if nothing is
dropped from any type, and in general just if every place where something is dropped is spared.
-/

namespace TypeDraft

namespace Shape

mutual

theorem firstShapeless?_of_isNormal : (v : Value) → v.isNormal → firstShapeless? v = none
  | .null, _ | .bool _, _ | .int _, _ | .float _, _ | .str _, _ => rfl
  | .arr items, h => firstShapelessItem?_of_areNormal items h
  | .obj fields, h => by
    rw [Value.isNormal, Bool.and_eq_true] at h
    exact firstShapelessField?_of_areNormal fields h.2

theorem firstShapelessItem?_of_areNormal :
    (items : List Value) → Value.areNormal items → firstShapelessItem? items = none
  | [], _ => rfl
  | v :: items, h => by
    rw [Value.areNormal, Bool.and_eq_true] at h
    rw [firstShapelessItem?, firstShapeless?_of_isNormal v h.1,
      firstShapelessItem?_of_areNormal items h.2, Option.or_none]

theorem firstShapelessField?_of_areNormal :
    (fields : List (String × Value)) → Value.areNormalFields fields →
      firstShapelessField? fields = none
  | [], _ => rfl
  | (_, v) :: fields, h => by
    rw [Value.areNormalFields, Bool.and_eq_true] at h
    rw [firstShapelessField?, firstShapeless?_of_isNormal v h.1,
      firstShapelessField?_of_areNormal fields h.2, Option.or_none]

end

theorem ofValue_eq_singleton {v : Value} (h : v.isNormal) :
    ofValue v = [alternativeFor [v] v.kind] := by
  have hall : ∀ w ∈ [v], w.isNormal := fun w hw => List.mem_singleton.mp hw ▸ h
  rw [ofValue_eq, ofAll_eq hall]
  rfl

end Shape

namespace TypeScript.Basic

open Schema (objects gatheredItems IsPlain)
open Shape (IsAlternativeOf AreAlternativesOf AreFieldsOf plainName? alternativeFor)

variable {name : String} {v : Value} {style : Style} {E : List Definition} {m : Module}
  {statements : List Statement}

/-! ## Modules of what is reached -/

theorem AreReached.isSound {names : List String} {ds : List Definition}
    (h : AreReached E [] names ds) (hE : ∀ e ∈ E, e.IsSound (E.map Definition.name)) :
    ∀ e ∈ ds, e.IsSound (ds.map Definition.name) := by
  intro e he
  have hsound := hE e (h.subset he)
  refine { hsound with references := fun n hn => ?_ }
  exact (h.closed e he n hn (hsound.references hn)).resolve_left List.not_mem_nil

theorem declares_of_areReached (hm : m.IsSound) {names : List String}
    (h : AreReached E [] names m.definitions) (hnodup : (E.map Definition.name).Nodup)
    (hread : (m.written style).mapM WrittenStatement.statement? = some statements) :
    Declares statements (m.definitions.map Definition.name) E := by
  have hmem : ∀ e ∈ E, e.name ∈ m.definitions.map Definition.name → e ∈ m.definitions := by
    intro e he hname
    obtain ⟨e', he', heq⟩ := List.mem_map.mp hname
    exact List.inj_on_of_nodup_map hnodup (h.subset he') he heq ▸ he'
  constructor
  · exact fun e he hname => hm.body?_definition hread (hmem e he hname)
  · exact fun e he hname => (hm.definitions e (hmem e he hname)).references
  · exact hm.body?_plain hread

/-! ## The module for a shape -/

theorem isSound_start (name : String) : Drafting.IsSound name { taken := [name] } where
  nodup := List.nodup_nil
  names_taken := List.nil_subset _
  root_taken := List.mem_singleton_self name
  root_free := List.not_mem_nil
  definitions := nofun

theorem moduleOf_object {fields : List (String × List Alternative)} (h : fields ≠ [])
    (name : String) (required : List String) :
    moduleOf name [.object fields required] =
      let w := fieldsOf required fields { taken := [name] }
      ⟨none, reached (⟨name, w.value, w.references⟩ :: w.drafting.definitions) [] [name]⟩ := by
  obtain ⟨f, fields, rfl⟩ := List.exists_cons_of_ne_nil h
  rfl

theorem moduleOf_array {items : List Alternative} (h : items ≠ []) (name : String) :
    moduleOf name [.array items] =
      let w := typesOf (name ++ "Element") items { taken := [name] }
      ⟨some (name, arrayOf (assemble items w.value)),
        reached w.drafting.definitions [] w.references⟩ := by
  obtain ⟨item, items, rfl⟩ := List.exists_cons_of_ne_nil h
  rfl

theorem moduleOf_plain {a : Alternative} {p : String} (h : plainName? a = some p)
    (name : String) :
    moduleOf name [a] = ⟨some (name, assemble [a] []), reached [] [] []⟩ := by
  match a with
  | .null | .boolean | .number _ | .string | .array [] | .object [] _ => rfl
  | .array (_ :: _) | .object (_ :: _) _ => cases h

/-- What a module for a sample is to be. -/
structure IsModuleFor (name : String) (v : Value) (m : Module) : Prop where
  sound : m.IsSound
  accepts_iff : ∀ {style statements},
    (m.written style).mapM WrittenStatement.statement? = some statements →
    (Accepts false statements (.named name) v ↔ KeepsRoot (IsSpared statements) name v)
  readable : LosesNothing name v → (∀ r ∈ m.root, ∃ t, r.2.type? = some t) ∧
    ∀ e ∈ m.definitions, AreReadable e.fields

theorem IsModuleFor.exists_statements (h : IsModuleFor name v m) (style : Style)
    (hloses : LosesNothing name v) :
    ∃ statements, (m.written style).mapM WrittenStatement.statement? = some statements := by
  obtain ⟨hroot, hdefinitions⟩ := h.readable hloses
  apply exists_mapM_eq_some
  intro w hw
  rw [Module.written, List.mem_append, List.mem_map, List.mem_map] at hw
  rcases hw with ⟨r, hr, rfl⟩ | ⟨e, he, rfl⟩
  · have hr := Option.mem_toList.mp hr
    obtain ⟨t, ht⟩ := hroot r hr
    rw [(h.sound.root_type r hr).type?_eq] at ht
    exact ⟨⟨r.1, .synonym t⟩, by rw [WrittenStatement.statement?, ht, Option.map_some]⟩
  · obtain ⟨properties, hproperties⟩ := (hdefinitions e he).exists_properties
    rw [Definition.statement?_written (h.sound.definitions e he).fields, hproperties]
    exact ⟨_, rfl⟩

section

variable (hv : IsPlain OnOneLine v) (hword : IsWord name) (hplain : name ∉ plainWords)

include hv in
theorem isAlternativeOf_ofValue {a : Alternative} (h : Shape.ofValue v = [a]) :
    IsAlternativeOf [v] a ∧ v.kind = a.kind := by
  have hnormal : ∀ w ∈ [v], w.isNormal := fun w hw => List.mem_singleton.mp hw ▸ hv.1
  have hs := Shape.areAlternativesOf_ofAll hnormal
  have hkind := Shape.mem_kinds_ofAll hnormal (List.mem_singleton_self v)
  rw [← Shape.ofValue_eq, h] at hs hkind
  exact ⟨hs.each a List.mem_cons_self, List.mem_singleton.mp hkind⟩

include hword hplain in
/-- A root definition in front of what has been drafted for its fields. -/
theorem isSound_root {d : Drafting} (hd : d.IsSound name) {fields : List Field}
    {references : List String} (hfields : AreSoundFields references fields)
    (hreferences : references ⊆ d.names) :
    ((⟨name, fields, references⟩ :: d.definitions).map Definition.name).Nodup ∧
      ∀ e ∈ ⟨name, fields, references⟩ :: d.definitions,
        e.IsSound ((⟨name, fields, references⟩ :: d.definitions).map Definition.name) := by
  refine ⟨List.nodup_cons.mpr ⟨hd.root_free, hd.nodup⟩, fun e he => ?_⟩
  have hsub : d.names ⊆ (⟨name, fields, references⟩ :: d.definitions).map Definition.name :=
    List.subset_cons_self name d.names
  rcases List.mem_cons.mp he with rfl | he
  · exact ⟨hword, hplain, hfields, List.Subset.trans hreferences hsub⟩
  · have hsound := hd.definitions e he
    exact { hsound with references := List.Subset.trans hsound.references hsub }

include hv hword hplain in
theorem isModuleFor_object {fields : List (String × List Alternative)} {required : List String}
    (hne : fields ≠ []) (hshape : Shape.ofValue v = [.object fields required]) :
    IsModuleFor name v (moduleOf name [.object fields required]) := by
  have hall : ∀ w ∈ [v], IsPlain OnOneLine w := fun w hw => List.mem_singleton.mp hw ▸ hv
  obtain ⟨ha, hkind⟩ := isAlternativeOf_ofValue hv hshape
  have hstart := isSound_start name
  have hdraft := isFieldsDraftOf_fieldsOf fields required hall ha.fields hstart
  have hfields : AreSoundFields (fieldsOf required fields { taken := [name] }).references
      (fieldsOf required fields { taken := [name] }).value :=
    hdraft.areSoundFields ha.fields.nodup (onOneLine_of_areFieldsOf hall ha.fields)
  obtain ⟨hnodup, hsound⟩ :=
    isSound_root hword hplain hdraft.drafting hfields hdraft.references
  have hkeeps : ∀ spared, KeepsRoot spared name v =
      KeepsFields spared (objects [v]) fields { taken := [name] } := by
    intro spared
    rw [KeepsRoot, hshape]
  rw [moduleOf_object hne]
  have hreached := areReached_reached
    (⟨name, (fieldsOf required fields { taken := [name] }).value,
      (fieldsOf required fields { taken := [name] }).references⟩ ::
        (fieldsOf required fields { taken := [name] }).drafting.definitions) [] [name]
  have hmodule : Module.IsSound ⟨none, reached _ [] [name]⟩ :=
    ⟨hreached.nodup, fun n hn => ?_, fun _ hr => absurd hr (Option.not_mem_none _),
      fun _ hr => absurd hr (Option.not_mem_none _), hreached.isSound hsound⟩
  · constructor
    · exact hmodule
    · intro style statements hread
      have hdeclares := declares_of_areReached hmodule hreached hnodup hread
      have hmem : name ∈ (reached _ [] [name]).map Definition.name :=
        (hreached.covers name List.mem_cons_self List.mem_cons_self).resolve_left List.not_mem_nil
      obtain ⟨properties, hproperties, hbody⟩ :=
        hdeclares.declared _ List.mem_cons_self hmem
      have hclosed := hdeclares.closed _ List.mem_cons_self hmem
      have hobjects := accepts_objects_iff (fun w hw => (hall w hw).1) ha hproperties hdraft.keys
        (fun f hf => isOptional_fieldsOf hf) hbody
      rw [hkeeps, ← forall_accepts_property_iff fields required hall ha.fields hstart
        (hdeclares.mono (List.subset_cons_self _ _)) hclosed hproperties, ← hobjects]
      constructor
      · intro h w hw _
        exact List.mem_singleton.mp hw ▸ h
      · intro h
        exact h v List.mem_cons_self hkind
    · intro hloses
      rw [LosesNothing, hkeeps] at hloses
      obtain ⟨hdrafting, hroot⟩ :=
        isReadable_fieldsOf fields required hall ha.fields hstart hloses
          fun _ he => absurd he List.not_mem_nil
      refine ⟨fun _ hr => absurd hr (Option.not_mem_none _), fun e he => ?_⟩
      rcases List.mem_cons.mp (hreached.subset he) with rfl | he
      · exact hroot
      · exact hdrafting e he
  · obtain ⟨e, he, rfl⟩ := List.mem_map.mp hn
    exact (hsound e (hreached.subset he)).not_plain

include hword hplain in
theorem isSound_synonym {d : Drafting} (hd : d.IsSound name) {references : List String}
    (hreferences : references ⊆ d.names) {type : Parts}
    (htype : AreParts (IsLeaf True references) type) :
    Module.IsSound ⟨some (name, type), reached d.definitions [] references⟩ := by
  have hreached := areReached_reached d.definitions [] references
  constructor
  · refine List.nodup_cons.mpr ⟨fun hmem => ?_, hreached.nodup⟩
    exact hd.root_free (List.map_subset _ hreached.subset hmem)
  · intro n hn
    rcases List.mem_cons.mp hn with rfl | hn
    · exact hplain
    · obtain ⟨e, he, rfl⟩ := List.mem_map.mp hn
      exact (hd.definitions e (hreached.subset he)).not_plain
  · intro r hr
    obtain rfl := Option.some.inj hr
    exact hword
  · intro r hr
    obtain rfl := Option.some.inj hr
    apply htype.mono
    intro leaf hleaf
    apply hleaf.mono id
    intro n hn
    exact (hreached.covers n hn (hreferences hn)).resolve_left List.not_mem_nil
  · exact hreached.isSound hd.definitions

/-- A root that stands for a type accepts the sample just if the type does. -/
theorem accepts_root_iff {d : Drafting} (hd : d.IsSound name) {references : List String}
    (hreferences : references ⊆ d.names) {type : Parts}
    (hmodule : Module.IsSound ⟨some (name, type), reached d.definitions [] references⟩)
    (hread : (Module.written style ⟨some (name, type), reached d.definitions [] references⟩).mapM
      WrittenStatement.statement? = some statements) :
    ∃ names, Declares statements names d.definitions ∧ references ⊆ names ∧
      ∃ t, type.type? = some t ∧
        (Accepts false statements (.named name) v ↔ Accepts false statements t v) := by
  have hreached := areReached_reached d.definitions [] references
  obtain ⟨t, ht, hbody⟩ := hmodule.body?_root hread rfl
  refine ⟨_, declares_of_areReached hmodule hreached hd.nodup hread, fun n hn => ?_, t, ht,
    accepts_synonym_iff hbody⟩
  exact (hreached.covers n hn (hreferences hn)).resolve_left List.not_mem_nil

include hv hword hplain in
theorem isModuleFor_array {items : List Alternative} (hne : items ≠ [])
    (hshape : Shape.ofValue v = [.array items]) :
    IsModuleFor name v (moduleOf name [.array items]) := by
  have hall : ∀ w ∈ [v], IsPlain OnOneLine w := fun w hw => List.mem_singleton.mp hw ▸ hv
  have hnormal : ∀ w ∈ [v], w.isNormal := fun w hw => (hall w hw).1
  obtain ⟨ha, hkind⟩ := isAlternativeOf_ofValue hv hshape
  have hs : AreAlternativesOf [v] [.array items] :=
    ⟨fun a ha' => List.mem_singleton.mp ha' ▸ ha, List.nodup_singleton _⟩
  have hstart := isSound_start name
  have hitems := ha.areAlternativesOf_items hnormal
  have hgathered := fun w (hw : w ∈ gatheredItems [v]) => Schema.isPlain_of_mem_gatheredItems hall hw
  have hdraft := isDraftOf_typesOf items (name ++ "Element") hgathered hitems hstart
  obtain ⟨hparts, hlength, -⟩ := hdraft.assemble hne
  have hkeeps : ∀ spared, KeepsRoot spared name v =
      if (arrayOf (assemble items (typesOf (name ++ "Element") items { taken := [name] }).value)).length =
          sortCountOfAll items then
        KeepsAll spared (name ++ "Element") (gatheredItems [v]) items { taken := [name] }
      else spared [v] [.array items]
        (arrayOf (assemble items (typesOf (name ++ "Element") items { taken := [name] }).value)) := by
    intro spared
    obtain ⟨item, items, rfl⟩ := List.exists_cons_of_ne_nil hne
    rw [KeepsRoot, hshape]
  have hcount : sortCountOfAll [.array items] = sortCountOfAll items := by
    obtain ⟨item, items, rfl⟩ := List.exists_cons_of_ne_nil hne
    rfl
  have hmodule := isSound_synonym hword hplain hdraft.drafting hdraft.references
    (hparts.arrayOf.mono fun leaf hleaf => hleaf.mono (fun _ => trivial) (List.Subset.refl _))
  rw [moduleOf_array hne]
  constructor
  · exact hmodule
  · intro style statements hread
    obtain ⟨names, hdeclares, hnamed, t, ht, hroot⟩ :=
      accepts_root_iff hdraft.drafting hdraft.references hmodule hread
    have hsingle : Accepts false statements t v ↔ ∀ w ∈ [v], Accepts false statements t w := by simp
    have hbare : ∀ references leaf, IsLeaf (AnyHasBareArrays items) references leaf →
        IsLeaf (AnyHasBareArrays [.array items]) references leaf :=
      fun _ _ hleaf => hleaf.mono (fun hbare => Or.inl (Or.inr hbare)) (List.Subset.refl _)
    rw [hroot, hsingle, hkeeps, ← hcount]
    refine forall_accepts_iff hdraft.drafting hdeclares hdraft.references hnamed hnormal hs
      (hparts.arrayOf.mono (hbare _)) ?_ ht fun hfull => ?_
    · rw [hcount, length_arrayOf hparts.ne_nil]
      exact hlength
    · rw [hcount] at hfull
      rw [type?_arrayOf_assemble _ hgathered hitems hne hstart hfull] at ht
      obtain rfl := Option.some.inj ht
      rw [← forall_accepts_placeTy_iff items _ hgathered hitems hstart hdeclares hnamed]
      have hkinds : ∀ w ∈ gatheredItems [v], w.kind ∈ items.map Alternative.kind := by
        intro w hw
        rw [ha.items]
        exact Shape.mem_kinds_ofAll (fun v hv => (hgathered v hv).1) hw
      have hsame : ∀ w ∈ [v], w.kind = .array := fun w hw => List.mem_singleton.mp hw ▸ hkind
      calc
        _ ↔ ∀ w ∈ [v], w.kind = .array → Accepts false statements _ w :=
          forall₂_congr fun w hw => (imp_iff_right (hsame w hw)).symm
        _ ↔ ∀ w ∈ gatheredItems [v], Accepts false statements _ w :=
          forall_accepts_array_iff hnormal
        _ ↔ _ := forall₂_congr fun w hw => (imp_iff_right (hkinds w hw)).symm
  · intro hloses
    rw [LosesNothing, hkeeps] at hloses
    split at hloses
    · rename_i hfull
      refine ⟨fun r hr => ?_, fun e he => ?_⟩
      · obtain rfl := Option.some.inj hr
        exact ⟨_, type?_arrayOf_assemble _ hgathered hitems hne hstart hfull⟩
      · exact isReadable_typesOf items _ hgathered hitems hstart hloses
          (fun _ he => absurd he List.not_mem_nil) e ((areReached_reached _ _ _).subset he)
    · exact hloses.elim

include hv hword hplain in
theorem isModuleFor_plain {a : Alternative} {p : String} (h : plainName? a = some p)
    (hshape : Shape.ofValue v = [a]) : IsModuleFor name v (moduleOf name [a]) := by
  have hall : ∀ w ∈ [v], IsPlain OnOneLine w := fun w hw => List.mem_singleton.mp hw ▸ hv
  obtain ⟨ha, hkind⟩ := isAlternativeOf_ofValue hv hshape
  have hs : AreAlternativesOf [v] [a] :=
    ⟨fun b hb => List.mem_singleton.mp hb ▸ ha, List.nodup_singleton _⟩
  have hne := List.cons_ne_nil a []
  have hstart := isSound_start name
  have hdraft := isDraftOf_plain hstart h
  obtain ⟨hparts, hlength, -⟩ := hdraft.assemble hne
  have htypes : typesOf name [a] { taken := [name] } = ⟨[], [], { taken := [name] }⟩ := by
    rw [typesOf_cons, draftOne_of_plainName h]
    rfl
  have hcount := sortCountOfAll_of_plainName h
  have hfull : (assemble [a] []).length = sortCountOfAll [a] := by
    have hpos := List.length_pos_iff.mpr hparts.ne_nil
    rw [hcount] at hlength ⊢
    exact Nat.le_antisymm hlength hpos
  have htype : (assemble [a] []).type? = some (placeTy name [a] { taken := [name] }) := by
    have htype := type?_assemble name hall hs hne hstart
    rw [htypes] at htype
    exact htype hfull
  have hmodule := isSound_synonym hword hplain hstart (List.nil_subset _)
    (hparts.mono fun leaf hleaf => hleaf.mono (fun _ => trivial) (List.Subset.refl _))
  rw [moduleOf_plain h]
  constructor
  · exact hmodule
  · intro style statements hread
    obtain ⟨names, hdeclares, -, t, ht, hroot⟩ :=
      accepts_root_iff hstart (List.nil_subset _) hmodule hread
    rw [htype] at ht
    obtain rfl := Option.some.inj ht
    rw [hroot, accepts_placeTy_iff hdeclares.plain hv.1]
    exact iff_of_true (Or.inl ⟨a, List.mem_cons_self, p, h, hkind⟩) (keepsRoot_of_plainName _ hshape h)
  · refine fun _ => ⟨fun r hr => ?_, fun e he => ?_⟩
    · obtain rfl := Option.some.inj hr
      exact ⟨_, htype⟩
    · exact absurd ((areReached_reached [] [] []).subset he) List.not_mem_nil

include hv hword hplain in
theorem isModuleFor_moduleOf : IsModuleFor name v (moduleOf name (Shape.ofValue v)) := by
  have hshape := Shape.ofValue_eq_singleton hv.1
  generalize alternativeFor [v] v.kind = a at hshape
  rw [hshape]
  match a, hshape with
  | .array (item :: items), hshape =>
    exact isModuleFor_array hv hword hplain (List.cons_ne_nil item items) hshape
  | .object (f :: fields) required, hshape =>
    exact isModuleFor_object hv hword hplain (List.cons_ne_nil f fields) hshape
  | .null, hshape | .boolean, hshape | .number _, hshape | .string, hshape | .array [], hshape
  | .object [] _, hshape => exact isModuleFor_plain hv hword hplain rfl hshape

end

/-! ## The text -/

theorem draft_eq_ok (hv : v.isNormal) (hdepth : v.tooDeepFor inferenceCost = false) :
    draft style name v = .ok ((moduleOf name (Shape.ofValue v)).text style) := by
  rw [draft, inferShape, hdepth, Shape.firstShapeless?_of_isNormal v hv]
  rfl

theorem eq_text_of_draft {text : String} (h : draft style name v = .ok text) :
    text = (moduleOf name (Shape.ofValue v)).text style := by
  rw [draft, inferShape] at h
  split at h
  · cases h
  · split at h
    · cases h
    · exact (Except.ok.inj h).symm

/-- If no key runs over a line, the text for a sample is a well-formed module whose root type
accepts the sample, provided that nothing is dropped from any type. It is not if something is
dropped at a place without bare arrays, and in general it is just if its types can be read and each
place where something is dropped is spared. There is a text unless the sample nests too deeply. -/
theorem draft_declares_type_of_sample (hnormal : v.isNormal) (hkeys : v.EveryKey OnOneLine)
    (hword : IsWord name) (hname : name ∉ predefined) (style : Style) :
    (v.tooDeepFor inferenceCost = false → ∃ text, draft style name v = .ok text) ∧
    ∀ text, draft style name v = .ok text →
      (LosesNothing name v → DeclaresTypeOf false text name v) ∧
      (DeclaresTypeOf false text name v → KeepsRoot (fun _ s _ => AnyHasBareArrays s) name v) ∧
      (DeclaresTypeOf false text name v ↔
        ∃ m, readModule? text = some m ∧ KeepsRoot (IsSpared m) name v) := by
  refine ⟨fun hdepth => ⟨_, draft_eq_ok hnormal hdepth⟩, fun text htext => ?_⟩
  obtain rfl := eq_text_of_draft htext
  have hplain : name ∉ plainWords := by
    have hsub : ∀ word ∈ plainWords, word ∈ predefined := by decide
    exact fun hmem => hname (hsub name hmem)
  have hmodule := isModuleFor_moduleOf ⟨hnormal, hkeys⟩ hword hplain
  have hread := hmodule.sound.readModule?_text style
  have hiff : DeclaresTypeOf false ((moduleOf name (Shape.ofValue v)).text style) name v ↔
      ∃ m, readModule? ((moduleOf name (Shape.ofValue v)).text style) = some m ∧
        KeepsRoot (IsSpared m) name v := by
    apply exists_congr
    intro statements
    apply and_congr_right
    intro hstatements
    rw [hread] at hstatements
    rw [hmodule.accepts_iff hstatements]
    exact and_iff_right (hmodule.sound.wellFormed hstatements)
  refine ⟨fun hloses => ?_, fun hdeclares => ?_, hiff⟩
  · obtain ⟨statements, hstatements⟩ := hmodule.exists_statements style hloses
    exact hiff.mpr ⟨statements, hread.trans hstatements,
      KeepsRoot.mono (fun _ _ _ => False.elim) hloses⟩
  · obtain ⟨m, -, hkeeps⟩ := hiff.mp hdeclares
    exact KeepsRoot.mono (fun _ _ _ hspared => hspared.1) hkeeps

theorem draft_declares_type_of_sample_union :
    ∃ text, draft .interface "Order" (.obj [("id", .int 1), ("tags", .arr [.str "a", .int 2])]) =
        .ok text ∧
      DeclaresTypeOf false text "Order" (.obj [("id", .int 1), ("tags", .arr [.str "a", .int 2])]) := by
  have hkeys : (Value.obj [("id", .int 1), ("tags", .arr [.str "a", .int 2])]).EveryKey
      OnOneLine := by
    simp [Value.EveryKey, Value.EveryKeyOfFields, Value.EveryKeyOfItems, OnOneLine, isLineBreak]
  have hword : IsWord "Order" := by decide
  have hname : "Order" ∉ predefined := by decide
  have hshape : Shape.ofValue (.obj [("id", .int 1), ("tags", .arr [.str "a", .int 2])]) =
      [.object [("id", [.number true]), ("tags", [.array [.string, .number true]])]
        ["id", "tags"]] := rfl
  have hid : Shape.plainNames [.number true] = ["integer"] := by
    simp [Shape.plainNames, Shape.plainName?]
  have htags : Shape.plainNames [.array [.string, .number true]] = [] := by
    rw [Shape.plainNames, List.filterMap_cons_none rfl, List.filterMap_nil, List.mergeSort_nil]
  have hitems : Shape.plainNames [.string, .number true] = ["integer", "string"] := by
    simp [Shape.plainNames, Shape.plainName?, List.mergeSort]
  have hunion : unionOf [["number"], ["string"]] = ["number", "string"] := by decide
  have hloses : LosesNothing "Order" (.obj [("id", .int 1), ("tags", .arr [.str "a", .int 2])]) := by
    rw [LosesNothing, KeepsRoot, hshape]
    simp [KeepsFields, KeepsAll, KeepsWithin, sortCountOfAll, sortCount, assemble, typesOf, typeOf?,
      hid, htags, hitems, hunion, plainType, arrayOf]
  have hsample := draft_declares_type_of_sample (by decide) hkeys hword hname .interface
  obtain ⟨text, htext⟩ := hsample.1 (by decide)
  exact ⟨text, htext, (hsample.2 text htext).1 hloses⟩

/-- In an array within a union, a sort that the union has already is missing from the text. -/
theorem not_declaresTypeOf_repeated_sort :
    (Value.arr [.int 1, .arr [.str "a", .int 2, .bool true]]).isNormal ∧
      (Value.arr [.int 1, .arr [.str "a", .int 2, .bool true]]).EveryKey OnOneLine ∧
      draft .interface "Root" (.arr [.int 1, .arr [.str "a", .int 2, .bool true]]) =
        .ok "export type Root = (number | (boolean | string)[])[];" ∧
      ¬ DeclaresTypeOf false "export type Root = (number | (boolean | string)[])[];" "Root"
        (.arr [.int 1, .arr [.str "a", .int 2, .bool true]]) := by
  have hnormal : (Value.arr [.int 1, .arr [.str "a", .int 2, .bool true]]).isNormal := by decide
  refine ⟨hnormal, by simp [Value.EveryKey, Value.EveryKeyOfItems], ?_, ?_⟩
  · have hshape : Shape.ofValue (.arr [.int 1, .arr [.str "a", .int 2, .bool true]]) =
        [.array [.number true, .array [.string, .number true, .boolean]]] := rfl
    have hitems : Shape.plainNames [.number true, .array [.string, .number true, .boolean]] =
        ["integer"] := List.mergeSort_singleton "integer"
    have hinner : Shape.plainNames [.string, .number true, .boolean] =
        ["boolean", "integer", "string"] := by
      simp [Shape.plainNames, Shape.plainName?, List.mergeSort]
    have hparts : arrayOf (assemble [.string, .number true, .boolean] []) =
        ["(boolean", "number", "string)[]"] := by
      rw [assemble, hinner]
      decide
    have hroot : arrayOf (assemble [.number true, .array [.string, .number true, .boolean]]
        [["(boolean", "number", "string)[]"]]) = ["(number", "(boolean", "string)[])[]"] := by
      rw [assemble, hitems]
      decide
    have htypes : ∀ context d,
        (typesOf context [.number true, .array [.string, .number true, .boolean]] d) =
          ⟨[arrayOf (assemble [.string, .number true, .boolean] [])], [], d⟩ := fun _ _ => rfl
    rw [draft_eq_ok hnormal rfl, hshape, moduleOf_array (List.cons_ne_nil _ _)]
    simp only [htypes, hparts, hroot, reached]
    decide
  · rintro ⟨m, hread, -, haccepts⟩
    have hm : readModule? "export type Root = (number | (boolean | string)[])[];" = some
        [⟨"Root", .synonym (.array (.union [.named "number",
          .array (.union [.named "boolean", .named "string"])]))⟩] := rfl
    obtain rfl := Option.some.inj (hm.symm.trans hread)
    obtain ⟨_, hitems, hitem⟩ := accepts_array_iff.mp ((accepts_synonym_iff rfl).mp haccepts)
    obtain rfl := Value.arr.inj hitems
    cases hitem (.arr [.str "a", .int 2, .bool true]) (by decide) with
    | union ht hinner =>
        rcases List.mem_pair.mp ht with rfl | rfl
        · exact absurd ((accepts_predefined_iff rfl).mp hinner) (by unfold Admits; decide)
        · obtain ⟨_, hitems, hitem⟩ := accepts_array_iff.mp hinner
          obtain rfl := Value.arr.inj hitems
          cases hitem (.int 2) (by decide) with
          | union ht hnumber =>
              have hadmits : ¬ Admits "boolean" (.int 2) ∧ ¬ Admits "string" (.int 2) := by
                unfold Admits
                decide
              rcases List.mem_pair.mp ht with rfl | rfl
              · exact hadmits.1 ((accepts_predefined_iff rfl).mp hnumber)
              · exact hadmits.2 ((accepts_predefined_iff rfl).mp hnumber)

end TypeScript.Basic

end TypeDraft
