import Mathlib.Logic.Function.Iterate
import TypeDraft.Proofs.Name.Singular
import TypeDraft.Proofs.TypeScript.Advanced.Fields
import TypeDraft.Proofs.TypeScript.Basic.Layers

/-!
# Names of items

What is within an array goes by the singular of its name, once for each array. Since the singular of
a singular is the word itself, an object goes by one name in arrays of any depth.
-/

namespace TypeDraft.TypeScript

open Name (pascalCase singularize singularize_singularize unique)

/-! ## Merged schemas -/

namespace Advanced

/-- A schema within some arrays. -/
def inArrays : Nat → Schema → Schema
  | 0, s => s
  | n + 1, s => .array (some (inArrays n s))

theorem typeOf_inArrays (o : Options) {context : String} (h : singularize context = context)
    (n : Nat) (s : Schema) (hoisted : Hoisted Declaration) :
    typeOf o context (inArrays n s) hoisted =
      (TypeExpr.array^[n] (typeOf o context s hoisted).1, (typeOf o context s hoisted).2) := by
  induction n with
  | zero => rfl
  | succ n ih =>
      rw [inArrays, typeOf, h, ih, Function.iterate_succ_apply']

/-- In arrays of any depth an object under a key reserves one name. -/
theorem fieldTypeOf_inArrays {o : Options} {facts : Facts} {fallback : TypeExpr}
    (hform : fieldForm o facts = .nested fallback) (key : String)
    (fields : List (String × Facts × Option Schema)) (h : Hoisted Declaration) (n : Nat) :
    fieldTypeOf o key facts (some (inArrays (n + 1) (.object fields))) h =
      (TypeExpr.array^[n + 1] (.named (unique (pascalCase (singularize key)) h.names)),
        (typeOf o (singularize key) (.object fields) h).2) := by
  rw [fieldTypeOf, hform, Function.iterate_succ_apply']
  simp only [nestedTypeOf, inArrays, typeOf]
  rw [typeOf_inArrays o (singularize_singularize key)]
  rfl

end Advanced

/-! ## Single samples -/

namespace Basic

variable {fields : List (String × List Alternative)}

/-- An alternative within some arrays, with nothing beside it. -/
def inArrays : Nat → Alternative → Alternative
  | 0, a => a
  | n + 1, a => .array [inArrays n a]

theorem assemble_singleton {a : Alternative} (h : Shape.plainName? a = none) (t : Parts) :
    assemble [a] [t] = t := by
  have hnone : Shape.plainNames [a] = [] := by simp [Shape.plainNames, h]
  rw [assemble, hnone]
  rfl

theorem plainName?_inArrays (hne : fields ≠ []) (required : List String) (n : Nat) :
    Shape.plainName? (inArrays n (.object fields required)) = none := by
  obtain ⟨f, fs, rfl⟩ := List.exists_cons_of_ne_nil hne
  cases n <;> rfl

theorem typesOf_singleton (context : String) (a : Alternative) (d : Drafting) :
    typesOf context [a] d = draftOne context a d := by
  rw [typesOf_cons, typesOf, Written.append, List.append_nil, List.append_nil]

theorem draftOne_inArrays (hne : fields ≠ []) (required : List String) {context : String}
    (h : singularize context = context) (n : Nat) (d : Drafting) :
    draftOne context (inArrays n (.object fields required)) d =
      { (fieldsOf required fields d).asObject context with
        value := [arrayOf^[n] [((fieldsOf required fields d).declare context).1]] } := by
  induction n with
  | zero => exact draftOne_object hne context required d
  | succ n ih =>
      rw [inArrays, draftOne_array (List.cons_ne_nil _ _), h, typesOf_singleton, ih,
        Written.asArray, assemble_singleton (plainName?_inArrays hne required n),
        Function.iterate_succ_apply']

/-- In arrays of any depth, with nothing beside, an object under a key is declared in one way. -/
theorem typesOf_inArrays (hne : fields ≠ []) (required : List String) (key : String) (n : Nat)
    (d : Drafting) :
    typesOf key [inArrays (n + 1) (.object fields required)] d =
      { (fieldsOf required fields d).asObject (singularize key) with
        value :=
          [arrayOf^[n + 1] [((fieldsOf required fields d).declare (singularize key)).1]] } := by
  rw [typesOf_singleton, inArrays, draftOne_array (List.cons_ne_nil _ _), typesOf_singleton,
    draftOne_inArrays hne required (singularize_singularize key), Written.asArray,
    assemble_singleton (plainName?_inArrays hne required n), Function.iterate_succ_apply']

/-! ## What is declared stays there -/

mutual

theorem prefix_draftOne : (a : Alternative) → (context : String) → (d : Drafting) →
    d.definitions <+: (draftOne context a d).drafting.definitions
  | .null, _, _ | .boolean, _, _ | .number _, _, _ | .string, _, _ | .array [], _, _
  | .object [] _, _, _ => List.prefix_refl _
  | .array (item :: items), context, d => by
    rw [draftOne_array (List.cons_ne_nil item items)]
    exact prefix_typesOf (item :: items) (singularize context) d
  | .object (f :: fs) required, context, d => by
    rw [draftOne_object (List.cons_ne_nil f fs)]
    exact (prefix_fieldsOf (f :: fs) required d).trans (Drafting.prefix_declare _ _ _ _)

theorem prefix_typesOf : (s : List Alternative) → (context : String) → (d : Drafting) →
    d.definitions <+: (typesOf context s d).drafting.definitions
  | [], _, _ => List.prefix_refl _
  | a :: s, context, d => by
    rw [typesOf_cons]
    exact (prefix_draftOne a context d).trans (prefix_typesOf s context _)

theorem prefix_fieldsOf : (fields : List (String × List Alternative)) → (required : List String) →
    (d : Drafting) → d.definitions <+: (fieldsOf required fields d).drafting.definitions
  | [], _, _ => List.prefix_refl _
  | (key, s) :: fields, required, d =>
    (prefix_typesOf s key d).trans (prefix_fieldsOf fields required _)

end

/-! ## Objects among others -/

/-- Where an alternative stands: among those of a shape, or within some arrays there. -/
inductive StandsWithin (a : Alternative) : (depth : Nat) → List Alternative → Prop
  | here {s : List Alternative} : a ∈ s → StandsWithin a 0 s
  | items {n : Nat} {items s : List Alternative} :
      Alternative.array items ∈ s → StandsWithin a n items → StandsWithin a (n + 1) s

/-- Whether something written refers to a definition for an object. Its name is a fresh one made
from `base`, unless the fields look like those of an object before, whose definition is used. -/
def DeclaresObject (base : String) (required : List String)
    (fields : List (String × List Alternative)) (d : Drafting) (w : Written (List Parts)) : Prop :=
  ∃ d' : Drafting, d.definitions <+: d'.definitions ∧
    ∃ e ∈ w.drafting.definitions, e.name ∈ w.references ∧
      e.fields = (fieldsOf required fields d').value ∧
      (e ∈ (fieldsOf required fields d').drafting.definitions ∨
        e.name = unique base (fieldsOf required fields d').drafting.taken)

variable {base : String} {required : List String} {d d₀ : Drafting} {w w' : Written (List Parts)}

theorem DeclaresObject.mono (h : DeclaresObject base required fields d w)
    (hd : d₀.definitions <+: d.definitions)
    (hw : w.drafting.definitions <+: w'.drafting.definitions)
    (hreferences : w.references ⊆ w'.references) : DeclaresObject base required fields d₀ w' := by
  obtain ⟨d', hprefix, e, he, hname, hrest⟩ := h
  exact ⟨d', hd.trans hprefix, e, hw.subset he, hreferences hname, hrest⟩

theorem declaresObject_asObject (required : List String)
    (fields : List (String × List Alternative)) (context : String) (d : Drafting) :
    DeclaresObject (pascalCase context) required fields d
      ((fieldsOf required fields d).asObject context) := by
  refine ⟨d, List.prefix_refl _, ?_⟩
  rw [Written.asObject, Written.declare]
  rcases (fieldsOf required fields d).drafting.declare_cases (pascalCase context)
    (fieldsOf required fields d).value (fieldsOf required fields d).references with
    ⟨e, he, hfields, heq⟩ | ⟨-, heq⟩
  · rw [heq]
    exact ⟨e, he, List.mem_cons_self, hfields, .inl he⟩
  · rw [heq]
    exact ⟨_, List.mem_append_right _ List.mem_cons_self, List.mem_cons_self, rfl, .inr rfl⟩

/-- What is declared for one of some alternatives is declared for all of them. -/
theorem declaresObject_of_mem {a : Alternative} {s : List Alternative} {context : String}
    (ha : ∀ d, DeclaresObject base required fields d (draftOne context a d)) (hmem : a ∈ s)
    (d : Drafting) : DeclaresObject base required fields d (typesOf context s d) := by
  induction s generalizing d with
  | nil => cases hmem
  | cons b s ih =>
      rw [typesOf_cons]
      rcases List.mem_cons.mp hmem with rfl | hmem
      · exact (ha d).mono (List.prefix_refl _) (prefix_typesOf s context _)
          (List.subset_append_left _ _)
      · exact (ih hmem _).mono (prefix_draftOne b context d) (List.prefix_refl _)
          (List.subset_append_right _ _)

theorem StandsWithin.ne_nil {a : Alternative} {n : Nat} {s : List Alternative}
    (h : StandsWithin a n s) : s ≠ [] := by
  cases h with
  | here hmem => exact List.ne_nil_of_mem hmem
  | items hmem _ => exact List.ne_nil_of_mem hmem

/-- Within arrays an object is declared under the name that those go by, if it is a singular. -/
theorem StandsWithin.declaresObject {n : Nat} {s : List Alternative} (hne : fields ≠ [])
    (h : StandsWithin (.object fields required) n s) {context : String}
    (hcontext : singularize context = context) (d : Drafting) :
    DeclaresObject (pascalCase context) required fields d (typesOf context s d) := by
  -- One array further in the name is taken to the singular once more, which leaves it as it is.
  induction h generalizing d with
  | here hmem =>
      refine declaresObject_of_mem (fun d => ?_) hmem d
      rw [draftOne_object hne]
      exact declaresObject_asObject required fields context d
  | items hmem hitems ih =>
      refine declaresObject_of_mem (fun d => ?_) hmem d
      rw [draftOne_array hitems.ne_nil, hcontext]
      exact ih d

/-- Within arrays under a key an object is declared under the singular of the key. -/
theorem StandsWithin.declaresObject_singularize {n : Nat} {s : List Alternative} (hne : fields ≠ [])
    (h : StandsWithin (.object fields required) (n + 1) s) (key : String) (d : Drafting) :
    DeclaresObject (pascalCase (singularize key)) required fields d (typesOf key s d) := by
  cases h with
  | items hmem hitems =>
      refine declaresObject_of_mem (fun d => ?_) hmem d
      rw [draftOne_array hitems.ne_nil]
      exact hitems.declaresObject hne (singularize_singularize key) d

end Basic

/-! ## One name at any depth -/

/-- The singular of a singular is the word itself, and there is one of every word. So for each key
the name of an object in arrays under it is made from the singular of the key, however deep they are
nested: for a merged schema, and for a sample, where other values may stand beside the arrays. If
none do, all that is written is the same at any depth but for the brackets. -/
theorem item_names_ignore_depth (key : String) :
    (∀ word, singularize (singularize word) = singularize word ∧
      (singularize word = "" ↔ word = "")) ∧
    (∀ o facts fallback fields h, Advanced.fieldForm o facts = .nested fallback → ∀ n,
      Advanced.fieldTypeOf o key facts (some (Advanced.inArrays (n + 1) (.object fields))) h =
        (TypeExpr.array^[n + 1] (.named (unique (pascalCase (singularize key)) h.names)),
          (Advanced.typeOf o (singularize key) (.object fields) h).2)) ∧
    (∀ fields required d, fields ≠ [] → ∀ n,
      Basic.typesOf key [Basic.inArrays (n + 1) (.object fields required)] d =
        { (Basic.fieldsOf required fields d).asObject (singularize key) with
          value := [Basic.arrayOf^[n + 1]
            [((Basic.fieldsOf required fields d).declare (singularize key)).1]] }) ∧
    ∀ fields required s d, fields ≠ [] → ∀ n,
      Basic.StandsWithin (.object fields required) (n + 1) s →
        Basic.DeclaresObject (pascalCase (singularize key)) required fields d
          (Basic.typesOf key s d) := by
  refine ⟨fun word => ⟨singularize_singularize word, Name.singularize_eq_empty_iff⟩, ?_, ?_, ?_⟩
  · intro o facts fallback fields h hform n
    exact Advanced.fieldTypeOf_inArrays hform key fields h n
  · intro fields required d hne n
    exact Basic.typesOf_inArrays hne required key n d
  · intro fields required s d hne n hstands
    exact hstands.declaresObject_singularize hne key d

/-- The items of `boxes` are boxes, two arrays further in and with other values beside them. -/
theorem item_names_ignore_depth_boxes :
    let facts : Facts := { isOptional := false, isUnion := false, kinds := [.array] }
    let nested : List (String × Facts × Option Schema) :=
      [("x", { isOptional := false, isUnion := false, kinds := [.number] }, none)]
    let fields : List (String × List Alternative) := [("x", [.number true])]
    (Advanced.fieldTypeOf {} "boxes" facts (some (.array (some (.array (some (.object nested))))))
        { names := ["Box"] }).1 = .array (.array (.named "Box2")) ∧
      (Basic.typesOf "boxes" [.array [.array [.object fields ["x"]]]] {}).references = ["Box"] ∧
      Basic.DeclaresObject "Box" ["x"] fields {}
        (Basic.typesOf "boxes" [.string, .array [.null, .array [.object fields ["x"]]]] {}) := by
  intro facts nested fields
  have hbase : pascalCase (singularize "boxes") = "Box" := by decide
  have hform : Advanced.fieldForm {} facts = .nested (.ofKind .array) := rfl
  have hne : fields ≠ [] := by simp [fields]
  have hinner : Basic.StandsWithin (.object fields ["x"]) 1
      [.null, .array [.object fields ["x"]]] :=
    .items (List.mem_cons_of_mem _ List.mem_cons_self) (.here List.mem_cons_self)
  have hstands : Basic.StandsWithin (.object fields ["x"]) 2
      [.string, .array [.null, .array [.object fields ["x"]]]] :=
    .items (List.mem_cons_of_mem _ List.mem_cons_self) hinner
  obtain ⟨-, hadvanced, hbasic, hmixed⟩ := item_names_ignore_depth "boxes"
  have htype := congrArg Prod.fst (hadvanced {} facts _ nested { names := ["Box"] } hform 1)
  have hreferences := congrArg Basic.Written.references (hbasic fields ["x"] {} hne 1)
  have hdeclares := hmixed fields ["x"] _ {} hne 1 hstands
  rw [hbase] at htype hdeclares
  exact ⟨htype.trans (by decide), hreferences.trans (by decide), hdeclares⟩

end TypeDraft.TypeScript
