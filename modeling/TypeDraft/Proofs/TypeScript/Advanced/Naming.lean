import TypeDraft.Proofs.Name.Origin
import TypeDraft.Proofs.TypeScript.Advanced.Closure

/-!
# Which names are declared

Each hoisted declaration is named after a text: the key of the field that holds it, without the
ending of a plural for each array around it. In order, these texts alone decide which names are
handed out. A date is annotated with the predefined `Date`; no care is taken that the name is left
to it, and it is declared just if a text reads `date`.
-/

namespace TypeDraft.TypeScript.Advanced

open Name (handOut handOut_append SpellsDate)

/-! ## The texts that declarations are named after -/

mutual

/-- The texts that the declarations for a schema are named after, in order, if `context` is what
the schema goes by itself. -/
def namesakes (o : Options) (context : String) : Schema → List String
  | .object fields => context :: fieldNamesakes o fields
  | .array (some items) => namesakes o (Name.singularize context) items
  | _ => []
termination_by structural s => s

def nestedNamesakes (o : Options) (context : String) : Option Schema → List String
  | none => []
  | some s => namesakes o context s
termination_by structural s => s

def fieldNamesakes (o : Options) : List (String × Facts × Option Schema) → List String
  | [] => []
  | (key, facts, nested) :: fields =>
    (match fieldForm o facts with
      | .enumeration => [key]
      | .plain _ => []
      | .nested _ => nestedNamesakes o key nested) ++ fieldNamesakes o fields
termination_by structural fields => fields

end

/-- The texts that the hoisted declarations are named after where the root has a name already. -/
def rootNamesakes (o : Options) (name : String) : Schema → List String
  | .object fields => fieldNamesakes o fields
  | .array (some items) => namesakes o (name ++ "Item") items
  | _ => []

mutual

/-- No name is handed out but for these texts, and they are met in this order. -/
theorem names_typeOf (o : Options) (context : String) :
    (s : Schema) → (h : Hoisted Declaration) →
      (typeOf o context s h).2.names = handOut h.names (namesakes o context s)
  | .object fields, h => names_membersOf o fields (h.reserve (Name.pascalCase context)).2
  | .array none, _ => rfl
  | .array (some items), h => names_typeOf o (Name.singularize context) items h
  | .scalar _, _ => rfl
  | .unsupported _, _ => rfl

theorem names_nestedTypeOf (o : Options) (context : String) (fallback : TypeExpr) :
    (s : Option Schema) → (h : Hoisted Declaration) →
      (nestedTypeOf o context fallback s h).2.names = handOut h.names (nestedNamesakes o context s)
  | none, _ => rfl
  | some s, h => names_typeOf o context s h

theorem names_membersOf (o : Options) :
    (fields : List (String × Facts × Option Schema)) → (h : Hoisted Declaration) →
      (membersOf o fields h).2.names = handOut h.names (fieldNamesakes o fields)
  | [], _ => rfl
  | (key, facts, nested) :: fields, h => by
    rw [membersOf_cons, names_membersOf o fields, fieldNamesakes, handOut_append]
    congr 1
    rw [fieldTypeOf]
    cases fieldForm o facts with
    | enumeration => rfl
    | plain t => rfl
    | nested fallback => exact names_nestedTypeOf o key fallback nested h

end

theorem names_rootOf (o : Options) (name : String) (s : Schema) :
    (rootOf o name s).2.names = handOut [name] (rootNamesakes o name s) := by
  cases s with
  | object fields => exact names_membersOf o fields _
  | array items =>
      cases items with
      | none => rfl
      | some items => exact names_typeOf o (name ++ "Item") items _
  | scalar kind => rfl
  | unsupported sort => rfl

/-- A name that does not end in a digit is declared just if it is the root's or the name that is
made from one of the texts. -/
theorem mem_names_declarations_iff {wanted : String}
    (hend : wanted.toList.getLast?.any Char.isDigit = false) (o : Options) (name : String)
    (s : Schema) : wanted ∈ (declarations o name s).map Declaration.name ↔
      wanted = name ∨ ∃ text ∈ rootNamesakes o name s, Name.pascalCase text = wanted := by
  obtain ⟨handed, hnames, hclosed⟩ := exists_isClosed o name s
  have hdeclared : wanted ∈ (declarations o name s).map Declaration.name ↔
      wanted ∈ handed ++ [name] := by
    rw [declarations, List.map_cons, hclosed.root_name, List.mem_cons, List.mem_append,
      List.mem_singleton, hclosed.handed_perm.mem_iff, or_comm]
  rw [hdeclared, ← hnames, names_rootOf, Name.mem_handOut_iff hend, List.mem_singleton]

/-! ## Dates -/

/-- The texts that are made from the keys of fields. -/
def keyNamesakes (o : Options) : Schema → List String
  | .object fields => fieldNamesakes o fields
  | .array (some items) => keyNamesakes o items
  | _ => []

/-- An array at the root lends its items a name that no ending is cut from. -/
theorem exists_namesake_iff {o : Options} {context : String}
    (hcontext : Name.singularize context = context) {p : String → Prop} (hp : ¬ p context) :
    (s : Schema) → ((∃ text ∈ namesakes o context s, p text) ↔ ∃ text ∈ keyNamesakes o s, p text)
  | .object fields => by
    rw [namesakes, List.exists_mem_cons_iff, or_iff_right hp, keyNamesakes]
  | .array none => Iff.rfl
  | .array (some items) => by
    rw [namesakes, hcontext, keyNamesakes]
    exact exists_namesake_iff hcontext hp items
  | .scalar _ => Iff.rfl
  | .unsupported _ => Iff.rfl

theorem exists_rootNamesake_iff (o : Options) (name : String) (s : Schema) :
    (∃ text ∈ rootNamesakes o name s, SpellsDate text) ↔
      ∃ text ∈ keyNamesakes o s, SpellsDate text := by
  have hitem : (name ++ "Item").toList = name.toList ++ "Item".toList := String.toList_append
  cases s with
  | object fields => rfl
  | array items =>
      cases items with
      | none => rfl
      | some items =>
          apply exists_namesake_iff
          · apply Name.singularize_eq_self
            rw [hitem, List.map_append, List.getLast?_append]
            exact fun h => absurd (Option.some.inj h) (by decide)
          · intro hspells
            have hlast := hspells.getLast?
            rw [hitem, List.filter_append, List.getLast?_append] at hlast
            exact absurd (Option.some.inj hlast) (by decide)
  | scalar kind => rfl
  | unsupported sort => rfl

/-- Whatever the samples and the options, a declaration takes the name of the predefined `Date` just
if it is named after a key that spells `date`; the root may have any other name. -/
theorem date_is_declared_iff {primary : Value} {extras : List Value} {s : Schema}
    (h : analyze primary extras = .ok s) (o : Options) {name : String} (hname : name ≠ "Date")
    (style : Style) :
    draft style o name s =
        .ok ("\n\n".intercalate ((declarations o name s).map (Declaration.text style))) ∧
      ((∃ d ∈ declarations o name s, d.name = "Date") ↔
        ∃ text ∈ keyNamesakes o s, SpellsDate text) := by
  refine ⟨draft_of_analyze h style o name, ?_⟩
  rw [← List.mem_map, mem_names_declarations_iff (by decide), or_iff_right hname.symm,
    ← exists_rootNamesake_iff o name s]
  simp only [Name.pascalCase_eq_date_iff]

/-- An object under a key of two words leaves the name alone. -/
theorem date_is_declared_iff_two_words :
    ∃ s, analyze (.obj [("created", .str "2024-01-15"), ("due_dates", .arr [.obj [("n", .int 1)]])])
        [] = .ok s ∧ ¬ ∃ d ∈ declarations {} "Root" s, d.name = "Date" := by
  let sample : Value :=
    .obj [("created", .str "2024-01-15"), ("due_dates", .arr [.obj [("n", .int 1)]])]
  have hs : analyze sample [] = .ok (.ofSamples sample []) := by
    rw [analyze, show Schema.failure? openSteps sample [] = none by decide +kernel]
  have hroot : "Root" ≠ "Date" := by decide
  refine ⟨_, hs, ?_⟩
  rw [(date_is_declared_iff hs {} hroot .interface).2]
  have hkeys : keyNamesakes {} (.ofSamples sample []) = ["due_date"] := by decide +kernel
  rw [hkeys]
  decide

/-- An object under the key `date` takes the name, and the date annotated beside it means that
object. -/
theorem date_is_declared :
    ∃ s, analyze (.obj [("date", .obj [("a", .int 1)]), ("created", .str "2024-01-15")]) [] = .ok s ∧
      draft .interface {} "Root" s = .ok ("interface Root \x7b\n  readonly date: Date;\n" ++
        "  readonly created: Date | string /* ISO date */;\n\x7d\n\n" ++
        "interface Date \x7b\n  readonly a: number;\n\x7d") ∧
      ∃ d ∈ declarations {} "Root" s, d.name = "Date" := by
  let sample : Value := .obj [("date", .obj [("a", .int 1)]), ("created", .str "2024-01-15")]
  refine ⟨.ofSamples sample [], ?_, ?_, ?_⟩
  · rw [analyze, show Schema.failure? openSteps sample [] = none by decide +kernel]
  · decide +kernel
  · decide +kernel

end TypeDraft.TypeScript.Advanced
