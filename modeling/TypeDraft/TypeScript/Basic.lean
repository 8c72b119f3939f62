import TypeDraft.Name.Fresh
import TypeDraft.Output.DraftError
import TypeDraft.Shape.Basic
import TypeDraft.TypeScript.Declaration
import TypeDraft.Value.Nesting

/-!
# Declarations for a single sample

The shape of the sample is declared under the root name, and every object in it that has fields
under a name of its own. Objects that look alike share a declaration, and declarations follow in
the order in which they are first referred to.
-/

namespace TypeDraft.TypeScript.Basic

/-- A type as the texts between its bars. A bar within parentheses divides it too. -/
abbrev Parts := List String

def Parts.text (t : Parts) : String := " | ".intercalate t

/-- An array of some type; what holds a bar is put in parentheses. -/
def arrayOf : Parts → Parts
  | [] => ["[]"]
  | [t] => [t ++ "[]"]
  | t :: ts => ("(" ++ t) :: ts.dropLast ++ [ts.getLastD "" ++ ")[]"]

/-- The union of some types: every part once, and null behind the others. -/
def unionOf (ts : List Parts) : Parts :=
  let parts := ts.flatten.eraseDups
  parts.filter (· ≠ "null") ++ parts.filter (· = "null")

def openObject : String := "\x7b [key: string]: any \x7d"

/-- The type of a sort of value that is known by the name of its sort. -/
def plainType : String → String
  | "string" => "string"
  | "integer" | "number" => "number"
  | "boolean" => "boolean"
  | "null" => "null"
  | "object" => openObject
  | "array" => "any[]"
  | _ => "any"

/-- The type of a place, from the types of its alternatives that have items or fields. -/
def assemble (s : Shape) (detailed : List Parts) : Parts :=
  let plain : List Parts :=
    match s.plainNames.map plainType with
    | [] => []
    | [t] => [[t]]
    | ts => [unionOf (ts.map fun t => [t])]
  match plain ++ detailed with
  | [] => ["any"]
  | [t] => t
  | ts => unionOf ts

structure Field where
  key : String
  isOptional : Bool
  type : Parts
  deriving DecidableEq

/-- A declared object type, with the names that its fields refer to. -/
structure Definition where
  name : String
  fields : List Field
  references : List String
  deriving DecidableEq

/-- What has been declared so far, and the names that are taken. -/
structure Drafting where
  definitions : List Definition := []
  taken : List String := []

/-- Declares an object type under a name made from the one given, unless one that looks the same
is there; the name that it has is returned. -/
def Drafting.declare (d : Drafting) (name : String) (fields : List Field)
    (references : List String) : String × Drafting :=
  match d.definitions.find? (·.fields = fields) with
  | some same => (same.name, d)
  | none =>
    let name := Name.unique name d.taken
    (name, ⟨d.definitions ++ [⟨name, fields, references⟩], name :: d.taken⟩)

/-- Something written, the names that it refers to in order, and what has been declared. -/
structure Written (α : Type) where
  value : α
  references : List String
  drafting : Drafting

mutual

/-- The type of an alternative that has items or fields; `context` is the name that it goes by. -/
def typeOf? (context : String) : Alternative → Drafting → Option (Written Parts)
  | .array items, d =>
    if items.isEmpty then none
    else
      let w := typesOf (Name.singularize context) items d
      some { w with value := arrayOf (assemble items w.value) }
  | .object fields required, d =>
    if fields.isEmpty then none
    else
      let w := fieldsOf required fields d
      let (name, d) := w.drafting.declare (Name.pascalCase context) w.value w.references
      some ⟨[name], [name], d⟩
  | _, _ => none
termination_by structural a => a

def typesOf (context : String) : List Alternative → Drafting → Written (List Parts)
  | [], d => ⟨[], [], d⟩
  | a :: s, d =>
    match typeOf? context a d with
    | none => typesOf context s d
    | some t =>
      let w := typesOf context s t.drafting
      ⟨t.value :: w.value, t.references ++ w.references, w.drafting⟩
termination_by structural s => s

def fieldsOf (required : List String) :
    List (String × List Alternative) → Drafting → Written (List Field)
  | [], d => ⟨[], [], d⟩
  | (key, s) :: fields, d =>
    let t := typesOf key s d
    let w := fieldsOf required fields t.drafting
    ⟨⟨key, !required.contains key, assemble s t.value⟩ :: w.value, t.references ++ w.references,
      w.drafting⟩
termination_by structural fields => fields

end

/-! ## Order -/

/-- The number of definitions that are not among some names. -/
def missing (definitions : List Definition) (names : List String) : Nat :=
  (definitions.filter fun d => d.name ∉ names).length

theorem missing_append_lt {definitions : List Definition} {names : List String} {d : Definition}
    (hd : d ∈ definitions) (hn : d.name ∉ names) :
    missing definitions (names ++ [d.name]) < missing definitions names := by
  unfold missing
  induction definitions with
  | nil => simp at hd
  | cons e es ih =>
    have hle : (es.filter fun d' => d'.name ∉ names ++ [d.name]).length ≤
        (es.filter fun d' => d'.name ∉ names).length := by
      rw [← List.countP_eq_length_filter, ← List.countP_eq_length_filter]
      apply List.countP_mono_left
      simp only [List.mem_append, decide_eq_true_eq]
      exact fun x _ h h' => h (Or.inl h')
    rcases List.mem_cons.1 hd with rfl | hd
    · simp [hn] at hle ⊢
      omega
    · have := ih hd
      by_cases he : e.name ∈ names
      · simp only [List.filter_cons, List.mem_append, he] at this ⊢
        simpa using this
      · by_cases hed : e.name = d.name
        · simp [hed, hn] at hle ⊢
          omega
        · simp only [List.filter_cons, List.mem_append, List.mem_singleton, he, hed] at this ⊢
          simpa using this

/-- The definitions that are reached from some names, each where it is first referred to. `found`
holds those that came before. -/
def reached (definitions : List Definition) (found : List String) : List String → List Definition
  | [] => []
  | name :: names =>
    if _hf : name ∈ found then reached definitions found names
    else
      match _hd : definitions.find? (·.name = name) with
      | none => reached definitions found names
      | some d => d :: reached definitions (found ++ [d.name]) (d.references ++ names)
termination_by names => (missing definitions found, names.length)
decreasing_by
  · exact Prod.Lex.right _ (by simp)
  · exact Prod.Lex.right _ (by simp)
  · have hname : d.name = name := by simpa using List.find?_some _hd
    exact Prod.Lex.left _ _ (missing_append_lt (List.mem_of_find?_eq_some _hd) (hname ▸ _hf))

/-! ## Texts -/

def Field.text (f : Field) : String :=
  "    " ++ Name.quoteProperty f.key ++ (if f.isOptional then "?" else "") ++ ": " ++ f.type.text ++ ";"

def Definition.text (style : Style) (d : Definition) : String :=
  let header :=
    match style with
    | .interface => "export interface " ++ d.name ++ " \x7b"
    | .type => "export type " ++ d.name ++ " = \x7b"
  header ++ "\n" ++ "\n".intercalate (d.fields.map Field.text) ++ "\n\x7d"

/-! ## The root -/

/-- The declarations for a sample. The root may be an alias, which comes before the others. -/
structure Module where
  root : Option (String × Parts)
  definitions : List Definition

/-- The declarations for a shape. An object with fields is declared under the root name itself;
anything else is given the root name by an alias. -/
def moduleOf (name : String) (s : Shape) : Module :=
  let d : Drafting := { taken := [name] }
  match s with
  | [.object (field :: fields) required] =>
    let w := fieldsOf required (field :: fields) d
    let root : Definition := ⟨name, w.value, w.references⟩
    ⟨none, reached (root :: w.drafting.definitions) [] [name]⟩
  | s =>
    let w : Written Parts :=
      match s with
      | [.array (item :: items)] =>
        let w := typesOf (name ++ "Element") (item :: items) d
        { w with value := arrayOf (assemble (item :: items) w.value) }
      | s =>
        let w := typesOf name s d
        { w with value := assemble s w.value }
    ⟨some (name, w.value), reached w.drafting.definitions [] w.references⟩

def Module.text (style : Style) (m : Module) : String :=
  let root :=
    match m.root with
    | none => []
    | some (name, type) => ["export type " ++ name ++ " = " ++ type.text ++ ";"]
  "\n\n".intercalate (root ++ m.definitions.map (Definition.text style))

def inferenceCost : NestingCost := ⟨3, 3⟩

def inferShape (v : Value) : Except DraftError Shape :=
  if v.tooDeepFor inferenceCost then .error .inferenceTooDeep
  else
    match Shape.firstShapeless? v with
    | some w => .error (.shapeless w.displayQuoted)
    | none => .ok (.ofValue v)

def draft (style : Style) (name : String) (v : Value) : Except DraftError String :=
  (inferShape v).map fun s => (moduleOf name s).text style

end TypeDraft.TypeScript.Basic
