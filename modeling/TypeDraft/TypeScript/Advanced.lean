import TypeDraft.Output.DraftError
import TypeDraft.Output.Hoisted
import TypeDraft.Output.Options
import TypeDraft.Schema.Basic
import TypeDraft.TypeScript.Declaration
import TypeDraft.Value.Nesting

/-!
# Declarations for a merged schema

The root is declared first. Nested objects and enumerations are hoisted behind it under names made
from the fields that hold them; an object reserves its name before its fields are looked at and is
declared after what they hoist.
-/

namespace TypeDraft.TypeScript.Advanced

/-- What the type of a field is made from. -/
inductive FieldForm where
  | enumeration
  /-- A type that needs no declaration. -/
  | plain (t : TypeExpr)
  /-- The nested schema, or if there is none the type given. -/
  | nested (fallback : TypeExpr)

/-- The facts of a field count in this order: enumeration, union, pattern, nested schema, kind. -/
def fieldForm (o : Options) (facts : Facts) : FieldForm :=
  if o.generateEnums && facts.isEnum then .enumeration
  else if o.detectUnionTypes && facts.isUnion then .plain (.unionOf facts.kinds)
  else
    match if o.detectPatterns then facts.pattern else none with
    | some p => .plain (.annotated p)
    | none => .nested ((facts.kinds.head?.map .ofKind).getD .unknown)

/-- The members of an enumeration, each value with a name of its own. -/
def enumMembers (values : List String) : List (String × String) :=
  values.foldl (fun ms v => ms ++ [(Name.unique (Name.enumMember v) (ms.map Prod.fst), v)]) []

/-- The strings among the different values of a field. -/
def enumValues (facts : Facts) : List String :=
  facts.distinct.filterMap fun v =>
    match v with
    | .str s => some s
    | _ => none

/-- Shapes with more fields than this are left open, if that is wanted. -/
def openThreshold : Nat := 10

def isOpen (o : Options) (fieldCount : Nat) : Bool :=
  o.generateIndexSignatures && openThreshold < fieldCount

def member (o : Options) (key : String) (facts : Facts) (type : TypeExpr) : Member where
  key
  type
  isOptional := o.detectOptionalProperties && facts.isOptional
  isReadonly := o.useReadonly

mutual

/-- The type of a schema that stands under a key or within an array; `context` is the name that it
goes by. -/
def typeOf (o : Options) (context : String) :
    Schema → Hoisted Declaration → TypeExpr × Hoisted Declaration
  | .object fields, h =>
    let (name, h) := h.reserve (Name.pascalCase context)
    let (members, h) := membersOf o fields h
    (.named name, h.add (.shape name members (isOpen o fields.length)))
  | .array none, h => (.array .unknown, h)
  | .array (some items), h =>
    let (item, h) := typeOf o (Name.singularize context) items h
    (.array item, h)
  | .scalar kind, h => (.ofKind kind, h)
  | .unsupported _, h => (.unknown, h)
termination_by structural s => s

/-- The type of a nested schema, or `fallback` if there is none. -/
def nestedTypeOf (o : Options) (context : String) (fallback : TypeExpr) :
    Option Schema → Hoisted Declaration → TypeExpr × Hoisted Declaration
  | none, h => (fallback, h)
  | some s, h => typeOf o context s h
termination_by structural s => s

def membersOf (o : Options) : List (String × Facts × Option Schema) → Hoisted Declaration →
    List Member × Hoisted Declaration
  | [], h => ([], h)
  | (key, facts, nested) :: fields, h =>
    let (type, h) :=
      match fieldForm o facts with
      | .enumeration =>
        let (name, h) := h.reserve (Name.pascalCase key)
        (.named name, h.add (.enum name (enumMembers (enumValues facts))))
      | .plain t => (t, h)
      | .nested fallback => nestedTypeOf o key fallback nested h
    let (members, h) := membersOf o fields h
    (member o key facts type :: members, h)
termination_by structural fields => fields

end

/-- The declaration of the root, with what it hoists. The root has its name for itself. -/
def rootOf (o : Options) (name : String) (s : Schema) : Declaration × Hoisted Declaration :=
  let h : Hoisted Declaration := { names := [name] }
  match s with
  | .object fields =>
    let (members, h) := membersOf o fields h
    (.shape name members (isOpen o fields.length), h)
  | .array none => (.synonym name (.array .unknown), h)
  | .array (some items) =>
    let (item, h) := typeOf o (name ++ "Item") items h
    (.synonym name (.array item), h)
  | .scalar kind => (.synonym name (.ofKind kind), h)
  | .unsupported _ => (.synonym name .unknown, h)

def declarations (o : Options) (name : String) (s : Schema) : List Declaration :=
  let (root, h) := rootOf o name s
  root :: h.definitions

/-! ## Schemas that cannot be written -/

mutual

/-- The first thing that stops a schema from being written, in the order of writing: too many
steps open at once, a node of no known sort, an enumeration of other things than strings. -/
def firstError? (o : Options) : (budget : Nat) → Schema → Option DraftError
  | budget, .object fields =>
    if budget < 3 then some .schemaTooDeep else firstFieldError? o (budget - 3) fields
  | budget, .array (some items) =>
    if budget < 2 then some .schemaTooDeep else firstError? o (budget - 2) items
  | _, .unsupported sort => some (.unsupportedNode sort)
  | _, _ => none
termination_by structural _ s => s

def firstFieldError? (o : Options) :
    (budget : Nat) → List (String × Facts × Option Schema) → Option DraftError
  | _, [] => none
  | budget, (_, facts, nested) :: fields =>
    let own : Option DraftError :=
      match fieldForm o facts with
      | .enumeration =>
        facts.distinct.findSome? fun (v : Value) =>
          match v with
          | .str _ => none
          | v => some (DraftError.enumValue v.sort)
      | .plain _ => none
      | .nested _ => firstNestedError? o budget nested
    own.or (firstFieldError? o budget fields)
termination_by structural _ fields => fields

def firstNestedError? (o : Options) : (budget : Nat) → Option Schema → Option DraftError
  | _, none => none
  | budget, some s => firstError? o budget s
termination_by structural _ s => s

end

def draft (style : Style) (o : Options) (name : String) (s : Schema) : Except DraftError String :=
  match firstError? o openSteps s with
  | some e => .error e
  | none =>
    let (root, h) := rootOf o name s
    .ok (h.render (Declaration.text style) (root.text style))

end TypeDraft.TypeScript.Advanced
