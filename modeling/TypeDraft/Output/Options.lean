import TypeDraft.Value.Normal

/-!
# Options of the advanced formats

Six switches. A mapping sets some of them under either of two spellings; values that plainly mean
true or false are taken for it.
-/

namespace TypeDraft

/-- What the advanced formats make of a merged schema. -/
structure Options where
  /-- Mark fields that are missing or null in some sample as optional. -/
  detectOptionalProperties : Bool := true
  /-- Declare enums for a few strings that repeat. -/
  generateEnums : Bool := true
  /-- Write the kinds of a mixed field as a union. -/
  detectUnionTypes : Bool := true
  useReadonly : Bool := true
  /-- Give shapes with many fields an index signature. -/
  generateIndexSignatures : Bool := false
  /-- Remark on strings that share a pattern. -/
  detectPatterns : Bool := true
  deriving DecidableEq, Inhabited

inductive Switch where
  | detectOptionalProperties | generateEnums | detectUnionTypes | useReadonly
  | generateIndexSignatures | detectPatterns
  deriving DecidableEq

namespace Switch

def all : List Switch :=
  [detectOptionalProperties, generateEnums, detectUnionTypes, useReadonly,
    generateIndexSignatures, detectPatterns]

def name : Switch → String
  | detectOptionalProperties => "detect_optional_properties"
  | generateEnums => "generate_enums"
  | detectUnionTypes => "detect_union_types"
  | useReadonly => "use_readonly"
  | generateIndexSignatures => "generate_index_signatures"
  | detectPatterns => "detect_patterns"

def camelName : Switch → String
  | detectOptionalProperties => "detectOptionalProperties"
  | generateEnums => "generateEnums"
  | detectUnionTypes => "detectUnionTypes"
  | useReadonly => "useReadonly"
  | generateIndexSignatures => "generateIndexSignatures"
  | detectPatterns => "detectPatterns"

def ofName? (s : String) : Option Switch := all.find? fun w => w.name == s || w.camelName == s

end Switch

namespace Options

def get (o : Options) : Switch → Bool
  | .detectOptionalProperties => o.detectOptionalProperties
  | .generateEnums => o.generateEnums
  | .detectUnionTypes => o.detectUnionTypes
  | .useReadonly => o.useReadonly
  | .generateIndexSignatures => o.generateIndexSignatures
  | .detectPatterns => o.detectPatterns

def set (o : Options) (w : Switch) (b : Bool) : Options :=
  match w with
  | .detectOptionalProperties => { o with detectOptionalProperties := b }
  | .generateEnums => { o with generateEnums := b }
  | .detectUnionTypes => { o with detectUnionTypes := b }
  | .useReadonly => { o with useReadonly := b }
  | .generateIndexSignatures => { o with generateIndexSignatures := b }
  | .detectPatterns => { o with detectPatterns := b }

@[simp] theorem get_set (o : Options) (w : Switch) (b : Bool) : (o.set w b).get w = b := by
  cases w <;> rfl

theorem get_set_of_ne (o : Options) {w w' : Switch} (b : Bool) (h : w' ≠ w) :
    (o.set w b).get w' = o.get w' := by
  cases w <;> cases w' <;> first | rfl | exact absurd rfl h

def toList (o : Options) : List (String × Bool) := Switch.all.map fun w => (w.name, o.get w)

end Options

/-- Why a value is not a boolean: it looks like one of its sort, or it is of no such sort. -/
inductive BoolFault where
  | unreadable | wrongKind
  deriving DecidableEq

/-- The boolean that a value plainly means: true or false itself, a word for it, one or zero. -/
def asBool (v : Value) : Except BoolFault Bool :=
  let ofInt (n : Int) : Except BoolFault Bool :=
    if n = 0 then .ok false
    else if n = 1 then .ok true
    else if -0x8000000000000000 ≤ n ∧ n < 0x8000000000000000 then .error .unreadable
    else .error .wrongKind
  let ofWord (s : String) : Except BoolFault Bool :=
    let s := s.toLower
    if ["1", "t", "y", "on", "yes", "true"].contains s then .ok true
    else if ["0", "f", "n", "off", "no", "false"].contains s then .ok false
    else .error .unreadable
  let ofDouble (x : Double) : Except BoolFault Bool :=
    let n := x.toRatio.1 / x.toRatio.2
    if x.isIntegral && n ≠ -0x8000000000000000 then ofInt n else .error .wrongKind
  match v with
  | .bool b => .ok b
  | .str s => ofWord s
  | .bytes bs => ofWord (Text.decodeReplacing bs)
  | .int n => ofInt n
  | .float x => ofDouble x
  | .decimal s => ((Decimal.ofText? s).map fun x => ofDouble x.toDouble).getD (.error .wrongKind)
  | _ => .error .wrongKind

inductive OptionsError where
  | unknown (key : String)
  /-- The value is no mapping; it is known by the name of its sort. -/
  | notAMapping (sort : String)
  | invalid (faults : List (Switch × BoolFault))
  deriving DecidableEq

/-- The full name of the sort of a value, where a mapping was wanted. -/
def Value.sort : Value → String
  | null => "NoneType"
  | bool _ => "bool"
  | int _ => "int"
  | float _ => "float"
  | str _ => "str"
  | arr _ => "list"
  | obj _ | map _ => "dict"
  | tuple _ => "tuple"
  | set _ => "set"
  | bytes _ => "bytes"
  | moment m => "datetime." ++ m.foreign.name
  | decimal _ => "decimal.Decimal"

/-- Whether a value counts as nothing: null, false, zero, or empty. -/
def Value.isBlank : Value → Bool
  | null => true
  | bool b => !b
  | int n => n == 0
  | float x => x.eqInt 0
  | str s => s.isEmpty
  | arr vs | tuple vs | set vs => vs.isEmpty
  | obj fs => fs.isEmpty
  | map es => es.isEmpty
  | bytes bs => bs.isEmpty
  | decimal s => (decimal s).ratio?.any fun r => r.1 == 0
  | moment _ => false

namespace Options

/-- The settings of a mapping in order, unless a key names no switch. -/
private def settings : List (Value × Value) → Except OptionsError (List (Switch × Value))
  | [] => .ok []
  | (key, value) :: entries =>
    let switch? :=
      match key with
      | .str s => Switch.ofName? s
      | _ => none
    match switch? with
    | some w => (settings entries).map ((w, value) :: ·)
    | none => .error (.unknown key.display)

/-- The options that a value sets; what it does not mention keeps its default, and of two settings
of one switch the last counts. A value that counts as nothing sets nothing. -/
def ofValue (v : Value) : Except OptionsError Options := do
  if v.isBlank then return {}
  let entries ←
    match v with
    | .obj fields => pure (fields.map fun f => (Value.str f.1, f.2))
    | .map entries => pure entries
    | v => throw (.notAMapping v.sort)
  let given ← settings entries
  let read (w : Switch) : Option (Switch × Except BoolFault Bool) :=
    (given.reverse.lookup w).map fun v => (w, asBool v)
  let results := Switch.all.filterMap read
  let faults := results.filterMap fun r =>
    match r.2 with
    | .error e => some (r.1, e)
    | .ok _ => none
  if faults.isEmpty then
    return results.foldl (fun o r =>
      match r.2 with
      | .ok b => o.set r.1 b
      | .error _ => o) {}
  else throw (.invalid faults)

end Options

end TypeDraft
