import TypeDraft.Calendar
import TypeDraft.Number.Double

/-!
# Sample values

A sample is a tree of nulls, booleans, numbers, strings, arrays and objects. The readers of richer
formats also deliver tuples, sets, mappings with keys of any kind, bytes, moments and decimals;
`Value.normalize` brings those into the tree. An object keeps its fields in order and holds each
key once.
-/

namespace TypeDraft

/-- A value as a reader delivers it. The constructors from `tuple` on lie outside the normal tree. -/
inductive Value where
  | null
  | bool (b : Bool)
  | int (n : Int)
  | float (x : Double)
  | str (s : String)
  | arr (items : List Value)
  | obj (fields : List (String × Value))
  | tuple (items : List Value)
  | set (items : List Value)
  | map (entries : List (Value × Value))
  | bytes (bs : List UInt8)
  | moment (m : Moment)
  | decimal (text : String)
  deriving Inhabited

/-- The kinds of value outside the normal tree that analysis refuses. -/
inductive Foreign where
  | tuple | set | bytes | date | time | dateTime | decimal
  deriving DecidableEq

/-- The name of a foreign kind, as it is shown in errors. -/
def Foreign.name : Foreign → String
  | tuple => "tuple"
  | set => "set"
  | bytes => "bytes"
  | date => "date"
  | time => "time"
  | dateTime => "datetime"
  | decimal => "Decimal"

inductive Kind where
  | null | boolean | number | string | object | array
  | foreign (f : Foreign)
  deriving DecidableEq

def Kind.name : Kind → String
  | null => "null"
  | boolean => "boolean"
  | number => "number"
  | string => "string"
  | object => "object"
  | array => "array"
  | foreign f => f.name

def Moment.foreign : Moment → Foreign
  | date _ => .date
  | time _ => .time
  | dateTime .. => .dateTime

namespace Value

def kind : Value → Kind
  | null => .null
  | bool _ => .boolean
  | int _ | float _ => .number
  | str _ => .string
  | arr _ => .array
  | obj _ | map _ => .object
  | tuple _ => .foreign .tuple
  | set _ => .foreign .set
  | bytes _ => .foreign .bytes
  | moment m => .foreign m.foreign
  | decimal _ => .foreign .decimal

/-- Whether a number has no fractional part; `1` and `1.0` both count. -/
def isIntegral : Value → Bool
  | int _ => true
  | float x => x.isIntegral
  | _ => false

/-! ## Equality -/

mutual

/-- Whether two values are the same, number patterns included. -/
def same : Value → Value → Bool
  | null, w => match w with | null => true | _ => false
  | bool b, w => match w with | bool c => b == c | _ => false
  | int m, w => match w with | int n => m == n | _ => false
  | float x, w => match w with | float y => x == y | _ => false
  | str s, w => match w with | str t => s == t | _ => false
  | arr vs, w => match w with | arr ws => sameItems vs ws | _ => false
  | obj vs, w => match w with | obj ws => sameFields vs ws | _ => false
  | tuple vs, w => match w with | tuple ws => sameItems vs ws | _ => false
  | set vs, w => match w with | set ws => sameItems vs ws | _ => false
  | map vs, w => match w with | map ws => sameEntries vs ws | _ => false
  | bytes s, w => match w with | bytes t => s == t | _ => false
  | moment m, w => match w with | moment n => m == n | _ => false
  | decimal s, w => match w with | decimal t => s == t | _ => false
termination_by structural v => v

def sameItems : List Value → List Value → Bool
  | [], ws => ws.isEmpty
  | v :: vs, ws => match ws with | [] => false | w :: ws => same v w && sameItems vs ws
termination_by structural vs => vs

def sameFields : List (String × Value) → List (String × Value) → Bool
  | [], ws => ws.isEmpty
  | (k, v) :: vs, ws =>
    match ws with
    | [] => false
    | (l, w) :: ws => k == l && same v w && sameFields vs ws
termination_by structural vs => vs

def sameEntries : List (Value × Value) → List (Value × Value) → Bool
  | [], ws => ws.isEmpty
  | (k, v) :: vs, ws =>
    match ws with
    | [] => false
    | (l, w) :: ws => same k l && same v w && sameEntries vs ws
termination_by structural vs => vs

end

mutual

theorem same_iff : (v w : Value) → (same v w = true ↔ v = w)
  | null, w => by cases w <;> simp [same]
  | bool b, w => by cases w <;> simp [same]
  | int m, w => by cases w <;> simp [same]
  | float x, w => by cases w <;> simp [same]
  | str s, w => by cases w <;> simp [same]
  | arr vs, w => by cases w <;> simp [same, sameItems_iff vs]
  | obj vs, w => by cases w <;> simp [same, sameFields_iff vs]
  | tuple vs, w => by cases w <;> simp [same, sameItems_iff vs]
  | set vs, w => by cases w <;> simp [same, sameItems_iff vs]
  | map vs, w => by cases w <;> simp [same, sameEntries_iff vs]
  | bytes s, w => by cases w <;> simp [same]
  | moment m, w => by cases w <;> simp [same]
  | decimal s, w => by cases w <;> simp [same]

theorem sameItems_iff : (vs ws : List Value) → (sameItems vs ws = true ↔ vs = ws)
  | [], ws => by cases ws <;> simp [sameItems]
  | v :: vs, ws => by
    cases ws with
    | nil => simp [sameItems]
    | cons w ws => simp [sameItems, same_iff v w, sameItems_iff vs ws]

theorem sameFields_iff : (vs ws : List (String × Value)) → (sameFields vs ws = true ↔ vs = ws)
  | [], ws => by cases ws <;> simp [sameFields]
  | (k, v) :: vs, ws => by
    cases ws with
    | nil => simp [sameFields]
    | cons w ws =>
      obtain ⟨l, w⟩ := w
      simp [sameFields, same_iff v w, sameFields_iff vs ws]

theorem sameEntries_iff : (vs ws : List (Value × Value)) → (sameEntries vs ws = true ↔ vs = ws)
  | [], ws => by cases ws <;> simp [sameEntries]
  | (k, v) :: vs, ws => by
    cases ws with
    | nil => simp [sameEntries]
    | cons w ws =>
      obtain ⟨l, w⟩ := w
      simp [sameEntries, same_iff k l, same_iff v w, sameEntries_iff vs ws]

end

instance : DecidableEq Value := fun v w => decidable_of_iff _ (same_iff v w)

end Value

end TypeDraft
