import TypeDraft.Number.Numeral
import TypeDraft.Text.Utf8
import TypeDraft.Value.Alike
import TypeDraft.Value.Display
import TypeDraft.Value.Nesting

/-!
# The normal tree

`normalize` turns whatever a reader delivers into nulls, booleans, numbers, strings, arrays and
objects: moments and decimals become their texts, tuples and sets become arrays, and keys of any
kind become strings. The walk to that tree can fail: a key may have no text, and the collections may
stand too deeply in one another.
-/

namespace TypeDraft

/-- Sets a field: a key that is there keeps its place and takes the new value. -/
def putField {α : Type} (key : String) (value : α) : List (String × α) → List (String × α)
  | [] => [(key, value)]
  | (k, v) :: fields =>
    if k = key then (k, value) :: fields else (k, v) :: putField key value fields

/-- The fields in order of first appearance, each with its last value. -/
def collectFields {α : Type} (fields : List (String × α)) : List (String × α) :=
  fields.foldl (fun fs f => putField f.1 f.2 fs) []

namespace Value

def keyText : Value → String
  | null => "null"
  | bool b => if b then "true" else "false"
  | moment m => m.iso "T"
  | v => v.display

/-- Sets an entry of a mapping: a key that is there keeps its place and its form. -/
def putEntry {α : Type} (key : Value) (value : α) : List (Value × α) → List (Value × α)
  | [] => [(key, value)]
  | (k, v) :: entries =>
    if k.alike key then (k, value) :: entries else (k, v) :: putEntry key value entries

/-- The entries in order of first appearance, each with its last value. -/
def collectEntries {α : Type} (entries : List (Value × α)) : List (Value × α) :=
  entries.foldl (fun es e => putEntry e.1 e.2 es) []

def field? : Value × Value → Option (String × Value)
  | (str k, v) => some (k, v)
  | _ => none

/-- A mapping with given entries, which hold no key twice; it is an object when every key is a
string. -/
def ofDistinct (entries : List (Value × Value)) : Value :=
  match entries.mapM field? with
  | some fields => obj fields
  | none => map entries

def ofEntries (entries : List (Value × Value)) : Value := ofDistinct (collectEntries entries)

mutual

def normalize : Value → Value
  | null => null
  | bool b => bool b
  | int n => int n
  | float x => float x
  | str s => str s
  | arr items | tuple items | set items => arr (normalizeItems items)
  | obj fields => obj (collectFields (normalizeFields fields))
  | map entries => obj (collectFields (normalizeEntries entries))
  | bytes bs => str (Text.decodeReplacing bs)
  | moment m => str (m.iso "T")
  | decimal text => str text
termination_by structural v => v

def normalizeItems : List Value → List Value
  | [] => []
  | v :: vs => normalize v :: normalizeItems vs
termination_by structural vs => vs

def normalizeFields : List (String × Value) → List (String × Value)
  | [] => []
  | (k, v) :: fs => (k, normalize v) :: normalizeFields fs
termination_by structural fs => fs

def normalizeEntries : List (Value × Value) → List (String × Value)
  | [] => []
  | (k, v) :: es => (k.keyText, normalize v) :: normalizeEntries es
termination_by structural es => es

end

/-- Whether an integer has a text: it has at most as many digits as one that is read may have. -/
def isShort (n : Int) : Bool := n.natAbs.log2 < 14284 || n.natAbs < Nat.pow 10 Numeral.maxDigits

mutual

def isShown : Value → Bool
  | int n => isShort n
  | arr items | tuple items | set items => areShown items
  | obj fields => areShownFields fields
  | map entries => areShownEntries entries
  | _ => true
termination_by structural v => v

def areShown : List Value → Bool
  | [] => true
  | v :: vs => isShown v && areShown vs
termination_by structural vs => vs

def areShownFields : List (String × Value) → Bool
  | [] => true
  | (_, v) :: fs => isShown v && areShownFields fs
termination_by structural fs => fs

def areShownEntries : List (Value × Value) → Bool
  | [] => true
  | (k, v) :: es => isShown k && isShown v && areShownEntries es
termination_by structural es => es

end

mutual

/-- Whether every key in a value has a text, so that the value has a normal tree. -/
def hasKeyTexts : Value → Bool
  | arr items | tuple items | set items => haveKeyTexts items
  | obj fields => fieldsHaveKeyTexts fields
  | map entries => entriesHaveKeyTexts entries
  | _ => true
termination_by structural v => v

def haveKeyTexts : List Value → Bool
  | [] => true
  | v :: vs => hasKeyTexts v && haveKeyTexts vs
termination_by structural vs => vs

def fieldsHaveKeyTexts : List (String × Value) → Bool
  | [] => true
  | (_, v) :: fs => hasKeyTexts v && fieldsHaveKeyTexts fs
termination_by structural fs => fs

def entriesHaveKeyTexts : List (Value × Value) → Bool
  | [] => true
  | (k, v) :: es => isShown k && hasKeyTexts v && entriesHaveKeyTexts es
termination_by structural es => es

end

/-- Why a value has no normal tree, or none that is reached. -/
inductive NormalError where
  /-- A key is an integer that has no text. -/
  | keyTooLong
  | tooDeep
  deriving DecidableEq

def NormalError.message : NormalError → String
  | keyTooLong => Numeral.tooLongToShow
  | tooDeep => tooDeepMessage

/-- How many collections of a value may stand in one another if its normal tree is to be reached.
The walk opens two steps for each of them. -/
def normalLimit : Nat := 494

mutual

/-- The first thing that stops the walk to the normal tree when `depth` more collections may be
entered. The text of a key is made before the value under it is entered. -/
def normalError? : (depth : Nat) → Value → Option NormalError
  | depth, arr items | depth, tuple items | depth, set items =>
    if depth = 0 then some .tooDeep else normalItemError? (depth - 1) items
  | depth, obj fields =>
    if depth = 0 then some .tooDeep else normalFieldError? (depth - 1) fields
  | depth, map entries =>
    if depth = 0 then some .tooDeep else normalEntryError? (depth - 1) entries
  | _, _ => none
termination_by structural _ v => v

def normalItemError? : (depth : Nat) → List Value → Option NormalError
  | _, [] => none
  | depth, v :: vs => (normalError? depth v).or (normalItemError? depth vs)
termination_by structural _ vs => vs

def normalFieldError? : (depth : Nat) → List (String × Value) → Option NormalError
  | _, [] => none
  | depth, (_, v) :: fs => (normalError? depth v).or (normalFieldError? depth fs)
termination_by structural _ fs => fs

def normalEntryError? : (depth : Nat) → List (Value × Value) → Option NormalError
  | _, [] => none
  | depth, (k, v) :: es =>
    if !k.isShown then some .keyTooLong
    else (normalError? depth v).or (normalEntryError? depth es)
termination_by structural _ es => es

end

/-- The normal tree of a value if the walk to it comes to an end. -/
def normalTree (v : Value) : Except NormalError Value :=
  match v.normalError? normalLimit with
  | some e => .error e
  | none => .ok v.normalize

mutual

/-- Whether a value lies in the normal tree, no object holding a key twice. -/
def isNormal : Value → Bool
  | null | bool _ | int _ | float _ | str _ => true
  | arr items => areNormal items
  | obj fields => (fields.map Prod.fst).Nodup && areNormalFields fields
  | _ => false
termination_by structural v => v

def areNormal : List Value → Bool
  | [] => true
  | v :: vs => isNormal v && areNormal vs
termination_by structural vs => vs

def areNormalFields : List (String × Value) → Bool
  | [] => true
  | (_, v) :: fs => isNormal v && areNormalFields fs
termination_by structural fs => fs

end

end Value

end TypeDraft
