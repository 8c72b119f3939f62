import TypeDraft.Schema.Basic
import TypeDraft.Value.Nesting

/-!
# Merging samples into a schema

The first sample fixes whether the schema is an object, an array or a scalar. The others add what
they know where they have the same shape: further fields, gaps, kinds and values.
-/

namespace TypeDraft

namespace Value

def items : Value → List Value
  | arr vs => vs
  | _ => []

def fields? : Value → Option (List (String × Value))
  | obj fs => some fs
  | map es => some (es.map fun e => (e.1.keyText, e.2))
  | _ => none

mutual

/-- How many values there are in a value, itself included; keys do not count. -/
def weight : Value → Nat
  | arr vs => 1 + weights vs
  | obj fs => 1 + fieldWeights fs
  | map es => 1 + entryWeights es
  | _ => 1
termination_by structural v => v

def weights : List Value → Nat
  | [] => 0
  | v :: vs => weight v + weights vs
termination_by structural vs => vs

def fieldWeights : List (String × Value) → Nat
  | [] => 0
  | (_, v) :: fs => weight v + fieldWeights fs
termination_by structural fs => fs

def entryWeights : List (Value × Value) → Nat
  | [] => 0
  | (_, v) :: es => weight v + entryWeights es
termination_by structural es => es

end

theorem weights_append (vs ws : List Value) : weights (vs ++ ws) = weights vs + weights ws := by
  induction vs with
  | nil => simp [weights]
  | cons v vs ih => simp [weights, ih, Nat.add_assoc]

theorem weights_filter_le (p : Value → Bool) (vs : List Value) :
    weights (vs.filter p) ≤ weights vs := by
  induction vs with
  | nil => simp [weights]
  | cons v vs ih => cases h : p v <;> simp [h, weights] <;> omega

theorem weights_items_le (v : Value) : weights v.items ≤ weight v := by
  cases v <;> simp [items, weight, weights]

theorem weights_items_lt {v : Value} (h : v.kind = .array) : weights v.items < weight v := by
  cases v <;> simp [kind] at h
  simp [items, weight]

theorem weights_flatMap_items_le (vs : List Value) :
    weights (vs.flatMap items) ≤ weights vs := by
  induction vs with
  | nil => simp [weights]
  | cons v vs ih =>
    have := weights_items_le v
    simp only [List.flatMap_cons, weights_append, weights]
    omega

theorem fieldWeights_entries (es : List (Value × Value)) :
    fieldWeights (es.map fun e => (e.1.keyText, e.2)) = entryWeights es := by
  induction es with
  | nil => rfl
  | cons e es ih => simp [fieldWeights, entryWeights, ih]

theorem weight_of_fields? {v : Value} {fs : List (String × Value)} (h : v.fields? = some fs) :
    weight v = 1 + fieldWeights fs := by
  cases v <;> simp [fields?] at h <;> subst h <;> simp [weight, fieldWeights_entries]

theorem weight_lookup_le {key : String} {fs : List (String × Value)} {v : Value}
    (h : fs.lookup key = some v) : weight v ≤ fieldWeights fs := by
  induction fs with
  | nil => simp at h
  | cons f fs ih =>
    obtain ⟨k, w⟩ := f
    rw [List.lookup_cons] at h
    simp only [fieldWeights]
    split at h
    · cases h; omega
    · have := ih h; omega

end Value

namespace Schema

open Value (fields? weights weights_filter_le)

/-- The objects among some samples. -/
def objects (samples : List Value) : List (List (String × Value)) := samples.filterMap fields?

/-- The keys of some objects in order of first appearance. -/
def keys (samples : List (List (String × Value))) : List String :=
  (samples.flatMap fun fs => fs.map Prod.fst).eraseDups

/-- The values under a key, leaving out gaps and nulls. -/
def present (key : String) (samples : List (List (String × Value))) : List Value :=
  (samples.filterMap fun fs => fs.lookup key).filter fun v => v.kind ≠ .null

/-- Strings count as an enumeration if there are two to five different ones and fewer than four
fifths of them are first appearances. -/
def isEnumeration (strings : List String) : Bool :=
  let distinct := strings.eraseDups.length
  1 < distinct && distinct ≤ 5 && 5 * distinct < 4 * strings.length

def stringsOf (values : List Value) : List String :=
  values.filterMap fun v =>
    match v with
    | .str s => some s
    | _ => none

/-- The facts of a field that `total` objects may have, `values` being those seen in it. -/
def factsOf (total : Nat) (values : List Value) : Facts :=
  let kinds := (values.map Value.kind).eraseDups
  let strings := if kinds = [.string] then stringsOf values else []
  { isOptional := values.length < total
    isUnion := 1 < kinds.length
    kinds
    values
    pattern := StringPattern.shared? strings
    isEnum := isEnumeration strings }

/-- The values that are merged into the nested schema of a field: its objects, or else its
arrays. -/
def shaped (values : List Value) : List Value :=
  match values.filter fun v => v.kind = .object with
  | [] => values.filter fun v => v.kind = .array
  | objects => objects

theorem weights_shaped_le (values : List Value) : weights (shaped values) ≤ weights values := by
  unfold shaped
  split <;> exact weights_filter_le _ _

theorem weights_present_le (key : String) (samples : List Value) :
    weights (present key (objects samples)) ≤ weights samples := by
  refine Nat.le_trans (weights_filter_le _ _) ?_
  induction samples with
  | nil => simp [objects, weights]
  | cons v vs ih =>
    cases hf : v.fields? with
    | none => simp only [objects, List.filterMap_cons, hf, weights] at ih ⊢; omega
    | some fs =>
      have hw := Value.weight_of_fields? hf
      simp only [objects, List.filterMap_cons, hf, weights] at ih ⊢
      cases hl : fs.lookup key with
      | none => simp only; omega
      | some w =>
        have := Value.weight_lookup_le hl
        simp only [weights]
        omega

theorem weights_shaped_present_lt {v : Value} (hv : v.fields?.isSome) (key : String)
    (vs : List Value) : weights (shaped (present key (objects (v :: vs)))) < weights (v :: vs) := by
  obtain ⟨fs, hf⟩ := Option.isSome_iff_exists.1 hv
  have hw := Value.weight_of_fields? hf
  have hs := weights_shaped_le (present key (objects (v :: vs)))
  have hp : weights (present key (objects (v :: vs))) ≤
      (fs.lookup key).elim 0 Value.weight + weights vs := by
    have hvs := weights_present_le key vs
    simp only [present, objects, List.filterMap_cons, hf] at hvs ⊢
    cases hl : fs.lookup key with
    | none => simpa using hvs
    | some w =>
      by_cases hk : w.kind = .null <;> simp [hk, weights] <;> simp at hvs <;> omega
  cases hl : fs.lookup key with
  | none => simp only [hl, weights, Option.elim_none] at hp ⊢; omega
  | some w =>
    have := Value.weight_lookup_le hl
    simp only [hl, weights, Option.elim_some] at hp ⊢
    omega

/-- The schema of a sample and of further samples of the same entity. -/
def ofSamples (primary : Value) (extras : List Value) : Schema :=
  if primary.kind = .array then
    match _hi : primary.items ++ extras.flatMap Value.items with
    | [] => .array none
    | v :: vs => .array (some (ofSamples v vs))
  else if _ho : primary.fields?.isSome then
    let samples := objects (primary :: extras)
    .object ((keys samples).map fun key =>
      let values := present key samples
      let nested :=
        match _hs : shaped values with
        | [] => none
        | v :: vs => some (ofSamples v vs)
      (key, factsOf samples.length values, nested))
  else .scalar primary.kind
termination_by weights (primary :: extras)
decreasing_by
  · rename_i hk
    have := Value.weights_flatMap_items_le extras
    have := Value.weights_items_lt hk
    have h := congrArg weights _hi
    rw [Value.weights_append] at h
    simp only [weights] at h ⊢
    omega
  · have h := weights_shaped_present_lt _ho key extras
    have hv : shaped (present key (objects (primary :: extras))) = v :: vs := _hs
    rw [hv] at h
    exact h

/-! ## Analysis with its failures -/

end Schema

inductive AnalysisError where
  | unsupported (f : Foreign)
  | tooDeep
  deriving DecidableEq

def AnalysisError.message : AnalysisError → String
  | unsupported f => "Unsupported value of type " ++ f.name
  | tooDeep => "samples are nested too deeply to analyze"

def analysisCost : NestingCost := ⟨2, 5⟩

namespace Schema

def foreign? (v : Value) : Option Foreign :=
  match v.kind with
  | .foreign f => some f
  | _ => none

/-- The first failure that the analysis of some samples meets with `budget` steps left to open.
Only what the schema goes into is looked at: a deep or foreign value elsewhere does no harm. -/
def failure? (budget : Nat) (primary : Value) (extras : List Value) : Option AnalysisError :=
  if primary.kind = .array then
    if budget < analysisCost.array then some .tooDeep
    else
      match primary.items ++ extras.flatMap Value.items with
      | [] => none
      | v :: vs => failure? (budget - analysisCost.array) v vs
  else if primary.fields?.isSome then
    if budget < analysisCost.object then some .tooDeep
    else
      let samples := objects (primary :: extras)
      (keys samples).findSome? fun key =>
        let values := present key samples
        match values.findSome? foreign?, shaped values with
        | some f, _ => some (.unsupported f)
        | none, [] => none
        | none, v :: vs => failure? (budget - analysisCost.object) v vs
  else (foreign? primary).map .unsupported
termination_by budget
decreasing_by all_goals simp only [analysisCost] at *; omega

end Schema

/-- The schema of some samples, unless they nest too deeply or a value outside the normal tree had
to be looked at. -/
def analyze (primary : Value) (extras : List Value) : Except AnalysisError Schema :=
  match Schema.failure? openSteps primary extras with
  | some e => .error e
  | none => .ok (.ofSamples primary extras)

end TypeDraft
