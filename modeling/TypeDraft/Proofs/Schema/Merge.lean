import TypeDraft.Proofs.Value.Fields
import TypeDraft.Schema.Merge

/-!
# Merging one level at a time

The schema of some samples in terms of the schemas of what they hold: the items of all arrays
together, or key by key the values found under it. Analysis succeeds on normal values that do not
nest too deeply.
-/

namespace TypeDraft

namespace Schema

open Value (fields? isNormal isNormal_item isNormal_field kind)

/-- The schema of some samples, the first of them the primary one. -/
def ofAll? : List Value → Option Schema
  | [] => none
  | v :: vs => some (ofSamples v vs)

def gatheredItems (samples : List Value) : List Value := samples.flatMap Value.items

def mergedField (samples : List (List (String × Value))) (key : String) :
    String × Facts × Option Schema :=
  (key, factsOf samples.length (present key samples), ofAll? (shaped (present key samples)))

theorem ofSamples_array {v : Value} (h : v.kind = .array) (vs : List Value) :
    ofSamples v vs = .array (ofAll? (gatheredItems (v :: vs))) := by
  rw [ofSamples, if_pos h, gatheredItems, List.flatMap_cons]
  split <;> rename_i heq <;> simp [heq, ofAll?]

theorem ofSamples_object {v : Value} (h : v.fields?.isSome) (vs : List Value) :
    ofSamples v vs =
      .object ((keys (objects (v :: vs))).map (mergedField (objects (v :: vs)))) := by
  have hk : v.kind ≠ .array := by
    cases v <;> simp [fields?] at h <;> simp [kind]
  rw [ofSamples, if_neg hk, dif_pos h]
  refine congrArg Schema.object (List.map_congr_left fun key _ => ?_)
  simp only [mergedField, Prod.mk.injEq, true_and]
  split <;> rename_i heq <;> simp [heq, ofAll?]

theorem ofSamples_scalar {v : Value} (hk : v.kind ≠ .array) (hf : v.fields? = none)
    (vs : List Value) : ofSamples v vs = .scalar v.kind := by
  rw [ofSamples, if_neg hk, dif_neg (by simp [hf])]

/-! ## What is gathered -/

theorem mem_objects {samples : List Value} {fields : List (String × Value)} :
    fields ∈ objects samples ↔ ∃ v ∈ samples, v.fields? = some fields := List.mem_filterMap

theorem mem_present {samples : List (List (String × Value))} {key : String} {v : Value} :
    v ∈ present key samples ↔ (∃ fields ∈ samples, fields.lookup key = some v) ∧ v.kind ≠ .null := by
  simp [present, List.mem_filterMap]

theorem mem_of_mem_shaped {values : List Value} {v : Value} (h : v ∈ shaped values) :
    v ∈ values := by
  unfold shaped at h
  split at h <;> exact (List.mem_filter.mp h).1

theorem fields?_of_isNormal {v : Value} {fields : List (String × Value)} (hv : v.isNormal)
    (h : v.fields? = some fields) : v = .obj fields := by
  cases v with
  | obj fs => exact congrArg Value.obj (Option.some.inj h)
  | map es => simp [isNormal] at hv
  | _ => simp [fields?] at h

theorem mem_items {v w : Value} (h : w ∈ v.items) : ∃ vs, v = .arr vs ∧ w ∈ vs := by
  cases v with
  | arr vs => exact ⟨vs, rfl, h⟩
  | _ => simp [Value.items] at h

theorem isNormal_of_mem_gatheredItems {samples : List Value} (hn : ∀ v ∈ samples, v.isNormal)
    {v : Value} (hv : v ∈ gatheredItems samples) : v.isNormal := by
  obtain ⟨w, hw, hv⟩ := List.mem_flatMap.mp hv
  obtain ⟨vs, rfl, hvs⟩ := mem_items hv
  exact isNormal_item (hn _ hw) hvs

theorem isNormal_of_mem_present {samples : List Value} (hn : ∀ v ∈ samples, v.isNormal)
    {key : String} {v : Value} (hv : v ∈ present key (objects samples)) : v.isNormal := by
  obtain ⟨⟨fields, hfields, hlookup⟩, -⟩ := mem_present.mp hv
  obtain ⟨w, hw, hf⟩ := mem_objects.mp hfields
  obtain rfl := fields?_of_isNormal (hn w hw) hf
  exact isNormal_field (hn _ hw) (mem_of_lookup hlookup)

/-! ## Samples and further samples -/

theorem gatheredItems_append (samples more : List Value) :
    gatheredItems (samples ++ more) = gatheredItems samples ++ gatheredItems more :=
  List.flatMap_append

theorem objects_append (samples more : List Value) :
    objects (samples ++ more) = objects samples ++ objects more :=
  List.filterMap_append

theorem present_append (key : String) (samples more : List (List (String × Value))) :
    present key (samples ++ more) = present key samples ++ present key more := by
  rw [present, List.filterMap_append, List.filter_append]
  rfl

theorem mem_stringsOf {s : String} {values : List Value} :
    s ∈ stringsOf values ↔ .str s ∈ values := by
  rw [stringsOf, List.mem_filterMap]
  constructor
  · rintro ⟨v, hv, hs⟩
    split at hs
    · rwa [← Option.some.inj hs]
    · cases hs
  · exact fun hs => ⟨.str s, hs, rfl⟩

theorem stringsOf_append (values more : List Value) :
    stringsOf (values ++ more) = stringsOf values ++ stringsOf more :=
  List.filterMap_append

theorem distinctValues_concat (values : List Value) (v : Value) :
    distinctValues (values ++ [v]) =
      if (distinctValues values).any (Value.alike · v) then distinctValues values
      else distinctValues values ++ [v] := by
  rw [distinctValues, List.foldl_append]
  rfl

/-! ## Success -/

/-- Whether a walk for analysis can go through a normal value with some steps left. -/
def Fits (budget : Nat) (v : Value) : Prop :=
  v.isNormal ∧ v.exceeds analysisCost budget = false

theorem exceeds_of_anyExceeds {cost : NestingCost} {budget : Nat} {v : Value} :
    {items : List Value} → Value.anyExceeds cost budget items = false → v ∈ items →
      v.exceeds cost budget = false
  | w :: ws, h, hm => by
    rw [Value.anyExceeds, Bool.or_eq_false_iff] at h
    rcases List.mem_cons.mp hm with rfl | hm
    · exact h.1
    · exact exceeds_of_anyExceeds h.2 hm

theorem exceeds_of_anyFieldExceeds {cost : NestingCost} {budget : Nat} {key : String} {v : Value} :
    {fields : List (String × Value)} → Value.anyFieldExceeds cost budget fields = false →
      (key, v) ∈ fields → v.exceeds cost budget = false
  | (k, w) :: fs, h, hm => by
    rw [Value.anyFieldExceeds, Bool.or_eq_false_iff] at h
    rcases List.mem_cons.mp hm with heq | hm
    · cases heq
      exact h.1
    · exact exceeds_of_anyFieldExceeds h.2 hm

theorem Fits.array_le {budget : Nat} {items : List Value} (h : Fits budget (.arr items)) :
    analysisCost.array ≤ budget := by
  have hx := h.2
  rw [Value.exceeds, Bool.or_eq_false_iff, decide_eq_false_iff_not] at hx
  exact Nat.le_of_not_lt hx.1

theorem Fits.object_le {budget : Nat} {fields : List (String × Value)}
    (h : Fits budget (.obj fields)) : analysisCost.object ≤ budget := by
  have hx := h.2
  rw [Value.exceeds, Bool.or_eq_false_iff, decide_eq_false_iff_not] at hx
  exact Nat.le_of_not_lt hx.1

theorem Fits.item {budget : Nat} {items : List Value} {v : Value} (h : Fits budget (.arr items))
    (hm : v ∈ items) : Fits (budget - analysisCost.array) v := by
  have hx := h.2
  rw [Value.exceeds, Bool.or_eq_false_iff] at hx
  exact ⟨isNormal_item h.1 hm, exceeds_of_anyExceeds hx.2 hm⟩

theorem Fits.field {budget : Nat} {fields : List (String × Value)} {key : String} {v : Value}
    (h : Fits budget (.obj fields)) (hm : (key, v) ∈ fields) :
    Fits (budget - analysisCost.object) v := by
  have hx := h.2
  rw [Value.exceeds, Bool.or_eq_false_iff] at hx
  exact ⟨isNormal_field h.1 hm, exceeds_of_anyFieldExceeds hx.2 hm⟩

theorem fits_of_mem_gatheredItems {budget : Nat} {samples : List Value} {v : Value}
    (h : ∀ w ∈ samples, Fits budget w) (hm : v ∈ gatheredItems samples) :
    Fits (budget - analysisCost.array) v := by
  obtain ⟨w, hw, hv⟩ := List.mem_flatMap.mp hm
  obtain ⟨vs, rfl, hvs⟩ := mem_items hv
  exact (h _ hw).item hvs

theorem fits_of_mem_present {budget : Nat} {samples : List Value} {key : String} {v : Value}
    (h : ∀ w ∈ samples, Fits budget w) (hm : v ∈ present key (objects samples)) :
    Fits (budget - analysisCost.object) v := by
  obtain ⟨⟨fields, hfields, hl⟩, -⟩ := mem_present.mp hm
  obtain ⟨w, hw, hf⟩ := mem_objects.mp hfields
  obtain rfl := fields?_of_isNormal (h w hw).1 hf
  exact (h _ hw).field (mem_of_lookup hl)

theorem foreign?_of_isNormal {v : Value} (h : v.isNormal) : foreign? v = none := by
  cases v <;> simp [foreign?, kind] <;> simp [isNormal] at h

theorem failure?_eq_none (budget : Nat) {v : Value} {vs : List Value}
    (h : ∀ w ∈ v :: vs, Fits budget w) : failure? budget v vs = none := by
  induction budget using Nat.strongRecOn generalizing v vs with
  | _ budget ih =>
      have hv := h v List.mem_cons_self
      rw [failure?]
      by_cases harr : v.kind = .array
      · rw [if_pos harr]
        have hitems : v.items ++ vs.flatMap Value.items = gatheredItems (v :: vs) := rfl
        obtain ⟨items, rfl⟩ : ∃ items, v = .arr items := by
          cases v <;> simp [kind] at harr
          exact ⟨_, rfl⟩
        rw [if_neg (Nat.not_lt.mpr hv.array_le), hitems]
        have hle := hv.array_le
        split
        · rfl
        · rename_i w ws hws
          apply ih _ (by simp only [analysisCost] at hle ⊢; omega)
          intro x hx
          exact fits_of_mem_gatheredItems h (hws ▸ hx)
      · rw [if_neg harr]
        by_cases hobj : v.fields?.isSome
        · rw [if_pos hobj]
          obtain ⟨fields, hfields⟩ := Option.isSome_iff_exists.mp hobj
          obtain rfl := fields?_of_isNormal hv.1 hfields
          rw [if_neg (Nat.not_lt.mpr hv.object_le)]
          have hle := hv.object_le
          refine List.findSome?_eq_none_iff.mpr fun key _ => ?_
          have hforeign : (present key (objects (.obj fields :: vs))).findSome? foreign? = none :=
            List.findSome?_eq_none_iff.mpr fun w hw =>
              foreign?_of_isNormal (fits_of_mem_present h hw).1
          simp only [hforeign]
          split
          · simp_all
          · rfl
          · rename_i w ws _ hws
            apply ih _ (by simp only [analysisCost] at hle ⊢; omega)
            intro x hx
            exact fits_of_mem_present h (mem_of_mem_shaped (hws ▸ hx))
        · rw [if_neg hobj, foreign?_of_isNormal hv.1]
          rfl

theorem analyze_eq_ok {primary : Value} {extras : List Value}
    (hn : ∀ v ∈ primary :: extras, v.isNormal)
    (hd : ∀ v ∈ primary :: extras, v.tooDeepFor analysisCost = false) :
    analyze primary extras = .ok (.ofSamples primary extras) := by
  have hf : failure? openSteps primary extras = none :=
    failure?_eq_none openSteps fun v hv => ⟨hn v hv, hd v hv⟩
  rw [analyze, hf]

theorem eq_ofSamples_of_analyze {primary : Value} {extras : List Value} {s : Schema}
    (h : analyze primary extras = .ok s) : s = .ofSamples primary extras := by
  rw [analyze] at h
  split at h
  · cases h
  · exact (Except.ok.inj h).symm

/-! ## An array by its items -/

/-- What goes well with some steps left goes well with more. -/
theorem failure?_mono {budget budget' : Nat} (hle : budget ≤ budget') {v : Value} {vs : List Value}
    (h : failure? budget v vs = none) : failure? budget' v vs = none := by
  induction budget using Nat.strongRecOn generalizing budget' v vs with
  | _ budget ih =>
      rw [failure?] at h ⊢
      by_cases harray : v.kind = .array
      · rw [if_pos harray] at h ⊢
        by_cases hbudget : budget < analysisCost.array
        · rw [if_pos hbudget] at h
          cases h
        · rw [if_neg hbudget] at h
          rw [if_neg (by omega)]
          simp only [analysisCost] at hbudget h ⊢
          split at h
          · rfl
          · exact ih _ (by omega) (by omega) h
      rw [if_neg harray] at h ⊢
      by_cases hobject : v.fields?.isSome
      · rw [if_pos hobject] at h ⊢
        by_cases hbudget : budget < analysisCost.object
        · rw [if_pos hbudget] at h
          cases h
        · rw [if_neg hbudget] at h
          rw [if_neg (by omega)]
          simp only [analysisCost] at hbudget h ⊢
          refine List.findSome?_eq_none_iff.mpr fun key hkey => ?_
          have hfield := List.findSome?_eq_none_iff.mp h key hkey
          split at hfield
          · cases hfield
          · rfl
          · exact ih _ (by omega) (by omega) hfield
      · rwa [if_neg hobject] at h ⊢

/-- Samples of which an array can be analyzed can be analyzed themselves, and their schema is that
of the items of the array. -/
theorem analyze_items {v : Value} {vs : List Value} {s : Schema}
    (h : analyze (.arr (v :: vs)) [] = .ok s) :
    analyze v vs = .ok (.ofSamples v vs) ∧ s = .array (some (.ofSamples v vs)) := by
  have hs := eq_ofSamples_of_analyze h
  rw [ofSamples_array rfl, gatheredItems, List.flatMap_singleton] at hs
  refine ⟨?_, hs⟩
  have hfailure : failure? openSteps (.arr (v :: vs)) [] = none := by
    rw [analyze] at h
    split at h
    · cases h
    · assumption
  have harray : (Value.arr (v :: vs)).kind = .array := rfl
  rw [failure?, if_pos harray, if_neg (by decide)] at hfailure
  have hitems : failure? (openSteps - analysisCost.array) v vs = none := by
    simpa [Value.items] using hfailure
  rw [analyze, failure?_mono (Nat.sub_le _ _) hitems]

end Schema

end TypeDraft
