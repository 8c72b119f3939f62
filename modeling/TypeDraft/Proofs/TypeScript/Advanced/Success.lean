import TypeDraft.Proofs.TypeScript.Advanced.Fields

/-!
# What can be analyzed can be written

Analysis opens more steps for each array and object than writing does, and an enumeration that it
notes has strings only.
-/

namespace TypeDraft.TypeScript.Advanced

open Schema (objects keys mergedField present shaped ofSamples ofAll? gatheredItems failure?)

theorem failure?_array {budget : Nat} {v : Value} (hv : v.kind = .array) {vs : List Value}
    (h : failure? budget v vs = none) :
    analysisCost.array ≤ budget ∧ ∀ w ws, gatheredItems (v :: vs) = w :: ws →
      failure? (budget - analysisCost.array) w ws = none := by
  rw [failure?, if_pos hv] at h
  by_cases hbudget : budget < analysisCost.array
  · rw [if_pos hbudget] at h
    cases h
  · rw [if_neg hbudget] at h
    refine ⟨Nat.le_of_not_lt hbudget, fun w ws hitems => ?_⟩
    have hitems : v.items ++ vs.flatMap Value.items = w :: ws := hitems
    rwa [hitems] at h

theorem failure?_object {budget : Nat} {v : Value} (hv : v.fields?.isSome) {vs : List Value}
    (h : failure? budget v vs = none) :
    analysisCost.object ≤ budget ∧ ∀ key ∈ keys (objects (v :: vs)), ∀ w ws,
      shaped (present key (objects (v :: vs))) = w :: ws →
      failure? (budget - analysisCost.object) w ws = none := by
  have hkind : v.kind ≠ .array := by
    rw [Schema.kind_eq_object_iff.mpr hv]
    exact nofun
  rw [failure?, if_neg hkind, if_pos hv] at h
  by_cases hbudget : budget < analysisCost.object
  · rw [if_pos hbudget] at h
    cases h
  · rw [if_neg hbudget] at h
    refine ⟨Nat.le_of_not_lt hbudget, fun key hkey w ws hshaped => ?_⟩
    have hfield := List.findSome?_eq_none_iff.mp h key hkey
    simp only [hshaped] at hfield
    split at hfield
    · cases hfield
    · rename_i heq
      cases heq
    · rename_i heq
      cases heq
      exact hfield

theorem findSome?_distinct_eq_none {objects : List (List (String × Value))} {key : String}
    (h : (mergedField objects key).2.1.isEnum = true) :
    ((mergedField objects key).2.1.distinct.findSome? fun (v : Value) =>
      match v with
      | .str _ => none
      | v => some (DraftError.enumValue v.sort)) = none := by
  have hd := Schema.describes_mergedField objects key
  obtain ⟨strings, hstrings, -⟩ := hd.isEnum.mp h
  exact findSome?_distinct_of_strings (hd.values.trans hstrings)

theorem firstFieldError?_eq_none {o : Options} {budget : Nat}
    {objects : List (List (String × Value))} {ks : List String}
    (h : ∀ key ∈ ks, firstNestedError? o budget (mergedField objects key).2.2 = none) :
    firstFieldError? o budget (ks.map (mergedField objects)) = none := by
  induction ks with
  | nil => rfl
  | cons key ks ih =>
      have hrest := ih fun k hk => h k (List.mem_cons_of_mem key hk)
      have hkey := h key List.mem_cons_self
      rw [List.map_cons, mergedField, firstFieldError?, hrest, Option.or_none]
      rcases fieldForm_cases o (mergedField objects key).2.1 with ⟨henum, hform⟩ | ⟨-, hform⟩ |
        ⟨p, -, hform⟩ | ⟨-, hform⟩ <;> rw [mergedField] at hform <;> rw [hform]
      · exact findSome?_distinct_eq_none henum
      · exact hkey

/-- No error is met in writing the schema of samples in whose analysis none was met. -/
theorem firstError?_eq_none {o : Options} {budget budget' : Nat} (hle : budget ≤ budget')
    {v : Value} {vs : List Value} (h : failure? budget v vs = none) :
    firstError? o budget' (ofSamples v vs) = none := by
  induction budget using Nat.strongRecOn generalizing budget' v vs with
  | _ budget ih =>
      by_cases harray : v.kind = .array
      · obtain ⟨hbudget, hitems⟩ := failure?_array harray h
        simp only [analysisCost] at hbudget hitems
        rw [Schema.ofSamples_array harray]
        cases heq : gatheredItems (v :: vs) with
        | nil => rfl
        | cons w ws =>
            rw [ofAll?, firstError?, if_neg (by omega)]
            exact ih (budget - 2) (by omega) (by omega) (hitems w ws heq)
      by_cases hobject : v.fields?.isSome
      · obtain ⟨hbudget, hfields⟩ := failure?_object hobject h
        simp only [analysisCost] at hbudget hfields
        rw [Schema.ofSamples_object hobject, firstError?, if_neg (by omega)]
        refine firstFieldError?_eq_none fun key hkey => ?_
        rw [mergedField]
        cases heq : shaped (present key (objects (v :: vs))) with
        | nil => rfl
        | cons w ws => exact ih (budget - 5) (by omega) (by omega) (hfields key hkey w ws heq)
      · rw [Schema.ofSamples_scalar harray (by simpa using hobject)]
        cases v.kind <;> rfl

/-- Whatever has been analyzed is written, one declaration after the other. -/
theorem draft_of_analyze {primary : Value} {extras : List Value} {s : Schema}
    (h : analyze primary extras = .ok s) (style : Style) (o : Options) (name : String) :
    draft style o name s =
      .ok ("\n\n".intercalate ((declarations o name s).map (Declaration.text style))) := by
  have hfailure : failure? openSteps primary extras = none := by
    rw [analyze] at h
    split at h
    · cases h
    · assumption
  have herror : firstError? o openSteps s = none := by
    rw [Schema.eq_ofSamples_of_analyze h]
    exact firstError?_eq_none (Nat.le_refl openSteps) hfailure
  rw [draft, herror]
  rfl

end TypeDraft.TypeScript.Advanced
