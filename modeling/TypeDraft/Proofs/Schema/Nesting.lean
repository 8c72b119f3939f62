import TypeDraft.Proofs.Schema.Paths

/-!
# How deep a merge goes

What holds of the merge of some samples follows from what holds of the merges one step further in.
Of normal values analysis can only go too deep, and whether it does can be told from the schema.
-/

namespace TypeDraft

namespace Schema

/-! ## Induction over what is merged -/

/-- A merge is looked at from the items or fields on that are gathered for it. -/
@[elab_as_elim]
theorem samples_induction {motive : List Value → Prop} (nil : motive [])
    (array : ∀ v vs, v.kind = .array → motive (gatheredItems (v :: vs)) → motive (v :: vs))
    (object : ∀ v vs, v.kind = .object →
      (∀ key, motive (shaped (present key (objects (v :: vs))))) → motive (v :: vs))
    (scalar : ∀ v vs, v.kind ≠ .array → v.kind ≠ .object → motive (v :: vs))
    (samples : List Value) : motive samples := by
  induction hw : Value.weights samples using Nat.strongRecOn generalizing samples with
  | _ weight ih =>
      subst hw
      cases samples with
      | nil => exact nil
      | cons v vs =>
          by_cases harray : v.kind = .array
          · refine array v vs harray (ih _ ?_ _ rfl)
            have hitems := Value.weights_flatMap_items_le vs
            have hhead := Value.weights_items_lt harray
            rw [gatheredItems, List.flatMap_cons, Value.weights_append, Value.weights]
            omega
          by_cases hobject : v.kind = .object
          · refine object v vs hobject fun key => ih _ ?_ _ rfl
            exact weights_shaped_present_lt (kind_eq_object_iff.mp hobject) key vs
          · exact scalar v vs harray hobject

/-! ## The depth of a schema -/

mutual

/-- Whether analysis would open more steps at once than are left to arrive at a schema. -/
def exceeds : (budget : Nat) → Schema → Bool
  | budget, .array items =>
    budget < analysisCost.array || nestedExceeds (budget - analysisCost.array) items
  | budget, .object fields =>
    budget < analysisCost.object || fieldsExceed (budget - analysisCost.object) fields
  | _, _ => false
termination_by structural _ s => s

def nestedExceeds : (budget : Nat) → Option Schema → Bool
  | _, none => false
  | budget, some s => exceeds budget s
termination_by structural _ s => s

def fieldsExceed : (budget : Nat) → List (String × Facts × Option Schema) → Bool
  | _, [] => false
  | budget, (_, _, nested) :: fields => nestedExceeds budget nested || fieldsExceed budget fields
termination_by structural _ fields => fields

end

theorem fieldsExceed_eq_any (budget : Nat) (fields : List (String × Facts × Option Schema)) :
    fieldsExceed budget fields = fields.any fun field => nestedExceeds budget field.2.2 := by
  induction fields with
  | nil => rfl
  | cons field fields ih => rw [fieldsExceed, ih, List.any_cons]

theorem findSome?_if_some {α β : Type} (p : α → Bool) (b : β) (l : List α) :
    (l.findSome? fun a => if p a then some b else none) = if l.any p then some b else none := by
  induction l with
  | nil => rfl
  | cons a l ih =>
      rw [List.findSome?_cons, List.any_cons, ih]
      cases p a <;> rfl

/-- The first failure in the analysis of some samples, if there are any. -/
def failureOfAll? (budget : Nat) : List Value → Option AnalysisError
  | [] => none
  | v :: vs => failure? budget v vs

theorem failure?_of_array {v : Value} (h : v.kind = .array) (budget : Nat) (vs : List Value) :
    failure? budget v vs = if budget < analysisCost.array then some .tooDeep
      else failureOfAll? (budget - analysisCost.array) (gatheredItems (v :: vs)) := by
  have hitems : v.items ++ vs.flatMap Value.items = gatheredItems (v :: vs) := rfl
  rw [failure?, if_pos h, hitems]
  cases gatheredItems (v :: vs) <;> rfl

theorem failure?_of_object {v : Value} (hv : v.kind = .object) (budget : Nat) {vs : List Value}
    (hn : ∀ w ∈ v :: vs, w.isNormal) :
    failure? budget v vs = if budget < analysisCost.object then some .tooDeep
      else (keys (objects (v :: vs))).findSome? fun key =>
        failureOfAll? (budget - analysisCost.object)
          (shaped (present key (objects (v :: vs)))) := by
  have harray : v.kind ≠ .array := by
    rw [hv]
    exact nofun
  have hforeign : ∀ key, (present key (objects (v :: vs))).findSome? foreign? = none := fun key =>
    List.findSome?_eq_none_iff.mpr fun w hw => foreign?_of_isNormal (isNormal_of_mem_present hn hw)
  rw [failure?, if_neg harray, if_pos (kind_eq_object_iff.mp hv)]
  simp only [hforeign]
  congr 2
  funext key
  cases shaped (present key (objects (v :: vs))) <;> rfl

/-! ## What the analysis of normal values gives -/

theorem failureOfAll?_eq {samples : List Value} (hn : ∀ v ∈ samples, v.isNormal) (budget : Nat) :
    failureOfAll? budget samples =
      if nestedExceeds budget (ofAll? samples) then some .tooDeep else none := by
  induction samples using samples_induction generalizing budget with
  | nil => rfl
  | array v vs hv ih =>
      rw [failureOfAll?, failure?_of_array hv, ofAll?, ofSamples_array hv, nestedExceeds, exceeds,
        ih fun w hw => isNormal_of_mem_gatheredItems hn hw]
      by_cases hbudget : budget < analysisCost.array <;> simp [hbudget]
  | object v vs hv ih =>
      have hfields : ∀ key,
          failureOfAll? (budget - analysisCost.object) (shaped (present key (objects (v :: vs)))) =
            if nestedExceeds (budget - analysisCost.object)
              (mergedField (objects (v :: vs)) key).2.2 then some .tooDeep else none := fun key =>
        ih key (fun w hw => isNormal_of_mem_present hn (mem_of_mem_shaped hw)) _
      rw [failureOfAll?, failure?_of_object hv budget hn, ofAll?,
        ofSamples_object (kind_eq_object_iff.mp hv), nestedExceeds, exceeds, fieldsExceed_eq_any,
        List.any_map]
      simp only [hfields, findSome?_if_some]
      by_cases hbudget : budget < analysisCost.object <;> simp [hbudget, Function.comp_def]
  | scalar v vs harray hobject =>
      have hnone := fields?_of_kind_ne hobject
      rw [failureOfAll?, ofAll?, ofSamples_scalar harray hnone, failure?, if_neg harray,
        if_neg (by simp [hnone]), foreign?_of_isNormal (hn v List.mem_cons_self)]
      rfl

/-- Normal values are analyzed just if their schema is not nested too deeply. -/
theorem analyze_eq {primary : Value} {extras : List Value}
    (hn : ∀ v ∈ primary :: extras, v.isNormal) :
    analyze primary extras =
      if (ofSamples primary extras).exceeds openSteps then .error .tooDeep
      else .ok (ofSamples primary extras) := by
  have hfailure : failure? openSteps primary extras =
      if (ofSamples primary extras).exceeds openSteps then some .tooDeep else none :=
    failureOfAll?_eq hn openSteps
  rw [analyze, hfailure]
  split_ifs <;> rfl

end Schema

end TypeDraft
