import Mathlib.Order.MinMax
import TypeDraft.Proofs.Value.Fields

/-!
# Normalization

Whatever a reader delivers, its normal tree is normal, and a normal tree is its own normal tree. The
walk to the tree comes to an end just if all keys have texts and the value is not too deep.
-/

namespace TypeDraft

section

variable {α : Type} {key : String} {value : α} {fields acc : List (String × α)}

theorem putField_of_not_mem (h : key ∉ acc.map Prod.fst) :
    putField key value acc = acc ++ [(key, value)] := by
  induction acc with
  | nil => rfl
  | cons f acc ih =>
      rw [List.map_cons, List.mem_cons, not_or] at h
      rw [putField, if_neg (Ne.symm h.1), ih h.2, List.cons_append]

theorem mem_keys_putField {k : String} :
    k ∈ (putField key value acc).map Prod.fst ↔ k = key ∨ k ∈ acc.map Prod.fst := by
  induction acc with
  | nil => simp [putField]
  | cons f acc ih =>
      rw [putField]
      split
      · next heq => simp [← heq]
      · simp only [List.map_cons, List.mem_cons, ih]
        exact or_left_comm

theorem nodup_putField (h : (acc.map Prod.fst).Nodup) :
    ((putField key value acc).map Prod.fst).Nodup := by
  induction acc with
  | nil => simp [putField]
  | cons f acc ih =>
      rw [putField]
      split
      · exact h
      · next hne =>
          rw [List.map_cons, List.nodup_cons] at h ⊢
          refine ⟨fun hmem => ?_, ih h.2⟩
          rcases mem_keys_putField.mp hmem with heq | hmem
          · exact hne heq
          · exact h.1 hmem

theorem nodup_collectFields (fields : List (String × α)) :
    ((collectFields fields).map Prod.fst).Nodup := by
  have hfold : ∀ fields acc : List (String × α), (acc.map Prod.fst).Nodup →
      ((fields.foldl (fun fs f => putField f.1 f.2 fs) acc).map Prod.fst).Nodup := by
    intro fields
    induction fields with
    | nil => exact fun acc h => h
    | cons f fields ih => exact fun acc h => ih _ (nodup_putField h)
  exact hfold fields [] List.nodup_nil

theorem collectFields_of_nodup (h : (fields.map Prod.fst).Nodup) :
    collectFields fields = fields := by
  have hfold : ∀ fields acc : List (String × α), ((acc ++ fields).map Prod.fst).Nodup →
      fields.foldl (fun fs f => putField f.1 f.2 fs) acc = acc ++ fields := by
    intro fields
    induction fields with
    | nil => exact fun acc _ => (List.append_nil acc).symm
    | cons f fields ih =>
        intro acc h
        have hnot : f.1 ∉ acc.map Prod.fst := by
          intro hmem
          rw [List.map_append, List.nodup_append] at h
          exact h.2.2 f.1 hmem f.1 (by simp) rfl
        rw [List.foldl_cons, putField_of_not_mem hnot, ih _ (by simpa using h)]
        simp
  exact hfold fields [] (by simpa using h)

theorem forall_mem_putField {P : α → Prop} (hacc : ∀ f ∈ acc, P f.2) (hvalue : P value) :
    ∀ f ∈ putField key value acc, P f.2 := by
  induction acc with
  | nil => simpa [putField] using hvalue
  | cons f acc ih =>
      rw [List.forall_mem_cons] at hacc
      rw [putField]
      split
      · exact List.forall_mem_cons.mpr ⟨hvalue, hacc.2⟩
      · exact List.forall_mem_cons.mpr ⟨hacc.1, ih hacc.2⟩

/-- What holds of every value put in holds of every value there. -/
theorem forall_mem_collectFields {P : α → Prop} (h : ∀ f ∈ fields, P f.2) :
    ∀ f ∈ collectFields fields, P f.2 := by
  have hfold : ∀ fields acc : List (String × α), (∀ f ∈ fields, P f.2) → (∀ f ∈ acc, P f.2) →
      ∀ f ∈ fields.foldl (fun fs f => putField f.1 f.2 fs) acc, P f.2 := by
    intro fields
    induction fields with
    | nil => exact fun acc _ hacc => hacc
    | cons f fields ih =>
        intro acc hfields hacc
        rw [List.forall_mem_cons] at hfields
        exact ih _ hfields.2 (forall_mem_putField hacc hfields.1)
  exact hfold fields [] h nofun

end

namespace Value

theorem areNormalFields_iff {fields : List (String × Value)} :
    areNormalFields fields = true ↔ ∀ f ∈ fields, f.2.isNormal = true := by
  induction fields with
  | nil => simp [areNormalFields]
  | cons f fields ih => simp [areNormalFields, ih]

theorem areNormal_iff {vs : List Value} : areNormal vs = true ↔ ∀ v ∈ vs, v.isNormal = true := by
  induction vs with
  | nil => simp [areNormal]
  | cons v vs ih => simp [areNormal, ih]

theorem normalizeItems_eq_map (vs : List Value) : normalizeItems vs = vs.map normalize := by
  induction vs with
  | nil => rfl
  | cons v vs ih => rw [normalizeItems, ih, List.map_cons]

mutual

theorem normalize_of_isNormal : (v : Value) → v.isNormal = true → v.normalize = v
  | null, _ | bool _, _ | int _, _ | float _, _ | str _, _ => rfl
  | arr items, h => by rw [normalize, normalizeItems_of_areNormal items h]
  | obj fields, h => by
    rw [isNormal, Bool.and_eq_true] at h
    rw [normalize, normalizeFields_of_areNormal fields h.2,
      collectFields_of_nodup (of_decide_eq_true h.1)]

theorem normalizeItems_of_areNormal : (vs : List Value) → areNormal vs = true →
    normalizeItems vs = vs
  | [], _ => rfl
  | v :: vs, h => by
    rw [areNormal, Bool.and_eq_true] at h
    rw [normalizeItems, normalize_of_isNormal v h.1, normalizeItems_of_areNormal vs h.2]

theorem normalizeFields_of_areNormal : (fs : List (String × Value)) →
    areNormalFields fs = true → normalizeFields fs = fs
  | [], _ => rfl
  | (k, v) :: fs, h => by
    rw [areNormalFields, Bool.and_eq_true] at h
    rw [normalizeFields, normalize_of_isNormal v h.1, normalizeFields_of_areNormal fs h.2]

end

mutual

theorem hasKeyTexts_of_isNormal : (v : Value) → v.isNormal = true → v.hasKeyTexts = true
  | null, _ | bool _, _ | int _, _ | float _, _ | str _, _ => rfl
  | arr items, h => haveKeyTexts_of_areNormal items h
  | obj fields, h => by
    rw [isNormal, Bool.and_eq_true] at h
    exact fieldsHaveKeyTexts_of_areNormal fields h.2

theorem haveKeyTexts_of_areNormal : (vs : List Value) → areNormal vs = true →
    haveKeyTexts vs = true
  | [], _ => rfl
  | v :: vs, h => by
    rw [areNormal, Bool.and_eq_true] at h
    rw [haveKeyTexts, hasKeyTexts_of_isNormal v h.1, haveKeyTexts_of_areNormal vs h.2]
    rfl

theorem fieldsHaveKeyTexts_of_areNormal : (fs : List (String × Value)) →
    areNormalFields fs = true → fieldsHaveKeyTexts fs = true
  | [], _ => rfl
  | (k, v) :: fs, h => by
    rw [areNormalFields, Bool.and_eq_true] at h
    rw [fieldsHaveKeyTexts, hasKeyTexts_of_isNormal v h.1, fieldsHaveKeyTexts_of_areNormal fs h.2]
    rfl

end

mutual

theorem isNormal_normalize : (v : Value) → v.normalize.isNormal = true
  | null | bool _ | int _ | float _ | str _ | bytes _ | moment _ | decimal _ => rfl
  | arr items | tuple items | set items => areNormal_normalizeItems items
  | obj fields => by
    rw [normalize, isNormal, Bool.and_eq_true]
    refine ⟨decide_eq_true (nodup_collectFields _), areNormalFields_iff.mpr ?_⟩
    exact forall_mem_collectFields (P := fun v => isNormal v = true) (isNormal_normalizeFields fields)
  | map entries => by
    rw [normalize, isNormal, Bool.and_eq_true]
    refine ⟨decide_eq_true (nodup_collectFields _), areNormalFields_iff.mpr ?_⟩
    exact forall_mem_collectFields (P := fun v => isNormal v = true) (isNormal_normalizeEntries entries)

theorem areNormal_normalizeItems : (vs : List Value) → areNormal (normalizeItems vs) = true
  | [] => rfl
  | v :: vs => by
    rw [normalizeItems, areNormal, isNormal_normalize v, areNormal_normalizeItems vs]
    rfl

theorem isNormal_normalizeFields : (fs : List (String × Value)) →
    ∀ f ∈ normalizeFields fs, f.2.isNormal = true
  | [] => nofun
  | (k, v) :: fs => by
    rw [normalizeFields, List.forall_mem_cons]
    exact ⟨isNormal_normalize v, isNormal_normalizeFields fs⟩

theorem isNormal_normalizeEntries : (es : List (Value × Value)) →
    ∀ f ∈ normalizeEntries es, f.2.isNormal = true
  | [] => nofun
  | (k, v) :: es => by
    rw [normalizeEntries, List.forall_mem_cons]
    exact ⟨isNormal_normalize v, isNormal_normalizeEntries es⟩

end

/-! ## Depth -/

theorem itemLevels_le_iff {vs : List Value} {n : Nat} :
    itemLevels vs ≤ n ↔ ∀ v ∈ vs, v.levels ≤ n := by
  induction vs with
  | nil => simp [itemLevels]
  | cons v vs ih => rw [itemLevels, Nat.max_le, ih, List.forall_mem_cons]

theorem fieldLevels_le_iff {fields : List (String × Value)} {n : Nat} :
    fieldLevels fields ≤ n ↔ ∀ f ∈ fields, f.2.levels ≤ n := by
  induction fields with
  | nil => simp [fieldLevels]
  | cons f fields ih => rw [fieldLevels, Nat.max_le, ih, List.forall_mem_cons]

theorem fieldLevels_collectFields_le (fields : List (String × Value)) :
    fieldLevels (collectFields fields) ≤ fieldLevels fields :=
  fieldLevels_le_iff.mpr (forall_mem_collectFields (P := fun v => levels v ≤ fieldLevels fields)
    (fieldLevels_le_iff.mp (Nat.le_refl _)))

mutual

/-- A normal tree is no deeper than the value that it is made of. -/
theorem levels_normalize_le : (v : Value) → v.normalize.levels ≤ v.levels
  | null | bool _ | int _ | float _ | str _ | bytes _ | moment _ | decimal _ => Nat.zero_le _
  | arr items | tuple items | set items => Nat.succ_le_succ (itemLevels_normalizeItems_le items)
  | obj fields => Nat.succ_le_succ
    (Nat.le_trans (fieldLevels_collectFields_le _) (fieldLevels_normalizeFields_le fields))
  | map entries => Nat.succ_le_succ
    (Nat.le_trans (fieldLevels_collectFields_le _) (fieldLevels_normalizeEntries_le entries))

theorem itemLevels_normalizeItems_le : (vs : List Value) →
    itemLevels (normalizeItems vs) ≤ itemLevels vs
  | [] => Nat.le_refl _
  | v :: vs => max_le_max (levels_normalize_le v) (itemLevels_normalizeItems_le vs)

theorem fieldLevels_normalizeFields_le : (fs : List (String × Value)) →
    fieldLevels (normalizeFields fs) ≤ fieldLevels fs
  | [] => Nat.le_refl _
  | (_, v) :: fs => max_le_max (levels_normalize_le v) (fieldLevels_normalizeFields_le fs)

theorem fieldLevels_normalizeEntries_le : (es : List (Value × Value)) →
    fieldLevels (normalizeEntries es) ≤ entryLevels es
  | [] => Nat.le_refl _
  | (_, v) :: es => max_le_max (levels_normalize_le v) (fieldLevels_normalizeEntries_le es)

end

/-! ## The walk to the normal tree -/

mutual

theorem normalError?_eq_none_iff : (v : Value) → (depth : Nat) →
    (v.normalError? depth = none ↔ v.hasKeyTexts = true ∧ v.levels ≤ depth)
  | null, _ | bool _, _ | int _, _ | float _, _ | str _, _ | bytes _, _ | moment _, _
  | decimal _, _ => by simp [normalError?, hasKeyTexts, levels]
  | arr items, 0 | tuple items, 0 | set items, 0 | obj items, 0 | map items, 0 => by
    simp [normalError?, levels]
  | arr items, depth + 1 | tuple items, depth + 1 | set items, depth + 1 => by
    rw [normalError?, if_neg depth.succ_ne_zero, hasKeyTexts, levels, Nat.add_le_add_iff_right]
    exact normalItemError?_eq_none_iff items depth
  | obj fields, depth + 1 => by
    rw [normalError?, if_neg depth.succ_ne_zero, hasKeyTexts, levels, Nat.add_le_add_iff_right]
    exact normalFieldError?_eq_none_iff fields depth
  | map entries, depth + 1 => by
    rw [normalError?, if_neg depth.succ_ne_zero, hasKeyTexts, levels, Nat.add_le_add_iff_right]
    exact normalEntryError?_eq_none_iff entries depth

theorem normalItemError?_eq_none_iff : (vs : List Value) → (depth : Nat) →
    (normalItemError? depth vs = none ↔ haveKeyTexts vs = true ∧ itemLevels vs ≤ depth)
  | [], _ => by simp [normalItemError?, haveKeyTexts, itemLevels]
  | v :: vs, depth => by
    rw [normalItemError?, Option.or_eq_none_iff, normalError?_eq_none_iff v depth,
      normalItemError?_eq_none_iff vs depth, haveKeyTexts, Bool.and_eq_true, itemLevels,
      Nat.max_le, and_and_and_comm]

theorem normalFieldError?_eq_none_iff : (fs : List (String × Value)) → (depth : Nat) →
    (normalFieldError? depth fs = none ↔ fieldsHaveKeyTexts fs = true ∧ fieldLevels fs ≤ depth)
  | [], _ => by simp [normalFieldError?, fieldsHaveKeyTexts, fieldLevels]
  | (_, v) :: fs, depth => by
    rw [normalFieldError?, Option.or_eq_none_iff, normalError?_eq_none_iff v depth,
      normalFieldError?_eq_none_iff fs depth, fieldsHaveKeyTexts, Bool.and_eq_true, fieldLevels,
      Nat.max_le, and_and_and_comm]

theorem normalEntryError?_eq_none_iff : (es : List (Value × Value)) → (depth : Nat) →
    (normalEntryError? depth es = none ↔ entriesHaveKeyTexts es = true ∧ entryLevels es ≤ depth)
  | [], _ => by simp [normalEntryError?, entriesHaveKeyTexts, entryLevels]
  | (k, v) :: es, depth => by
    rw [normalEntryError?, entriesHaveKeyTexts, entryLevels]
    cases k.isShown with
    | false => simp
    | true =>
        rw [Bool.not_true, if_neg Bool.false_ne_true, Option.or_eq_none_iff,
          normalError?_eq_none_iff v depth, normalEntryError?_eq_none_iff es depth,
          Bool.true_and, Bool.and_eq_true, Nat.max_le, and_and_and_comm]

end

mutual

/-- Where all keys have texts, nothing but the depth stops the walk. -/
theorem eq_tooDeep_of_normalError? : (v : Value) → (depth : Nat) → v.hasKeyTexts = true →
    ∀ e ∈ v.normalError? depth, e = .tooDeep
  | null, _, _ | bool _, _, _ | int _, _, _ | float _, _, _ | str _, _, _ | bytes _, _, _
  | moment _, _, _ | decimal _, _, _ => nofun
  | arr _, 0, _ | tuple _, 0, _ | set _, 0, _ | obj _, 0, _ | map _, 0, _ => by
    simp [normalError?]
  | arr items, depth + 1, h | tuple items, depth + 1, h | set items, depth + 1, h =>
    eq_tooDeep_of_normalItemError? items depth h
  | obj fields, depth + 1, h => eq_tooDeep_of_normalFieldError? fields depth h
  | map entries, depth + 1, h => eq_tooDeep_of_normalEntryError? entries depth h

theorem eq_tooDeep_of_normalItemError? : (vs : List Value) → (depth : Nat) →
    haveKeyTexts vs = true → ∀ e ∈ normalItemError? depth vs, e = .tooDeep
  | [], _, _ => by simp [normalItemError?]
  | v :: vs, depth, h => by
    rw [haveKeyTexts, Bool.and_eq_true] at h
    intro e he
    rcases Option.or_eq_some_iff.mp he with he | ⟨-, he⟩
    · exact eq_tooDeep_of_normalError? v depth h.1 e he
    · exact eq_tooDeep_of_normalItemError? vs depth h.2 e he

theorem eq_tooDeep_of_normalFieldError? : (fs : List (String × Value)) → (depth : Nat) →
    fieldsHaveKeyTexts fs = true → ∀ e ∈ normalFieldError? depth fs, e = .tooDeep
  | [], _, _ => by simp [normalFieldError?]
  | (_, v) :: fs, depth, h => by
    rw [fieldsHaveKeyTexts, Bool.and_eq_true] at h
    intro e he
    rcases Option.or_eq_some_iff.mp he with he | ⟨-, he⟩
    · exact eq_tooDeep_of_normalError? v depth h.1 e he
    · exact eq_tooDeep_of_normalFieldError? fs depth h.2 e he

theorem eq_tooDeep_of_normalEntryError? : (es : List (Value × Value)) → (depth : Nat) →
    entriesHaveKeyTexts es = true → ∀ e ∈ normalEntryError? depth es, e = .tooDeep
  | [], _, _ => by simp [normalEntryError?]
  | (k, v) :: es, depth, h => by
    rw [entriesHaveKeyTexts, Bool.and_eq_true, Bool.and_eq_true] at h
    intro e he
    rw [normalEntryError?, h.1.1, Bool.not_true, if_neg Bool.false_ne_true] at he
    rcases Option.or_eq_some_iff.mp he with he | ⟨-, he⟩
    · exact eq_tooDeep_of_normalError? v depth h.1.2 e he
    · exact eq_tooDeep_of_normalEntryError? es depth h.2 e he

end

theorem normalTree_eq_ok {v w : Value} : v.normalTree = .ok w ↔
    v.hasKeyTexts = true ∧ v.levels ≤ normalLimit ∧ v.normalize = w := by
  rw [normalTree, ← and_assoc, ← normalError?_eq_none_iff]
  cases v.normalError? normalLimit <;> simp

theorem normalTree_of_deep {v : Value} (hkeys : v.hasKeyTexts = true)
    (hdeep : normalLimit < v.levels) : v.normalTree = .error .tooDeep := by
  rw [normalTree]
  cases herror : v.normalError? normalLimit with
  | none => exact absurd ((normalError?_eq_none_iff v _).mp herror).2 (Nat.not_le_of_lt hdeep)
  | some e => rw [eq_tooDeep_of_normalError? v normalLimit hkeys e herror]

/-- A normal value is reached as it is unless it is too deep. -/
theorem normalTree_of_isNormal {v : Value} (h : v.isNormal = true) :
    v.normalTree = if v.levels ≤ normalLimit then .ok v else .error .tooDeep := by
  have hkeys := hasKeyTexts_of_isNormal v h
  split
  · next hle => exact normalTree_eq_ok.mpr ⟨hkeys, hle, normalize_of_isNormal v h⟩
  · next hlt => exact normalTree_of_deep hkeys (Nat.lt_of_not_le hlt)

end Value

end TypeDraft
