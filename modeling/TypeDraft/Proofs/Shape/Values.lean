import TypeDraft.Proofs.FirstSeen
import TypeDraft.Proofs.Schema.Merge
import TypeDraft.Shape.Basic

/-!
# The shape of some values

A shape is grown value by value. What it comes to is said here at once: one alternative for each
kind of value, in order of first appearance, with the shape of all items or of all values under a
key within.
-/

namespace TypeDraft

/-- The kind of the values that an alternative stands for. -/
def Alternative.kind : Alternative → Kind
  | .null => .null
  | .boolean => .boolean
  | .number _ => .number
  | .string => .string
  | .array _ => .array
  | .object .. => .object

namespace Shape

open Schema (objects keys gatheredItems)
open Value (kind)

/-- The shape of some values. -/
def ofAll (vs : List Value) : Shape := addItems vs []

/-- The values under a key, null among them. -/
def under (key : String) (objects : List (List (String × Value))) : List Value :=
  objects.filterMap (List.lookup key)

/-- The keys that all of some objects have, in the order of the first. -/
def required : List (List (String × Value)) → List String
  | [] => []
  | fields :: objects =>
    objects.foldl (fun keys fields => keys.filter (fields.map Prod.fst).contains)
      (fields.map Prod.fst)

def isWhole : Value → Bool
  | .int _ => true
  | _ => false

/-- What stands for the values of one kind among some values. -/
def alternativeFor (vs : List Value) : Kind → Alternative
  | .null => .null
  | .boolean => .boolean
  | .number => .number ((vs.filter (·.kind = .number)).all isWhole)
  | .string => .string
  | .array => .array (ofAll (gatheredItems vs))
  | .object =>
    .object ((keys (objects vs)).map fun key => (key, ofAll (under key (objects vs))))
      (required (objects vs))
  | .foreign _ => .null

theorem addItems_append (vs ws : List Value) (s : Shape) :
    addItems (vs ++ ws) s = addItems ws (addItems vs s) := by
  induction vs generalizing s with
  | nil => rfl
  | cons v vs ih => exact ih (add v s)

theorem ofAll_concat (vs : List Value) (v : Value) : ofAll (vs ++ [v]) = add v (ofAll vs) :=
  addItems_append vs [v] []

theorem ofValue_eq (v : Value) : ofValue v = ofAll [v] := rfl

/-! ## Changing one alternative -/

/-- Changes the first alternative of a kind, or adds one behind the others. -/
def upsert (k : Kind) (new : Alternative) (f : Alternative → Alternative) : Shape → Shape
  | [] => [new]
  | a :: s => if a.kind = k then f a :: s else a :: upsert k new f s

def countNumber (whole : Bool) : Alternative → Alternative
  | .number w => .number (w && whole)
  | a => a

def growArray (addItems : Shape → Shape) : Alternative → Alternative
  | .array items => .array (addItems items)
  | a => a

def growObject (keys : List String) (addFields : List (String × Shape) → List (String × Shape)) :
    Alternative → Alternative
  | .object fields required => .object (addFields fields) (required.filter keys.contains)
  | a => a

theorem addPlain_eq_upsert {isSame : Alternative → Bool} {a : Alternative} {k : Kind}
    (h : ∀ b, isSame b = true ↔ b.kind = k) (s : Shape) :
    addPlain isSame a s = upsert k a id s := by
  induction s with
  | nil => rfl
  | cons b s ih =>
      rw [addPlain] at ih ⊢
      rw [upsert, List.any_cons]
      by_cases hb : b.kind = k
      · rw [if_pos hb, (h b).mpr hb]
        rfl
      · rw [if_neg hb, Bool.eq_false_iff.mpr (mt (h b).mp hb), Bool.false_or, ← ih]
        split <;> rfl

theorem addNumber_eq_upsert (whole : Bool) (s : Shape) :
    addNumber whole s = upsert .number (.number whole) (countNumber whole) s := by
  induction s with
  | nil => rfl
  | cons a s ih => cases a <;> simp [addNumber, upsert, Alternative.kind, countNumber, ih]

theorem addArray_eq_upsert (addItems : Shape → Shape) (s : Shape) :
    addArray addItems s = upsert .array (.array (addItems [])) (growArray addItems) s := by
  induction s with
  | nil => rfl
  | cons a s ih => cases a <;> simp [addArray, upsert, Alternative.kind, growArray, ih]

theorem addObject_eq_upsert (keys : List String)
    (addFields : List (String × Shape) → List (String × Shape)) (s : Shape) :
    addObject keys addFields s =
      upsert .object (.object (addFields []) keys) (growObject keys addFields) s := by
  induction s with
  | nil => rfl
  | cons a s ih => cases a <;> simp [addObject, upsert, Alternative.kind, growObject, ih]

/-- Of alternatives for different kinds, the one for a kind is changed or added. -/
theorem upsert_map {ks : List Kind} (hks : ks.Nodup) {k : Kind} {new : Alternative}
    {f : Alternative → Alternative} {g g' : Kind → Alternative} (hg : ∀ j ∈ ks, (g j).kind = j)
    (hsame : ∀ j, j ≠ k → g' j = g j) (hold : k ∈ ks → g' k = f (g k))
    (hnew : k ∉ ks → g' k = new) :
    upsert k new f (ks.map g) = (if k ∈ ks then ks else ks ++ [k]).map g' := by
  induction ks with
  | nil => rw [if_neg List.not_mem_nil]; exact congrArg (· :: []) (hnew List.not_mem_nil).symm
  | cons j js ih =>
      rw [List.nodup_cons] at hks
      rw [List.map_cons, upsert, hg j List.mem_cons_self]
      by_cases hj : j = k
      · subst hj
        have hrest : js.map g = js.map g' := List.map_congr_left fun i hi =>
          (hsame i fun h => hks.1 (h ▸ hi)).symm
        rw [if_pos rfl, if_pos List.mem_cons_self, List.map_cons, hold List.mem_cons_self, hrest]
      · have hmem : k ∈ j :: js ↔ k ∈ js := by simp [Ne.symm hj]
        have ih := ih hks.2 (fun i hi => hg i (List.mem_cons_of_mem j hi))
          (fun h => hold (hmem.mpr h)) (fun h => hnew (mt hmem.mp h))
        rw [if_neg hj, ih, ← hsame j hj]
        by_cases hk : k ∈ js
        · rw [if_pos hk, if_pos (hmem.mpr hk), List.map_cons]
        · rw [if_neg hk, if_neg (mt hmem.mp hk), List.cons_append, List.map_cons]

/-! ## Fields -/

theorem under_concat (key : String) (objects : List (List (String × Value)))
    (fields : List (String × Value)) :
    under key (objects ++ [fields]) = under key objects ++ (fields.lookup key).toList := by
  rw [under, List.filterMap_append]
  cases h : fields.lookup key <;> simp [under, h]

theorem under_eq_nil {key : String} {objects : List (List (String × Value))}
    (h : key ∉ keys objects) : under key objects = [] := by
  rw [under, List.filterMap_eq_nil_iff]
  intro fields hf
  by_contra hsome
  refine h (List.mem_eraseDups.mpr (List.mem_flatMap.mpr ⟨fields, hf, ?_⟩))
  exact lookup_isSome_iff_mem.mp (Option.isSome_iff_ne_none.mpr hsome)

theorem addField_map {ks : List String} (hks : ks.Nodup) {key : String} {v : Value}
    {g : String → List Value} (hg : key ∉ ks → g key = []) :
    addField key (add v) (ks.map fun k => (k, ofAll (g k))) =
      (if key ∈ ks then ks else ks ++ [key]).map fun k =>
        (k, ofAll (g k ++ if k = key then [v] else [])) := by
  induction ks with
  | nil => simp [addField, hg List.not_mem_nil, ofAll, addItems]
  | cons j js ih =>
      rw [List.nodup_cons] at hks
      rw [List.map_cons, addField]
      by_cases hj : j = key
      · subst hj
        have hrest : (js.map fun k => (k, ofAll (g k))) =
            js.map fun k => (k, ofAll (g k ++ if k = j then [v] else [])) := by
          apply List.map_congr_left
          intro i hi
          rw [if_neg fun (h : i = j) => hks.1 (h ▸ hi), List.append_nil]
        rw [if_pos rfl, if_pos List.mem_cons_self, List.map_cons, if_pos rfl, ofAll_concat, hrest]
      · have hmem : key ∈ j :: js ↔ key ∈ js := by simp [Ne.symm hj]
        rw [if_neg hj, ih hks.2 fun h => hg (mt hmem.mp h)]
        by_cases hk : key ∈ js
        · rw [if_pos hk, if_pos (hmem.mpr hk), List.map_cons, if_neg hj, List.append_nil]
        · rw [if_neg hk, if_neg (mt hmem.mp hk), List.cons_append, List.map_cons, if_neg hj,
            List.append_nil]

/-- The fields of one more object go to the fields of those before. -/
theorem addFields_map {fields : List (String × Value)} (hfields : (fields.map Prod.fst).Nodup)
    {ks : List String} (hks : ks.Nodup) {g : String → List Value} (hg : ∀ k ∉ ks, g k = []) :
    addFields fields (ks.map fun k => (k, ofAll (g k))) =
      (ks ++ fields.map Prod.fst).eraseDups.map fun k =>
        (k, ofAll (g k ++ (fields.lookup k).toList)) := by
  induction fields generalizing ks g with
  | nil => simp [addFields, (eraseDups_eq_self_iff ks).mpr hks]
  | cons f fields ih =>
      obtain ⟨key, v⟩ := f
      rw [List.map_cons, List.nodup_cons] at hfields
      have hkeys : (if key ∈ ks then ks else ks ++ [key]) = (ks ++ [key]).eraseDups := by
        rw [eraseDups_concat, (eraseDups_eq_self_iff ks).mpr hks]
      have hlookup : fields.lookup key = none := by
        rw [← Option.not_isSome_iff_eq_none, lookup_isSome_iff_mem]
        exact hfields.1
      have hg' : ∀ k ∉ (ks ++ [key]).eraseDups, (g k ++ if k = key then [v] else []) = [] := by
        intro k hk
        rw [List.mem_eraseDups, List.mem_append, List.mem_singleton, not_or] at hk
        rw [hg k hk.1, if_neg hk.2, List.append_nil]
      rw [addFields, addField_map hks (hg key), hkeys, ih hfields.2 (nodup_eraseDups _) hg',
        eraseDups_eraseDups_append, List.append_assoc, List.map_cons, List.singleton_append]
      apply List.map_congr_left
      intro k _
      by_cases hk : k = key
      · subst hk
        rw [if_pos rfl, hlookup, List.lookup_cons_self]
        simp
      · have hne : (k == key) = false := by simpa using hk
        rw [if_neg hk, List.lookup_cons, hne, List.append_nil]

/-! ## All values at once -/

theorem kind_alternativeFor {vs : List Value} {k : Kind} (h : ∀ f, k ≠ .foreign f) :
    (alternativeFor vs k).kind = k := by
  cases k with
  | foreign f => exact absurd rfl (h f)
  | _ => rfl

theorem kind_ne_foreign {v : Value} (h : v.isNormal) (f : Foreign) : v.kind ≠ .foreign f := by
  cases v <;> simp [kind] <;> simp [Value.isNormal] at h

theorem gatheredItems_concat (vs : List Value) (v : Value) :
    gatheredItems (vs ++ [v]) = gatheredItems vs ++ v.items := by
  simp [gatheredItems, List.flatMap_append]

theorem objects_concat (vs : List Value) (v : Value) :
    objects (vs ++ [v]) = objects vs ++ v.fields?.toList := by
  rw [objects, List.filterMap_append]
  cases h : v.fields? <;> simp [objects, h]

/-- A value changes the alternative for its own kind alone. -/
theorem alternativeFor_concat_of_ne {vs : List Value} {v : Value} (hv : v.isNormal) {k : Kind}
    (hk : k ≠ v.kind) : alternativeFor (vs ++ [v]) k = alternativeFor vs k := by
  cases k with
  | null | boolean | string | foreign => rfl
  | number =>
      have hfilter : (vs ++ [v]).filter (·.kind = .number) = vs.filter (·.kind = .number) := by
        rw [List.filter_append, List.filter_cons_of_neg (by simpa using Ne.symm hk),
          List.filter_nil, List.append_nil]
      rw [alternativeFor, alternativeFor, hfilter]
  | array =>
      have hitems : v.items = [] := by
        cases v <;> simp [kind] at hk <;> rfl
      rw [alternativeFor, alternativeFor, gatheredItems_concat, hitems, List.append_nil]
  | object =>
      have hfields : v.fields? = none := by
        cases v <;> simp [kind] at hk <;> rfl
      rw [alternativeFor, alternativeFor, objects_concat, hfields, Option.toList_none,
        List.append_nil]

theorem number_concat {vs : List Value} {v : Value} (hv : v.kind = .number) :
    alternativeFor (vs ++ [v]) .number = countNumber (isWhole v) (alternativeFor vs .number) := by
  simp [alternativeFor, countNumber, hv]

theorem number_concat_of_not_mem {vs : List Value} (h : .number ∉ vs.map kind) {v : Value}
    (hv : v.kind = .number) : alternativeFor (vs ++ [v]) .number = .number (isWhole v) := by
  have hfilter : vs.filter (·.kind = .number) = [] := List.filter_eq_nil_iff.mpr fun w hw hk =>
    h (of_decide_eq_true hk ▸ List.mem_map_of_mem hw)
  simp [alternativeFor, hfilter, hv]

theorem keys_concat (objects : List (List (String × Value))) (fields : List (String × Value)) :
    keys (objects ++ [fields]) = (keys objects ++ fields.map Prod.fst).eraseDups := by
  rw [keys, keys, List.flatMap_append, List.flatMap_singleton, eraseDups_eraseDups_append]

theorem required_concat {objects : List (List (String × Value))} (h : objects ≠ [])
    (fields : List (String × Value)) :
    required (objects ++ [fields]) =
      (required objects).filter (fields.map Prod.fst).contains := by
  obtain ⟨first, objects, rfl⟩ := List.exists_cons_of_ne_nil h
  rw [List.cons_append, required, required, List.foldl_append, List.foldl_cons, List.foldl_nil]

theorem fields_concat {objects : List (List (String × Value))} {fields : List (String × Value)}
    (hfields : (fields.map Prod.fst).Nodup) :
    addFields fields ((keys objects).map fun key => (key, ofAll (under key objects))) =
      (keys (objects ++ [fields])).map fun key =>
        (key, ofAll (under key (objects ++ [fields]))) := by
  have hkeys : (keys objects).Nodup := nodup_eraseDups _
  rw [addFields_map hfields hkeys fun k hk => under_eq_nil hk, keys_concat]
  apply List.map_congr_left
  intro k _
  rw [under_concat]

theorem gatheredItems_eq_nil {vs : List Value} (h : .array ∉ vs.map kind) :
    gatheredItems vs = [] := by
  apply List.flatMap_eq_nil_iff.mpr
  intro v hv
  have hk : v.kind ≠ .array := fun hk => h (hk ▸ List.mem_map_of_mem hv)
  cases v <;> simp [kind] at hk <;> rfl

theorem objects_eq_nil_iff {vs : List Value} : objects vs = [] ↔ .object ∉ vs.map kind := by
  rw [objects, List.filterMap_eq_nil_iff, List.mem_map, not_exists]
  apply forall_congr'
  intro v
  cases v <;> simp [Value.fields?, kind]

/-- One more value changes the alternative for its kind, or adds it. -/
theorem upsert_alternatives {vs : List Value} {v : Value} (hvs : ∀ w ∈ vs, w.isNormal)
    (hv : v.isNormal) (new : Alternative) (f : Alternative → Alternative)
    (hold : v.kind ∈ vs.map kind →
      alternativeFor (vs ++ [v]) v.kind = f (alternativeFor vs v.kind))
    (hnew : v.kind ∉ vs.map kind → alternativeFor (vs ++ [v]) v.kind = new) :
    upsert v.kind new f ((vs.map kind).eraseDups.map (alternativeFor vs)) =
      ((vs ++ [v]).map kind).eraseDups.map (alternativeFor (vs ++ [v])) := by
  have hkinds : ∀ k ∈ (vs.map kind).eraseDups, (alternativeFor vs k).kind = k := by
    intro k hk
    obtain ⟨w, hw, rfl⟩ := List.mem_map.mp (List.mem_eraseDups.mp hk)
    exact kind_alternativeFor (kind_ne_foreign (hvs w hw))
  have hmem : v.kind ∈ (vs.map kind).eraseDups ↔ v.kind ∈ vs.map kind := List.mem_eraseDups
  rw [List.map_append, List.map_singleton, eraseDups_concat,
    upsert_map (nodup_eraseDups _) hkinds (fun j hj => alternativeFor_concat_of_ne hv hj)
      (fun hk => hold (hmem.mp hk)) (fun hk => hnew (mt hmem.mpr hk))]
  simp only [hmem]

/-- The shape of normal values: one alternative for each of their kinds. -/
theorem ofAll_eq {vs : List Value} (h : ∀ v ∈ vs, v.isNormal) :
    ofAll vs = (vs.map kind).eraseDups.map (alternativeFor vs) := by
  induction vs using List.reverseRecOn with
  | nil => rfl
  | append_singleton vs v ih =>
      have hvs : ∀ w ∈ vs, w.isNormal := fun w hw => h w (List.mem_append_left _ hw)
      have hv : v.isNormal := h v (List.mem_append_right _ List.mem_cons_self)
      have hupsert := upsert_alternatives hvs hv
      rw [← ih hvs] at hupsert
      rw [ofAll_concat]
      cases v with
      | null =>
          have hadd : add .null (ofAll vs) = upsert .null .null id (ofAll vs) :=
            addPlain_eq_upsert (fun a => by cases a <;> simp [Alternative.kind]) _
          exact hadd.trans (hupsert .null id (fun _ => rfl) (fun _ => rfl))
      | bool b =>
          have hadd : add (.bool b) (ofAll vs) = upsert .boolean .boolean id (ofAll vs) :=
            addPlain_eq_upsert (fun a => by cases a <;> simp [Alternative.kind]) _
          exact hadd.trans (hupsert .boolean id (fun _ => rfl) (fun _ => rfl))
      | str t =>
          have hadd : add (.str t) (ofAll vs) = upsert .string .string id (ofAll vs) :=
            addPlain_eq_upsert (fun a => by cases a <;> simp [Alternative.kind]) _
          exact hadd.trans (hupsert .string id (fun _ => rfl) (fun _ => rfl))
      | int n =>
          rw [add, addNumber_eq_upsert]
          exact hupsert _ _ (fun _ => number_concat rfl) (fun hk => number_concat_of_not_mem hk rfl)
      | float x =>
          rw [add, addNumber_eq_upsert]
          exact hupsert _ _ (fun _ => number_concat rfl) (fun hk => number_concat_of_not_mem hk rfl)
      | arr items =>
          rw [add, addArray_eq_upsert]
          refine hupsert _ _ (fun _ => ?_) (fun hk => ?_) <;>
            simp only [kind, alternativeFor, gatheredItems_concat, Value.items, growArray]
          · rw [ofAll, addItems_append, ← ofAll]
          · rw [gatheredItems_eq_nil hk, List.nil_append, ofAll]
      | obj fields =>
          have hfields := Value.nodup_keys hv
          rw [add, addObject_eq_upsert]
          refine hupsert _ _ (fun hk => ?_) (fun hk => ?_) <;>
            simp only [kind, alternativeFor, objects_concat, Value.fields?, Option.toList_some,
              growObject]
          · have hne : objects vs ≠ [] := fun hnil => objects_eq_nil_iff.mp hnil hk
            rw [required_concat hne, fields_concat hfields]
          · have hnil := objects_eq_nil_iff.mpr hk
            have hfirst := @fields_concat [] fields hfields
            rw [hnil, List.nil_append, ← List.nil_append [fields], ← hfirst]
            rfl
      | _ => simp [Value.isNormal] at hv

end Shape

end TypeDraft
