import Mathlib.Algebra.Group.Int.Defs
import TypeDraft.Proofs.FirstSeen
import TypeDraft.Proofs.Input.Outcome
import TypeDraft.Proofs.Schema.Merge
import TypeDraft.Proofs.Value.Normal

/-!
# The normal tree of a value

What the normal tree of a value is, said without the way in which it is made. Normalization gives it
to every value that has one, and those are the values whose keys all have texts. A normal value is
its own tree, and whatever has become a tree can be analyzed.
-/

namespace TypeDraft

/-! ## Fields that are collected -/

section

variable {α : Type} {key : String} {value : α} {fields fields' pairs acc : List (String × α)}

/-- The value that stands last under a key. -/
def lastUnder (key : String) (pairs : List (String × α)) : Option α :=
  ((pairs.filter fun p => p.1 = key).getLast?).map Prod.snd

theorem lastUnder_concat (k : String) (pairs : List (String × α)) (key : String) (value : α) :
    lastUnder k (pairs ++ [(key, value)]) = if key = k then some value else lastUnder k pairs := by
  by_cases h : key = k <;> simp [lastUnder, List.filter_append, h]

/-- Fields that have each key of some pairs once, where it appears first, with the value that stands
last under it. -/
structure AreCollected (fields pairs : List (String × α)) : Prop where
  keys : fields.map Prod.fst = (pairs.map Prod.fst).eraseDups
  lookup : ∀ key, fields.lookup key = lastUnder key pairs

theorem keys_putField (key : String) (value : α) (acc : List (String × α)) :
    (putField key value acc).map Prod.fst =
      if key ∈ acc.map Prod.fst then acc.map Prod.fst else acc.map Prod.fst ++ [key] := by
  induction acc with
  | nil => rfl
  | cons f acc ih =>
      rw [putField]
      by_cases heq : f.1 = key
      · simp [heq]
      · rw [if_neg heq, List.map_cons, ih]
        by_cases hmem : key ∈ acc.map Prod.fst <;> simp [hmem, Ne.symm heq]

theorem lookup_cons_eq (k : String) (f : String × α) (fields : List (String × α)) :
    (f :: fields).lookup k = if f.1 = k then some f.2 else fields.lookup k := by
  rw [List.lookup_cons]
  by_cases h : f.1 = k
  · simp [h]
  · rw [if_neg h, beq_false_of_ne (Ne.symm h)]

theorem lookup_putField (k key : String) (value : α) (acc : List (String × α)) :
    (putField key value acc).lookup k = if key = k then some value else acc.lookup k := by
  induction acc with
  | nil => exact lookup_cons_eq k (key, value) []
  | cons f acc ih =>
      rw [putField]
      by_cases heq : f.1 = key
      · rw [if_pos heq, lookup_cons_eq, lookup_cons_eq, heq]
        by_cases hk : key = k <;> simp only [hk, if_true, if_false]
      · rw [if_neg heq, lookup_cons_eq, lookup_cons_eq, ih]
        by_cases hf : f.1 = k
        · have hk : key ≠ k := fun hk => heq (hf.trans hk.symm)
          rw [if_pos hf, if_neg hk, if_pos hf]
        · rw [if_neg hf, if_neg hf]

theorem areCollected_collectFields (pairs : List (String × α)) :
    AreCollected (collectFields pairs) pairs := by
  induction pairs using List.reverseRecOn with
  | nil => exact ⟨rfl, fun _ => rfl⟩
  | append_singleton pairs p ih =>
      have hstep : collectFields (pairs ++ [p]) = putField p.1 p.2 (collectFields pairs) := by
        rw [collectFields, List.foldl_append]
        rfl
      refine ⟨?_, fun key => ?_⟩
      · rw [hstep, keys_putField, ih.keys, List.map_append, List.map_singleton, eraseDups_concat]
        simp only [List.mem_eraseDups]
      · rw [hstep, lookup_putField, ih.lookup, lastUnder_concat]

/-- Fields with different keys are known by their keys in order and the value under each. -/
theorem eq_of_lookup (hnodup : (fields.map Prod.fst).Nodup)
    (hkeys : fields.map Prod.fst = fields'.map Prod.fst)
    (hlookup : ∀ key, fields.lookup key = fields'.lookup key) : fields = fields' := by
  induction fields generalizing fields' with
  | nil => exact (List.map_eq_nil_iff.mp hkeys.symm).symm
  | cons f fields ih =>
      cases fields' with
      | nil => cases hkeys
      | cons f' fields' =>
          obtain ⟨hkey, hrest⟩ := List.cons.inj hkeys
          have hkey : f.1 = f'.1 := hkey
          have hvalue := hlookup f.1
          rw [lookup_cons_eq, lookup_cons_eq, if_pos rfl, if_pos hkey.symm] at hvalue
          obtain rfl : f = f' := Prod.ext hkey (Option.some.inj hvalue)
          rw [List.map_cons, List.nodup_cons] at hnodup
          refine congrArg (f :: ·) (ih hnodup.2 hrest fun key => ?_)
          by_cases heq : f.1 = key
          · subst heq
            have hnone : ∀ {l : List (String × α)}, f.1 ∉ l.map Prod.fst → l.lookup f.1 = none :=
              fun h => Option.not_isSome_iff_eq_none.mp (mt lookup_isSome_iff_mem.mp h)
            rw [hnone hnodup.1, hnone (by rw [← hrest]; exact hnodup.1)]
          · have hkeyed := hlookup key
            rwa [lookup_cons_eq, lookup_cons_eq, if_neg heq, if_neg heq] at hkeyed

theorem AreCollected.eq (h : AreCollected fields pairs) : fields = collectFields pairs := by
  have hcollected := areCollected_collectFields pairs
  refine eq_of_lookup ?_ (h.keys.trans hcollected.keys.symm) fun key => ?_
  · rw [h.keys]
    exact nodup_eraseDups _
  · rw [h.lookup, hcollected.lookup]

end

namespace Value

/-! ## Trees -/

/-- What becomes of a value without parts. -/
def leaf? : Value → Option Value
  | null => some null
  | bool b => some (bool b)
  | int n => some (int n)
  | float x => some (float x)
  | str s => some (str s)
  | bytes bs => some (str (Text.decodeReplacing bs))
  | moment m => some (str (m.iso "T"))
  | decimal text => some (str text)
  | _ => none

/-- The items of whatever becomes an array. -/
def listed? : Value → Option (List Value)
  | arr items | tuple items | set items => some items
  | _ => none

/-- The entries of whatever becomes an object, under the texts of their keys if all keys have one. -/
def keyed? : Value → Option (List (String × Value))
  | obj fields => some fields
  | map entries =>
    if entries.all fun e => e.1.isShown then some (entries.map fun e => (e.1.keyText, e.2)) else none
  | _ => none

mutual

/-- The second value is the normal tree of the first. -/
inductive HasTree : Value → Value → Prop
  | leaf {v w : Value} : v.leaf? = some w → HasTree v w
  | array {v : Value} {items trees : List Value} : v.listed? = some items →
      HaveTrees items trees → HasTree v (arr trees)
  | object {v : Value} {pairs : List (String × Value)} {trees : List Value}
      {fields : List (String × Value)} : v.keyed? = some pairs →
      HaveTrees (pairs.map Prod.snd) trees →
      AreCollected fields ((pairs.map Prod.fst).zip trees) → HasTree v (obj fields)

inductive HaveTrees : List Value → List Value → Prop
  | nil : HaveTrees [] []
  | cons {v w : Value} {vs ws : List Value} : HasTree v w → HaveTrees vs ws →
      HaveTrees (v :: vs) (w :: ws)

end

/-! ## Entries as two lists -/

theorem normalizeFields_eq_zip (fields : List (String × Value)) :
    normalizeFields fields =
      (fields.map Prod.fst).zip (normalizeItems (fields.map Prod.snd)) := by
  induction fields with
  | nil => rfl
  | cons f fields ih => simp [normalizeFields, normalizeItems, ih]

theorem normalizeEntries_eq (entries : List (Value × Value)) :
    normalizeEntries entries = normalizeFields (entries.map fun e => (e.1.keyText, e.2)) := by
  induction entries with
  | nil => rfl
  | cons e entries ih => simp [normalizeEntries, normalizeFields, ih]

theorem fieldsHaveKeyTexts_eq (fields : List (String × Value)) :
    fieldsHaveKeyTexts fields = haveKeyTexts (fields.map Prod.snd) := by
  induction fields with
  | nil => rfl
  | cons f fields ih => simp [fieldsHaveKeyTexts, haveKeyTexts, ih]

theorem entriesHaveKeyTexts_eq (entries : List (Value × Value)) :
    entriesHaveKeyTexts entries = ((entries.all fun e => e.1.isShown) &&
      haveKeyTexts ((entries.map fun e => (e.1.keyText, e.2)).map Prod.snd)) := by
  induction entries with
  | nil => rfl
  | cons e entries ih =>
      simp only [entriesHaveKeyTexts, ih, List.all_cons, List.map_cons, haveKeyTexts, Bool.and_assoc]
      cases hasKeyTexts e.2 <;> simp

/-- What becomes an object has key texts if its entries have, and its fields are collected from
what they become. -/
theorem of_keyed? {v : Value} {pairs : List (String × Value)} (h : v.keyed? = some pairs) :
    v.hasKeyTexts = haveKeyTexts (pairs.map Prod.snd) ∧
      v.normalize = obj (collectFields (normalizeFields pairs)) := by
  cases v with
  | obj fields =>
      obtain rfl := Option.some.inj h
      exact ⟨fieldsHaveKeyTexts_eq _, rfl⟩
  | map entries =>
      rw [keyed?] at h
      split at h
      · next hshown =>
          obtain rfl := Option.some.inj h
          rw [hasKeyTexts, entriesHaveKeyTexts_eq, hshown, Bool.true_and, normalize,
            normalizeEntries_eq]
          exact ⟨rfl, rfl⟩
      · cases h
  | _ => cases h

theorem of_listed? {v : Value} {items : List Value} (h : v.listed? = some items) :
    v.hasKeyTexts = haveKeyTexts items ∧ v.normalize = arr (normalizeItems items) := by
  cases v with
  | arr | tuple | set =>
      obtain rfl := Option.some.inj h
      exact ⟨rfl, rfl⟩
  | _ => cases h

theorem of_leaf? {v w : Value} (h : v.leaf? = some w) :
    v.hasKeyTexts = true ∧ v.normalize = w := by
  cases v <;> cases h <;> exact ⟨rfl, rfl⟩

/-! ## Normalization and trees -/

mutual

/-- Only normalization gives a tree, and only where all keys have texts. -/
theorem HasTree.eq_normalize {v w : Value} (h : HasTree v w) :
    v.hasKeyTexts = true ∧ v.normalize = w := by
  match h with
  | .leaf hleaf => exact of_leaf? hleaf
  | .array hitems htrees =>
    obtain ⟨hkeys, hnormalize⟩ := of_listed? hitems
    obtain ⟨hkept, hmade⟩ := htrees.eq_normalizeItems
    rw [hkeys, hnormalize, hmade]
    exact ⟨hkept, rfl⟩
  | .object hpairs htrees hfields =>
    obtain ⟨hkeys, hnormalize⟩ := of_keyed? hpairs
    obtain ⟨hkept, hmade⟩ := htrees.eq_normalizeItems
    rw [hkeys, hnormalize, normalizeFields_eq_zip, hmade, hfields.eq]
    exact ⟨hkept, rfl⟩

theorem HaveTrees.eq_normalizeItems {vs ws : List Value} (h : HaveTrees vs ws) :
    haveKeyTexts vs = true ∧ normalizeItems vs = ws := by
  match h with
  | .nil => exact ⟨rfl, rfl⟩
  | .cons hhead htail =>
    obtain ⟨hkeys, hmade⟩ := hhead.eq_normalize
    obtain ⟨hkept, hrest⟩ := htail.eq_normalizeItems
    rw [haveKeyTexts, normalizeItems, hkeys, hkept, hmade, hrest]
    exact ⟨rfl, rfl⟩

end

theorem hasTree_of_keyed? {v : Value} {pairs : List (String × Value)} (h : v.keyed? = some pairs)
    (htrees : HaveTrees (pairs.map Prod.snd) (normalizeItems (pairs.map Prod.snd))) :
    HasTree v v.normalize := by
  rw [(of_keyed? h).2, normalizeFields_eq_zip]
  exact .object h htrees (areCollected_collectFields _)

mutual

theorem hasTree_normalize : (v : Value) → v.hasKeyTexts = true → HasTree v v.normalize
  | null, _ | bool _, _ | int _, _ | float _, _ | str _, _ | bytes _, _ | moment _, _
  | decimal _, _ => .leaf rfl
  | arr items, h | tuple items, h | set items, h => .array rfl (haveTrees_normalizeItems items h)
  | obj fields, h => hasTree_of_keyed? rfl (haveTrees_of_fields fields h)
  | map entries, h => by
    rw [hasKeyTexts] at h
    have hshown := h
    rw [entriesHaveKeyTexts_eq, Bool.and_eq_true] at hshown
    refine hasTree_of_keyed? (if_pos hshown.1) ?_
    rw [List.map_map]
    exact haveTrees_of_entries entries h

theorem haveTrees_normalizeItems : (vs : List Value) → haveKeyTexts vs = true →
    HaveTrees vs (normalizeItems vs)
  | [], _ => .nil
  | v :: vs, h => by
    rw [haveKeyTexts, Bool.and_eq_true] at h
    exact .cons (hasTree_normalize v h.1) (haveTrees_normalizeItems vs h.2)

theorem haveTrees_of_fields : (fs : List (String × Value)) → fieldsHaveKeyTexts fs = true →
    HaveTrees (fs.map Prod.snd) (normalizeItems (fs.map Prod.snd))
  | [], _ => .nil
  | (_, v) :: fs, h => by
    rw [fieldsHaveKeyTexts, Bool.and_eq_true] at h
    exact .cons (hasTree_normalize v h.1) (haveTrees_of_fields fs h.2)

theorem haveTrees_of_entries : (es : List (Value × Value)) → entriesHaveKeyTexts es = true →
    HaveTrees (es.map Prod.snd) (normalizeItems (es.map Prod.snd))
  | [], _ => .nil
  | (_, v) :: es, h => by
    rw [entriesHaveKeyTexts, Bool.and_eq_true, Bool.and_eq_true] at h
    exact .cons (hasTree_normalize v h.1.2) (haveTrees_of_entries es h.2)

end

theorem hasTree_iff {v w : Value} : HasTree v w ↔ v.hasKeyTexts = true ∧ v.normalize = w := by
  refine ⟨HasTree.eq_normalize, ?_⟩
  rintro ⟨hkeys, rfl⟩
  exact hasTree_normalize v hkeys

example : (map [(str "1", bool true), (null, str "z"), (int 1, tuple [str "b"])]).normalize =
    obj [("1", arr [str "b"]), ("null", str "z")] := by decide +kernel

/-- Whatever becomes a tree can be analyzed as far as it does not nest too deeply. -/
theorem exists_analyze_normalize (v : Value) (hdepth : v.normalize.tooDeepFor analysisCost = false) :
    ∃ s, analyze v.normalize [] = .ok s :=
  ⟨_, Schema.analyze_eq_ok (List.forall_mem_singleton.mpr (isNormal_normalize v))
    (List.forall_mem_singleton.mpr hdepth)⟩

/-- A value has a normal tree just if all keys in it have texts. The tree is what normalization
makes of it, lies in the data model, is its own tree and can be analyzed; a value of the model is
its own tree already. The walk to the tree comes to its end unless the value is too deep, and what a
text is read as is the tree of what the reader delivers. -/
theorem normalize_is_projection (v : Value) :
    ((∃ w, HasTree v w) ↔ v.hasKeyTexts = true) ∧
    (∀ w, HasTree v w → v.normalize = w ∧ w.isNormal = true ∧ w.normalize = w ∧ HasTree w w ∧
      (w.tooDeepFor analysisCost = false → ∃ s, analyze w [] = .ok s)) ∧
    (v.isNormal = true → v.normalize = v ∧ HasTree v v) ∧
    (∀ w, v.normalTree = .ok w ↔ HasTree v w ∧ v.levels ≤ normalLimit) ∧
    ∀ format cs, Delivers format cs v → ∀ w,
      load format cs = .ok w ↔ HasTree v w ∧ v.levels ≤ normalLimit := by
  have hself : ∀ {w : Value}, w.isNormal = true → w.normalize = w ∧ HasTree w w := by
    intro w hw
    have hnormalize := normalize_of_isNormal w hw
    exact ⟨hnormalize, hasTree_iff.mpr ⟨hasKeyTexts_of_isNormal w hw, hnormalize⟩⟩
  have htree : ∀ w, v.normalTree = .ok w ↔ HasTree v w ∧ v.levels ≤ normalLimit := by
    intro w
    rw [normalTree_eq_ok, hasTree_iff, and_assoc, and_comm (b := v.normalize = w)]
  refine ⟨⟨fun ⟨w, hw⟩ => hw.eq_normalize.1, fun h => ⟨_, hasTree_normalize v h⟩⟩, ?_, hself, htree,
    fun format cs hdelivers w => ?_⟩
  · intro w hw
    obtain rfl := hw.eq_normalize.2
    have hnormal := isNormal_normalize v
    exact ⟨rfl, hnormal, (hself hnormal).1, (hself hnormal).2, exists_analyze_normalize v⟩
  · rw [load_of_raw (rawValue_eq_ok.mpr hdelivers), mapError_eq_ok, htree]

/-- An integer of more than 4300 digits has no text, so there is no tree with it as a key. -/
theorem no_tree_of_long_key : ¬ ∃ w, HasTree (map [(int (10 ^ 4300), null)]) w := by
  rintro ⟨w, hw⟩
  have hkeys : (map [(int (10 ^ 4300), null)]).hasKeyTexts = false := by decide +kernel
  exact Bool.false_ne_true (hkeys.symm.trans hw.eq_normalize.1)

end Value

end TypeDraft
