import Mathlib.Data.List.Forall2
import TypeDraft.Proofs.FirstSeen
import TypeDraft.Proofs.TypeScript.Basic.Parts

/-!
# Arrays and unions of parts

Arrays and unions of types that are made of parts are made of parts again, and no union has more
parts than come together in it. A union with all of them is read alternative by alternative.
-/

namespace TypeDraft.TypeScript.Basic

variable {P : Ty → Prop} {t : Parts}

/-! ## Arrays -/

theorem opened_ne_null (p : String) : "(" ++ p ≠ "null" := by
  intro h
  have hchars := congrArg String.toList h
  simp at hchars

theorem brackets_ne_null (p : String) : p ++ "[]" ≠ "null" := by
  intro h
  have hlast := congrArg (fun s => s.toList.getLast?) h
  simp at hlast

theorem closed_ne_null (p : String) : p ++ ")[]" ≠ "null" := by
  intro h
  have hlast := congrArg (fun s => s.toList.getLast?) h
  simp at hlast

theorem arrayOf_cons_cons (p q : String) (t : Parts) :
    arrayOf (p :: q :: t) =
      ("(" ++ p) :: (q :: t).dropLast ++ [(q :: t).getLastD "" ++ ")[]"] := rfl

theorem length_arrayOf (h : t ≠ []) : (arrayOf t).length = t.length := by
  match t with
  | [_] => rfl
  | _ :: _ :: _ => simp [arrayOf]

/-- Null is no part of an array type, if it is at most the last of the alternatives. -/
theorem null_not_mem_arrayOf (h : t ≠ []) (hnull : "null" ∉ t.dropLast) : "null" ∉ arrayOf t := by
  match t with
  | [p] =>
    rw [arrayOf, List.mem_singleton]
    exact (brackets_ne_null p).symm
  | p :: q :: t =>
    rw [List.dropLast_cons_cons, List.mem_cons, not_or] at hnull
    intro hmem
    rw [arrayOf_cons_cons, List.mem_append, List.mem_cons, List.mem_singleton] at hmem
    rcases hmem with (hmem | hmem) | hmem
    · exact opened_ne_null p hmem.symm
    · exact hnull.2 hmem
    · exact closed_ne_null _ hmem.symm

theorem AreParts.arrayOf (h : AreParts P t) : AreParts P (arrayOf t) := by
  match t with
  | [] => exact absurd rfl h.ne_nil
  | [p] =>
    refine ⟨List.cons_ne_nil _ _, fun x hx => ?_⟩
    obtain ⟨leaf, hleaf, hpart⟩ := h.isPart p List.mem_cons_self
    rw [List.mem_singleton.mp hx]
    exact ⟨leaf, hleaf, hpart.array⟩
  | p :: q :: t =>
    refine ⟨by simp [Basic.arrayOf], fun x hx => ?_⟩
    rw [arrayOf_cons_cons, List.mem_append, List.mem_cons, List.mem_singleton] at hx
    rcases hx with (rfl | hx) | rfl
    · obtain ⟨leaf, hleaf, hpart⟩ := h.isPart p List.mem_cons_self
      exact ⟨leaf, hleaf, hpart.opened⟩
    · exact h.isPart x (List.mem_cons_of_mem p (List.mem_of_mem_dropLast hx))
    · have hlast : (q :: t).getLastD "" ∈ q :: t := by
        rw [List.getLastD_cons]
        exact List.getLastD_mem_cons
      obtain ⟨leaf, hleaf, hpart⟩ := h.isPart _ (List.mem_cons_of_mem p hlast)
      exact ⟨leaf, hleaf, hpart.closed⟩

theorem exists_mem_arrayOf {p : String} {leaf : Ty} (hp : p ∈ t) (hpart : IsPart p leaf) :
    ∃ q ∈ Basic.arrayOf t, IsPart q leaf := by
  match t with
  | [_] =>
    obtain rfl := List.mem_singleton.mp hp
    exact ⟨_, List.mem_singleton_self _, hpart.array⟩
  | p' :: q :: t =>
    rw [arrayOf_cons_cons]
    rcases List.mem_cons.mp hp with rfl | hp
    · exact ⟨_, List.mem_cons_self, hpart.opened⟩
    · have hsplit := List.dropLast_append_getLast (List.cons_ne_nil q t)
      rw [← hsplit, List.mem_append, List.mem_singleton] at hp
      rcases hp with hp | rfl
      · exact ⟨p, List.mem_append_left _ (List.mem_cons_of_mem _ hp), hpart⟩
      · refine ⟨_, List.mem_append_right _ (List.mem_singleton_self _), ?_⟩
        rw [List.getLastD_eq_getLast?, List.getLast?_eq_some_getLast (List.cons_ne_nil q t)]
        exact hpart.closed

theorem Parts.text_cons_cons (p q : String) (t : Parts) :
    Parts.text (p :: q :: t) = p ++ " | " ++ Parts.text (q :: t) := by
  apply String.toList_injective
  simp [Parts.text, String.toList_intercalate]

theorem Parts.text_singleton (p : String) : Parts.text [p] = p := by
  apply String.toList_injective
  simp [Parts.text]

theorem Parts.text_dropLast_append (p : String) (t : Parts) (x : String) :
    Parts.text ((p :: t).dropLast ++ [(p :: t).getLastD "" ++ x]) = Parts.text (p :: t) ++ x := by
  induction t generalizing p with
  | nil => simp [Parts.text_singleton]
  | cons q t ih =>
      have hne : ∀ y, (q :: t).dropLast ++ [y] ≠ [] := by simp
      obtain ⟨r, u, hru⟩ := List.exists_cons_of_ne_nil (hne ((q :: t).getLastD "" ++ x))
      have hlast : (p :: q :: t).getLastD "" = (q :: t).getLastD "" := by simp
      rw [List.dropLast_cons_cons, List.cons_append, hlast, hru, Parts.text_cons_cons, ← hru, ih,
        Parts.text_cons_cons]
      simp only [String.append_assoc]

theorem Parts.text_arrayOf_cons_cons (p q : String) (t : Parts) :
    Parts.text (Basic.arrayOf (p :: q :: t)) = "(" ++ Parts.text (p :: q :: t) ++ ")[]" := by
  have hne : (q :: t).dropLast ++ [(q :: t).getLastD "" ++ ")[]"] ≠ [] := by simp
  obtain ⟨r, u, hru⟩ := List.exists_cons_of_ne_nil hne
  have hrest := Parts.text_dropLast_append q t ")[]"
  rw [hru] at hrest
  rw [arrayOf_cons_cons, List.cons_append, hru, Parts.text_cons_cons, hrest, Parts.text_cons_cons]
  simp [String.append_assoc]

theorem AreParts.readsAs_arrayOf (h : AreParts P t) {tys : List Ty} (hread : ReadsAs t.tokens tys)
    (hone : t.length = 1 → tys.length = 1) :
    ReadsAs (Parts.tokens (Basic.arrayOf t)) [.array (.ofAlternatives tys)] := by
  have hbrackets : SpellsFully ['[', ']'] [.mark .openBracket, .mark .closeBracket] := fun _ => rfl
  have hparen : SpellsFully ['('] [.mark .openParen] := fun _ => rfl
  have hclose : SpellsFully [')', '[', ']']
      [.mark .closeParen, .mark .openBracket, .mark .closeBracket] := fun _ => rfl
  have hspells := h.spells
  rw [← h.arrayOf.tokens_text]
  match t with
  | [] => exact absurd rfl h.ne_nil
  | [p] =>
    obtain ⟨ty, rfl⟩ := List.length_eq_one_iff.mp (hone rfl)
    have htext : (Parts.text (Basic.arrayOf [p])).toList = (Parts.text [p]).toList ++ ['[', ']'] := by
      rw [Basic.arrayOf, Parts.text_singleton, Parts.text_singleton]
      simp
    rw [htext, (hspells.append (by decide) hbrackets).spells.tokens_eq]
    exact hread.array
  | p :: q :: t =>
    have htext : (Parts.text (Basic.arrayOf (p :: q :: t))).toList =
        ['('] ++ ((Parts.text (p :: q :: t)).toList ++ [')', '[', ']']) := by
      rw [Parts.text_arrayOf_cons_cons]
      simp
    rw [htext, (hparen.append_spells (hspells.append (by decide) hclose).spells).tokens_eq]
    exact hread.arrayInParens

/-! ## Unions -/

theorem unionOf_eq (ts : List Parts) :
    unionOf ts =
      (ts.flatten.filter (· ≠ "null")).eraseDups ++ (ts.flatten.filter (· = "null")).eraseDups := by
  rw [unionOf, filter_eraseDups, filter_eraseDups]

theorem mem_unionOf {ts : List Parts} {p : String} : p ∈ unionOf ts ↔ p ∈ ts.flatten := by
  simp only [unionOf_eq, List.mem_append, List.mem_eraseDups, List.mem_filter, decide_eq_true_eq]
  by_cases hp : p = "null" <;> simp [hp]

theorem length_unionOf (ts : List Parts) : (unionOf ts).length = ts.flatten.eraseDups.length := by
  have hsplit := List.length_eq_length_filter_add (l := ts.flatten.eraseDups) (· ≠ "null")
  simpa [unionOf] using hsplit.symm

/-- Null stands behind everything else. -/
theorem null_not_mem_dropLast_unionOf (ts : List Parts) : "null" ∉ (unionOf ts).dropLast := by
  have hothers : "null" ∉ ts.flatten.eraseDups.filter (· ≠ "null") := by simp
  have hnull : ∀ p ∈ ts.flatten.eraseDups.filter (· = "null"), p = "null" := by simp
  have hnodup : (ts.flatten.eraseDups.filter (· = "null")).Nodup := (nodup_eraseDups _).filter _
  rw [unionOf]
  generalize ts.flatten.eraseDups.filter (· ≠ "null") = others at hothers
  match hns : ts.flatten.eraseDups.filter (· = "null") with
  | [] =>
    rw [List.append_nil]
    exact fun h => hothers (List.mem_of_mem_dropLast h)
  | [p] =>
    rw [List.dropLast_concat]
    exact hothers
  | p :: q :: ns =>
    rw [hns] at hnull hnodup
    have hp := hnull p (by simp)
    have hq := hnull q (by simp)
    simp [hp, hq] at hnodup

/-- A union of singletons within a union comes to nothing. -/
theorem unionOf_unionOf_cons (ps : Parts) (ts : List Parts) :
    unionOf (unionOf (ps.map fun p => [p]) :: ts) = unionOf (ps.map (fun p => [p]) ++ ts) := by
  have hflatten : (ps.map fun p => [p]).flatten = ps := by
    rw [← List.flatMap_def, List.flatMap_singleton']
  have hothers : ((unionOf (ps.map fun p => [p])).filter (· ≠ "null")) =
      (ps.filter (· ≠ "null")).eraseDups := by
    rw [unionOf_eq, hflatten, List.filter_append, ← filter_eraseDups, ← filter_eraseDups]
    simp
  have hnull : ((unionOf (ps.map fun p => [p])).filter (· = "null")) =
      (ps.filter (· = "null")).eraseDups := by
    rw [unionOf_eq, hflatten, List.filter_append, ← filter_eraseDups, ← filter_eraseDups]
    simp
  rw [unionOf_eq (_ :: ts), unionOf_eq (_ ++ ts), List.flatten_cons, List.flatten_append, hflatten,
    List.filter_append, List.filter_append, hothers, hnull, eraseDups_eraseDups_append,
    eraseDups_eraseDups_append, ← List.filter_append, ← List.filter_append]

theorem unionOf_singleton (p : String) : unionOf [[p]] = [p] := by
  by_cases hp : p = "null" <;> simp [unionOf, hp, List.eraseDups_cons]

theorem flatten_of_eq_singleton {ts : List Parts} (h : ts = [t]) : ts.flatten = t := by
  rw [h, List.flatten_singleton]

/-! ## Places -/

/-- The types of the alternatives that are known by their sort alone. -/
def plainTypes (s : Shape) : Parts := s.plainNames.map plainType

variable {s : Shape} {detailed : List Parts}

/-- The type of a place is a union of all that come together there, or the only one of them. -/
theorem assemble_eq (h : plainTypes s ≠ [] ∨ detailed ≠ []) :
    assemble s detailed = unionOf ((plainTypes s).map (fun p => [p]) ++ detailed) ∨
      plainTypes s = [] ∧ detailed = [assemble s detailed] := by
  unfold assemble
  rw [plainTypes] at h ⊢
  generalize s.plainNames.map plainType = ps at h ⊢
  match ps, detailed, h with
  | [], [], h => simp at h
  | [], [t], _ => exact Or.inr ⟨rfl, rfl⟩
  | [], _ :: _ :: _, _ => exact Or.inl rfl
  | [p], [], _ => exact Or.inl (unionOf_singleton p).symm
  | [p], _ :: _, _ => exact Or.inl rfl
  | p :: q :: ps, [], _ =>
    rw [List.append_nil]
    exact Or.inl rfl
  | p :: q :: ps, t :: ts, _ => exact Or.inl (unionOf_unionOf_cons (p :: q :: ps) (t :: ts))

theorem mem_assemble (h : plainTypes s ≠ [] ∨ detailed ≠ []) {p : String} :
    p ∈ assemble s detailed ↔ p ∈ plainTypes s ∨ p ∈ detailed.flatten := by
  rcases assemble_eq h with hunion | ⟨hplain, hone⟩
  · rw [hunion, mem_unionOf, List.flatten_append, List.mem_append, ← List.flatMap_def,
      List.flatMap_singleton']
  · rw [hplain, flatten_of_eq_singleton hone]
    simp

theorem length_assemble_le (h : plainTypes s ≠ [] ∨ detailed ≠ []) :
    (assemble s detailed).length ≤ (plainTypes s).length + detailed.flatten.length := by
  rcases assemble_eq h with hunion | ⟨-, hone⟩
  · rw [hunion, length_unionOf]
    apply (length_eraseDups_le _).trans
    rw [List.flatten_append, List.length_append, ← List.flatMap_def, List.flatMap_singleton']
  · rw [flatten_of_eq_singleton hone]
    omega

theorem null_not_mem_dropLast_assemble (h : plainTypes s ≠ [] ∨ detailed ≠ [])
    (hnull : ∀ t ∈ detailed, "null" ∉ t) : "null" ∉ (assemble s detailed).dropLast := by
  rcases assemble_eq h with hunion | ⟨-, hone⟩
  · rw [hunion]
    exact null_not_mem_dropLast_unionOf _
  · have hmem := List.mem_singleton_self (assemble s detailed)
    rw [← hone] at hmem
    exact fun hlast => hnull _ hmem (List.mem_of_mem_dropLast hlast)

/-- Types as they stand behind one another if nothing is dropped: null comes last. -/
def arranged {α : Type} (plain : String → α) (s : Shape) (detailed : List α) : List α :=
  ((plainTypes s).filter (· ≠ "null")).map plain ++ detailed ++
    ((plainTypes s).filter (· = "null")).map plain

/-- As many parts as come together at a place are all of them. -/
theorem assemble_eq_arranged (h : plainTypes s ≠ [] ∨ detailed ≠ [])
    (hnull : ∀ t ∈ detailed, "null" ∉ t)
    (hlength : (assemble s detailed).length = (plainTypes s).length + detailed.flatten.length) :
    assemble s detailed = (arranged (fun p => [p]) s detailed).flatten := by
  have hsingle : ∀ ps : Parts, (ps.map fun p => [p]).flatten = ps := by
    intro ps
    rw [← List.flatMap_def, List.flatMap_singleton']
  have hnull : "null" ∉ detailed.flatten := by
    intro hmem
    obtain ⟨t, ht, hmem⟩ := List.mem_flatten.mp hmem
    exact hnull t ht hmem
  have hothers : detailed.flatten.filter (· ≠ "null") = detailed.flatten :=
    List.filter_eq_self.mpr fun p hp => decide_eq_true fun heq => hnull (heq ▸ hp)
  have hnone : detailed.flatten.filter (· = "null") = [] :=
    List.filter_eq_nil_iff.mpr fun p hp heq => hnull (of_decide_eq_true heq ▸ hp)
  rcases assemble_eq h with hunion | ⟨hplain, hone⟩
  · have hflatten : ((plainTypes s).map (fun p => [p]) ++ detailed).flatten =
        plainTypes s ++ detailed.flatten := by
      rw [List.flatten_append, hsingle]
    have hnodup : (plainTypes s ++ detailed.flatten).Nodup := by
      rw [← length_eraseDups_eq_iff, List.length_append, ← hlength, hunion, length_unionOf,
        hflatten]
    rw [hunion, unionOf_eq, hflatten, (eraseDups_eq_self_iff _).mpr (hnodup.filter _),
      (eraseDups_eq_self_iff _).mpr (hnodup.filter _), List.filter_append, List.filter_append,
      hothers, hnone, arranged, List.flatten_append, List.flatten_append, hsingle, hsingle,
      List.append_nil]
  · rw [arranged, hplain, List.filter_nil, List.filter_nil]
    simp only [List.map_nil, List.nil_append, List.append_nil]
    exact (flatten_of_eq_singleton hone).symm

/-! ## Reading places -/

/-- Parts that are read as one type. -/
def IsReadAs (t : Parts) (ty : Ty) : Prop := t ≠ [] ∧ ReadsAs t.tokens [ty]

theorem Parts.tokens_append {t u : Parts} (ht : t ≠ []) (hu : u ≠ []) :
    Parts.tokens (t ++ u) = t.tokens ++ .mark .bar :: u.tokens := by
  induction t with
  | nil => exact absurd rfl ht
  | cons p t ih =>
      match t with
      | [] =>
        obtain ⟨q, u, rfl⟩ := List.exists_cons_of_ne_nil hu
        rw [List.singleton_append, Parts.tokens_cons_cons, Parts.tokens_singleton]
      | q :: t =>
        have ih := ih (List.cons_ne_nil q t)
        rw [List.cons_append] at ih
        rw [List.cons_append, List.cons_append, Parts.tokens_cons_cons, ih,
          Parts.tokens_cons_cons, List.append_assoc, List.cons_append]

theorem readsAs_flatten {ts : List Parts} {tys : List Ty} (h : List.Forall₂ IsReadAs ts tys)
    (hne : ts ≠ []) : ReadsAs (Parts.tokens ts.flatten) tys := by
  induction h with
  | nil => exact absurd rfl hne
  | @cons t ty ts tys ht hts ih =>
      match ts, tys, hts, ih with
      | [], [], _, _ =>
        rw [List.flatten_singleton]
        exact ht.2
      | u :: ts, tys, hts, ih =>
        have hrest : (u :: ts).flatten ≠ [] := by
          cases hts with
          | cons hu _ => simp [hu.1]
        rw [List.flatten_cons, Parts.tokens_append ht.1 hrest]
        exact ht.2.bar (ih (List.cons_ne_nil u ts))

/-- What the type of a plain sort is read as. -/
def plainTy (p : String) : Ty :=
  if p = openObject then .dictionary
  else if p = "any[]" then .array (.named "any")
  else .named p

theorem isReadAs_plainType (name : String) : IsReadAs [plainType name] (plainTy (plainType name)) := by
  refine ⟨List.cons_ne_nil _ _, ?_⟩
  rw [Parts.tokens_singleton]
  unfold plainType
  split <;> exact fun _ _ => rfl

theorem forall₂_plainTypes (s : Shape) (f : String → Bool) :
    List.Forall₂ IsReadAs (((plainTypes s).filter f).map fun p => [p])
      (((plainTypes s).filter f).map plainTy) := by
  rw [List.forall₂_map_left_iff, List.forall₂_map_right_iff, List.forall₂_same]
  intro p hp
  obtain ⟨name, -, rfl⟩ := List.mem_map.mp (List.mem_filter.mp hp).1
  exact isReadAs_plainType name

theorem forall₂_arranged {tys : List Ty} (h : List.Forall₂ IsReadAs detailed tys) :
    List.Forall₂ IsReadAs (arranged (fun p => [p]) s detailed) (arranged plainTy s tys) :=
  List.rel_append (List.rel_append (forall₂_plainTypes s _) h) (forall₂_plainTypes s _)

theorem mem_arranged {tys : List Ty} {ty : Ty} :
    ty ∈ arranged plainTy s tys ↔ ty ∈ (plainTypes s).map plainTy ∨ ty ∈ tys := by
  simp only [arranged, List.mem_append, List.mem_map, List.mem_filter, decide_eq_true_eq]
  constructor
  · rintro ((⟨p, ⟨hp, -⟩, rfl⟩ | h) | ⟨p, ⟨hp, -⟩, rfl⟩)
    · exact Or.inl ⟨p, hp, rfl⟩
    · exact Or.inr h
    · exact Or.inl ⟨p, hp, rfl⟩
  · rintro (⟨p, hp, rfl⟩ | h)
    · by_cases hnull : p = "null"
      · exact Or.inr ⟨p, ⟨hp, hnull⟩, rfl⟩
      · exact Or.inl (Or.inl ⟨p, ⟨hp, hnull⟩, rfl⟩)
    · exact Or.inl (Or.inr h)

end TypeDraft.TypeScript.Basic
