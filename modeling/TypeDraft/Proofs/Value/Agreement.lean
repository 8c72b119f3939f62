import Mathlib.Algebra.Field.Rat
import Mathlib.Data.List.Perm.Basic
import TypeDraft.Proofs.Value.Fields

/-!
# Values that agree

Two values agree if they are the same but for the form of numbers and the order of keys. Values that
agree count as one, and nothing but one of them counts as one with the other.
-/

namespace TypeDraft

namespace Value

/-- Two values are the same: numbers by their value and objects by what stands under each key. A
boolean is no number. -/
inductive Agrees : Value → Value → Prop
  | null : Agrees null null
  | bool (b : Bool) : Agrees (bool b) (bool b)
  | number {v w : Value} : v.kind = .number → w.kind = .number → v.alikeNumbers w = true →
      Agrees v w
  | str (s : String) : Agrees (str s) (str s)
  | arr {vs ws : List Value} : vs.length = ws.length →
      (∀ (i : Nat) v w, vs[i]? = some v → ws[i]? = some w → Agrees v w) → Agrees (arr vs) (arr ws)
  | obj {fs gs : List (String × Value)} :
      (∀ key, (fs.lookup key).isSome = (gs.lookup key).isSome) →
      (∀ key v w, fs.lookup key = some v → gs.lookup key = some w → Agrees v w) →
      Agrees (obj fs) (obj gs)

theorem Agrees.kind_eq {v w : Value} (h : Agrees v w) : v.kind = w.kind := by
  cases h with
  | number hv hw _ => rw [hv, hw]
  | _ => rfl

/-! ## Numbers -/

/-- What a number is compared by: its value, or else its sign if it is infinite. -/
def measure? (v : Value) : Option (ℚ ⊕ Option Bool) :=
  match v.ratio?, v.infinity? with
  | some (n, d), _ => some (.inl (n / d))
  | none, some negative => some (.inr (some negative))
  | none, none => if v.isNaN then some (.inr none) else none

theorem denominator_ne_zero (x : Double) : x.toRatio.2 ≠ 0 := by
  unfold Double.toRatio
  dsimp only
  split_ifs
  · exact Nat.one_ne_zero
  · exact pow_ne_zero _ two_ne_zero

theorem ratio?_of_isNormal {v : Value} (hv : v.isNormal) {n : Int} {d : Nat}
    (h : v.ratio? = some (n, d)) : d ≠ 0 ∧ v.infinity? = none ∧ v.isNaN = false := by
  cases v with
  | bool b | int m =>
      cases h
      exact ⟨Nat.one_ne_zero, rfl, rfl⟩
  | float x =>
      rw [ratio?] at h
      split_ifs at h with hx
      obtain ⟨hnan, hinfinite⟩ := Bool.or_eq_false_iff.mp (Bool.eq_false_iff.mpr hx)
      have hratio : x.toRatio = (n, d) := Option.some.inj h
      have hd := denominator_ne_zero x
      rw [hratio] at hd
      refine ⟨hd, ?_, hnan⟩
      rw [infinity?, hinfinite]
      rfl
  | null | str | arr | obj => cases h
  | _ => simp [isNormal] at hv

theorem isNaN_of_infinity? {v : Value} {negative : Bool} (h : v.infinity? = some negative) :
    v.isNaN = false := by
  cases v with
  | float x =>
      rw [infinity?] at h
      split_ifs at h with hinfinite
      rw [Double.isInfinite, Bool.and_eq_true, beq_iff_eq, beq_iff_eq] at hinfinite
      simp [isNaN, Double.isNaN, hinfinite.2]
  | _ => rfl

theorem alikeNumbers_iff {v w : Value} (hv : v.isNormal) (hw : w.isNormal) :
    v.alikeNumbers w = true ↔ v.measure?.isSome ∧ v.measure? = w.measure? := by
  rw [alikeNumbers, measure?, measure?]
  cases hr : v.ratio? with
  | some r =>
      obtain ⟨n, d⟩ := r
      obtain ⟨hd, hinf, hnan⟩ := ratio?_of_isNormal hv hr
      cases hr' : w.ratio? with
      | some r' =>
          obtain ⟨m, e⟩ := r'
          have he := (ratio?_of_isNormal hw hr').1
          have hd' : (d : ℚ) ≠ 0 := Nat.cast_ne_zero.mpr hd
          have he' : (e : ℚ) ≠ 0 := Nat.cast_ne_zero.mpr he
          simp only [beq_iff_eq, Option.isSome_some, true_and, Option.some.injEq, Sum.inl.injEq]
          rw [div_eq_div_iff hd' he']
          exact_mod_cast Iff.rfl
      | none => cases w.infinity? <;> cases hnan' : w.isNaN <;> simp [hinf, hnan]
  | none =>
      cases hr' : w.ratio? with
      | some r' =>
          obtain ⟨-, hinf, hnan⟩ := ratio?_of_isNormal hw hr'
          cases v.infinity? <;> cases v.isNaN <;> simp [hinf, hnan]
      | none =>
          cases hinf : v.infinity? <;> cases hinf' : w.infinity?
          · cases v.isNaN <;> cases w.isNaN <;> simp
          · simp [isNaN_of_infinity? hinf']
          · simp [isNaN_of_infinity? hinf]
          · simp

theorem alikeNumbers_eq_false {u w : Value} (hu : u.isNormal) (hw : w.isNormal)
    (h : u.measure? = none ∨ w.measure? = none) : u.alikeNumbers w = false := by
  rw [Bool.eq_false_iff, ne_eq, alikeNumbers_iff hu hw]
  rintro ⟨hsome, heq⟩
  rcases h with h | h
  · rw [h] at hsome
    cases hsome
  · rw [heq, h] at hsome
    cases hsome

theorem measure?_isSome {v : Value} (h : v.kind = .number) : v.measure?.isSome := by
  cases v with
  | int n => rfl
  | float x =>
      rw [measure?, ratio?, infinity?, isNaN]
      cases x.isNaN <;> cases x.isInfinite <;> simp
  | _ => cases h

theorem isNormal_of_number {v : Value} (h : v.kind = .number) : v.isNormal := by
  cases v with
  | int | float => rfl
  | _ => cases h

theorem alike_of_number {u w : Value} (hu : u.isNormal) (hw : w.kind = .number) :
    u.alike w = u.alikeNumbers w := by
  have hwn := isNormal_of_number hw
  have hnot : u.measure? = none → u.alikeNumbers w = false := fun h =>
    alikeNumbers_eq_false hu hwn (Or.inl h)
  cases u with
  | bool | float => rfl
  | int m =>
      cases w with
      | int n =>
          rw [alike, alikeNumbers, ratio?, ratio?]
          simp only [Nat.cast_one, mul_one]
      | float => rfl
      | _ => cases hw
  | null | str | arr | obj =>
      rw [hnot rfl]
      cases w with
      | int | float => rfl
      | _ => cases hw
  | _ => simp [isNormal] at hu

/-! ## Arrays and objects -/

theorem alikeItems_iff {vs ws : List Value} : alikeItems vs ws = true ↔ vs.length = ws.length ∧
    ∀ (i : Nat) v w, vs[i]? = some v → ws[i]? = some w → v.alike w = true := by
  induction vs generalizing ws with
  | nil => cases ws <;> simp [alikeItems]
  | cons v vs ih =>
      cases ws with
      | nil => simp [alikeItems]
      | cons w ws =>
          rw [alikeItems, Bool.and_eq_true, ih, List.length_cons, List.length_cons,
            Nat.add_right_cancel_iff]
          constructor
          · rintro ⟨hhead, hlength, hitems⟩
            refine ⟨hlength, fun i => ?_⟩
            cases i with
            | zero => simpa using hhead
            | succ i => exact hitems i
          · rintro ⟨hlength, hitems⟩
            exact ⟨hitems 0 v w rfl rfl, hlength, fun i => hitems (i + 1)⟩

theorem alikeFields_iff {fs gs : List (String × Value)} :
    (obj fs).alike (obj gs) = true ↔ fs.length = gs.length ∧
      ∀ f ∈ fs, ∃ g ∈ gs, g.1 = f.1 ∧ f.2.alike g.2 = true := by
  have hfields : ∀ es : List (Value × Value), alikeFields fs es = true ↔
      ∀ f ∈ fs, ∃ e ∈ es, e.1 = str f.1 ∧ f.2.alike e.2 = true := by
    intro es
    induction fs with
    | nil => simp [alikeFields]
    | cons f fs ih => simp [alikeFields, ih]
  rw [alike, entries?, Bool.and_eq_true, hfields, beq_iff_eq, List.length_map]
  simp only [List.mem_map, exists_exists_and_eq_and, str.injEq]

theorem exists_arr_of_alike {u : Value} {vs : List Value} (hu : u.isNormal)
    (hvs : (arr vs).isNormal) (h : u.alike (arr vs) = true) : ∃ us, u = arr us := by
  cases u with
  | arr us => exact ⟨us, rfl⟩
  | bool b => cases (alikeNumbers_eq_false (u := bool b) rfl hvs (Or.inr rfl)).symm.trans h
  | int n => cases (alikeNumbers_eq_false (u := int n) rfl hvs (Or.inr rfl)).symm.trans h
  | float x => cases (alikeNumbers_eq_false (u := float x) rfl hvs (Or.inr rfl)).symm.trans h
  | null | str | obj => cases h
  | _ => simp [isNormal] at hu

theorem exists_obj_of_alike {u : Value} {fs : List (String × Value)} (hu : u.isNormal)
    (hfs : (obj fs).isNormal) (h : u.alike (obj fs) = true) : ∃ us, u = obj us := by
  cases u with
  | obj us => exact ⟨us, rfl⟩
  | bool b => cases (alikeNumbers_eq_false (u := bool b) rfl hfs (Or.inr rfl)).symm.trans h
  | int n => cases (alikeNumbers_eq_false (u := int n) rfl hfs (Or.inr rfl)).symm.trans h
  | float x => cases (alikeNumbers_eq_false (u := float x) rfl hfs (Or.inr rfl)).symm.trans h
  | null | str | arr => cases h
  | _ => simp [isNormal] at hu

/-- Objects with the same keys have equally many fields. -/
theorem length_eq_of_lookup {fs gs : List (String × Value)} (hfs : (obj fs).isNormal)
    (hgs : (obj gs).isNormal) (h : ∀ key, (fs.lookup key).isSome = (gs.lookup key).isSome) :
    fs.length = gs.length := by
  have hperm : (fs.map Prod.fst).Perm (gs.map Prod.fst) := by
    refine (List.perm_ext_iff_of_nodup (nodup_keys hfs) (nodup_keys hgs)).mpr fun key => ?_
    rw [← lookup_isSome_iff_mem, ← lookup_isSome_iff_mem, h]
  simpa using hperm.length_eq

theorem Agrees.eq_null {v : Value} (h : Agrees v .null) : v = .null := by
  cases h with
  | null => rfl
  | number _ hw _ => cases hw

theorem Agrees.eq_str {v : Value} {s : String} (h : Agrees v (.str s)) : v = .str s := by
  cases h with
  | str => rfl
  | number _ hw _ => cases hw

theorem Agrees.exists_arr {v : Value} {ws : List Value} (h : Agrees v (.arr ws)) :
    ∃ vs, v = .arr vs ∧ ∀ w ∈ ws, ∃ u ∈ vs, u.Agrees w := by
  cases h with
  | number _ hw _ => cases hw
  | @arr vs _ hlength hitems =>
      refine ⟨vs, rfl, fun w hw => ?_⟩
      obtain ⟨i, hi⟩ := List.mem_iff_getElem?.mp hw
      have hvi : i < vs.length := by
        rw [hlength]
        exact (List.getElem?_eq_some_iff.mp hi).1
      exact ⟨vs[i], List.getElem_mem hvi, hitems i _ w (List.getElem?_eq_getElem hvi) hi⟩

theorem Agrees.exists_obj {v : Value} {gs : List (String × Value)} (h : Agrees v (.obj gs)) :
    ∃ fs, v = .obj fs ∧ (∀ key, (fs.lookup key).isSome = (gs.lookup key).isSome) ∧
      ∀ key w, gs.lookup key = some w → ∃ u, fs.lookup key = some u ∧ u.Agrees w := by
  cases h with
  | number _ hw _ => cases hw
  | @obj fs _ hkeys hfields =>
      refine ⟨fs, rfl, hkeys, fun key w hw => ?_⟩
      obtain ⟨u, hu⟩ : ∃ u, fs.lookup key = some u := by
        rw [← Option.isSome_iff_exists, hkeys, hw]
        rfl
      exact ⟨u, hu, hfields key u w hu hw⟩

/-- What counts as one with a value does so with every value that agrees with it. -/
theorem Agrees.alike_right {v w : Value} (h : Agrees v w) (hv : v.isNormal) (hw : w.isNormal)
    {u : Value} (hu : u.isNormal) (huv : u.alike v = true) : u.alike w = true := by
  induction h generalizing u with
  | null | bool | str => exact huv
  | @number v w hkv hkw hnumbers =>
      rw [alike_of_number hu hkv, alikeNumbers_iff hu hv] at huv
      rw [alike_of_number hu hkw, alikeNumbers_iff hu hw]
      exact ⟨huv.1, huv.2.trans ((alikeNumbers_iff hv hw).mp hnumbers).2⟩
  | @arr vs ws hlength _ ih =>
      obtain ⟨us, rfl⟩ := exists_arr_of_alike hu hv huv
      obtain ⟨hlength', hitems⟩ := alikeItems_iff.mp huv
      refine alikeItems_iff.mpr ⟨hlength'.trans hlength, fun i u w hui hwi => ?_⟩
      have hi : i < vs.length := by
        rw [hlength]
        exact (List.getElem?_eq_some_iff.mp hwi).1
      have hvi : vs[i]? = some vs[i] := List.getElem?_eq_getElem hi
      exact ih i _ w hvi hwi (isNormal_item hv (List.mem_of_getElem? hvi))
        (isNormal_item hw (List.mem_of_getElem? hwi)) (isNormal_item hu (List.mem_of_getElem? hui))
        (hitems i u _ hui hvi)
  | @obj fs gs hkeys _ ih =>
      obtain ⟨us, rfl⟩ := exists_obj_of_alike hu hv huv
      obtain ⟨hlength, hfields⟩ := alikeFields_iff.mp huv
      refine alikeFields_iff.mpr ⟨hlength.trans (length_eq_of_lookup hv hw hkeys), ?_⟩
      rintro ⟨key, u⟩ hmem
      obtain ⟨⟨key', v⟩, hvmem, rfl, hualike⟩ := hfields _ hmem
      have hlookup := lookup_of_mem (nodup_keys hv) hvmem
      obtain ⟨w, hlookup'⟩ : ∃ w, gs.lookup key' = some w := by
        rw [← Option.isSome_iff_exists, ← hkeys, hlookup]
        rfl
      have hwmem := mem_of_lookup hlookup'
      exact ⟨(key', w), hwmem, rfl, ih key' v w hlookup hlookup' (isNormal_field hv hvmem)
        (isNormal_field hw hwmem) (isNormal_field hu hmem) hualike⟩

/-! ## A value and itself -/

theorem agrees_and_alike_number {v : Value} (h : v.kind = .number) :
    Agrees v v ∧ v.alike v = true := by
  have hnumbers : v.alikeNumbers v = true :=
    (alikeNumbers_iff (isNormal_of_number h) (isNormal_of_number h)).mpr ⟨measure?_isSome h, rfl⟩
  exact ⟨.number h h hnumbers, (alike_of_number (isNormal_of_number h) h).trans hnumbers⟩

mutual

theorem agrees_and_alike_self : (v : Value) → v.isNormal → Agrees v v ∧ v.alike v = true
  | null, _ => ⟨.null, rfl⟩
  | bool b, _ => ⟨.bool b, by cases b <;> rfl⟩
  | int n, _ => agrees_and_alike_number rfl
  | float x, _ => agrees_and_alike_number rfl
  | str s, _ => ⟨.str s, by simp [alike]⟩
  | arr vs, h => by
    have hitems := agrees_and_alike_items vs h
    have hpair : ∀ (i : Nat) v w, vs[i]? = some v → vs[i]? = some w →
        Agrees v w ∧ v.alike w = true := by
      intro i v w hv hw
      obtain rfl := Option.some.inj (hv.symm.trans hw)
      exact hitems v (List.mem_of_getElem? hv)
    exact ⟨.arr rfl fun i v w hv hw => (hpair i v w hv hw).1,
      alikeItems_iff.mpr ⟨rfl, fun i v w hv hw => (hpair i v w hv hw).2⟩⟩
  | obj fs, h => by
    have hnormal := h
    rw [isNormal, Bool.and_eq_true] at h
    have hfields := agrees_and_alike_fields fs h.2
    refine ⟨.obj (fun _ => rfl) fun key v w hv hw => ?_, ?_⟩
    · obtain rfl := Option.some.inj (hv.symm.trans hw)
      exact (hfields _ (mem_of_lookup hv)).1
    · exact alikeFields_iff.mpr ⟨rfl, fun f hf => ⟨f, hf, rfl, (hfields f hf).2⟩⟩

theorem agrees_and_alike_items : (vs : List Value) → areNormal vs →
    ∀ v ∈ vs, Agrees v v ∧ v.alike v = true
  | [], _ => nofun
  | v :: vs, h => by
    rw [areNormal, Bool.and_eq_true] at h
    exact List.forall_mem_cons.mpr ⟨agrees_and_alike_self v h.1, agrees_and_alike_items vs h.2⟩

theorem agrees_and_alike_fields : (fs : List (String × Value)) → areNormalFields fs →
    ∀ f ∈ fs, Agrees f.2 f.2 ∧ f.2.alike f.2 = true
  | [], _ => nofun
  | (_, v) :: fs, h => by
    rw [areNormalFields, Bool.and_eq_true] at h
    exact List.forall_mem_cons.mpr ⟨agrees_and_alike_self v h.1, agrees_and_alike_fields fs h.2⟩

end

theorem Agrees.refl {v : Value} (h : v.isNormal) : Agrees v v := (agrees_and_alike_self v h).1

theorem alike_self {v : Value} (h : v.isNormal) : v.alike v = true := (agrees_and_alike_self v h).2

end Value

end TypeDraft
