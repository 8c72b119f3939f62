import TypeDraft.Proofs.Schema.Merge

/-!
# Samples with uniform arrays

What the merge brings together at each place of some samples. Arrays are uniform if all items that
come together at one place are of one kind.
-/

namespace TypeDraft

namespace Value

/-! ## Keys at every depth -/

mutual

/-- Whether every key in a value, at any depth, has a property. -/
def EveryKey (p : String → Prop) : Value → Prop
  | arr items => EveryKeyOfItems p items
  | obj fields => EveryKeyOfFields p fields
  | _ => True
termination_by structural v => v

def EveryKeyOfItems (p : String → Prop) : List Value → Prop
  | [] => True
  | v :: vs => EveryKey p v ∧ EveryKeyOfItems p vs
termination_by structural vs => vs

def EveryKeyOfFields (p : String → Prop) : List (String × Value) → Prop
  | [] => True
  | (key, v) :: fields => p key ∧ EveryKey p v ∧ EveryKeyOfFields p fields
termination_by structural fields => fields

end

variable {p : String → Prop}

theorem EveryKey.item {items : List Value} (h : EveryKey p (arr items)) {v : Value}
    (hv : v ∈ items) : EveryKey p v := by
  have hall : EveryKeyOfItems p items := h
  clear h
  induction items with
  | nil => cases hv
  | cons w ws ih =>
      rcases List.mem_cons.mp hv with rfl | hv
      · exact hall.1
      · exact ih hv hall.2

theorem EveryKey.field {fields : List (String × Value)} (h : EveryKey p (obj fields))
    {key : String} {v : Value} (hf : (key, v) ∈ fields) : p key ∧ EveryKey p v := by
  have hall : EveryKeyOfFields p fields := h
  clear h
  induction fields with
  | nil => cases hf
  | cons f fields ih =>
      obtain ⟨k, w⟩ := f
      rcases List.mem_cons.mp hf with heq | hf
      · cases heq
        exact ⟨hall.1, hall.2.1⟩
      · exact ih hf hall.2.2

end Value

namespace Schema

/-- A step from a place to one within it. -/
inductive Step where
  | key (name : String)
  /-- To the items of all arrays there. -/
  | item

/-- The values that the merge brings together one step further: all items, or the objects that
stand under a key, or if there are none the arrays. -/
def stepInto (samples : List Value) : Step → List Value
  | .key name => shaped (present name (objects samples))
  | .item => gatheredItems samples

/-- The values that the merge brings together at the end of a path. -/
def gathered (samples : List Value) (path : List Step) : List Value := path.foldl stepInto samples

def OneKind (values : List Value) : Prop := ∀ v ∈ values, ∀ w ∈ values, v.kind = w.kind

instance (values : List Value) : Decidable (OneKind values) :=
  inferInstanceAs (Decidable (∀ v ∈ values, ∀ w ∈ values, v.kind = w.kind))

/-- Wherever arrays come together, all their items are of one kind. -/
def UniformArrays (samples : List Value) : Prop :=
  ∀ path, OneKind (gatheredItems (gathered samples path))

theorem UniformArrays.stepInto {samples : List Value} (h : UniformArrays samples) (step : Step) :
    UniformArrays (stepInto samples step) := fun path => h (step :: path)

theorem UniformArrays.oneKind {samples : List Value} (h : UniformArrays samples) :
    OneKind (gatheredItems samples) := h []

theorem uniformArrays_nil : UniformArrays [] := by
  have hgathered : ∀ path, gathered [] path = [] := by
    intro path
    induction path with
    | nil => rfl
    | cons step path ih => cases step <;> exact ih
  intro path
  rw [hgathered]
  exact nofun

/-- Arrays are uniform if they are so after every step that leads to some value. -/
theorem uniformArrays_of_steps {samples : List Value} (hone : OneKind (gatheredItems samples))
    (hitems : UniformArrays (gatheredItems samples))
    (hkeys : ∀ key ∈ keys (objects samples),
      UniformArrays (shaped (present key (objects samples)))) : UniformArrays samples := by
  intro path
  match path with
  | [] => exact hone
  | .item :: path => exact hitems path
  | .key key :: path =>
    by_cases hkey : key ∈ keys (objects samples)
    · exact hkeys key hkey path
    · have hpresent : present key (objects samples) = [] := by
        apply List.eq_nil_iff_forall_not_mem.mpr
        intro v hv
        apply hkey
        obtain ⟨⟨fields, hf, hv⟩, -⟩ := mem_present.mp hv
        refine List.mem_eraseDups.mpr (List.mem_flatMap.mpr ⟨fields, hf, ?_⟩)
        exact lookup_isSome_iff_mem.mp (Option.isSome_of_eq_some hv)
      have hstep : Schema.stepInto samples (.key key) = [] := by
        rw [Schema.stepInto, hpresent]
        rfl
      change OneKind (gatheredItems (gathered (Schema.stepInto samples (.key key)) path))
      rw [hstep]
      exact uniformArrays_nil path

theorem oneKind_of_kinds_length {values : List Value}
    (h : (values.map Value.kind).eraseDups.length ≤ 1) : OneKind values := by
  have hmem : ∀ v ∈ values, v.kind ∈ (values.map Value.kind).eraseDups := fun v hv =>
    List.mem_eraseDups.mpr (List.mem_map_of_mem hv)
  intro v hv w hw
  have hv := hmem v hv
  have hw := hmem w hw
  match hk : (values.map Value.kind).eraseDups with
  | [] => rw [hk] at hv; cases hv
  | [k] =>
    rw [hk] at hv hw
    rw [List.mem_singleton.mp hv, List.mem_singleton.mp hw]
  | _ :: _ :: _ => rw [hk] at h; simp at h

/-- Of values of one kind all are merged, if any are. -/
theorem shaped_of_oneKind {values : List Value} (h : OneKind values) (hne : shaped values ≠ []) :
    shaped values = values := by
  obtain ⟨v, hv⟩ := List.exists_mem_of_ne_nil _ hne
  have hmem := mem_of_mem_shaped hv
  unfold shaped at hv ⊢
  split at hv
  · rename_i hobjects
    have hkind : v.kind = .array := of_decide_eq_true (List.mem_filter.mp hv).2
    apply List.filter_eq_self.mpr
    intro w hw
    exact decide_eq_true ((h w hw v hmem).trans hkind)
  · have hkind : v.kind = .object := of_decide_eq_true (List.mem_filter.mp hv).2
    apply List.filter_eq_self.mpr
    intro w hw
    exact decide_eq_true ((h w hw v hmem).trans hkind)

/-! ## What holds of all values at a place -/

def IsPlain (p : String → Prop) (v : Value) : Prop := v.isNormal ∧ v.EveryKey p

variable {p : String → Prop} {samples : List Value}

theorem isPlain_of_mem_gatheredItems (h : ∀ v ∈ samples, IsPlain p v) {v : Value}
    (hv : v ∈ gatheredItems samples) : IsPlain p v := by
  obtain ⟨w, hw, hv⟩ := List.mem_flatMap.mp hv
  obtain ⟨vs, rfl, hvs⟩ := mem_items hv
  have hplain := h _ hw
  exact ⟨Value.isNormal_item hplain.1 hvs, hplain.2.item hvs⟩

theorem isPlain_of_lookup (h : ∀ v ∈ samples, IsPlain p v) {fields : List (String × Value)}
    (hf : fields ∈ objects samples) {key : String} {v : Value} (hv : fields.lookup key = some v) :
    p key ∧ IsPlain p v := by
  obtain ⟨w, hw, hfields⟩ := mem_objects.mp hf
  obtain rfl := fields?_of_isNormal (h w hw).1 hfields
  have hmem := mem_of_lookup hv
  have hplain := h _ hw
  have hkey := hplain.2.field hmem
  exact ⟨hkey.1, Value.isNormal_field hplain.1 hmem, hkey.2⟩

end Schema

end TypeDraft
