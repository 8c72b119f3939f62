import TypeDraft.Proofs.Schema.Correspondence
import TypeDraft.Proofs.Schema.Pattern
import TypeDraft.Proofs.Value.Agreement

/-!
# Samples that are seen again

A sample that agrees with one seen before brings nothing new to any place of the schema. It only adds
to the values there, so strings may come to be repeated often enough to count as an enumeration.
-/

namespace TypeDraft

/-- The same facts on a field in which more values were seen, all of them known. -/
structure Facts.IsRepeated (facts facts' : Facts) : Prop where
  isOptional : facts.isOptional = facts'.isOptional
  isUnion : facts.isUnion = facts'.isUnion
  kinds : facts.kinds = facts'.kinds
  values : facts.values <+: facts'.values
  distinct : facts.distinct = facts'.distinct
  pattern : facts.pattern = facts'.pattern
  isEnum : facts.isEnum = true → facts'.isEnum = true

namespace Schema

open Value (Agrees)

/-- Two schemas are the same, fields in their order, but for further values of what is known and for
the enumerations that these make. -/
def IsRepeated : Schema → Schema → Prop := Corresponds Eq Facts.IsRepeated

/-! ## Different values -/

theorem mem_of_mem_distinctValues {values : List Value} {v : Value} (h : v ∈ distinctValues values) :
    v ∈ values := by
  induction values using List.reverseRecOn with
  | nil => cases h
  | append_singleton values w ih =>
      rw [distinctValues_concat] at h
      split at h
      · exact List.mem_append_left _ (ih h)
      · exact (List.mem_append.mp h).elim (fun h => List.mem_append_left _ (ih h))
          (List.mem_append_right _)

theorem exists_alike_of_mem {values : List Value} (hn : ∀ v ∈ values, v.isNormal) {v : Value}
    (hv : v ∈ values) : ∃ u ∈ distinctValues values, u.alike v = true := by
  induction values using List.reverseRecOn with
  | nil => cases hv
  | append_singleton values w ih =>
      rw [distinctValues_concat]
      rcases List.mem_append.mp hv with hv | hv
      · obtain ⟨u, hu, halike⟩ := ih (fun v hv => hn v (List.mem_append_left _ hv)) hv
        refine ⟨u, ?_, halike⟩
        split
        · exact hu
        · exact List.mem_append_left _ hu
      · obtain rfl := List.mem_singleton.mp hv
        split
        · next hany => exact List.any_eq_true.mp hany
        · exact ⟨v, List.mem_append_right _ hv, Value.alike_self (hn v (by simp))⟩

/-! ## Lists with known values behind -/

/-- A list of normal values continued by values that agree with one in it. -/
structure SeenAgain (values more : List Value) : Prop where
  normal : ∀ v ∈ values, v.isNormal
  normal_more : ∀ w ∈ more, w.isNormal
  agrees : ∀ w ∈ more, ∃ v ∈ values, v.Agrees w

variable {samples values more : List Value}

theorem SeenAgain.kinds (h : SeenAgain values more) :
    ((values ++ more).map Value.kind).eraseDups = (values.map Value.kind).eraseDups := by
  rw [List.map_append]
  apply eraseDups_append_of_subset
  intro k hk
  obtain ⟨w, hw, rfl⟩ := List.mem_map.mp hk
  obtain ⟨v, hv, hagrees⟩ := h.agrees w hw
  rw [← hagrees.kind_eq]
  exact List.mem_map_of_mem hv

theorem SeenAgain.strings (h : SeenAgain values more) : stringsOf more ⊆ stringsOf values := by
  intro s hs
  rw [mem_stringsOf] at hs ⊢
  obtain ⟨v, hv, hagrees⟩ := h.agrees _ hs
  rwa [← hagrees.eq_str]

theorem SeenAgain.distinct (h : SeenAgain values more) :
    distinctValues (values ++ more) = distinctValues values := by
  induction more using List.reverseRecOn with
  | nil => rw [List.append_nil]
  | append_singleton more w ih =>
      have hold : SeenAgain values more := {
        normal := h.normal
        normal_more := fun w hw => h.normal_more w (List.mem_append_left _ hw)
        agrees := fun w hw => h.agrees w (List.mem_append_left _ hw) }
      have hw : w ∈ more ++ [w] := by simp
      obtain ⟨v, hv, hagrees⟩ := h.agrees w hw
      obtain ⟨u, hu, halike⟩ := exists_alike_of_mem h.normal hv
      have hun := h.normal u (mem_of_mem_distinctValues hu)
      have hknown := hagrees.alike_right (h.normal v hv) (h.normal_more w hw) hun halike
      rw [← List.append_assoc, distinctValues_concat, ih hold,
        if_pos (List.any_eq_true.mpr ⟨u, hu, hknown⟩)]

theorem isEnumeration_append {strings again : List String} (hsub : again ⊆ strings)
    (h : isEnumeration strings = true) : isEnumeration (strings ++ again) = true := by
  rw [isEnumeration] at h ⊢
  rw [eraseDups_append_of_subset hsub, List.length_append]
  simp only [Bool.and_eq_true, decide_eq_true_eq] at h ⊢
  omega

theorem SeenAgain.isRepeated_factsOf (h : SeenAgain values more) {total total' : Nat}
    (htotal : values.length < total ↔ (values ++ more).length < total') :
    (factsOf total values).IsRepeated (factsOf total' (values ++ more)) := by
  have hkinds := h.kinds
  refine {
    isOptional := decide_eq_decide.mpr htotal
    isUnion := by simp only [factsOf, hkinds]
    kinds := hkinds.symm
    values := List.prefix_append _ _
    distinct := h.distinct.symm
    pattern := ?_
    isEnum := ?_ }
  all_goals
    simp only [factsOf, hkinds, stringsOf_append]
    split
  · apply StringPattern.shared?_congr
    intro s
    rw [List.mem_append, or_iff_left_of_imp fun hs => h.strings hs]
  · rfl
  · exact isEnumeration_append h.strings
  · exact id

/-! ## What is gathered from known samples -/

theorem SeenAgain.filter (h : SeenAgain values more) (k : Kind) :
    SeenAgain (values.filter fun v => v.kind = k) (more.filter fun v => v.kind = k) where
  normal v hv := h.normal v (List.mem_filter.mp hv).1
  normal_more w hw := h.normal_more w (List.mem_filter.mp hw).1
  agrees w hw := by
    obtain ⟨hw, hk⟩ := List.mem_filter.mp hw
    obtain ⟨v, hv, hagrees⟩ := h.agrees w hw
    exact ⟨v, List.mem_filter.mpr ⟨hv, by rwa [hagrees.kind_eq]⟩, hagrees⟩

theorem SeenAgain.shaped (h : SeenAgain values more) :
    ∃ more', shaped (values ++ more) = shaped values ++ more' ∧ SeenAgain (shaped values) more' := by
  by_cases hobject : ∃ v ∈ values, v.kind = .object
  · have hobject' : ∃ v ∈ values ++ more, v.kind = .object := by
      obtain ⟨v, hv, hk⟩ := hobject
      exact ⟨v, List.mem_append_left _ hv, hk⟩
    rw [shaped_eq_objects hobject, shaped_eq_objects hobject', List.filter_append]
    exact ⟨_, rfl, h.filter .object⟩
  · push Not at hobject
    have hobject' : ∀ v ∈ values ++ more, v.kind ≠ .object := by
      intro w hw
      rcases List.mem_append.mp hw with hw | hw
      · exact hobject w hw
      · obtain ⟨v, hv, hagrees⟩ := h.agrees w hw
        rw [← hagrees.kind_eq]
        exact hobject v hv
    rw [shaped_eq_arrays hobject, shaped_eq_arrays hobject', List.filter_append]
    exact ⟨_, rfl, h.filter .array⟩

theorem SeenAgain.gatheredItems (h : SeenAgain samples more) :
    SeenAgain (gatheredItems samples) (gatheredItems more) where
  normal _ := isNormal_of_mem_gatheredItems h.normal
  normal_more _ := isNormal_of_mem_gatheredItems h.normal_more
  agrees w hw := by
    obtain ⟨sample, hsample, hw⟩ := List.mem_flatMap.mp hw
    obtain ⟨ws, rfl, hws⟩ := mem_items hw
    obtain ⟨v, hv, hagrees⟩ := h.agrees _ hsample
    obtain ⟨vs, rfl, hitems⟩ := hagrees.exists_arr
    obtain ⟨u, hu, huw⟩ := hitems w hws
    exact ⟨u, List.mem_flatMap.mpr ⟨.arr vs, hv, hu⟩, huw⟩

/-- An object among known samples has the keys of one seen before and what agrees under each. -/
theorem SeenAgain.object (h : SeenAgain samples more) {gs : List (String × Value)}
    (hgs : gs ∈ objects more) :
    ∃ fs ∈ objects samples, (∀ key, (fs.lookup key).isSome = (gs.lookup key).isSome) ∧
      ∀ key w, gs.lookup key = some w → ∃ u, fs.lookup key = some u ∧ u.Agrees w := by
  obtain ⟨sample, hsample, hfields⟩ := mem_objects.mp hgs
  obtain rfl := fields?_of_isNormal (h.normal_more sample hsample) hfields
  obtain ⟨v, hv, hagrees⟩ := h.agrees _ hsample
  obtain ⟨fs, rfl, hkeys, hlookup⟩ := hagrees.exists_obj
  exact ⟨fs, mem_objects.mpr ⟨.obj fs, hv, rfl⟩, hkeys, hlookup⟩

theorem SeenAgain.present (h : SeenAgain samples more) (key : String) :
    SeenAgain (present key (objects samples)) (present key (objects more)) where
  normal _ := isNormal_of_mem_present h.normal
  normal_more _ := isNormal_of_mem_present h.normal_more
  agrees w hw := by
    obtain ⟨⟨gs, hgs, hlookup⟩, hkind⟩ := mem_present.mp hw
    obtain ⟨fs, hfs, -, hfields⟩ := h.object hgs
    obtain ⟨u, hu, hagrees⟩ := hfields key w hlookup
    exact ⟨u, mem_present.mpr ⟨⟨fs, hfs, hu⟩, by rwa [hagrees.kind_eq]⟩, hagrees⟩

theorem SeenAgain.keys (h : SeenAgain samples more) :
    keys (objects (samples ++ more)) = keys (objects samples) := by
  rw [objects_append, Schema.keys, List.flatMap_append]
  apply eraseDups_append_of_subset
  intro key hkey
  obtain ⟨gs, hgs, hkey⟩ := List.mem_flatMap.mp hkey
  obtain ⟨fs, hfs, hkeys, -⟩ := h.object hgs
  rw [← lookup_isSome_iff_mem, ← hkeys, lookup_isSome_iff_mem] at hkey
  exact List.mem_flatMap.mpr ⟨fs, hfs, hkey⟩

/-- A known sample leaves no gap where there was none. -/
theorem SeenAgain.length_present_lt (h : SeenAgain samples more) (key : String) :
    (Schema.present key (objects samples)).length < (objects samples).length ↔
      (Schema.present key (objects (samples ++ more))).length < (objects (samples ++ more)).length := by
  rw [objects_append, present_eq_valuesUnder, present_eq_valuesUnder, length_valuesUnder_lt_iff,
    length_valuesUnder_lt_iff]
  constructor
  · rintro ⟨fs, hfs, hnull⟩
    exact ⟨fs, List.mem_append_left _ hfs, hnull⟩
  · rintro ⟨gs, hgs, hnull⟩
    rcases List.mem_append.mp hgs with hgs | hgs
    · exact ⟨gs, hgs, hnull⟩
    obtain ⟨fs, hfs, hkeys, hfields⟩ := h.object hgs
    refine ⟨fs, hfs, fun v hv => ?_⟩
    obtain ⟨w, hw⟩ : ∃ w, gs.lookup key = some w := by
      rw [← Option.isSome_iff_exists, ← hkeys, hv]
      rfl
    obtain ⟨u, hu, hagrees⟩ := hfields key w hw
    obtain rfl := hnull w hw
    rw [← hagrees.eq_null]
    exact Option.some.inj (hv.symm.trans hu)

/-! ## The merge of known samples -/

/-- Samples, and these with known samples behind. -/
def IsContinued (samples samples' : List Value) : Prop :=
  ∃ more, samples' = samples ++ more ∧ SeenAgain samples more

theorem isKept_isContinued : IsKept Eq Facts.IsRepeated IsContinued where
  head := by
    rintro samples _ ⟨more, rfl, h⟩
    cases samples with
    | cons v vs => rfl
    | nil =>
        have hnil : more = [] := List.eq_nil_iff_forall_not_mem.mpr fun w hw => by
          obtain ⟨v, hv, -⟩ := h.agrees w hw
          cases hv
        rw [hnil]
        rfl
  items := by
    rintro samples _ ⟨more, rfl, h⟩
    exact ⟨_, gatheredItems_append _ _, h.gatheredItems⟩
  nested := by
    rintro samples _ ⟨more, rfl, h⟩ key
    rw [objects_append, present_append]
    exact (h.present key).shaped
  fields := by
    rintro samples _ ⟨more, rfl, h⟩ f
    rw [h.keys]
  facts := by
    rintro samples _ ⟨more, rfl, h⟩ key
    have htotal := h.length_present_lt key
    rw [objects_append, present_append] at htotal ⊢
    exact (h.present key).isRepeated_factsOf htotal

/-- Samples that are seen again only add values to the schema and may make enumerations of what was
none, and whether there is a schema does not hang on them. -/
theorem analyze_seenAgain {primary : Value} {extras again : List Value}
    (hn : ∀ v ∈ primary :: extras, v.isNormal) (hnagain : ∀ w ∈ again, w.isNormal)
    (hagain : ∀ w ∈ again, ∃ v ∈ primary :: extras, v.Agrees w) :
    ((∀ v ∈ primary :: extras, v.tooDeepFor analysisCost = false) →
      ∃ s, analyze primary extras = .ok s) ∧
    (∀ s, analyze primary extras = .ok s →
      ∃ s', analyze primary (extras ++ again) = .ok s' ∧ IsRepeated s s') ∧
    ∀ e, analyze primary extras = .error e → analyze primary (extras ++ again) = .error e := by
  have hn' : ∀ v ∈ primary :: (extras ++ again), v.isNormal := by
    rw [← List.cons_append]
    exact List.forall_mem_append.mpr ⟨hn, hnagain⟩
  have hcontinued : IsContinued (primary :: extras) (primary :: (extras ++ again)) :=
    ⟨again, rfl, hn, hnagain, hagain⟩
  refine ⟨fun hdeep => ⟨_, analyze_eq_ok hn hdeep⟩, ?_⟩
  exact isKept_isContinued.analyze_corresponds (fun _ _ h => h ▸ List.Perm.refl _) hcontinued hn hn'

/-- The first sample is seen again with its fields in another order and a number in another form. -/
theorem analyze_seenAgain_twice :
    let first : Value := .obj [("state", .str "on"), ("level", .int 1)]
    let second : Value := .obj [("state", .str "off"), ("level", .null)]
    let again : Value := .obj [("level", .float ⟨0x3ff0000000000000⟩), ("state", .str "on")]
    first.Agrees again ∧
      ∃ s s', analyze first [second] = .ok s ∧ analyze first [second, second, again] = .ok s' ∧
        IsRepeated s s' := by
  intro first second again
  have hlevel : (Value.int 1).Agrees (.float ⟨0x3ff0000000000000⟩) :=
    .number rfl rfl (by decide)
  have hagain : first.Agrees again := by
    refine .obj (fun key => ?_) fun key v w hv hw => ?_
    · rw [Bool.eq_iff_iff, lookup_isSome_iff_mem, lookup_isSome_iff_mem]
      simp [or_comm]
    · have hv := mem_of_lookup hv
      have hw := mem_of_lookup hw
      simp only [List.mem_cons, Prod.mk.injEq, List.not_mem_nil, or_false] at hv hw
      rcases hv with ⟨rfl, rfl⟩ | ⟨rfl, rfl⟩ <;> rcases hw with ⟨hkey, rfl⟩ | ⟨hkey, rfl⟩
      · exact absurd hkey (by decide)
      · exact .str "on"
      · exact hlevel
      · exact absurd hkey (by decide)
  have hall : ∀ w ∈ [second, again], ∃ v ∈ [first, second], v.Agrees w := by
    intro w hw
    rcases List.mem_pair.mp hw with rfl | rfl
    · exact ⟨second, by simp, .refl rfl⟩
    · exact ⟨first, by simp, hagain⟩
  obtain ⟨hok, hrepeated, -⟩ := analyze_seenAgain (by decide) (by decide) hall
  obtain ⟨s, hs⟩ := hok (by decide)
  obtain ⟨s', hs', hsame⟩ := hrepeated s hs
  exact ⟨hagain, s, s', hs, hs', hsame⟩

end Schema

end TypeDraft
