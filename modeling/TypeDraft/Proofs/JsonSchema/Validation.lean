import TypeDraft.JsonSchema
import TypeDraft.Proofs.Value.Fields

/-!
# What a schema document admits

`validates` reads the keywords `type`, `items`, `properties`, `required` and
`additionalProperties` of a document as draft 2020-12 defines them; keywords that only describe
are passed over. `Matches` says on the values alone when one has the form of another. A document
made from a value admits exactly the values that match it.
-/

namespace TypeDraft

namespace JsonSchema

open Value (kind isNormal isNormal_item isNormal_field nodup_keys)

/-! ## Validation -/

/-- Whether a value is of the type that a name stands for; the whole numbers are a type too. -/
def isOfType (name : String) (w : Value) : Bool :=
  w.kind.name == name || (name == "integer" && w.isIntegral)

/-- The meaning of `type`: one name, or several of which one has to fit. -/
def fitsType (w : Value) : Value → Bool
  | .str name => isOfType name w
  | .arr names => names.any fun name =>
      match name with
      | .str name => isOfType name w
      | _ => false
  | _ => true

/-- The meaning of `required` for an object. -/
def hasRequired (fields : List (String × Value)) : Value → Bool
  | .arr names => names.all fun name =>
      match name with
      | .str name => (fields.lookup name).isSome
      | _ => false
  | _ => true

/-- The keys that `properties` names among some keywords. -/
def namedKeys (keywords : List (String × Value)) : List String :=
  match keywords.lookup "properties" with
  | some (.obj properties) => properties.map Prod.fst
  | _ => []

mutual

/-- Whether a document admits a value. -/
def validates : (schema : Value) → Value → Bool
  | .bool b, _ => b
  | .obj keywords, w => satisfiesAll (namedKeys keywords) keywords w
  | _, _ => false
termination_by structural schema => schema

/-- Whether a value satisfies each of some keywords; `named` are the keys that `properties` names
beside them. -/
def satisfiesAll (named : List String) : (keywords : List (String × Value)) → Value → Bool
  | [], _ => true
  | (keyword, s) :: keywords, w =>
    (if keyword = "type" then fitsType w s
      else if keyword = "items" then
        match w with
        | .arr items => items.all fun v => validates s v
        | _ => true
      else if keyword = "properties" then
        match s, w with
        | .obj properties, .obj fields => satisfiesProperties properties fields
        | _, _ => true
      else if keyword = "required" then
        match w with
        | .obj fields => hasRequired fields s
        | _ => true
      else if keyword = "additionalProperties" then
        match w with
        | .obj fields => fields.all fun f => named.contains f.1 || validates s f.2
        | _ => true
      else true) && satisfiesAll named keywords w
termination_by structural keywords => keywords

/-- Whether each field is admitted by the property of its key, if there is one. -/
def satisfiesProperties : (properties : List (String × Value)) → List (String × Value) → Bool
  | [], _ => true
  | (key, s) :: properties, fields =>
    (match fields.lookup key with
      | some v => validates s v
      | none => true) && satisfiesProperties properties fields
termination_by structural properties => properties

end

/-! ## Matching -/

/-- Whether a value has the form of another, which comes second: they are of one kind; the items of
an array all match the first item of the other array, if that has one; and objects have the same
keys with values that match. -/
inductive Matches : Value → Value → Prop where
  | plain {w v : Value} (harr : v.kind ≠ .array) (hobj : v.kind ≠ .object)
      (hkind : w.kind = v.kind) : Matches w v
  | array {ws vs : List Value} (hitems : ∀ first ∈ vs.head?, ∀ w ∈ ws, Matches w first) :
      Matches (.arr ws) (.arr vs)
  | object {ws vs : List (String × Value)}
      (hkeys : ∀ key, key ∈ ws.map Prod.fst ↔ key ∈ vs.map Prod.fst)
      (hfields : ∀ key w v, (key, w) ∈ ws → (key, v) ∈ vs → Matches w v) :
      Matches (.obj ws) (.obj vs)

/-- The values that are found in a value by going to the values of objects and to the first items
of arrays. -/
inductive Reaches : Value → Value → Prop where
  | refl (v : Value) : Reaches v v
  | field {fields : List (String × Value)} {key : String} {v u : Value}
      (hm : (key, v) ∈ fields) (h : Reaches v u) : Reaches (.obj fields) u
  | first {v u : Value} {vs : List Value} (h : Reaches v u) : Reaches (.arr (v :: vs)) u

/-! ## Keywords one by one -/

theorem isOfType_name_iff {k : Kind} {w : Value} : isOfType k.name w ↔ w.kind = k := by
  have hk : k.name ≠ "integer" := by
    cases k with
    | foreign f => cases f <;> simp [Kind.name, Foreign.name]
    | _ => simp [Kind.name]
  simp [isOfType, hk, kind_name_inj]

theorem validates_type_iff {k : Kind} {w : Value} :
    validates (.obj (keywords (.type k))) w ↔ w.kind = k := by
  simp [keywords, validates, satisfiesAll, fitsType, isOfType_name_iff]

theorem validates_array_iff {items : JsonSchema} {w : Value} :
    validates (.obj (keywords (.array items))) w ↔
      ∃ ws, w = .arr ws ∧ ∀ x ∈ ws, validates (.obj (keywords items)) x := by
  have htype : isOfType "array" w ↔ w.kind = .array := isOfType_name_iff (k := .array)
  cases w <;> simp [keywords, validates, satisfiesAll, fitsType, htype, kind]

theorem namedKeys_object (properties : List (String × JsonSchema)) (required : List String)
    (additional : Bool) :
    namedKeys (keywords (.object properties required additional)) =
      (propertyValues properties).map Prod.fst := rfl

theorem validates_object_iff {properties : List (String × JsonSchema)} {required : List String}
    {w : Value} (hw : w.isNormal) :
    validates (.obj (keywords (.object properties required false))) w ↔
      ∃ fields, w = .obj fields ∧ satisfiesProperties (propertyValues properties) fields ∧
        (∀ key ∈ required, key ∈ fields.map Prod.fst) ∧
          ∀ key ∈ fields.map Prod.fst, key ∈ (propertyValues properties).map Prod.fst := by
  have htype : isOfType "object" w ↔ w.kind = .object := isOfType_name_iff (k := .object)
  rw [validates, namedKeys_object]
  cases w <;> simp [keywords, satisfiesAll, fitsType, htype, kind, hasRequired, validates]
  simp [isNormal] at hw

theorem satisfiesProperties_cons_iff {key : String} {s : Value}
    {properties fields : List (String × Value)} :
    satisfiesProperties ((key, s) :: properties) fields ↔
      (∀ w, fields.lookup key = some w → validates s w) ∧ satisfiesProperties properties fields := by
  rw [satisfiesProperties]
  cases fields.lookup key <;> simp

/-! ## Documents made from values -/

theorem matches_plain_iff {v w : Value} (harr : v.kind ≠ .array) (hobj : v.kind ≠ .object) :
    Matches w v ↔ w.kind = v.kind := by
  constructor
  · intro h
    cases h with
    | plain _ _ hkind => exact hkind
    | array => simp [kind] at harr
    | object => simp [kind] at hobj
  · exact .plain harr hobj

theorem matches_array_iff {vs : List Value} {w : Value} :
    Matches w (.arr vs) ↔ ∃ ws, w = .arr ws ∧ ∀ first ∈ vs.head?, ∀ x ∈ ws, Matches x first := by
  constructor
  · intro h
    cases h with
    | plain harr => simp [kind] at harr
    | array hitems => exact ⟨_, rfl, hitems⟩
  · rintro ⟨ws, rfl, hitems⟩
    exact .array hitems

theorem matches_object_iff {vs : List (String × Value)} {w : Value} :
    Matches w (.obj vs) ↔
      ∃ ws, w = .obj ws ∧ (∀ key, key ∈ ws.map Prod.fst ↔ key ∈ vs.map Prod.fst) ∧
        ∀ key x v, (key, x) ∈ ws → (key, v) ∈ vs → Matches x v := by
  constructor
  · intro h
    cases h with
    | plain _ hobj => simp [kind] at hobj
    | object hkeys hfields => exact ⟨_, rfl, hkeys, hfields⟩
  · rintro ⟨ws, rfl, hkeys, hfields⟩
    exact .object hkeys hfields

theorem keys_propertyValues_ofFields (fields : List (String × Value)) :
    (propertyValues (ofFields fields)).map Prod.fst = fields.map Prod.fst := by
  induction fields with
  | nil => rfl
  | cons f fields ih => simpa [ofFields, propertyValues] using ih

mutual

/-- The document of a value admits exactly what matches the value. The induction is on the value
that the document is made from. -/
theorem validates_ofValue_iff : {v w : Value} → v.isNormal → w.isNormal →
    (validates (.obj (keywords (ofValue v))) w ↔ Matches w v)
  | .arr [], w, _, hw => by
    rw [ofValue, ofItems, validates_array_iff, matches_array_iff]
    simp [keywords, validates, satisfiesAll]
  | .arr (v :: vs), w, hv, hw => by
    rw [ofValue, ofItems, validates_array_iff, matches_array_iff]
    have hfirst : v.isNormal := isNormal_item hv List.mem_cons_self
    apply exists_congr
    intro ws
    apply and_congr_right
    rintro rfl
    simp only [List.head?_cons, Option.mem_some, forall_eq']
    exact forall₂_congr fun x hx => validates_ofValue_iff hfirst (isNormal_item hw hx)
  | .obj fields, w, hv, hw => by
    rw [ofValue, validates_object_iff hw, matches_object_iff]
    apply exists_congr
    intro gs
    apply and_congr_right
    rintro rfl
    rw [isNormal, Bool.and_eq_true] at hv
    rw [satisfiesProperties_ofFields_iff hw hv.2, keys_propertyValues_ofFields]
    constructor
    · rintro ⟨hfields, hrequired, hnamed⟩
      exact ⟨fun key => ⟨hnamed key, hrequired key⟩, hfields⟩
    · rintro ⟨hkeys, hfields⟩
      exact ⟨hfields, fun key => (hkeys key).mpr, fun key => (hkeys key).mp⟩
  | .null, _, _, _ => validates_type_iff.trans (matches_plain_iff (by simp [kind]) (by simp [kind])).symm
  | .bool _, _, _, _ =>
    validates_type_iff.trans (matches_plain_iff (by simp [kind]) (by simp [kind])).symm
  | .int _, _, _, _ =>
    validates_type_iff.trans (matches_plain_iff (by simp [kind]) (by simp [kind])).symm
  | .float _, _, _, _ =>
    validates_type_iff.trans (matches_plain_iff (by simp [kind]) (by simp [kind])).symm
  | .str _, _, _, _ =>
    validates_type_iff.trans (matches_plain_iff (by simp [kind]) (by simp [kind])).symm

theorem satisfiesProperties_ofFields_iff {gs : List (String × Value)}
    (hgs : (Value.obj gs).isNormal) : {fields : List (String × Value)} →
      Value.areNormalFields fields →
      (satisfiesProperties (propertyValues (ofFields fields)) gs ↔
        ∀ key w v, (key, w) ∈ gs → (key, v) ∈ fields → Matches w v)
  | [], _ => by simp [ofFields, propertyValues, satisfiesProperties]
  | (key, v) :: fields, h => by
    rw [Value.areNormalFields, Bool.and_eq_true] at h
    have hhead : (∀ w, gs.lookup key = some w → validates (.obj (keywords (ofValue v))) w) ↔
        ∀ w, (key, w) ∈ gs → Matches w v := by
      simp only [lookup_eq_some_iff_mem (nodup_keys hgs)]
      exact forall₂_congr fun w hw => validates_ofValue_iff h.1 (isNormal_field hgs hw)
    rw [ofFields, propertyValues, satisfiesProperties_cons_iff, hhead,
      satisfiesProperties_ofFields_iff hgs h.2]
    simp only [List.mem_cons, Prod.mk.injEq]
    constructor
    · rintro ⟨hkey, hrest⟩ k w x hw (⟨rfl, rfl⟩ | hx)
      · exact hkey w hw
      · exact hrest k w x hw hx
    · intro hall
      exact ⟨fun w hw => hall key w v hw (.inl ⟨rfl, rfl⟩),
        fun k w x hw hx => hall k w x hw (.inr hx)⟩

end

/-! ## A value and its own document -/

mutual

theorem matches_self_of_reaches : {v : Value} → v.isNormal →
    (∀ first rest, Reaches v (.arr (first :: rest)) → ∀ x ∈ first :: rest, Matches x first) →
      Matches v v
  | .arr [], _, _ => .array (by simp)
  | .arr (first :: rest), _, h => by
    refine .array fun v hv => ?_
    obtain rfl : first = v := by simpa using hv
    exact h first rest (.refl _)
  | .obj fields, hv, h => by
    have hn := nodup_keys hv
    rw [isNormal, Bool.and_eq_true] at hv
    refine .object (fun _ => Iff.rfl) fun key w v hw hv' => ?_
    obtain rfl : w = v := Option.some.inj
      ((lookup_of_mem hn hw).symm.trans (lookup_of_mem hn hv'))
    exact matches_self_of_reaches_field hv.2 (fun key v hm first rest hr =>
      h first rest (.field hm hr)) hw
  | .null, _, _ => .plain (by simp [kind]) (by simp [kind]) rfl
  | .bool _, _, _ => .plain (by simp [kind]) (by simp [kind]) rfl
  | .int _, _, _ => .plain (by simp [kind]) (by simp [kind]) rfl
  | .float _, _, _ => .plain (by simp [kind]) (by simp [kind]) rfl
  | .str _, _, _ => .plain (by simp [kind]) (by simp [kind]) rfl

theorem matches_self_of_reaches_field : {fields : List (String × Value)} →
    Value.areNormalFields fields →
    (∀ key v, (key, v) ∈ fields → ∀ first rest, Reaches v (.arr (first :: rest)) →
      ∀ x ∈ first :: rest, Matches x first) →
    {key : String} → {v : Value} → (key, v) ∈ fields → Matches v v
  | (k, w) :: fields, hn, h, key, v, hm => by
    rw [Value.areNormalFields, Bool.and_eq_true] at hn
    rcases List.mem_cons.mp hm with heq | hm
    · cases heq
      exact matches_self_of_reaches hn.1 (h k w List.mem_cons_self)
    · exact matches_self_of_reaches_field hn.2
        (fun key v hm => h key v (List.mem_cons_of_mem _ hm)) hm

end

theorem matches_of_reaches {v first : Value} {rest : List Value} (hself : Matches v v)
    (h : Reaches v (.arr (first :: rest))) : ∀ x ∈ first :: rest, Matches x first := by
  generalize hu : Value.arr (first :: rest) = u at h
  induction h with
  | refl v =>
      subst hu
      obtain ⟨ws, hws, hitems⟩ := matches_array_iff.mp hself
      obtain rfl := Value.arr.inj hws
      exact hitems first (by simp)
  | @field fields key v u hm _ ih =>
      obtain ⟨ws, hws, -, hfields⟩ := matches_object_iff.mp hself
      obtain rfl := Value.obj.inj hws
      exact ih (hfields key v v hm hm) hu
  | @first v u vs _ ih =>
      obtain ⟨ws, hws, hitems⟩ := matches_array_iff.mp hself
      obtain rfl := Value.arr.inj hws
      exact ih (hitems v (by simp) v List.mem_cons_self) hu

/-- A value has its own form exactly if the items of every array that is reached have the form of
its first item. -/
theorem matches_self_iff {v : Value} (hv : v.isNormal) :
    Matches v v ↔ ∀ first rest, Reaches v (.arr (first :: rest)) →
      ∀ x ∈ first :: rest, Matches x first :=
  ⟨fun hself _ _ h => matches_of_reaches hself h, matches_self_of_reaches hv⟩

/-- The head of a document only describes, so the document admits what its keywords admit. -/
theorem validates_document (name : String) (s : JsonSchema) (w : Value) :
    validates (document name s) w = validates (.obj (keywords s)) w := by
  have hnamed : namedKeys ([("$schema", .str dialect), ("$id", .str (identifier name)),
      ("title", .str name)] ++ keywords s) = namedKeys (keywords s) := by
    simp [namedKeys, List.lookup_cons]
  rw [document, validates, hnamed, validates]
  simp [satisfiesAll]

/-- The document of a value admits exactly the values that match it, with its head or without; and
it admits the value itself exactly if the items of every array that is reached match the first. -/
theorem document_admits_matching_values {v w : Value} (hv : v.isNormal) (hw : w.isNormal)
    (name : String) :
    (validates (.obj (keywords (ofValue v))) w ↔ Matches w v) ∧
      (validates (document name (ofValue v)) w ↔ Matches w v) ∧
        (validates (.obj (keywords (ofValue v))) v ↔
          ∀ first rest, Reaches v (.arr (first :: rest)) →
            ∀ x ∈ first :: rest, Matches x first) := by
  refine ⟨validates_ofValue_iff hv hw, ?_, ?_⟩
  · rw [validates_document]
    exact validates_ofValue_iff hv hw
  · exact (validates_ofValue_iff hv hv).trans (matches_self_iff hv)

/-- An object with an empty first item admits an array of anything there, whatever the order of the
fields. -/
theorem document_admits_matching_values_reordered :
    let v : Value := .obj [("a", .arr [.arr [], .arr [.int 1]]), ("b", .null)]
    let w : Value := .obj [("b", .null), ("a", .arr [.arr [.str "x"]])]
    v.isNormal ∧ w.isNormal ∧ validates (.obj (keywords (ofValue v))) w ∧ Matches w v := by
  refine ⟨by decide, by decide, by decide, ?_⟩
  exact (document_admits_matching_values (by decide) (by decide) "Root").1.mp (by decide)

/-- A mixed array is not admitted by its own document. -/
example : let v : Value := .arr [.int 1, .str "a"]
    validates (.obj (keywords (ofValue v))) v = false := by decide

end JsonSchema

end TypeDraft
