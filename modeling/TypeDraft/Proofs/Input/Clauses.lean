import TypeDraft.Input.Parse
import TypeDraft.Proofs.Except
import TypeDraft.Proofs.Json.Writing

/-!
# What the parsers catch

Whatever stops the reading of JSON is an error of a value or of too many open steps, and what stops
another reader is given the name of its format at last. So no error gets past the parsers but those
that name a format, and all formats are read in one way: by their own reader, or else as repaired
JSON.
-/

namespace TypeDraft

variable {format : InputFormat} {cs : List Char} {v w : Value} {e : LoadError}

/-! ## Reader and normalization -/

theorem load_of_raw (h : rawValue format cs = .ok v) :
    load format cs = v.normalTree.mapError .normal := by
  rw [load, h]
  rfl

theorem load_of_raw_error (h : rawValue format cs = .error e) : load format cs = .error e := by
  rw [load, h]
  rfl

theorem load_eq_ok_iff_raw : load format cs = .ok w ↔
    ∃ u, rawValue format cs = .ok u ∧ u.hasKeyTexts = true ∧ u.levels ≤ Value.normalLimit ∧
      u.normalize = w := by
  rw [load, bind_eq_ok]
  simp only [mapError_eq_ok, Value.normalTree_eq_ok]

/-- A normal value that a reader delivers is read as it is unless it is too deep. -/
theorem load_of_normal (h : rawValue format cs = .ok v) (hnormal : v.isNormal = true) :
    load format cs =
      if v.levels ≤ Value.normalLimit then .ok v else .error (.normal .tooDeep) := by
  rw [load_of_raw h, Value.normalTree_of_isNormal hnormal]
  split <;> rfl

theorem rawValue_json_eq_ok : rawValue .json cs = .ok v ↔ Json.decode cs = .ok v := mapError_eq_ok

theorem load_json_of_decode (h : Json.decode cs = .ok v) :
    load .json cs =
      if v.levels ≤ Value.normalLimit then .ok v else .error (.normal .tooDeep) :=
  load_of_normal (rawValue_json_eq_ok.mpr h) (Json.isNormal_of_decode h)

theorem load_json_eq_ok :
    load .json cs = .ok v ↔ Json.decode cs = .ok v ∧ v.levels ≤ Value.normalLimit := by
  rw [load_eq_ok_iff_raw]
  constructor
  · rintro ⟨u, hraw, -, hlevels, rfl⟩
    have hdecode := rawValue_json_eq_ok.mp hraw
    rw [Value.normalize_of_isNormal u (Json.isNormal_of_decode hdecode)]
    exact ⟨hdecode, hlevels⟩
  · rintro ⟨hdecode, hlevels⟩
    have hnormal := Json.isNormal_of_decode hdecode
    exact ⟨v, rawValue_json_eq_ok.mpr hdecode, Value.hasKeyTexts_of_isNormal v hnormal, hlevels,
      Value.normalize_of_isNormal v hnormal⟩

/-! ## The clauses -/

/-- Nothing else stops the reading of JSON. -/
theorem isOfValueOrNesting_of_load_json (h : load .json cs = .error e) :
    e.isOfValueOrNesting = true := by
  cases hdecode : Json.decode cs with
  | ok u =>
      rw [load_json_of_decode hdecode] at h
      split at h
      · cases h
      · cases h
        rfl
  | error d =>
      have hraw : rawValue .json cs = .error (.json d) := by
        rw [rawValue, hdecode]
        rfl
      rw [load_of_raw_error hraw] at h
      cases h
      cases d <;> rfl

variable {text : String}

theorem orRepaired_eq (text : String) (failed : ParseError) :
    orRepaired text failed =
      match loadRepaired text.toList with
      | .ok v => .ok { data := v, format := .json, text, repaired := true }
      | .error repair => .error (.parse { failed with repair := some repair }) := by
  rw [orRepaired]
  cases hrepaired : loadRepaired text.toList with
  | ok v => rfl
  | error repair => exact if_pos (isOfValueOrNesting_of_load_json hrepaired)

theorem parseJson_eq (text : String) :
    parseJson text =
      match load .json text.toList with
      | .ok v => .ok { data := v, format := .json, text }
      | .error cause => orRepaired text { format := .json, cause } := by
  rw [parseJson]
  cases hload : load .json text.toList with
  | ok v => rfl
  | error cause => exact if_pos (isOfValueOrNesting_of_load_json hload)

theorem parseOwn_eq (format : InputFormat) (text : String) :
    parseOwn format text =
      match load format text.toList with
      | .ok v => .ok { data := v, format, text }
      | .error cause => .error (.parse { format, cause }) := by
  rw [parseOwn]
  cases load format text.toList with
  | ok v => rfl
  | error cause =>
      rw [Except.mapError, LoadError.raised]
      cases cause.namesFormat <;> rfl

theorem parseOwn_of_normal (h : rawValue format text.toList = .ok v) (hnormal : v.isNormal = true) :
    parseOwn format text =
      if v.levels ≤ Value.normalLimit then .ok { data := v, format, text }
      else .error (.parse { format, cause := .normal .tooDeep }) := by
  rw [parseOwn_eq, load_of_normal h hnormal]
  split_ifs <;> rfl

theorem parseOwn_of_raw_error (h : rawValue format text.toList = .error e) :
    parseOwn format text = .error (.parse { format, cause := e }) := by
  rw [parseOwn_eq, load_of_raw_error h]

/-- All formats are read in one way. -/
theorem parse_eq (format : Option InputFormat) (text : String) :
    parse format text =
      match load (format.getD (detectFormat text.toList)) text.toList with
      | .ok v => .ok { data := v, format := format.getD (detectFormat text.toList), text }
      | .error cause =>
        orRepaired text { format := format.getD (detectFormat text.toList), cause } := by
  rw [parse]
  generalize format.getD (detectFormat text.toList) = f
  cases f with
  | json => exact parseJson_eq text
  | _ =>
      simp only [parseOwn_eq]
      cases load _ text.toList <;> rfl

theorem parse_of_load (format : Option InputFormat)
    (h : load (format.getD (detectFormat text.toList)) text.toList = .ok v) :
    parse format text =
      .ok { data := v, format := format.getD (detectFormat text.toList), text } := by
  simp only [parse_eq, h]

theorem parse_of_load_error (format : Option InputFormat)
    (h : load (format.getD (detectFormat text.toList)) text.toList = .error e) :
    parse format text =
      orRepaired text { format := format.getD (detectFormat text.toList), cause := e } := by
  simp only [parse_eq, h]

theorem parse_of_normal (format : Option InputFormat)
    (h : rawValue (format.getD (detectFormat text.toList)) text.toList = .ok v)
    (hnormal : v.isNormal = true) :
    parse format text =
      if v.levels ≤ Value.normalLimit then
        .ok { data := v, format := format.getD (detectFormat text.toList), text }
      else orRepaired text
        { format := format.getD (detectFormat text.toList), cause := .normal .tooDeep } := by
  rw [parse_eq, load_of_normal h hnormal]
  split_ifs <;> rfl

end TypeDraft
