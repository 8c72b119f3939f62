import TypeDraft.Proofs.Input.Fallback
import TypeDraft.Proofs.Json.Records

/-!
# Outcomes of reading

A text is read by the reader of its format, or else as repaired JSON, or else not at all. Just one
of the three happens to any text, and the result or the failure says which.
-/

namespace TypeDraft

/-- What the reader of a format itself delivers for a text. -/
inductive Delivers : InputFormat → List Char → Value → Prop
  | json {cs : List Char} {v : Value} : Json.decode cs = .ok v → Delivers .json cs v
  | json5 {cs : List Char} {v : Value} : Json5.decode cs = some v → Delivers .json5 cs v
  | yaml {cs : List Char} {v : Value} : Yaml.loadFirst cs = .ok v → Delivers .yaml cs v
  | csv {cs : List Char} {v : Value} : Csv.decode cs = .ok v → Delivers .csv cs v
  | jsonLines {cs : List Char} {vs : List Value} : JsonLines.decode cs = .ok vs →
      Delivers .jsonLines cs (.arr vs)

/-- Whether a text has a value in a format: the normal tree, if it is reached, of what the reader
delivers. -/
def Means (format : InputFormat) (cs : List Char) (v : Value) : Prop :=
  ∃ u, Delivers format cs u ∧ u.hasKeyTexts = true ∧ u.levels ≤ Value.normalLimit ∧ u.normalize = v

theorem rawValue_eq_ok {format : InputFormat} {cs : List Char} {v : Value} :
    rawValue format cs = .ok v ↔ Delivers format cs v := by
  constructor
  · intro h
    cases format with
    | json => exact .json (mapError_eq_ok.mp h)
    | json5 =>
        rw [rawValue] at h
        cases hdecode : Json5.decode cs with
        | none => simp [hdecode] at h
        | some u =>
            rw [hdecode] at h
            exact .json5 (hdecode.trans (congrArg some (Except.ok.inj h)))
    | yaml => exact .yaml (mapError_eq_ok.mp h)
    | csv => exact .csv (mapError_eq_ok.mp h)
    | jsonLines =>
        rw [rawValue, mapError_eq_ok, map_eq_ok] at h
        obtain ⟨vs, hvs, rfl⟩ := h
        exact .jsonLines hvs
  · intro h
    cases h with
    | json h => exact mapError_eq_ok.mpr h
    | json5 h => simp only [rawValue, h]
    | yaml h => exact mapError_eq_ok.mpr h
    | csv h => exact mapError_eq_ok.mpr h
    | jsonLines h => exact mapError_eq_ok.mpr (map_eq_ok.mpr ⟨_, h, rfl⟩)

theorem load_eq_ok {format : InputFormat} {cs : List Char} {v : Value} :
    load format cs = .ok v ↔ Means format cs v := by
  simp only [load_eq_ok_iff_raw, rawValue_eq_ok, Means]

inductive Outcome where
  /-- The reader of the format accepts the text. -/
  | own
  /-- It does not, and the repaired text is read as JSON. -/
  | repaired
  /-- Neither is possible. -/
  | failed
  deriving DecidableEq

/-- What an outcome says about a text and about what comes of reading it in a format. -/
def HasOutcome (format : InputFormat) (text : String) (result : Except Raised ParsedInput) :
    Outcome → Prop
  | .own => ∃ v, Means format text.toList v ∧
      result = .ok { data := v, format, text, repaired := false }
  | .repaired => (∀ v, ¬ Means format text.toList v) ∧
      ∃ v, Means .json (Json.repair text.toList) v ∧
        result = .ok { data := v, format := .json, text, repaired := true }
  | .failed => (∀ v, ¬ Means format text.toList v) ∧
      (∀ v, ¬ Means .json (Json.repair text.toList) v) ∧
      ∃ cause repair, load format text.toList = .error cause ∧
        loadRepaired text.toList = .error repair ∧
        result = .error (.parse { format, cause, repair := some repair })

theorem not_means_of_error {format : InputFormat} {cs : List Char} {e : LoadError}
    (h : load format cs = .error e) (v : Value) : ¬ Means format cs v := fun hv => by
  simp [load_eq_ok.mpr hv] at h

theorem exists_outcome (format : Option InputFormat) (text : String) :
    ∃ o, HasOutcome (format.getD (detectFormat text.toList)) text (parse format text) o := by
  rw [parse_eq]
  generalize format.getD (detectFormat text.toList) = f
  cases hload : load f text.toList with
  | ok v => exact ⟨.own, v, load_eq_ok.mp hload, rfl⟩
  | error cause =>
      simp only [orRepaired_eq]
      cases hrepaired : loadRepaired text.toList with
      | ok v => exact ⟨.repaired, not_means_of_error hload, v, load_eq_ok.mp hrepaired, rfl⟩
      | error repair =>
          exact ⟨.failed, not_means_of_error hload, not_means_of_error hrepaired, cause, repair,
            hload, hrepaired, rfl⟩

/-- The outcome that a result tells of. -/
def Outcome.ofResult : Except Raised ParsedInput → Outcome
  | .ok p => if p.repaired then .repaired else .own
  | .error _ => .failed

theorem HasOutcome.eq_ofResult {format : InputFormat} {text : String}
    {result : Except Raised ParsedInput} {o : Outcome} (h : HasOutcome format text result o) :
    o = .ofResult result := by
  cases o with
  | own =>
      obtain ⟨v, -, rfl⟩ := h
      rfl
  | repaired =>
      obtain ⟨-, v, -, rfl⟩ := h
      rfl
  | failed =>
      obtain ⟨-, -, cause, repair, -, -, rfl⟩ := h
      rfl

theorem Means.isNormal {format : InputFormat} {cs : List Char} {v : Value} (h : Means format cs v) :
    v.isNormal = true ∧ v.levels ≤ Value.normalLimit := by
  obtain ⟨u, -, -, hlevels, rfl⟩ := h
  exact ⟨Value.isNormal_normalize u, Nat.le_trans (Value.levels_normalize_le u) hlevels⟩

/-- What is read is normal, and no deeper than normalization goes. -/
theorem isNormal_of_parse {format : Option InputFormat} {text : String} {p : ParsedInput}
    (h : parse format text = .ok p) :
    p.data.isNormal = true ∧ p.data.levels ≤ Value.normalLimit := by
  obtain ⟨o, ho⟩ := exists_outcome format text
  rw [h] at ho
  cases o with
  | own =>
      obtain ⟨v, hv, hp⟩ := ho
      obtain rfl := Except.ok.inj hp
      exact hv.isNormal
  | repaired =>
      obtain ⟨-, v, hv, hp⟩ := ho
      obtain rfl := Except.ok.inj hp
      exact hv.isNormal
  | failed =>
      obtain ⟨-, -, cause, repair, -, -, hp⟩ := ho
      cases hp

/-- In the format given, or in the one that it seems to be in, a text has just one of three
outcomes: its own reader and normalization accept it, or only its repaired form is read, as JSON, or
it fails with an error that names that format and both causes. What is read is normal and not too
deep. -/
theorem parse_has_one_outcome (format : Option InputFormat) (text : String) :
    (∃! o, HasOutcome (format.getD (detectFormat text.toList)) text (parse format text) o) ∧
      ∀ p, parse format text = .ok p →
        p.data.isNormal = true ∧ p.data.levels ≤ Value.normalLimit := by
  obtain ⟨o, ho⟩ := exists_outcome format text
  refine ⟨⟨o, ho, fun o' ho' => ?_⟩, fun p => isNormal_of_parse⟩
  rw [ho.eq_ofResult, HasOutcome.eq_ofResult ho']

/-- JSON that nests too deeply for normalization is refused although its repaired form, which is
the same text, is JSON. -/
theorem parse_refuses_deep_arrays :
    let text := String.ofList (List.replicate 600 '[' ++ List.replicate 600 ']')
    Json.decode (Json.repair text.toList) = .ok (Json.nest 599) ∧
    (∀ v, ¬ Means .json text.toList v) ∧
    parse (some .json) text =
      .error (.parse
        { format := .json, cause := .normal .tooDeep, repair := some (.normal .tooDeep) }) := by
  intro text
  have htext : text.toList = Json.encode .ascii (Json.nest 599) :=
    String.toList_ofList.trans (Json.encode_nest 599).symm
  have hdecode : Json.decode text.toList = .ok (Json.nest 599) := by
    rw [htext]
    exact Json.decode_nest (by decide)
  have hliterals : Json.literals text.toList = [] := by rw [htext, Json.literals_encode_nest]
  have hrepair : Json.decode (Json.repair text.toList) = .ok (Json.nest 599) :=
    Json.decode_repair_of_literals hdecode (by simp [hliterals])
  have hdeep : ¬ (Json.nest 599).levels ≤ Value.normalLimit := by
    rw [Json.levels_nest]
    decide
  have hload : load .json text.toList = .error (.normal .tooDeep) := by
    rw [load_json_of_decode hdecode, if_neg hdeep]
  refine ⟨hrepair, not_means_of_error hload, ?_⟩
  rw [parse_of_load_error (some .json) hload, orRepaired_of_decode hrepair, if_neg hdeep]
  rfl

end TypeDraft
