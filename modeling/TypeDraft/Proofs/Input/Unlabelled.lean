import TypeDraft.Proofs.Csv.Header
import TypeDraft.Proofs.Input.Detection
import TypeDraft.Proofs.Input.Outcome
import TypeDraft.Proofs.Yaml.Agreement

/-!
# JSON without a label

A text of JSON is read in the format that it seems to be in. As JSON and as JSON5 it has the same
value, and as YAML if its strings and words are the same there; as a table it never has, and in
lines it is not read at all.
-/

namespace TypeDraft

open Text

variable {text : String} {v w : Value}

theorem load_json5_eq (hjson : Json.decode text.toList = .ok v)
    (h : load .json5 text.toList = .ok w) : w = v := by
  obtain ⟨u, hu, -, -, rfl⟩ := load_eq_ok.mp h
  cases hu with
  | json5 hdecode =>
      obtain rfl := Json5.eq_of_decode hjson hdecode
      exact Value.normalize_of_isNormal u (Json.isNormal_of_decode hjson)

theorem load_yaml_eq (hjson : Json.decode text.toList = .ok v)
    (hkeeps : Yaml.keepsText text.toList = true) (h : load .yaml text.toList = .ok w) : w = v := by
  obtain ⟨u, hu, -, -, rfl⟩ := load_eq_ok.mp h
  cases hu with
  | yaml hfirst =>
      obtain rfl := Yaml.eq_of_loadFirst hjson hkeeps hfirst
      exact Value.normalize_of_isNormal u (Json.isNormal_of_decode hjson)

theorem load_csv_ne (hjson : Json.decode text.toList = .ok v)
    (hformat : detectFormat text.toList = .csv) (h : load .csv text.toList = .ok w) : w ≠ v := by
  obtain ⟨before, behind, htrim, hline⟩ : ∃ before behind, trim text.toList =
      before ++ ',' :: behind ∧ '\n' ∉ before := by
    refine exists_comma_of_looksLikeCsv (head?_trim hjson) ?_
    unfold detectFormat at hformat
    simp only at hformat
    split_ifs at hformat
    assumption
  obtain ⟨u, hu, -, -, rfl⟩ := load_eq_ok.mp h
  cases hu with
  | csv hdecode => exact Csv.normalize_ne_of_json hjson hdecode htrim hline

/-- Without misleading strings a text of JSON that is refused keeps its value in the fallback, if
the value is not too deep. -/
theorem parse_of_load_rejects {cause : LoadError} (hjson : Json.decode text.toList = .ok v)
    (hload : load (detectFormat text.toList) text.toList = .error cause)
    (hliterals : ∀ body ∈ Json.literals text.toList, Json.isMisleading body = false) :
    parse none text =
      if v.levels ≤ Value.normalLimit then
        .ok { data := v, format := .json, text, repaired := true }
      else .error (.parse
        { format := detectFormat text.toList, cause, repair := some (.normal .tooDeep) }) :=
  (parse_of_load_error none hload).trans
    (orRepaired_of_decode (Json.decode_repair_of_literals hjson hliterals) _)

/-- What the reader of the format that a text of JSON seems to be in makes of it, if it is not read
as a table, and its strings and words are the same in YAML where it is read as that. -/
theorem load_detected_eq (hjson : Json.decode text.toList = .ok v)
    (htable : detectFormat text.toList ≠ .csv)
    (hkeeps : detectFormat text.toList = .yaml → Yaml.keepsText text.toList = true)
    (h : load (detectFormat text.toList) text.toList = .ok w) : w = v := by
  cases hformat : detectFormat text.toList with
  | json => exact Except.ok.inj ((load_json_eq_ok.mp (hformat ▸ h)).1.symm.trans hjson)
  | json5 => exact load_json5_eq hjson (hformat ▸ h)
  | yaml => exact load_yaml_eq hjson (hkeeps hformat) (hformat ▸ h)
  | csv => exact absurd hformat htable
  | jsonLines => exact absurd hformat (detectFormat_ne_jsonLines hjson)

/-- Where a text of JSON is read without a format, it is never read in lines. It is read as its value
where it is read as JSON, JSON5 or, if that keeps its strings and words, YAML; never where it is
read as a table; and in the fallback, if it has no misleading strings, where the reader of the
format refuses it. All that is so as far as the value is not too deep, and none of it beyond. -/
theorem detection_keeps_json (hjson : Json.decode text.toList = .ok v) :
    detectFormat text.toList ≠ .jsonLines ∧
    (detectFormat text.toList = .json → v.levels ≤ Value.normalLimit →
      parse none text = .ok { data := v, format := .json, text }) ∧
    (detectFormat text.toList ≠ .csv →
      (detectFormat text.toList = .yaml → Yaml.keepsText text.toList = true) →
      (∀ w, load (detectFormat text.toList) text.toList = .ok w →
        parse none text = .ok { data := v, format := detectFormat text.toList, text }) ∧
      ((∀ body ∈ Json.literals text.toList, Json.isMisleading body = false) →
        ((∃ p, parse none text = .ok p ∧ p.data = v) ↔ v.levels ≤ Value.normalLimit))) ∧
    (detectFormat text.toList = .csv → ∀ w, load .csv text.toList = .ok w →
      ∃ p, parse none text = .ok p ∧ p.data ≠ v) ∧
    (∀ cause, load (detectFormat text.toList) text.toList = .error cause →
      (∀ body ∈ Json.literals text.toList, Json.isMisleading body = false) →
      parse none text =
        if v.levels ≤ Value.normalLimit then
          .ok { data := v, format := .json, text, repaired := true }
        else .error (.parse
          { format := detectFormat text.toList, cause, repair := some (.normal .tooDeep) })) ∧
    ('\n' ∉ trim text.toList → occurs "---".toList (trim text.toList) = false →
      detectFormat text.toList = .json ∨ detectFormat text.toList = .json5) := by
  refine ⟨detectFormat_ne_jsonLines hjson, fun hformat hle => ?_,
    fun htable hkeeps => ⟨fun w hload => ?_, fun hliterals => ?_⟩, fun hformat w hload => ?_,
    fun cause => parse_of_load_rejects hjson, detectFormat_of_one_line hjson⟩
  · have hread := parse_of_load none (hformat.symm ▸ load_json_eq_ok.mpr ⟨hjson, hle⟩)
    rwa [Option.getD_none, hformat] at hread
  · obtain rfl := load_detected_eq hjson htable hkeeps hload
    exact parse_of_load none hload
  · refine ⟨fun ⟨p, hp, hdata⟩ => hdata ▸ (isNormal_of_parse hp).2, fun hle => ?_⟩
    cases hload : load (detectFormat text.toList) text.toList with
    | ok w => exact ⟨_, parse_of_load none hload, load_detected_eq hjson htable hkeeps hload⟩
    | error cause =>
        have hread := parse_of_load_rejects hjson hload hliterals
        rw [if_pos hle] at hread
        exact ⟨_, hread, rfl⟩
  · have hread := parse_of_load none (hformat.symm ▸ hload)
    exact ⟨_, hread, load_csv_ne hjson hformat hload⟩

theorem detection_keeps_json_indented :
    let text := "\x7b\n  \"a\": [1, null]\n\x7d"
    let v := Value.obj [("a", .arr [.int 1, .null])]
    Json.decode text.toList = .ok v ∧ detectFormat text.toList = .yaml ∧
      ∃ p, parse none text = .ok p ∧ p.data = v := by
  intro text v
  have hjson : Json.decode text.toList = .ok v := by decide +kernel
  have hyaml : detectFormat text.toList = .yaml := by decide +kernel
  refine ⟨hjson, hyaml, ?_⟩
  exact (((detection_keeps_json hjson).2.2.1 (by decide +kernel) (by decide +kernel)).2
    (by decide +kernel)).mpr (by decide)

theorem detection_reads_json_as_table :
    let text := "[1,\n2]"
    Json.decode text.toList = .ok (.arr [.int 1, .int 2]) ∧
    detectFormat text.toList = .csv ∧
    (parse none text).toOption.map ParsedInput.data =
      some (.arr [.obj [("[1", .str "2]"), ("", .str "")]]) := by
  decide +kernel

end TypeDraft
