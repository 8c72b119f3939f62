import TypeDraft.Proofs.Input.Clauses
import TypeDraft.Proofs.Json.Harmless

/-!
# The fallback to JSON

A text that the reader of some format refuses is repaired and read as JSON, also if it is JSON as
it stands. It keeps its value just if repair does and normalization goes deep enough; repair does
unless one of the strings holds what a rule changes.
-/

namespace TypeDraft

variable {format : InputFormat} {text : String} {cause : LoadError} {v : Value}

theorem orRepaired_of_decode (h : Json.decode (Json.repair text.toList) = .ok v)
    (failed : ParseError) :
    orRepaired text failed =
      if v.levels ≤ Value.normalLimit then
        .ok { data := v, format := .json, text, repaired := true }
      else .error (.parse { failed with repair := some (.normal .tooDeep) }) := by
  rw [orRepaired_eq, loadRepaired, load_json_of_decode h]
  split_ifs <;> rfl

theorem orRepaired_eq_ok {failed : ParseError} {p : ParsedInput} :
    orRepaired text failed = .ok p ↔ ∃ v, Json.decode (Json.repair text.toList) = .ok v ∧
      v.levels ≤ Value.normalLimit ∧
      p = { data := v, format := .json, text, repaired := true } := by
  rw [orRepaired_eq]
  cases hrepaired : loadRepaired text.toList with
  | ok v =>
      have hv := load_json_eq_ok.mp hrepaired
      refine ⟨fun hp => ⟨v, hv.1, hv.2, (Except.ok.inj hp).symm⟩, ?_⟩
      rintro ⟨w, hw, -, rfl⟩
      rw [Except.ok.inj (hv.1.symm.trans hw)]
  | error repair =>
      refine ⟨nofun, ?_⟩
      rintro ⟨w, hw, hlevels, -⟩
      cases hrepaired.symm.trans (load_json_eq_ok.mpr ⟨hw, hlevels⟩)

/-- If repair makes of a text what the text is read as if it is JSON at all, the parser of JSON reads
it as that, and repairs it just if it is not JSON. -/
theorem parseStrict_json_of_repair (h : Json.decode (Json.repair text.toList) = .ok v)
    (hle : v.levels ≤ Value.normalLimit) (hraw : ∀ w, Json.decode text.toList = .ok w → w = v) :
    ∃ p, parseStrict .json text = .ok p ∧ p.data = v ∧
      (p.repaired = true ↔ ¬ ∃ w, Json.decode text.toList = .ok w) := by
  rw [parseStrict, parseJson_eq]
  cases hload : load .json text.toList with
  | ok w =>
      have hdecode := (load_json_eq_ok.mp hload).1
      exact ⟨_, rfl, hraw w hdecode, by simp [hdecode]⟩
  | error cause =>
      refine ⟨_, orRepaired_eq_ok.mpr ⟨v, h, hle, rfl⟩, rfl, iff_of_true rfl ?_⟩
      rintro ⟨w, hdecode⟩
      obtain rfl := hraw w hdecode
      rw [load_json_eq_ok.mpr ⟨hdecode, hle⟩] at hload
      cases hload

/-- Where the reader of a format refuses a text of JSON, the text is read as the value that it
stands for just if it still stands for it after repair and the value is not too deep. Without
misleading strings it does stand for it; then only the depth decides. -/
theorem fallback_keeps_json (hjson : Json.decode text.toList = .ok v)
    (hload : load format text.toList = .error cause) :
    ((∃ p, parse (some format) text = .ok p ∧ p.data = v) ↔
      Json.decode (Json.repair text.toList) = .ok v ∧ v.levels ≤ Value.normalLimit) ∧
    ((∀ body ∈ Json.literals text.toList, Json.isMisleading body = false) →
      (v.levels ≤ Value.normalLimit →
        parse (some format) text = .ok { data := v, format := .json, text, repaired := true }) ∧
      (Value.normalLimit < v.levels →
        parse (some format) text =
          .error (.parse { format, cause, repair := some (.normal .tooDeep) }))) := by
  have hparse : parse (some format) text = orRepaired text { format, cause } :=
    parse_of_load_error (some format) hload
  rw [hparse]
  refine ⟨⟨?_, fun h => ⟨_, orRepaired_eq_ok.mpr ⟨v, h.1, h.2, rfl⟩, rfl⟩⟩, fun hliterals => ?_⟩
  · rintro ⟨p, hp, rfl⟩
    obtain ⟨w, hw, hlevels, rfl⟩ := orRepaired_eq_ok.mp hp
    exact ⟨hw, hlevels⟩
  · rw [orRepaired_of_decode (Json.decode_repair_of_literals hjson hliterals)]
    exact ⟨fun hle => if_pos hle, fun hlt => if_neg (Nat.not_le_of_lt hlt)⟩

theorem fallback_keeps_json_array :
    parse (some .jsonLines) "[1,\n2]" =
      .ok { data := .arr [.int 1, .int 2], format := .json, text := "[1,\n2]", repaired := true } :=
  ((fallback_keeps_json rfl (rfl : load .jsonLines _ = _)).2 (by decide)).1 (by decide)

/-- A comma before a bracket goes out of a string too. -/
theorem fallback_drops_comma_of_string :
    let text := "\x7b\"note\":\n\"a, \x7d\"\x7d"
    Json.decode text.toList = .ok (.obj [("note", .str "a, \x7d")]) ∧
    (load .jsonLines text.toList).toOption = none ∧
    (parse (some .jsonLines) text).toOption.map ParsedInput.data =
      some (.obj [("note", .str "a \x7d")]) := by
  decide +kernel

end TypeDraft
