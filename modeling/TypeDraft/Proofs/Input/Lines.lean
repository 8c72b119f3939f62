import TypeDraft.Generation
import TypeDraft.Proofs.Input.Outcome
import TypeDraft.Proofs.Json.Records
import TypeDraft.Proofs.Schema.Merge
import TypeDraft.Proofs.Text.Trim

/-!
# Records on lines

Objects that are written as JSON, one on a line, are read as JSON Lines whatever their strings
hold. The samples are just these objects, and their schema is that of the items of the array that
holds them.
-/

namespace TypeDraft

open Json (IsRecord encode decode)

/-! ## Lines -/

namespace Text

/-- Pieces without the separator come apart again. -/
theorem splitAt_intercalate {sep : Char} {pieces : List (List Char)} (hne : pieces ≠ [])
    (h : ∀ piece ∈ pieces, sep ∉ piece) : splitAt sep ([sep].intercalate pieces) = pieces := by
  induction pieces with
  | nil => exact absurd rfl hne
  | cons piece pieces ih =>
      obtain ⟨hpiece, hpieces⟩ := List.forall_mem_cons.mp h
      cases pieces with
      | nil => rw [List.intercalate_singleton, splitAt_of_not_mem hpiece]
      | cons next pieces =>
          rw [List.intercalate_cons_cons, List.append_assoc, List.singleton_append,
            splitAt_append hpiece, ih (List.cons_ne_nil _ _) hpieces]

end Text

/-- The text that has some values as JSON, one on a line. -/
def linesOf (charset : Json.Charset) (vs : List Value) : List Char :=
  ['\n'].intercalate (vs.map (encode charset))

variable {charset : Json.Charset} {v w : Value} {vs : List Value}

theorem linesOf_cons_cons (v w : Value) (vs : List Value) :
    linesOf charset (v :: w :: vs) = encode charset v ++ '\n' :: linesOf charset (w :: vs) := by
  simp [linesOf, List.intercalate_cons_cons]

theorem lines_linesOf (hne : vs ≠ []) :
    Text.lines (linesOf charset vs) = vs.map (encode charset) :=
  Text.splitAt_intercalate (by simpa using hne) fun line hline => by
    obtain ⟨v, -, rfl⟩ := List.mem_map.mp hline
    exact Json.newline_not_mem_encode v

theorem head?_linesOf (h : IsRecord charset v) (vs : List Value) :
    (linesOf charset (v :: vs)).head? = some '\x7b' := by
  cases vs with
  | nil => simpa [linesOf] using h.head?
  | cons w vs => rw [linesOf_cons_cons, List.head?_append, h.head?, Option.some_or]

theorem getLast?_linesOf (hne : vs ≠ []) (h : ∀ v ∈ vs, IsRecord charset v) :
    (linesOf charset vs).getLast? = some '\x7d' := by
  induction vs with
  | nil => exact absurd rfl hne
  | cons v vs ih =>
      obtain ⟨hv, hvs⟩ := List.forall_mem_cons.mp h
      cases vs with
      | nil => simpa [linesOf] using hv.getLast?
      | cons w vs =>
          rw [linesOf_cons_cons, List.append_cons, List.getLast?_append,
            ih (List.cons_ne_nil _ _) hvs, Option.some_or]

theorem trim_linesOf (hne : vs ≠ []) (h : ∀ v ∈ vs, IsRecord charset v) :
    Text.trim (linesOf charset vs) = linesOf charset vs := by
  refine Text.trim_eq_self ?_ (by simp [getLast?_linesOf hne h]; decide)
  obtain ⟨v, vs, rfl⟩ := List.exists_cons_of_ne_nil hne
  simp [head?_linesOf (h v List.mem_cons_self)]
  decide

/-! ## Detection and reading -/

theorem isBraced_encode (h : IsRecord charset v) : isBraced (encode charset v) = true := by
  simp [isBraced, h.head?, h.getLast?]

theorem detectFormat_linesOf (hlength : 2 ≤ vs.length) (h : ∀ v ∈ vs, IsRecord charset v) :
    detectFormat (linesOf charset vs) = .jsonLines := by
  obtain ⟨v, w, vs, rfl⟩ : ∃ v w us, vs = v :: w :: us := by
    match vs, hlength with
    | v :: w :: us, _ => exact ⟨v, w, us, rfl⟩
  have hne : v :: w :: vs ≠ [] := List.cons_ne_nil _ _
  have hbreak : (linesOf charset (v :: w :: vs)).contains '\n' = true := by
    rw [linesOf_cons_cons, List.contains_iff_mem]
    exact List.mem_append_right _ List.mem_cons_self
  have hlines : ∀ filled : List (List Char),
      (∀ line ∈ filled, line ∈ (v :: w :: vs).map (encode charset)) →
      filled.all (fun line => isBraced (Text.trim line)) = true := by
    intro filled hfilled
    refine List.all_eq_true.mpr fun line hline => ?_
    obtain ⟨u, hu, rfl⟩ := List.mem_map.mp (hfilled line hline)
    rw [(h u hu).trim_encode, isBraced_encode (h u hu)]
  unfold detectFormat
  simp only [trim_linesOf hne h, lines_linesOf hne]
  rw [looksLikeJsonLines, hbreak, hlines _ fun line hline => (List.mem_filter.mp hline).1]
  rfl

theorem decodeLines_eq (h : ∀ v ∈ vs, IsRecord charset v) (line : Nat) :
    JsonLines.decodeLines line (vs.map (encode charset)) = .ok vs := by
  induction vs generalizing line with
  | nil => rfl
  | cons v vs ih =>
      obtain ⟨hv, hvs⟩ := List.forall_mem_cons.mp h
      obtain ⟨cs, hcs⟩ := List.head?_eq_some_iff.mp hv.head?
      have hread := hv.readsBack
      rw [hcs] at hread
      rw [List.map_cons, JsonLines.decodeLines, hv.trim_encode, hcs]
      simp only [hread, ih hvs, Except.map]

theorem isNormal_arr (h : ∀ v ∈ vs, IsRecord charset v) : (Value.arr vs).isNormal = true :=
  Value.areNormal_iff.mpr fun v hv => (h v hv).isNormal

theorem rawValue_linesOf (hne : vs ≠ []) (h : ∀ v ∈ vs, IsRecord charset v) :
    rawValue .jsonLines (linesOf charset vs) = .ok (.arr vs) := by
  refine rawValue_eq_ok.mpr (.jsonLines ?_)
  rw [JsonLines.decode, trim_linesOf hne h, lines_linesOf hne, decodeLines_eq h]

theorem parse_linesOf (hlength : 2 ≤ vs.length) (h : ∀ v ∈ vs, IsRecord charset v) :
    parse none (String.ofList (linesOf charset vs)) =
      if (Value.arr vs).levels ≤ Value.normalLimit then
        .ok { data := .arr vs, format := .jsonLines, text := String.ofList (linesOf charset vs) }
      else orRepaired (String.ofList (linesOf charset vs))
        { format := .jsonLines, cause := .normal .tooDeep } := by
  have hne : vs ≠ [] := List.ne_nil_of_length_pos (Nat.lt_of_lt_of_le (by decide) hlength)
  have hformat : none.getD (detectFormat (String.ofList (linesOf charset vs)).toList) =
      .jsonLines := by
    rw [Option.getD_none, String.toList_ofList, detectFormat_linesOf hlength h]
  have hraw := rawValue_linesOf hne h
  rw [← String.toList_ofList (l := linesOf charset vs), ← hformat] at hraw
  rw [parse_of_normal none hraw (isNormal_arr h), hformat]

/-- Records that are too deep all together are not read as lines. -/
theorem repaired_of_deep (hlength : 2 ≤ vs.length) (h : ∀ v ∈ vs, IsRecord charset v)
    (hdeep : Value.normalLimit < (Value.arr vs).levels) :
    ∀ p, parse none (String.ofList (linesOf charset vs)) = .ok p → p.repaired = true := by
  intro p hp
  rw [parse_linesOf hlength h, if_neg (Nat.not_le_of_lt hdeep)] at hp
  obtain ⟨w, -, -, rfl⟩ := orRepaired_eq_ok.mp hp
  rfl

/-! ## Analysis -/

/-- Text that was read as one array agrees with text of the same records on lines: where the array
can be analyzed the lines can be too, and have the schema of its items. Arrays that do not nest too
deeply can be analyzed. -/
structure AgreesWithItems (lines array : ParsedInput) : Prop where
  items : ∀ s, array.schema = .ok s → ∃ t, lines.schema = .ok t ∧ s = .array (some t)
  success : array.data.tooDeepFor analysisCost = false → ∃ s, array.schema = .ok s

theorem schema_eq_ok {p : ParsedInput} {s : Schema} :
    p.schema = .ok s ↔ analyze p.primary p.extras = .ok s :=
  mapError_eq_ok

theorem agreesWithItems {lines array : ParsedInput} (hlines : lines.format = .jsonLines)
    (harray : array.format = .json) (hdata : lines.data = .arr (v :: vs))
    (hsame : array.data = .arr (v :: vs)) (hnormal : (Value.arr (v :: vs)).isNormal = true) :
    AgreesWithItems lines array := by
  have hprimary : array.primary = .arr (v :: vs) ∧ array.extras = [] := by
    simp [ParsedInput.primary, ParsedInput.extras, harray, hsame]
  have hsamples : lines.primary = v ∧ lines.extras = vs := by
    simp [ParsedInput.primary, ParsedInput.extras, hlines, hdata]
  constructor
  · intro s hs
    rw [schema_eq_ok, hprimary.1, hprimary.2] at hs
    obtain ⟨hanalyze, rfl⟩ := Schema.analyze_items hs
    exact ⟨_, by rwa [schema_eq_ok, hsamples.1, hsamples.2], rfl⟩
  · intro hdepth
    rw [hsame] at hdepth
    have hanalyze : analyze (.arr (v :: vs)) [] = .ok (.ofSamples (.arr (v :: vs)) []) :=
      Schema.analyze_eq_ok (by simpa using hnormal) (by simpa using hdepth)
    exact ⟨_, by rwa [schema_eq_ok, hprimary.1, hprimary.2]⟩

theorem parse_array (hne : vs ≠ []) (h : ∀ v ∈ vs, IsRecord charset v)
    (hdepth : (Value.arr vs).levels ≤ Value.normalLimit) :
    parse (some .json) (String.ofList (encode charset (.arr vs))) =
      .ok { data := .arr vs, format := .json, text := String.ofList (encode charset (.arr vs)) } := by
  have hread : decode (encode charset (.arr vs)) = .ok (.arr vs) :=
    Json.decode_encode_array hne h (Nat.le_trans hdepth (by decide))
  rw [← String.toList_ofList (l := encode charset (.arr vs))] at hread
  have hraw := rawValue_json_eq_ok.mpr hread
  exact (parse_of_normal (some .json) hraw (isNormal_arr h)).trans (if_pos hdepth)

/-- Two or more objects on lines, each as its own JSON text, are recognised as JSON Lines. If they
are not too deep they are read as just these samples; read as one array instead, they have the same
schema as its items. If they are too deep they are not read as lines. -/
theorem lines_agree_with_array (hlength : 2 ≤ vs.length) (h : ∀ v ∈ vs, IsRecord charset v) :
    detectFormat (linesOf charset vs) = .jsonLines ∧
    ((Value.arr vs).levels ≤ Value.normalLimit →
      ∃ p, parse none (String.ofList (linesOf charset vs)) = .ok p ∧ p.format = .jsonLines ∧
        p.repaired = false ∧ p.data = .arr vs ∧ p.primary :: p.extras = vs ∧
        (∀ q, q.format = .json → q.data = .arr vs → AgreesWithItems p q) ∧
        ∃ q, parse (some .json) (String.ofList (encode charset (.arr vs))) = .ok q ∧
          q.format = .json ∧ q.repaired = false ∧ q.data = .arr vs) ∧
    (Value.normalLimit < (Value.arr vs).levels →
      ∀ p, parse none (String.ofList (linesOf charset vs)) = .ok p → p.repaired = true) := by
  obtain ⟨v, vs, rfl⟩ := List.exists_cons_of_length_pos (Nat.lt_of_lt_of_le (by decide) hlength)
  have hne : v :: vs ≠ [] := List.cons_ne_nil v vs
  have hparse := parse_linesOf hlength h
  refine ⟨detectFormat_linesOf hlength h, fun hle => ?_, repaired_of_deep hlength h⟩
  rw [if_pos hle] at hparse
  refine ⟨_, hparse, rfl, rfl, rfl, rfl, ?_, _, parse_array hne h hle, rfl, rfl, rfl⟩
  exact fun q hformat hdata => agreesWithItems rfl hformat rfl hdata (isNormal_arr h)

theorem lines_agree_with_array_notes :
    ∃ p q, parse none "\x7b\"note\": \"a\\nb\"\x7d\n\x7b\"note\": null\x7d" = .ok p ∧
      p.data = .arr [.obj [("note", .str "a\nb")], .obj [("note", .null)]] ∧
      parse (some .json) "[\x7b\"note\": \"a\\nb\"\x7d, \x7b\"note\": null\x7d]" = .ok q ∧
      AgreesWithItems p q := by
  have hrecords : ∀ v ∈ [.obj [("note", .str "a\nb")], .obj [("note", .null)]], IsRecord .ascii v := by
    intro v hv
    simp only [List.mem_cons, List.not_mem_nil, or_false] at hv
    rcases hv with rfl | rfl <;> exact ⟨⟨_, rfl⟩, rfl⟩
  obtain ⟨-, hread, -⟩ := lines_agree_with_array (by decide) hrecords
  obtain ⟨p, hp, -, -, hdata, -, hagrees, q, hq, hformat, -, hsame⟩ := hread (by decide)
  exact ⟨p, q, hp, hdata, hq, hagrees q hformat hsame⟩

/-- Two records that hold 600 arrays in one another are read each on its own line, but are not read
as lines. -/
theorem lines_too_deep :
    let v := Value.obj [("a", Json.nest 599)]
    (∀ w ∈ [v, v], IsRecord .ascii w) ∧
    detectFormat (linesOf .ascii [v, v]) = .jsonLines ∧
    load .jsonLines (linesOf .ascii [v, v]) = .error (.normal .tooDeep) ∧
    ∀ p, parse none (String.ofList (linesOf .ascii [v, v])) = .ok p → p.repaired = true := by
  intro v
  have hrecords : ∀ w ∈ [v, v], IsRecord .ascii w := by
    have hv : IsRecord .ascii v := Json.isRecord_nest (by decide)
    simpa using hv
  have hdeep : Value.normalLimit < (Value.arr [v, v]).levels := by
    simp [v, Value.levels, Value.itemLevels, Value.fieldLevels, Json.levels_nest, Value.normalLimit]
  refine ⟨hrecords, detectFormat_linesOf (by decide) hrecords, ?_,
    repaired_of_deep (by decide) hrecords hdeep⟩
  rw [load_of_normal (rawValue_linesOf (List.cons_ne_nil _ _) hrecords) (isNormal_arr hrecords),
    if_neg (Nat.not_le_of_lt hdeep)]

end TypeDraft
