import Mathlib.Data.List.Forall2
import TypeDraft.Proofs.Input.Fallback
import TypeDraft.Proofs.Input.Outcome
import TypeDraft.Proofs.Text.Trim

/-!
# The line that fails

A text of JSON Lines fails at its first line that is neither blank nor JSON. The number that the
failure gives counts from the first line that is not blank: it is the place of the line in the text
just if no blank line stands at the head of the text.
-/

namespace TypeDraft

/-! ## Lines -/

namespace Text

theorem lines_of_not_mem {line : List Char} (h : '\n' ∉ line) : lines line = [line] :=
  splitAt_of_not_mem h

theorem lines_append {line : List Char} (h : '\n' ∉ line) (rest : List Char) :
    lines (line ++ '\n' :: rest) = line :: lines rest :=
  splitAt_append h rest

/-- A text is a single line, or it is a line with a further text behind it. -/
@[elab_as_elim]
theorem lines_induction {motive : List Char → Prop} (last : ∀ line, '\n' ∉ line → motive line)
    (next : ∀ line rest, '\n' ∉ line → motive rest → motive (line ++ '\n' :: rest))
    (cs : List Char) : motive cs := by
  induction hn : cs.length using Nat.strongRecOn generalizing cs with | _ n ih
  by_cases hbreak : '\n' ∈ cs
  · obtain ⟨line, rest, rfl, hline⟩ := List.eq_append_cons_of_mem hbreak
    have hlt : rest.length < n := by
      rw [← hn, List.length_append, List.length_cons]
      omega
    exact next line rest hline (ih _ hlt rest rfl)
  · exact last cs hbreak

theorem trim_of_mem_lines {cs : List Char} (h : ∀ c ∈ cs, isBlank c = true) :
    ∀ line ∈ lines cs, trim line = [] := by
  induction cs using lines_induction with
  | last line hline =>
      rw [lines_of_not_mem hline]
      exact List.forall_mem_singleton.mpr (trim_eq_nil_iff.mpr h)
  | next line rest hline ih =>
      rw [List.forall_mem_append, List.forall_mem_cons] at h
      rw [lines_append hline, List.forall_mem_cons]
      exact ⟨trim_eq_nil_iff.mpr h.1, ih h.2.2⟩

end Text

/-! ## Reading line by line -/

namespace JsonLines

open Json (DecodeError)
open Text (trim lines isBlank trim_dropWhile trim_eq_nil_iff)

/-- A line that is passed over or has a value. -/
def IsReadable (line : List Char) : Prop := trim line = [] ∨ ∃ v, Json.decode (trim line) = .ok v

/-- The failure as it is where some more lines stand before. -/
def LineError.later (k : Nat) (e : LineError) : LineError := { e with line := e.line + k }

variable {line line' : List Char} {ls ls' : List (List Char)} {e : DecodeError}

theorem decodeLines_of_blank (h : trim line = []) (n : Nat) :
    decodeLines n (line :: ls) = decodeLines (n + 1) ls := by
  rw [decodeLines]
  simp only [h]

theorem decodeLines_of_value (h : trim line ≠ []) {v : Value} (hv : Json.decode (trim line) = .ok v)
    (n : Nat) : decodeLines n (line :: ls) = (decodeLines (n + 1) ls).map (v :: ·) := by
  obtain ⟨c, cs, hcs⟩ := List.exists_cons_of_ne_nil h
  rw [hcs] at hv
  rw [decodeLines]
  simp only [hcs, hv]

theorem decodeLines_of_error (h : trim line ≠ []) (he : Json.decode (trim line) = .error e)
    (n : Nat) : decodeLines n (line :: ls) = .error ⟨n, e⟩ := by
  obtain ⟨c, cs, hcs⟩ := List.exists_cons_of_ne_nil h
  rw [hcs] at he
  rw [decodeLines]
  simp only [hcs, he]

/-- What comes of a line hangs on what trimming leaves of it. -/
theorem decodeLines_congr (h : trim line = trim line') {n : Nat}
    (hrest : decodeLines (n + 1) ls = decodeLines (n + 1) ls') :
    decodeLines n (line :: ls) = decodeLines n (line' :: ls') := by
  rw [decodeLines, decodeLines, h, hrest]

theorem decodeLines_blanks (h : ∀ line ∈ ls, trim line = []) (n : Nat) :
    decodeLines n ls = .ok [] := by
  induction ls generalizing n with
  | nil => rfl
  | cons line ls ih =>
      obtain ⟨hline, hls⟩ := List.forall_mem_cons.mp h
      rw [decodeLines_of_blank hline, ih hls]

/-- Where the count begins shows in the number of a failure alone. -/
theorem decodeLines_add (n k : Nat) (ls : List (List Char)) :
    decodeLines (n + k) ls = (decodeLines n ls).mapError (LineError.later k) := by
  induction ls generalizing n with
  | nil => rfl
  | cons line ls ih =>
      have ih := ih (n + 1)
      rw [Nat.add_right_comm] at ih
      by_cases hblank : trim line = []
      · rw [decodeLines_of_blank hblank, decodeLines_of_blank hblank, ih]
      cases hdecode : Json.decode (trim line) with
      | error e =>
          rw [decodeLines_of_error hblank hdecode, decodeLines_of_error hblank hdecode]
          rfl
      | ok v =>
          rw [decodeLines_of_value hblank hdecode, decodeLines_of_value hblank hdecode, ih]
          cases decodeLines (n + 1) ls <;> rfl

theorem isNormal_of_decodeLines {n : Nat} {vs : List Value} (h : decodeLines n ls = .ok vs) :
    ∀ v ∈ vs, v.isNormal = true := by
  induction ls generalizing n vs with
  | nil =>
      obtain rfl := Except.ok.inj h
      exact fun v hv => absurd hv List.not_mem_nil
  | cons line ls ih =>
      by_cases hblank : trim line = []
      · rw [decodeLines_of_blank hblank] at h
        exact ih h
      cases hdecode : Json.decode (trim line) with
      | error e =>
          rw [decodeLines_of_error hblank hdecode] at h
          cases h
      | ok v =>
          rw [decodeLines_of_value hblank hdecode, map_eq_ok] at h
          obtain ⟨us, hus, rfl⟩ := h
          exact List.forall_mem_cons.mpr ⟨Json.isNormal_of_decode hdecode, ih hus⟩

/-! ## Blanks around the text -/

/-- How many blank lines stand at the head of some lines. -/
def leadingBlanks (ls : List (List Char)) : Nat := (ls.takeWhile fun l => (trim l).isEmpty).length

theorem leadingBlanks_of_blank (h : trim line = []) :
    leadingBlanks (line :: ls) = leadingBlanks ls + 1 := by
  simp [leadingBlanks, h]

theorem leadingBlanks_of_filled (h : trim line ≠ []) : leadingBlanks (line :: ls) = 0 := by
  simp [leadingBlanks, h]

theorem decodeLines_append_blanks {behind : List Char} (h : ∀ c ∈ behind, isBlank c = true)
    (n : Nat) (cs : List Char) :
    decodeLines n (lines (cs ++ behind)) = decodeLines n (lines cs) := by
  induction cs using Text.lines_induction generalizing n with
  | next line rest hline ih =>
      rw [List.append_assoc, List.cons_append, Text.lines_append hline, Text.lines_append hline]
      exact decodeLines_congr rfl (ih (n + 1))
  | last line hline =>
      rw [Text.lines_of_not_mem hline]
      by_cases hbreak : '\n' ∈ behind
      · -- the line goes on up to the first break, and only blank lines follow
        obtain ⟨first, later, rfl, hfirst⟩ := List.eq_append_cons_of_mem hbreak
        rw [List.forall_mem_append, List.forall_mem_cons] at h
        have hno : '\n' ∉ line ++ first := by
          rw [List.mem_append]
          exact fun hor => hor.elim hline hfirst
        rw [← List.append_assoc, Text.lines_append hno]
        refine decodeLines_congr (Text.trim_append_of_blanks h.1) ?_
        exact decodeLines_blanks (Text.trim_of_mem_lines h.2.2) _
      · have hno : '\n' ∉ line ++ behind := by
          rw [List.mem_append]
          exact fun hor => hor.elim hline hbreak
        rw [Text.lines_of_not_mem hno]
        exact decodeLines_congr (Text.trim_append_of_blanks h) rfl

theorem decodeLines_dropWhile (n : Nat) (cs : List Char) :
    decodeLines (n + leadingBlanks (lines cs)) (lines (cs.dropWhile isBlank)) =
      decodeLines n (lines cs) := by
  induction cs using Text.lines_induction generalizing n with
  | last line hline =>
      have hno : '\n' ∉ line.dropWhile isBlank := fun h =>
        hline ((List.dropWhile_suffix _).subset h)
      rw [Text.lines_of_not_mem hno, Text.lines_of_not_mem hline]
      by_cases hblank : trim line = []
      · have hdropped : trim (line.dropWhile isBlank) = [] := (trim_dropWhile line).trans hblank
        rw [decodeLines_of_blank hblank, decodeLines_of_blank hdropped]
        rfl
      · rw [leadingBlanks_of_filled hblank]
        exact decodeLines_congr (trim_dropWhile line) rfl
  | next line rest hline ih =>
      rw [Text.lines_append hline]
      by_cases hblank : trim line = []
      · have hall := trim_eq_nil_iff.mp hblank
        rw [List.dropWhile_append_of_pos hall, List.dropWhile_cons_of_pos (by decide),
          leadingBlanks_of_blank hblank, decodeLines_of_blank hblank, ← ih (n + 1)]
        congr 1
        omega
      · have hsome : ¬ (line.dropWhile isBlank).isEmpty = true := fun h =>
          hblank (trim_eq_nil_iff.mpr (List.dropWhile_eq_nil_iff.mp (List.isEmpty_iff.mp h)))
        have hno : '\n' ∉ line.dropWhile isBlank := fun h =>
          hline ((List.dropWhile_suffix _).subset h)
        rw [List.dropWhile_append, if_neg hsome, Text.lines_append hno,
          leadingBlanks_of_filled hblank]
        exact decodeLines_congr (trim_dropWhile line) rfl

/-- The text is trimmed before it is divided. So what comes of it is what comes of its own lines,
but the blank ones at its head are not counted. -/
theorem mapError_decode (cs : List Char) :
    (decode cs).mapError (LineError.later (leadingBlanks (lines cs))) =
      decodeLines 1 (lines cs) := by
  obtain ⟨behind, hdrop, hbehind⟩ := Text.exists_dropWhile_eq_trim_append cs
  rw [decode, ← decodeLines_add, ← decodeLines_append_blanks hbehind, ← hdrop,
    decodeLines_dropWhile]

/-! ## The first failure -/

/-- Behind lines that can be read a line fails under its own number. -/
theorem decodeLines_of_first_error (hbefore : ∀ l ∈ ls, IsReadable l) (hfilled : trim line ≠ [])
    (he : Json.decode (trim line) = .error e) (n : Nat) :
    decodeLines n (ls ++ line :: ls') = .error ⟨n + ls.length, e⟩ := by
  induction ls generalizing n with
  | nil => exact decodeLines_of_error hfilled he n
  | cons l ls ih =>
      obtain ⟨hl, hls⟩ := List.forall_mem_cons.mp hbefore
      have ih := ih hls (n + 1)
      have hnumber : n + 1 + ls.length = n + (l :: ls).length := by
        rw [List.length_cons]
        omega
      rw [hnumber] at ih
      rw [List.cons_append]
      by_cases hblank : trim l = []
      · rw [decodeLines_of_blank hblank, ih]
      · obtain ⟨v, hv⟩ := hl.resolve_left hblank
        rw [decodeLines_of_value hblank hv, ih]
        rfl

theorem decodeLines_of_readable (h : ∀ l ∈ ls, IsReadable l) (n : Nat) :
    ∃ vs, decodeLines n ls = .ok vs ∧
      List.Forall₂ (fun l v => Json.decode (trim l) = .ok v) (ls.filter (trim · ≠ [])) vs := by
  induction ls generalizing n with
  | nil => exact ⟨[], rfl, .nil⟩
  | cons l ls ih =>
      obtain ⟨hl, hls⟩ := List.forall_mem_cons.mp h
      obtain ⟨vs, hvs, hvalues⟩ := ih hls (n + 1)
      by_cases hblank : trim l = []
      · refine ⟨vs, by rw [decodeLines_of_blank hblank, hvs], ?_⟩
        rwa [List.filter_cons_of_neg (by simpa using hblank)]
      · obtain ⟨v, hv⟩ := hl.resolve_left hblank
        refine ⟨v :: vs, by rw [decodeLines_of_value hblank hv, hvs]; rfl, ?_⟩
        rw [List.filter_cons_of_pos (by simpa using hblank)]
        exact .cons hv hvalues

/-- Line number `i`, counted from zero, is the first that cannot be read, and this is why. -/
def FailsFirst (ls : List (List Char)) (i : Nat) (e : DecodeError) : Prop :=
  ∃ line, ls[i]? = some line ∧ trim line ≠ [] ∧ Json.decode (trim line) = .error e ∧
    ∀ l ∈ ls.take i, IsReadable l

theorem FailsFirst.decodeLines_eq {i : Nat} (h : FailsFirst ls i e) (n : Nat) :
    decodeLines n ls = .error ⟨n + i, e⟩ := by
  obtain ⟨line, hline, hfilled, he, hbefore⟩ := h
  obtain ⟨hlt, hget⟩ := List.getElem?_eq_some_iff.mp hline
  have hsplit : ls = ls.take i ++ line :: ls.drop (i + 1) := by
    rw [← hget, List.getElem_cons_drop, List.take_append_drop]
  have hfails : decodeLines n (ls.take i ++ line :: ls.drop (i + 1)) =
      .error ⟨n + (ls.take i).length, e⟩ := decodeLines_of_first_error hbefore hfilled he n
  rwa [← hsplit, List.length_take_of_le (Nat.le_of_lt hlt)] at hfails

/-- The number of a failure and the blank lines at the head make up the place of its line. -/
theorem exists_decode_eq_error {cs : List Char} {i : Nat} (h : FailsFirst (lines cs) i e) :
    ∃ n, decode cs = .error ⟨n, e⟩ ∧ n + leadingBlanks (lines cs) = i + 1 := by
  have hlines := mapError_decode cs
  rw [h.decodeLines_eq] at hlines
  cases hdecode : decode cs with
  | ok vs =>
      rw [hdecode] at hlines
      cases hlines
  | error failure =>
      rw [hdecode, Except.mapError, Except.error.injEq, LineError.later, LineError.mk.injEq] at hlines
      obtain ⟨hnumber, rfl⟩ := hlines
      exact ⟨failure.line, rfl, hnumber.trans (Nat.add_comm 1 i)⟩

theorem decode_eq_ok_iff {cs : List Char} {vs : List Value} :
    decode cs = .ok vs ↔ decodeLines 1 (lines cs) = .ok vs := by
  rw [← mapError_decode, mapError_eq_ok]

theorem leadingBlanks_eq_zero_iff :
    leadingBlanks ls = 0 ↔ ∀ line ∈ ls.head?, trim line ≠ [] := by
  cases ls with
  | nil => simp [leadingBlanks]
  | cons line ls =>
      by_cases hblank : trim line = []
      · simp [leadingBlanks_of_blank hblank, hblank]
      · simp [leadingBlanks_of_filled hblank, hblank]

end JsonLines

open JsonLines (FailsFirst IsReadable leadingBlanks)
open Text (trim lines)

theorem parseStrict_jsonLines_of_error {text : String} {failure : JsonLines.LineError}
    (h : JsonLines.decode text.toList = .error failure) :
    parseStrict .jsonLines text =
      .error (.parse { format := .jsonLines, cause := .jsonLines failure }) := by
  have hraw : rawValue .jsonLines text.toList = .error (.jsonLines failure) := by
    rw [rawValue, h]
    rfl
  exact parseOwn_of_raw_error hraw

theorem parseStrict_jsonLines_of_decode {text : String} {vs : List Value}
    (h : JsonLines.decode text.toList = .ok vs) (hnormal : ∀ v ∈ vs, v.isNormal = true) :
    parseStrict .jsonLines text =
      if (Value.arr vs).levels ≤ Value.normalLimit then
        .ok { data := .arr vs, format := .jsonLines, text }
      else .error (.parse { format := .jsonLines, cause := .normal .tooDeep }) := by
  have hraw : rawValue .jsonLines text.toList = .ok (.arr vs) := rawValue_eq_ok.mpr (.jsonLines h)
  exact parseOwn_of_normal hraw (Value.areNormal_iff.mpr hnormal)

/-- Lines of JSON are read up to the first that fails. The failure has the place of that line in the
text, less the blank lines at the head of the text; so it is the place just if there are none. Where
no line fails, the values of the lines that are not blank are read in order, unless they are too
deep all together: then no line is named. -/
theorem parseStrict_names_failing_line (text : String) :
    (∀ i e, FailsFirst (lines text.toList) i e → (∀ digits, e ≠ .integerTooLong digits) →
      ∃ failure n, parseStrict .jsonLines text = .error (.parse failure) ∧
        failure.message = "Failed to parse JSONLINES: line " ++ toString n ++ ": " ++ e.message ∧
        failure.cause = .jsonLines ⟨n, e⟩ ∧ n + leadingBlanks (lines text.toList) = i + 1 ∧
        (n = i + 1 ↔ ∀ line ∈ (lines text.toList).head?, trim line ≠ [])) ∧
    ((∀ line ∈ lines text.toList, IsReadable line) →
      ∃ vs, List.Forall₂ (fun line v => Json.decode (trim line) = .ok v)
          ((lines text.toList).filter (trim · ≠ [])) vs ∧
        parseStrict .jsonLines text =
          if (Value.arr vs).levels ≤ Value.normalLimit then
            .ok { data := .arr vs, format := .jsonLines, text }
          else .error (.parse { format := .jsonLines, cause := .normal .tooDeep })) := by
  refine ⟨fun i e hfails hlong => ?_, fun hreadable => ?_⟩
  · obtain ⟨n, hdecode, hnumber⟩ := JsonLines.exists_decode_eq_error hfails
    have hmessage : JsonLines.LineError.message ⟨n, e⟩ =
        "line " ++ toString n ++ ": " ++ e.message := by
      cases e with
      | integerTooLong digits => exact absurd rfl (hlong digits)
      | malformed cause place => rfl
      | tooDeep opened => rfl
    refine ⟨_, n, parseStrict_jsonLines_of_error hdecode, ?_, rfl, hnumber, ?_⟩
    · have hhead : "Failed to parse " ++ "JSONLINES" ++ ": " ++ "line " =
          "Failed to parse JSONLINES: line " := by decide
      change "Failed to parse " ++ "JSONLINES" ++ ": " ++ JsonLines.LineError.message ⟨n, e⟩ ++ "" = _
      rw [hmessage, ← hhead]
      simp only [String.append_assoc, String.append_empty]
    · rw [← JsonLines.leadingBlanks_eq_zero_iff]
      omega
  · obtain ⟨vs, hlines, hvalues⟩ := JsonLines.decodeLines_of_readable hreadable 1
    exact ⟨vs, hvalues, parseStrict_jsonLines_of_decode (JsonLines.decode_eq_ok_iff.mpr hlines)
      (JsonLines.isNormal_of_decodeLines hlines)⟩

/-- A blank line within the text is counted. -/
theorem parseStrict_names_failing_line_behind_blank :
    ∃ failure, parseStrict .jsonLines "\x7b\"a\": 1\x7d\n \nnot json" = .error (.parse failure) ∧
      failure.message =
        "Failed to parse JSONLINES: line 3: Expecting value: line 1 column 1 (char 0)" := by
  have hfails : FailsFirst (lines "\x7b\"a\": 1\x7d\n \nnot json".toList) 2
      (.malformed .expectingValue ⟨1, 1, 0⟩) := by
    refine ⟨"not json".toList, rfl, by decide, rfl, ?_⟩
    have hbefore : (lines "\x7b\"a\": 1\x7d\n \nnot json".toList).take 2 =
        ["\x7b\"a\": 1\x7d".toList, [' ']] := rfl
    rw [hbefore, List.forall_mem_cons, List.forall_mem_singleton]
    exact ⟨.inr ⟨.obj [("a", .int 1)], by decide +kernel⟩, .inl rfl⟩
  have hfilled : ∀ line ∈ (lines "\x7b\"a\": 1\x7d\n \nnot json".toList).head?, trim line ≠ [] := by
    decide
  obtain ⟨failure, n, hparse, hmessage, -, -, hnumber⟩ :=
    (parseStrict_names_failing_line _).1 2 _ hfails nofun
  obtain rfl := hnumber.mpr hfilled
  exact ⟨failure, hparse, hmessage.trans rfl⟩

/-- A blank line at the head is not: what fails here is the third line. -/
theorem parseStrict_misnames_failing_line :
    FailsFirst (lines "\n\n\x7bbad".toList) 2 (.malformed .expectingName ⟨1, 2, 1⟩) ∧
    ∃ failure, parseStrict .jsonLines "\n\n\x7bbad" = .error (.parse failure) ∧
      failure.cause = .jsonLines ⟨1, .malformed .expectingName ⟨1, 2, 1⟩⟩ ∧
      failure.message = "Failed to parse JSONLINES: line 1: " ++
        "Expecting property name enclosed in double quotes: line 1 column 2 (char 1)" := by
  have hfails : FailsFirst (lines "\n\n\x7bbad".toList) 2
      (.malformed .expectingName ⟨1, 2, 1⟩) := by
    refine ⟨"\x7bbad".toList, rfl, by decide, rfl, ?_⟩
    have hbefore : (lines "\n\n\x7bbad".toList).take 2 = [[], []] := rfl
    rw [hbefore, List.forall_mem_cons, List.forall_mem_singleton]
    exact ⟨.inl rfl, .inl rfl⟩
  obtain ⟨n, hdecode, hnumber⟩ := JsonLines.exists_decode_eq_error hfails
  have hblanks : leadingBlanks (lines "\n\n\x7bbad".toList) = 2 := by decide
  obtain rfl : n = 1 := by omega
  exact ⟨hfails, _, parseStrict_jsonLines_of_error hdecode, rfl, rfl⟩

end TypeDraft
