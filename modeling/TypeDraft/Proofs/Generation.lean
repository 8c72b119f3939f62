import TypeDraft.Generation
import TypeDraft.Proofs.Except
import TypeDraft.Proofs.Name.Word

/-!
# Names that a definition may have

The name of a definition is looked at before all else. It is admitted if it is a plain name, or one
with a line feed behind it; any other is refused whatever else the request holds.
-/

namespace TypeDraft

namespace Name

/-- A letter of ASCII or an underscore. -/
def IsPlainHead (c : Char) : Prop := c = '_' ∨ 'a' ≤ c ∧ c ≤ 'z' ∨ 'A' ≤ c ∧ c ≤ 'Z'

/-- A letter or digit of ASCII or an underscore. -/
def IsPlainPart (c : Char) : Prop := IsPlainHead c ∨ '0' ≤ c ∧ c ≤ '9'

/-- A text that is a plain name as a whole. -/
def IsPlainName (name : String) : Prop :=
  ∃ c cs, name.toList = c :: cs ∧ IsPlainHead c ∧ ∀ d ∈ cs, IsPlainPart d

instance (c : Char) : Decidable (IsPlainHead c) := inferInstanceAs (Decidable (_ ∨ _))

instance (c : Char) : Decidable (IsPlainPart c) := inferInstanceAs (Decidable (_ ∨ _))

/-- A plain name, perhaps with a line feed behind it. -/
def IsAdmitted (name : String) : Prop :=
  IsPlainName name ∨ ∃ plain, IsPlainName plain ∧ name = plain ++ "\n"

theorem isLetter_iff {c : Char} : isLetter c = true ↔ IsPlainHead c := by
  rw [isLetter, Bool.or_eq_true, Text.isAlpha_iff, beq_iff_eq, Text.isUpper_iff, Text.isLower_iff]
  exact or_comm.trans (or_congr_right or_comm)

theorem isLetterOrDigit_iff {c : Char} : isLetterOrDigit c = true ↔ IsPlainPart c := by
  rw [IsPlainPart, ← isLetter_iff, isLetter, isLetterOrDigit, Char.isAlphanum, Bool.or_eq_true,
    Bool.or_eq_true, Bool.or_eq_true, Text.isDigit_iff]
  exact or_right_comm

theorem isIdentifier_iff {name : String} : IsIdentifier name ↔ IsPlainName name := by
  rw [IsIdentifier, IsPlainName]
  cases name.toList with
  | nil => simp [headThenAll]
  | cons c cs => simp [headThenAll, isLetter_iff, isLetterOrDigit_iff]

instance (name : String) : Decidable (IsPlainName name) := decidable_of_iff _ isIdentifier_iff

theorem isTypeName_iff {name : String} : isTypeName name = true ↔ IsAdmitted name := by
  have hwhole : isTypeName name = true ↔
      IsIdentifier name ∨ ∃ word, IsIdentifier word ∧ name = word ++ "\n" :=
    headThenAll_withoutFinalBreak_iff (by decide) (by decide)
  simp only [isIdentifier_iff] at hwhole
  exact hwhole

end Name

open Name (IsAdmitted IsPlainName isTypeName)

theorem checkName_eq (name : String) :
    checkName name = if isTypeName name then .ok () else .error (.invalidName name) := rfl

variable {registry : Registry} {name : String}

theorem generate_of_invalid {r : Request} (h : isTypeName r.name = false) :
    generate registry r = .error (.invalidName r.name) := by
  rw [generate, checkName_eq, h]
  rfl

/-- Behind the name nothing is refused as a name. -/
theorem generate_ne_invalidName {r : Request} (h : isTypeName r.name = true) (n : String) :
    generate registry r ≠ .error (.invalidName n) := by
  rw [generate, checkName_eq, if_pos h]
  intro hgenerate
  cases hparse : parse r.input r.text with
  | error e =>
      rw [hparse] at hgenerate
      cases hgenerate
  | ok parsed =>
      rw [hparse] at hgenerate
      cases hwriter : registry.writer? r.output with
      | none =>
          simp [bind, Except.bind, Except.mapError, Registry.draft, Registry.writer, hwriter]
            at hgenerate
      | some w =>
          cases hdraft : draftSamples w r.options r.name parsed.primary parsed.extras <;>
            simp [bind, Except.bind, Except.mapError, Registry.draft, Registry.writer, hwriter,
              hdraft, pure, Except.pure] at hgenerate

theorem ofNames_of_invalid (h : isTypeName name = false) (text output : String) (options : Options)
    (input : Option String) :
    Request.ofNames name text output options input = .error (.invalidName name) := by
  rw [Request.ofNames, checkName_eq, h]
  rfl

theorem outputNamed_ne_invalidName (output n : String) :
    outputNamed output ≠ .error (.invalidName n) := by
  rw [outputNamed]
  split <;> exact nofun

theorem mapM_inputNamed_ne_invalidName (input : Option String) (n : String) :
    input.mapM inputNamed ≠ .error (.invalidName n) := by
  cases input with
  | none => exact nofun
  | some input =>
      rw [Option.mapM_some, inputNamed]
      split <;> exact nofun

/-- A request that is made with a valid name bears it, and the formats are not refused as names. -/
theorem ofNames_of_valid (h : isTypeName name = true) (text output : String) (options : Options)
    (input : Option String) :
    (∃ r, Request.ofNames name text output options input = .ok r ∧ r.name = name) ∨
      ∃ e, Request.ofNames name text output options input = .error e ∧
        ∀ n, e ≠ .invalidName n := by
  rw [Request.ofNames, checkName_eq, if_pos h]
  cases houtput : outputNamed output with
  | error e =>
      exact .inr ⟨e, rfl, fun n he => outputNamed_ne_invalidName output n (he ▸ houtput)⟩
  | ok f =>
      cases hinput : input.mapM inputNamed with
      | error e =>
          exact .inr ⟨e, rfl, fun n he => mapM_inputNamed_ne_invalidName input n (he ▸ hinput)⟩
      | ok g => exact .inl ⟨_, rfl, rfl⟩

theorem generate_eq_invalidName_iff {r : Request} :
    generate registry r = .error (.invalidName r.name) ↔ ¬ IsAdmitted r.name := by
  rw [← Name.isTypeName_iff, Bool.not_eq_true]
  refine ⟨fun h => ?_, generate_of_invalid⟩
  by_contra hvalid
  rw [Bool.not_eq_false] at hvalid
  exact generate_ne_invalidName hvalid _ h

/-- Formats that are given by their names change nothing in that. -/
theorem generate_ofNames_eq_invalidName_iff (text output : String) (options : Options)
    (input : Option String) :
    (Request.ofNames name text output options input >>= generate registry) =
      .error (.invalidName name) ↔ ¬ IsAdmitted name := by
  cases hvalid : isTypeName name with
  | false =>
      rw [ofNames_of_invalid hvalid, ← Name.isTypeName_iff, hvalid]
      exact iff_of_true rfl Bool.false_ne_true
  | true =>
      have hadmitted : IsAdmitted name := Name.isTypeName_iff.mp hvalid
      rw [iff_false_intro (not_not_intro hadmitted), iff_false]
      rcases ofNames_of_valid hvalid text output options input with ⟨r, hr, rfl⟩ | ⟨e, he, hne⟩
      · rw [hr]
        exact generate_ne_invalidName hvalid _
      · rw [he]
        exact fun h => hne _ (Except.error.inj h)

/-- A name is valid just if it is admitted. A request under any other name is refused for its name,
whatever its text and its formats are, and none under an admitted name is; so whatever is generated
has an admitted name. -/
theorem generate_admits_names (registry : Registry) (name : String) :
    (isTypeName name = true ↔ IsAdmitted name) ∧
    (∀ r : Request, r.name = name →
      (generate registry r = .error (.invalidName name) ↔ ¬ IsAdmitted name) ∧
      ∀ result, generate registry r = .ok result → IsAdmitted name) ∧
    ∀ text output options input,
      ((Request.ofNames name text output options input >>= generate registry) =
        .error (.invalidName name) ↔ ¬ IsAdmitted name) ∧
      ∀ result, (Request.ofNames name text output options input >>= generate registry) =
        .ok result → IsAdmitted name := by
  refine ⟨Name.isTypeName_iff, fun r hr => ?_, fun text output options input => ?_⟩
  · subst hr
    refine ⟨generate_eq_invalidName_iff, fun result hresult => ?_⟩
    by_contra hrefused
    rw [generate_eq_invalidName_iff.mpr hrefused] at hresult
    cases hresult
  · have hiff : (Request.ofNames name text output options input >>= generate registry) =
        .error (.invalidName name) ↔ ¬ IsAdmitted name :=
      generate_ofNames_eq_invalidName_iff text output options input
    refine ⟨hiff, fun result hresult => ?_⟩
    by_contra hrefused
    rw [hiff.mpr hrefused] at hresult
    cases hresult

/-- A name with a digit at its head is refused although the text cannot be read either. -/
theorem generate_admits_names_digit_first :
    generate .standard { name := "9lives", text := "\x7bnot json", output := .zod } =
      .error (.invalidName "9lives") := by
  have hrefused : ¬ IsAdmitted "9lives" := by
    rw [← Name.isTypeName_iff]
    decide
  exact ((generate_admits_names .standard "9lives").2.1 _ rfl).1.mpr hrefused

/-- A line feed behind the name gets into the definition, where it parts the name of the schema. -/
theorem generate_admits_final_break :
    ¬ IsPlainName "A\n" ∧
    (generate .standard { name := "A\n", text := "1", output := .zod }).toOption.map Result.text =
      some ("import \x7b z \x7d from 'zod';\n\nexport const A\nSchema = z.number().int();\n\n" ++
        "export type A\n = z.infer<typeof A\nSchema>;") := by
  exact ⟨by decide, rfl⟩

end TypeDraft
