import TypeDraft.Profile
import TypeDraft.Proofs.Files
import TypeDraft.Proofs.Text.Ascii
import TypeDraft.Proofs.Yaml.Loading

/-!
# Saved profiles

A profile is written as the lines of a mapping, whose last entry is the mapping of its options. What
is written is plain text, so that a file holds it as it is, and loading reads the mapping back: a
string stays a string however it looks.
-/

namespace TypeDraft

namespace Options

/-- The mapping that options are kept as. -/
def toValue (o : Options) : Value := .obj (o.toList.map fun f => (f.1, .bool f.2))

theorem ofValue_toValue (o : Options) : ofValue o.toValue = .ok o := by
  obtain ⟨⟩ := o
  rfl

theorem isNormal_toValue (o : Options) : o.toValue.isNormal = true := by
  simp [toValue, Value.isNormal, Value.areNormalFields, toList, Switch.all, Switch.name]

end Options

namespace Profile

/-- The settings of a profile that are strings. -/
def settings (p : Profile) : List (String × String) :=
  [("name", p.name), ("description", p.description), ("output_format", p.output.name)] ++
    (p.input.map fun f => ("input_format", f.name)).toList

/-- The mapping that a profile is kept as. -/
def fields (p : Profile) : List (String × Value) :=
  (p.settings.map fun f => (f.1, .str f.2)) ++ [("options", p.options.toValue)]

/-! ## What is read -/

theorem inputOf_name (f : InputFormat) : inputOf (.str f.name) f.name = .ok (some f) := by
  have hname : InputFormat.ofName? (Text.lower f.name) = some f := by
    cases f <;> rfl
  have hshown : (Value.str f.name).isShown = true := rfl
  simp only [inputOf, hshown, hname, Bool.not_true, Bool.false_eq_true, if_false]

theorem outputOf_name (f : OutputFormat) (shown : String) :
    outputOf (.str f.name) shown = .ok f := by
  simp only [outputOf, string?, Option.bind_some, OutputFormat.ofName?_name]

/-- The format that a mapping names is that of the profile, and none if it names none. -/
theorem inputOf_fields (p : Profile) :
    inputOf ((p.input.map fun f => Value.str f.name).getD .null)
      ((p.input.map fun f => Value.str f.name).getD .null).display = .ok p.input := by
  cases p.input with
  | none => rfl
  | some f => exact inputOf_name f

/-- The mapping that a profile is kept as is read as that profile. -/
theorem ofReading_fields (p : Profile) : ofReading { value := .obj p.fields } = .ok p := by
  have hinput : setting? (.obj p.fields) "input_format" =
      p.input.map fun f => .str f.name := by
    rw [fields, settings]
    cases p.input <;> rfl
  have hoptions : setting? (.obj p.fields) "options" =
      some p.options.toValue := by
    rw [fields, settings]
    cases p.input <;> rfl
  have hname : setting? (.obj p.fields) "name" = some (.str p.name) := rfl
  have hdescription : setting? (.obj p.fields) "description" = some (.str p.description) := rfl
  have houtput : setting? (.obj p.fields) "output_format" = some (.str p.output.name) := rfl
  simp only [ofReading, hinput, hoptions, hname, hdescription, houtput, List.lookup_nil,
    Option.getD_some, Option.getD_none, pure, Except.pure, bind, Except.bind, outputOf_name,
    inputOf_fields, Options.ofValue_toValue, Except.mapError, stringSetting, ofFields]

/-! ## What is written -/

open Text (IsPlain)
open Yaml (ScalarLine plainTag)
open Yaml.TokenSource (IsKey nestedChars)

/-- The keys that a profile and its options are kept under. -/
def keys : List String :=
  ["name", "description", "output_format", "input_format", "options"] ++ Switch.all.map Switch.name

theorem isKey_of_mem_keys : ∀ key ∈ keys, IsKey key.toList ∧ plainTag key = .str := by
  decide +kernel

theorem name_mem_keys (w : Switch) : w.name ∈ keys := by
  cases w <;> decide

theorem mem_keys_of_mem_settings (p : Profile) : ∀ f ∈ p.settings, f.1 ∈ keys := by
  cases hinput : p.input <;> simp [settings, hinput, keys]

theorem exists_stringLine {key : String} (value : String) (hkey : IsKey key.toList)
    (htag : plainTag key = .str) : ∃ l : ScalarLine,
      l.Holds 0 (key, .str value) ∧ l.chars 0 = (stringLine key value).toList := by
  obtain ⟨isPlain, hwritten⟩ := Yaml.writtenAs_writeString (key.length + 2) value
  refine ⟨_, Yaml.holds_of_writtenAs hkey htag hwritten, ?_⟩
  simp [ScalarLine.chars, stringLine]

def word (b : Bool) : String := if b then "true" else "false"

theorem keepsPlain_word (b : Bool) : Yaml.KeepsPlain (word b).toList where
  printable := by cases b <;> decide
  head := by cases b <;> decide
  last := by cases b <;> decide
  indicator := by cases b <;> decide

theorem scalarValue_word (b : Bool) :
    Yaml.scalarValue (plainTag (word b)) (word b) = .ok (.bool b) := by
  have htag : plainTag (word b) = .bool := by cases b <;> decide +kernel
  have hbool : Yaml.boolean? (Text.lower (word b)) = some b := by cases b <;> rfl
  rw [htag, Yaml.scalarValue, hbool]

theorem exists_switchLine (w : Switch) (b : Bool) : ∃ l : ScalarLine,
    l.Holds 2 (w.name, .bool b) ∧ l.chars 2 = (switchLine (w.name, b)).toList := by
  obtain ⟨hkey, htag⟩ := isKey_of_mem_keys _ (name_mem_keys w)
  refine ⟨⟨w.name, (word b).toList, word b, true⟩, ?_, ?_⟩
  · exact {
      isKey := hkey
      reads := Yaml.TokenSource.readsAs_of_word 2 (by cases b <;> decide) (keepsPlain_word b)
        (by cases b <;> decide)
      key := rfl
      tag := htag
      isPlain := fun d hd => ((keepsPlain_word b).printable d hd).isPlain
      value := scalarValue_word b
      normal := rfl }
  · simp [ScalarLine.chars, switchLine, word]

theorem toList_text (p : Profile) : p.text.toList =
    (p.settings.flatMap fun f => (stringLine f.1 f.2).toList) ++
      ("options".toList ++ ':' :: '\n' ::
        p.options.toList.flatMap fun f => (switchLine f).toList) := by
  cases hinput : p.input <;> simp [text, settings, hinput, List.flatMap_map]

theorem normalize_fields (p : Profile) : (Value.obj p.fields).normalize = .obj p.fields := by
  have hoptions := p.options.isNormal_toValue
  apply Value.normalize_of_isNormal
  cases hinput : p.input <;>
    simp [fields, settings, hinput, Value.isNormal, Value.areNormalFields, hoptions]

/-! ## There and back -/

/-- The text of a profile is made of lines that hold its settings and its options. -/
theorem exists_lines_text (p : Profile) : ∃ lines inner : List ScalarLine,
    List.Forall₂ (ScalarLine.Holds 0) lines (p.settings.map fun f => (f.1, .str f.2)) ∧
      List.Forall₂ (ScalarLine.Holds 2) inner
        (Switch.all.map fun w => (w.name, .bool (p.options.get w))) ∧
      p.text.toList = nestedChars lines "options" inner := by
  obtain ⟨lines, hlines, hchars⟩ := Yaml.exists_lines p.settings fun f hf =>
    have hkey := isKey_of_mem_keys _ (mem_keys_of_mem_settings p f hf)
    exists_stringLine f.2 hkey.1 hkey.2
  obtain ⟨inner, hinners, hinner⟩ := Yaml.exists_lines Switch.all fun w _ =>
    exists_switchLine w (p.options.get w)
  refine ⟨lines, inner, hlines, hinners, ?_⟩
  rw [toList_text, nestedChars, hchars, hinner, Options.toList, List.flatMap_map]

theorem isKey_options : IsKey "options".toList ∧ plainTag "options" = .str :=
  isKey_of_mem_keys _ (by decide)

/-- The text of a profile is plain, whatever its name and its description hold. -/
theorem isPlain_text (p : Profile) : ∀ c ∈ p.text.toList, IsPlain c := by
  obtain ⟨lines, inner, hlines, hinners, htext⟩ := exists_lines_text p
  rw [htext]
  exact Yaml.isPlain_nestedChars hlines hinners isKey_options.1

/-- The text of a profile is read as that profile, whatever its name and its description are. -/
theorem ofText_text (p : Profile) : ofText p.text = .ok p := by
  obtain ⟨lines, inner, hlines, hinners, htext⟩ := exists_lines_text p
  have hne : lines ≠ [] := by
    rintro rfl
    cases hlines
  have hnone : inner ≠ [] := by
    rintro rfl
    cases hinners
  have hload : Yaml.loadOnly p.text.toList = .ok { value := .obj p.fields } := by
    rw [htext, Yaml.loadOnly_nestedChars hlines hinners hne hnone isKey_options.1 isKey_options.2,
      ← normalize_fields, fields, Options.toValue, Options.toList, List.map_map]
    rfl
  rw [ofText, hload]
  exact ofReading_fields p

/-- What has been saved is loaded: the profile is the same. -/
theorem load_save {p : Profile} {fs fs' : Files} {path : Path} (h : p.save fs path = some fs') :
    load fs' path = .ok p := by
  have hplain := isPlain_text p
  simp only [load, Files.place_write h, Text.decodeUtf8_of_plain hplain,
    Text.unifyLineEnds_of_plain hplain, ofText_text]

/-- A profile whose name and description look like other values. -/
def lookalikes : Profile where
  name := "null"
  description := "2024-01-01\n- 'yes': 1e3 # \u00e9"
  output := .zod
  input := some .csv
  options := { useReadonly := false }

theorem load_save_lookalikes : ∃ fs',
    lookalikes.save { files := [] } ["profiles", "typegen.yaml"] = some fs' ∧
      load fs' ["profiles", "typegen.yaml"] = .ok lookalikes := by
  have hsaved : (lookalikes.save { files := [] } ["profiles", "typegen.yaml"]).isSome = true := by
    decide +kernel
  obtain ⟨fs', h⟩ := Option.isSome_iff_exists.mp hsaved
  exact ⟨fs', h, load_save h⟩

end Profile

end TypeDraft
