import Mathlib.Data.List.Basic
import TypeDraft.Proofs.Json.Lexemes
import TypeDraft.Proofs.TypeScript.Keys
import TypeDraft.Proofs.Value.Fields

/-!
# What a validator tells of a value

Validators can be read in one way only: whatever text follows, the end of one is found and with it
the outline of the values that it was written for. Two values so have one validator just if they
have one outline.
-/

namespace TypeDraft.Zod

open Name (quoteProperty escapeQuoted isPropertyName)
open TypeScript (IsWord isWordHead isWordChar isPropertyName_iff)

/-! ## Outlines -/

/-- What is looked at in a value. Of the items of an array the first one counts alone, and the
fields of an object stand in order. -/
inductive Outline where
  | null
  | boolean
  | string
  | integer
  | number
  | emptyArray
  | array (item : Outline)
  | object (fields : List (String × Outline))

mutual

/-- The outline of a value. What lies outside the normal tree counts as a number without more, as
it does for validators. -/
def outline : Value → Outline
  | .null => .null
  | .bool _ => .boolean
  | .str _ => .string
  | .arr items => arrayOutline items
  | .obj fields => .object (fieldOutlines fields)
  | v => if v.isIntegral then .integer else .number
termination_by structural v => v

def arrayOutline : List Value → Outline
  | [] => .emptyArray
  | v :: _ => .array (outline v)
termination_by structural vs => vs

def fieldOutlines : List (String × Value) → List (String × Outline)
  | [] => []
  | (key, v) :: fields => (key, outline v) :: fieldOutlines fields
termination_by structural fields => fields

end

mutual

/-- The validator for an outline. -/
def Outline.text : (depth : Nat) → Outline → List Char
  | _, .null => "z.null()".toList
  | _, .boolean => "z.boolean()".toList
  | _, .string => "z.string()".toList
  | _, .integer => "z.number().int()".toList
  | _, .number => "z.number()".toList
  | _, .emptyArray => "z.array(z.unknown())".toList
  | depth, .array item => "z.array(".toList ++ (item.text depth ++ ")".toList)
  | _, .object [] => "z.object(\x7b\x7d)".toList
  | depth, .object (field :: fields) =>
    "z.object(\x7b\n".toList ++
      (fieldTexts (depth + 1) (field :: fields) ++ '\n' :: (indent depth ++ "\x7d)".toList))
termination_by structural _ s => s

/-- The lines for some fields; one after another is set off by a comma. -/
def fieldTexts : (depth : Nat) → List (String × Outline) → List Char
  | _, [] => []
  | depth, (key, s) :: fields =>
    indent depth ++ ((quoteProperty key).toList ++ (": ".toList ++ (s.text depth ++
      ((if fields.isEmpty then [] else ",\n".toList) ++ fieldTexts depth fields))))
termination_by structural _ fields => fields

end

/-- What stands behind a field for those that follow it. -/
def furtherTexts (depth : Nat) (fields : List (String × Outline)) : List Char :=
  (if fields.isEmpty then [] else ",\n".toList) ++ fieldTexts depth fields

theorem Outline.text_array (depth : Nat) (item : Outline) : (array item).text depth =
    "z.array(".toList ++ (item.text depth ++ ")".toList) := rfl

theorem Outline.text_object (depth : Nat) (field : String × Outline)
    (fields : List (String × Outline)) : (object (field :: fields)).text depth =
      "z.object(\x7b\n".toList ++ (fieldTexts (depth + 1) (field :: fields) ++
        '\n' :: (indent depth ++ "\x7d)".toList)) := rfl

theorem validator_array (depth : Nat) (v : Value) (vs : List Value) :
    validator depth (.arr (v :: vs)) = "z.array(".toList ++ validator depth v ++ ")".toList := rfl

theorem validator_object (depth : Nat) (field : String × Value) (fields : List (String × Value)) :
    validator depth (.obj (field :: fields)) =
      "z.object(\x7b\n".toList ++ fieldValidators (depth + 1) (field :: fields) ++
        '\n' :: indent depth ++ "\x7d)".toList := rfl

mutual

theorem validator_eq_text : (v : Value) → (depth : Nat) →
    validator depth v = (outline v).text depth
  | .null, _ | .bool _, _ | .str _, _ | .int _, _ | .tuple _, _ | .set _, _ | .map _, _
  | .bytes _, _ | .moment _, _ | .decimal _, _ => rfl
  | .float x, depth => by
    change (if x.isIntegral then "z.number().int()" else "z.number()").toList =
      (if x.isIntegral then Outline.integer else Outline.number).text depth
    split <;> rfl
  | .arr [], _ => rfl
  | .arr (v :: vs), depth => by
    rw [validator_array, validator_eq_text v, List.append_assoc]
    rfl
  | .obj [], _ => rfl
  | .obj ((key, v) :: fields), depth => by
    rw [validator_object, fieldValidators_eq_fieldTexts ((key, v) :: fields), List.append_assoc,
      List.append_assoc]
    rfl

theorem fieldValidators_eq_fieldTexts : (fields : List (String × Value)) → (depth : Nat) →
    fieldValidators depth fields = fieldTexts depth (fieldOutlines fields)
  | [], _ => rfl
  | [(key, v)], depth => by
    simp only [fieldValidators, fieldOutlines, fieldTexts, validator_eq_text v, List.append_assoc,
      List.isEmpty_nil, if_true, List.append_nil]
  | (key, v) :: f :: fields, depth => by
    have hfields := fieldValidators_eq_fieldTexts (f :: fields) depth
    simp only [fieldValidators, fieldOutlines, fieldTexts, validator_eq_text v, hfields,
      List.append_assoc, List.isEmpty_cons, Bool.false_eq_true, if_false]

end

/-! ## Keys -/

theorem escapeQuoted_cases (c : Char) :
    (c = '\\' ∨ c = '"') ∧ escapeQuoted c = ['\\', c] ∨
      (c ≠ '\\' ∧ c ≠ '"') ∧ escapeQuoted c = [c] := by
  by_cases h : c = '\\' ∨ c = '"'
  · exact .inl ⟨h, by simp [escapeQuoted, h]⟩
  · exact .inr ⟨not_or.mp h, by simp [escapeQuoted, h]⟩

theorem escaped_append_ne_quote (c : Char) (r r' : List Char) :
    escapeQuoted c ++ r ≠ '"' :: r' := by
  intro h
  rcases escapeQuoted_cases c with ⟨-, hc⟩ | ⟨hne, hc⟩ <;> rw [hc] at h
  · exact absurd (List.cons.inj h).1 (by decide)
  · exact hne.2 (List.cons.inj h).1

theorem escapeQuoted_append_injective {c d : Char} {r r' : List Char}
    (h : escapeQuoted c ++ r = escapeQuoted d ++ r') : c = d ∧ r = r' := by
  rcases escapeQuoted_cases c with ⟨-, hc⟩ | ⟨hne, hc⟩ <;>
    rcases escapeQuoted_cases d with ⟨-, hd⟩ | ⟨hne', hd⟩ <;> rw [hc, hd] at h
  · exact List.cons.inj (List.cons.inj h).2
  · exact absurd (List.cons.inj h).1.symm hne'.1
  · exact absurd (List.cons.inj h).1 hne.1
  · exact List.cons.inj h

/-- A quotation mark that is not escaped ends a text between quotes. -/
theorem escaped_append_injective {cs ds r r' : List Char}
    (h : cs.flatMap escapeQuoted ++ '"' :: r = ds.flatMap escapeQuoted ++ '"' :: r') :
    cs = ds ∧ r = r' := by
  induction cs generalizing ds with
  | nil =>
      cases ds with
      | nil => exact ⟨rfl, (List.cons.inj h).2⟩
      | cons d ds =>
          rw [List.flatMap_cons, List.append_assoc] at h
          exact absurd h.symm (escaped_append_ne_quote d _ _)
  | cons c cs ih =>
      cases ds with
      | nil =>
          rw [List.flatMap_cons, List.append_assoc] at h
          exact absurd h (escaped_append_ne_quote c _ _)
      | cons d ds =>
          rw [List.flatMap_cons, List.flatMap_cons, List.append_assoc, List.append_assoc] at h
          obtain ⟨rfl, hrest⟩ := escapeQuoted_append_injective h
          obtain ⟨rfl, rfl⟩ := ih hrest
          exact ⟨rfl, rfl⟩

/-- A key that is written as it is holds neither a colon nor a quotation mark. -/
theorem not_mem_of_isPropertyName {key : String} (h : isPropertyName key = true) :
    key.toList ≠ [] ∧ ':' ∉ key.toList ∧ '"' ∉ key.toList := by
  have hword : ∀ word, IsWord word → word.toList ≠ [] ∧ ':' ∉ word.toList ∧ '"' ∉ word.toList := by
    intro word hword
    refine ⟨fun hnil => ?_, Name.not_mem_of_headThenAll hword (by decide) (by decide),
      Name.not_mem_of_headThenAll hword (by decide) (by decide)⟩
    rw [IsWord, hnil] at hword
    cases hword
  rcases isPropertyName_iff.mp h with hkey | ⟨word, hkey, rfl⟩
  · exact hword key hkey
  · obtain ⟨-, hcolon, hquote⟩ := hword word hkey
    simp [String.toList_append, hcolon, hquote]

/-- The colon behind a key is found, whatever the key holds. -/
theorem quoteProperty_append_injective {key key' : String} {r r' : List Char}
    (h : (quoteProperty key).toList ++ ':' :: r = (quoteProperty key').toList ++ ':' :: r') :
    key = key' ∧ r = r' := by
  have hmixed : ∀ {word quoted : String} {r r' : List Char}, isPropertyName word = true →
      word.toList ++ ':' :: r ≠
        (String.ofList ('"' :: quoted.toList.flatMap escapeQuoted ++ ['"'])).toList ++ r' := by
    intro word quoted r r' hword heq
    obtain ⟨hne, -, hquote⟩ := not_mem_of_isPropertyName hword
    obtain ⟨c, cs, hchars⟩ := List.exists_cons_of_ne_nil hne
    rw [hchars, String.toList_ofList] at heq
    rw [hchars, (List.cons.inj heq).1] at hquote
    exact hquote List.mem_cons_self
  rw [quoteProperty, quoteProperty] at h
  split at h <;> rename_i hkey <;> split at h <;> rename_i hkey'
  · have hrun : ∀ {word : String}, isPropertyName word = true →
        ∀ c ∈ word.toList, (c != ':') = true := fun hword c hc =>
      bne_iff_ne.mpr fun heq => (not_mem_of_isPropertyName hword).2.1 (heq ▸ hc)
    obtain ⟨hchars, htail⟩ :=
      Json.append_inj_of_head (hrun hkey) (by simp) (hrun hkey') (by simp) h
    exact ⟨String.toList_injective hchars, (List.cons.inj htail).2⟩
  · exact absurd h (hmixed hkey)
  · exact absurd h.symm (hmixed hkey')
  · simp only [String.toList_ofList, List.cons_append, List.append_assoc] at h
    obtain ⟨hchars, htail⟩ := escaped_append_injective (List.cons.inj h).2
    exact ⟨String.toList_injective hchars, (List.cons.inj htail).2⟩

/-! ## Where a validator ends -/

/-- The kind of the values that have an outline. -/
def Outline.kind : Outline → Kind
  | null => .null
  | boolean => .boolean
  | string => .string
  | integer | number => .number
  | emptyArray | array _ => .array
  | object _ => .object

/-- A validator begins with the name of a kind, which a bracket ends. -/
theorem Outline.exists_text_eq (s : Outline) (depth : Nat) :
    ∃ rest, s.text depth = 'z' :: '.' :: (s.kind.name.toList ++ '(' :: rest) := by
  cases s with
  | null | boolean | string | integer | number | emptyArray => exact ⟨_, rfl⟩
  | array item =>
      have hopening : "z.array(".toList = 'z' :: '.' :: (Kind.array.name.toList ++ ['(']) := rfl
      rw [text_array, hopening]
      exact ⟨item.text depth ++ ")".toList, by simp [kind]⟩
  | object fields =>
      cases fields with
      | nil => exact ⟨_, rfl⟩
      | cons field fields =>
          have hopening : "z.object(\x7b\n".toList =
              'z' :: '.' :: (Kind.object.name.toList ++ ['(', '\x7b', '\n']) := rfl
          rw [text_object, hopening]
          exact ⟨_, by simp [kind]; rfl⟩

theorem Outline.name_eq_of_text {s : Outline} {depth : Nat} {word r r' : List Char}
    (hword : '(' ∉ word) (h : s.text depth ++ r = 'z' :: '.' :: (word ++ '(' :: r')) :
    s.kind.name.toList = word := by
  have hname : '(' ∉ s.kind.name.toList := by cases s <;> simp [kind, Kind.name]
  have hrun : ∀ {word : List Char}, '(' ∉ word → ∀ c ∈ word, (c != '(') = true :=
    fun hword c hc => bne_iff_ne.mpr fun heq => hword (heq ▸ hc)
  obtain ⟨rest, hs⟩ := s.exists_text_eq depth
  rw [hs] at h
  simp only [List.cons_append, List.append_assoc, List.cons.injEq, true_and] at h
  exact (Json.append_inj_of_head (hrun hname) (by simp) (hrun hword) (by simp) h).1

theorem Outline.kind_eq_of_text {s t : Outline} {depth : Nat} {r r' : List Char}
    (h : s.text depth ++ r = t.text depth ++ r') : s.kind = t.kind := by
  have hname : '(' ∉ t.kind.name.toList := by cases t <;> simp [kind, Kind.name]
  obtain ⟨rest, ht⟩ := t.exists_text_eq depth
  rw [ht, List.cons_append, List.cons_append, List.append_assoc, List.cons_append] at h
  exact kind_name_inj.mp (String.toList_injective (name_eq_of_text hname h))

theorem Outline.text_append_ne_unknown (s : Outline) (depth : Nat) (r r' : List Char) :
    s.text depth ++ r ≠ "z.unknown()".toList ++ r' := by
  intro h
  have hname : s.kind.name.toList = "unknown".toList := name_eq_of_text (by decide) h
  cases s <;> simp [kind, Kind.name] at hname

/-- Whether a text does not go on with a further call, so that a validator may end before it. -/
def Stops (r : List Char) : Prop := r.head? ≠ some '.'

theorem stops_cons {c : Char} (h : c ≠ '.') (r : List Char) : Stops (c :: r) := by
  simpa [Stops] using h

/-- The validator for integers is that for numbers with a further call. -/
theorem Outline.not_stops_of_text {depth : Nat} {r r' : List Char}
    (h : integer.text depth ++ r = number.text depth ++ r') : ¬ Stops r' := by
  have hparts : "z.number()".toList ++ (".int()".toList ++ r) = "z.number()".toList ++ r' := h
  rw [← List.append_cancel_left hparts]
  exact fun hstops => hstops rfl

theorem Outline.text_emptyArray_ne (item : Outline) (depth : Nat) (r r' : List Char) :
    emptyArray.text depth ++ r ≠ (array item).text depth ++ r' := by
  intro h
  rw [text_array, List.append_assoc, List.append_assoc] at h
  have hparts : "z.array(".toList ++ ("z.unknown()".toList ++ (")".toList ++ r)) =
      "z.array(".toList ++ (item.text depth ++ (")".toList ++ r')) := h
  exact item.text_append_ne_unknown depth _ _ (List.append_cancel_left hparts).symm

theorem Outline.text_emptyObject_ne (field : String × Outline) (fields : List (String × Outline))
    (depth : Nat) (r r' : List Char) :
    (object []).text depth ++ r ≠ (object (field :: fields)).text depth ++ r' := by
  intro h
  rw [text_object, List.append_assoc] at h
  have hparts : "z.object(\x7b".toList ++ '\x7d' :: (")".toList ++ r) =
      "z.object(\x7b".toList ++ '\n' :: _ := h
  exact absurd (List.cons.inj (List.append_cancel_left hparts)).1 (by decide)

theorem stops_furtherTexts (depth : Nat) (fields : List (String × Outline)) (r : List Char) :
    Stops (furtherTexts depth fields ++ '\n' :: r) := by
  cases fields with
  | nil => exact stops_cons (by decide) r
  | cons f fs => exact stops_cons (by decide) _

mutual

/-- Whatever stands behind a validator, if it is no further call, the outline is determined. -/
theorem text_append_injective : (s t : Outline) → {depth : Nat} → {r r' : List Char} →
    Stops r → Stops r' → s.text depth ++ r = t.text depth ++ r' → s = t ∧ r = r'
  | .null, t, _, _, _, _, _, h => by
    have hkind := Outline.kind_eq_of_text h
    cases t <;> cases hkind
    exact ⟨rfl, List.append_cancel_left h⟩
  | .boolean, t, _, _, _, _, _, h => by
    have hkind := Outline.kind_eq_of_text h
    cases t <;> cases hkind
    exact ⟨rfl, List.append_cancel_left h⟩
  | .string, t, _, _, _, _, _, h => by
    have hkind := Outline.kind_eq_of_text h
    cases t <;> cases hkind
    exact ⟨rfl, List.append_cancel_left h⟩
  | .integer, t, _, _, _, _, hr', h => by
    have hkind := Outline.kind_eq_of_text h
    cases t <;> cases hkind
    case integer => exact ⟨rfl, List.append_cancel_left h⟩
    case number => exact absurd hr' (Outline.not_stops_of_text h)
  | .number, t, _, _, _, hr, _, h => by
    have hkind := Outline.kind_eq_of_text h
    cases t <;> cases hkind
    case integer => exact absurd hr (Outline.not_stops_of_text h.symm)
    case number => exact ⟨rfl, List.append_cancel_left h⟩
  | .emptyArray, t, depth, r, r', _, _, h => by
    have hkind := Outline.kind_eq_of_text h
    cases t <;> cases hkind
    case emptyArray => exact ⟨rfl, List.append_cancel_left h⟩
    case array item => exact absurd h (item.text_emptyArray_ne depth r r')
  | .array item, t, depth, r, r', _, _, h => by
    have hkind := Outline.kind_eq_of_text h
    cases t <;> cases hkind
    case emptyArray => exact absurd h.symm (item.text_emptyArray_ne depth r' r)
    case array item' =>
      rw [Outline.text_array, Outline.text_array, List.append_assoc, List.append_assoc,
        List.append_assoc, List.append_assoc] at h
      obtain ⟨rfl, hrest⟩ := text_append_injective item item'
        (stops_cons (by decide) r) (stops_cons (by decide) r') (List.append_cancel_left h)
      exact ⟨rfl, (List.cons.inj hrest).2⟩
  | .object fields, t, depth, r, r', _, _, h => by
    have hkind := Outline.kind_eq_of_text h
    cases t <;> cases hkind
    case object fields' =>
      cases fields with
      | nil =>
          cases fields' with
          | nil => exact ⟨rfl, List.append_cancel_left h⟩
          | cons g gs => exact absurd h (Outline.text_emptyObject_ne g gs depth r r')
      | cons f fs =>
          cases fields' with
          | nil => exact absurd h.symm (Outline.text_emptyObject_ne f fs depth r' r)
          | cons g gs =>
              rw [Outline.text_object, Outline.text_object, List.append_assoc, List.append_assoc,
                List.append_assoc, List.append_assoc] at h
              have hfields := congrArg (",\n".toList ++ ·) (List.append_cancel_left h)
              simp only [← List.append_assoc, List.cons_append] at hfields
              obtain ⟨heq, hrest⟩ := furtherTexts_append_injective (f :: fs) (g :: gs) hfields
              rw [List.append_assoc, List.append_assoc] at hrest
              exact ⟨congrArg Outline.object heq,
                List.append_cancel_left (List.append_cancel_left hrest)⟩

/-- After a field there may be others, and then the line ends. -/
theorem furtherTexts_append_injective : (fs gs : List (String × Outline)) → {depth : Nat} →
    {r r' : List Char} →
      furtherTexts depth fs ++ '\n' :: r = furtherTexts depth gs ++ '\n' :: r' → fs = gs ∧ r = r'
  | [], [], _, _, _, h => ⟨rfl, (List.cons.inj h).2⟩
  | [], _ :: _, _, _, _, h => by cases h
  | _ :: _, [], _, _, _, h => by cases h
  | (key, s) :: fs, (key', t) :: gs, depth, r, r', h => by
    have hline : ∀ (f : String × Outline) fs r, furtherTexts depth (f :: fs) ++ '\n' :: r =
        ",\n".toList ++ (indent depth ++ ((quoteProperty f.1).toList ++ ':' :: ' ' ::
          (f.2.text depth ++ (furtherTexts depth fs ++ '\n' :: r)))) := by
      intro f fs r
      simp [furtherTexts, fieldTexts]
    rw [hline, hline] at h
    obtain ⟨rfl, hvalue⟩ :=
      quoteProperty_append_injective (List.append_cancel_left (List.append_cancel_left h))
    obtain ⟨rfl, hfurther⟩ := text_append_injective s t (stops_furtherTexts depth fs r)
      (stops_furtherTexts depth gs r') (List.cons.inj hvalue).2
    obtain ⟨rfl, rfl⟩ := furtherTexts_append_injective fs gs hfurther
    exact ⟨rfl, rfl⟩

end

/-! ## What validators tell -/

/-- At every depth two values have one validator just if they have one outline. -/
theorem validator_eq_iff (v w : Value) (depth : Nat) :
    validator depth v = validator depth w ↔ outline v = outline w := by
  rw [validator_eq_text, validator_eq_text]
  constructor
  · intro h
    have hends : (outline v).text depth ++ [] = (outline w).text depth ++ [] := by
      rw [h]
    have hnil : Stops [] := by simp [Stops]
    exact (text_append_injective _ _ hnil hnil hends).1
  · exact congrArg (Outline.text depth)

end TypeDraft.Zod
