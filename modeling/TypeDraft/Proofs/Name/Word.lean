import TypeDraft.Proofs.Name.Fresh
import TypeDraft.Proofs.Text.Ascii
import TypeDraft.Proofs.Text.Trim
import TypeDraft.Proofs.TypeScript.Tokens

/-!
# Names made from field names are words

A type name begins with a capital or an underscore, so it is never one of the predefined types. A
number behind it changes nothing in that.
-/

namespace TypeDraft.Name

open TypeScript (IsWord isWordHead isWordChar)

theorem isWordHead_of_isLetter {c : Char} (h : isLetter c = true) : isWordHead c = true := by
  rw [isWordHead, h, Bool.true_or]

theorem isWordChar_of_isLetterOrDigit {c : Char} (h : isLetterOrDigit c = true) :
    isWordChar c = true := by
  rw [isWordChar, h, Bool.true_or]

theorem isLetterOrDigit_of_isAlphanum {c : Char} (h : c.isAlphanum = true) :
    isLetterOrDigit c = true := by
  rw [isLetterOrDigit, h, Bool.true_or]

theorem not_mem_of_headThenAll {first later : Char → Bool} {cs : List Char}
    (h : headThenAll first later cs = true) {d : Char} (hfirst : first d = false)
    (hlater : later d = false) : d ∉ cs := by
  cases cs with
  | nil => cases h
  | cons c cs =>
      rw [headThenAll, Bool.and_eq_true, List.all_eq_true] at h
      intro hmem
      rcases List.mem_cons.mp hmem with rfl | hmem
      · exact Bool.false_ne_true (hfirst.symm.trans h.1)
      · exact Bool.false_ne_true (hlater.symm.trans (h.2 d hmem))

theorem headThenAll_mono {first later first' later' : Char → Bool} {cs : List Char}
    (hfirst : ∀ c, first c = true → first' c = true)
    (hlater : ∀ c, later c = true → later' c = true) (h : headThenAll first later cs = true) :
    headThenAll first' later' cs = true := by
  cases cs with
  | nil => cases h
  | cons c cs =>
      rw [headThenAll, Bool.and_eq_true, List.all_eq_true] at h ⊢
      exact ⟨hfirst c h.1, fun d hd => hlater d (h.2 d hd)⟩

/-- A text whose last line feed is let pass is a name, or it is one with a line feed behind it. -/
theorem headThenAll_withoutFinalBreak_iff {first later : Char → Bool} (hfirst : first '\n' = false)
    (hlater : later '\n' = false) {s : String} :
    headThenAll first later (Text.withoutFinalBreak s.toList) = true ↔
      headThenAll first later s.toList = true ∨
        ∃ word : String, headThenAll first later word.toList = true ∧ s = word ++ "\n" := by
  have hlast : ∀ ds, headThenAll first later ds = true → ds.getLast? ≠ some '\n' :=
    fun ds h hlast => not_mem_of_headThenAll h hfirst hlater (List.mem_of_getLast? hlast)
  rw [Text.withoutFinalBreak_iff (P := fun ds => headThenAll first later ds = true) hlast]
  refine or_congr_right ⟨?_, ?_⟩
  · rintro ⟨ds, hds, heq⟩
    refine ⟨String.ofList ds, by rwa [String.toList_ofList], String.toList_injective ?_⟩
    rw [heq, String.toList_append, String.toList_ofList]
    rfl
  · rintro ⟨word, hword, rfl⟩
    exact ⟨word.toList, hword, String.toList_append⟩

/-! ## Numbers behind names -/

theorem all_isDigit_toString (n : Nat) : (toString n).toList.all Char.isDigit = true := by
  rw [List.all_eq_true]
  intro c hc
  have hrepr : (toString n).toList = Nat.toDigits 10 n := Nat.toList_repr
  rw [hrepr] at hc
  exact Nat.isDigit_of_mem_toDigits (by decide) (by decide) hc

theorem headThenAll_numbered {first later : Char → Bool} (hlater : ∀ c : Char, c.isDigit → later c)
    {name : String} (h : headThenAll first later name.toList = true) (n : Nat) :
    headThenAll first later (numbered name n).toList = true := by
  rw [numbered, String.toList_append]
  cases hname : name.toList with
  | nil =>
      rw [hname] at h
      cases h
  | cons c cs =>
      rw [hname, headThenAll, Bool.and_eq_true] at h
      rw [List.cons_append, headThenAll, List.all_append, h.1, h.2, Bool.true_and, Bool.true_and,
        List.all_eq_true]
      exact fun d hd => hlater d (List.all_eq_true.mp (all_isDigit_toString n) d hd)

theorem headThenAll_unique {first later : Char → Bool} (hlater : ∀ c : Char, c.isDigit → later c)
    {name : String} (h : headThenAll first later name.toList = true) (taken : List String) :
    headThenAll first later (unique name taken).toList = true := by
  rcases unique_eq_or name taken with heq | ⟨n, heq⟩
  · rwa [heq]
  · rw [heq]
    exact headThenAll_numbered hlater h n

theorem isLetterOrDigit_of_isDigit (c : Char) (h : c.isDigit) : isLetterOrDigit c :=
  isLetterOrDigit_of_isAlphanum (by rw [Char.isAlphanum, h, Bool.or_true])

theorem isWord_unique {name : String} (h : IsWord name) (taken : List String) :
    IsWord (unique name taken) :=
  headThenAll_unique (fun c hc => isWordChar_of_isLetterOrDigit (isLetterOrDigit_of_isDigit c hc))
    h taken

/-! ## Identifiers -/

/-- A letter or an underscore, then letters, digits and underscores; all of them in ASCII. -/
def IsIdentifier (name : String) : Prop := headThenAll isLetter isLetterOrDigit name.toList = true

instance (name : String) : Decidable (IsIdentifier name) := inferInstanceAs (Decidable (_ = true))

theorem IsIdentifier.isWord {name : String} (h : IsIdentifier name) : IsWord name :=
  headThenAll_mono (fun _ => isWordHead_of_isLetter) (fun _ => isWordChar_of_isLetterOrDigit) h

theorem isIdentifier_unique {name : String} (h : IsIdentifier name) (taken : List String) :
    IsIdentifier (unique name taken) :=
  headThenAll_unique isLetterOrDigit_of_isDigit h taken

theorem isIdentifier_ofList_cons {c : Char} {cs : List Char} (hc : isLetter c = true)
    (hcs : ∀ d ∈ cs, isLetterOrDigit d = true) : IsIdentifier (String.ofList (c :: cs)) := by
  rw [IsIdentifier, String.toList_ofList, headThenAll, hc, Bool.true_and, List.all_eq_true]
  exact hcs

/-! ## Capitals -/

/-- A name that does not begin with a small letter. -/
def IsCapital (name : String) : Prop := ∀ c ∈ name.toList.head?, c.isLower = false

instance (name : String) : Decidable (IsCapital name) :=
  decidable_of_iff (name.toList.head?.all (!·.isLower) = true) <| by
    rw [IsCapital]
    cases name.toList.head? <;> simp

theorem isCapital_unique {name : String} (hword : IsWord name) (h : IsCapital name)
    (taken : List String) : IsCapital (unique name taken) := by
  rcases unique_eq_or name taken with heq | ⟨n, heq⟩
  · rwa [heq]
  · have hne : name.toList ≠ [] := by
      intro hnil
      rw [IsWord, hnil] at hword
      cases hword
    rw [heq, IsCapital, numbered, String.toList_append, List.head?_append_of_ne_nil _ hne]
    exact h

/-! ## Type names -/

theorem of_mem_wordsFrom {word cs w : List Char} (hword : word.all Char.isAlphanum = true)
    (hw : w ∈ wordsFrom word cs) : w ≠ [] ∧ w.all Char.isAlphanum = true := by
  have hread : word ≠ [] → word.reverse ≠ [] ∧ word.reverse.all Char.isAlphanum = true := by
    intro hne
    exact ⟨by simpa using hne, by rwa [List.all_reverse]⟩
  induction cs generalizing word with
  | nil =>
      cases word with
      | nil => cases hw
      | cons d ds =>
          obtain rfl := List.mem_singleton.mp hw
          exact hread (List.cons_ne_nil d ds)
  | cons c cs ih =>
      have hnil : ([] : List Char) ≠ [] → ([] : List Char).reverse ≠ [] ∧
          ([] : List Char).reverse.all Char.isAlphanum = true := fun h => absurd rfl h
      rw [wordsFrom] at hw
      split at hw
      · rename_i hc
        have hcons : (c :: word).all Char.isAlphanum = true := by rw [List.all_cons, hc, hword]; rfl
        refine ih hcons hw fun _ => ⟨by simp, by rwa [List.all_reverse]⟩
      · cases word with
        | nil => exact ih rfl hw hnil
        | cons d ds =>
            rcases List.mem_cons.mp hw with rfl | hw
            · exact hread (List.cons_ne_nil d ds)
            · exact ih rfl hw hnil

theorem toNat_lt_of_isAlphanum {c : Char} (h : c.isAlphanum = true) : c.toNat < 128 := by
  have hle := (Text.isPrintable_of_isAlphanum h).2
  omega

/-- What holds of the characters of ASCII holds of letters and digits. -/
theorem of_isAlphanum {p : Char → Prop} (hall : ∀ n : Fin 128, p (Char.ofNat n)) {c : Char}
    (h : c.isAlphanum = true) : p c := by
  have hc := hall ⟨c.toNat, toNat_lt_of_isAlphanum h⟩
  rwa [Char.ofNat_toNat] at hc

/-- A letter or digit in upper case is a letter or digit, and no small letter. -/
theorem isAlphanum_toUpper {c : Char} (h : c.isAlphanum = true) :
    c.toUpper.isAlphanum = true ∧ c.toUpper.isLower = false :=
  of_isAlphanum (p := fun c => c.isAlphanum = true →
    c.toUpper.isAlphanum = true ∧ c.toUpper.isLower = false) (by decide) h h

theorem capitalizeFirst_cons {c : Char} (h : c.isAlphanum = true) (cs : List Char) :
    capitalizeFirst (c :: cs) = c.toUpper :: cs := by
  rw [capitalizeFirst, Text.upperChar, if_pos (toNat_lt_of_isAlphanum h), List.singleton_append]

theorem all_isAlphanum_capitalizeFirst {w : List Char} (h : w.all Char.isAlphanum = true) :
    (capitalizeFirst w).all Char.isAlphanum = true := by
  cases w with
  | nil => rfl
  | cons c cs =>
      rw [List.all_cons, Bool.and_eq_true] at h
      rw [capitalizeFirst_cons h.1, List.all_cons, (isAlphanum_toUpper h.1).1, h.2]
      rfl

theorem not_isLower_head_capitalizeFirst {w : List Char} (h : w.all Char.isAlphanum = true) :
    ∀ c ∈ (capitalizeFirst w).head?, c.isLower = false := by
  cases w with
  | nil => exact nofun
  | cons d ds =>
      rw [List.all_cons, Bool.and_eq_true] at h
      intro c hc
      rw [capitalizeFirst_cons h.1, List.head?_cons, Option.mem_some] at hc
      exact hc ▸ (isAlphanum_toUpper h.1).2

theorem head?_flatMap_capitalizeFirst {ws : List (List Char)}
    (h : ∀ w ∈ ws, w ≠ [] ∧ w.all Char.isAlphanum = true) :
    ∀ c ∈ (ws.flatMap capitalizeFirst).head?, c.isLower = false := by
  cases ws with
  | nil => exact nofun
  | cons w ws =>
      obtain ⟨hne, hw⟩ := h w List.mem_cons_self
      obtain ⟨d, ds, rfl⟩ := List.exists_cons_of_ne_nil hne
      have hcap : capitalizeFirst (d :: ds) ≠ [] := by
        rw [List.all_cons, Bool.and_eq_true] at hw
        rw [capitalizeFirst_cons hw.1]
        exact List.cons_ne_nil _ _
      rw [List.flatMap_cons, List.head?_append_of_ne_nil _ hcap]
      exact not_isLower_head_capitalizeFirst hw

theorem isAlphanum_of_mem_words {s : String} {w : List Char} (hw : w ∈ words s.toList) :
    w ≠ [] ∧ w.all Char.isAlphanum = true := of_mem_wordsFrom rfl hw

theorem isIdentifier_pascalCase (s : String) : IsIdentifier (pascalCase s) := by
  have hall : ∀ d ∈ (words s.toList).flatMap capitalizeFirst, isLetterOrDigit d = true := by
    intro d hd
    obtain ⟨w, hw, hd⟩ := List.mem_flatMap.mp hd
    have hcap := all_isAlphanum_capitalizeFirst (isAlphanum_of_mem_words hw).2
    exact isLetterOrDigit_of_isAlphanum (List.all_eq_true.mp hcap d hd)
  rw [pascalCase]
  split
  · decide
  · rename_i c cs hcs
    rw [hcs] at hall
    split
    · rename_i halpha
      have hc : isLetter c = true := by rw [isLetter, halpha, Bool.true_or]
      exact isIdentifier_ofList_cons hc fun d hd => hall d (List.mem_cons_of_mem c hd)
    · exact isIdentifier_ofList_cons (by decide) hall

theorem isCapital_pascalCase (s : String) : IsCapital (pascalCase s) := by
  have hhead := head?_flatMap_capitalizeFirst fun w hw => isAlphanum_of_mem_words (s := s) hw
  rw [pascalCase]
  split
  · decide
  · rename_i c cs hcs
    rw [hcs] at hhead
    rw [IsCapital, String.toList_ofList]
    split
    · exact hhead
    · intro d hd
      obtain rfl : '_' = d := by simpa using hd
      decide

/-- A type name is a word that does not begin with a small letter. -/
theorem isWord_pascalCase (s : String) : IsWord (pascalCase s) ∧ IsCapital (pascalCase s) :=
  ⟨(isIdentifier_pascalCase s).isWord, isCapital_pascalCase s⟩

/-! ## Members of enumerations -/

theorem mem_collapse {keep : Char → Bool} {inRun : Bool} {cs : List Char} {c : Char}
    (h : c ∈ collapse keep inRun cs) : keep c = true ∨ c = '_' := by
  induction cs generalizing inRun with
  | nil => cases h
  | cons d ds ih =>
      rw [collapse] at h
      split at h
      · rename_i hd
        rcases List.mem_cons.mp h with rfl | h
        · exact Or.inl hd
        · exact ih h
      · split at h
        · exact ih h
        · rcases List.mem_cons.mp h with rfl | h
          · exact Or.inr rfl
          · exact ih h

theorem isAlpha_of_isUpper {c : Char} (h : c.isUpper = true) : c.isAlpha = true :=
  Text.isAlpha_iff.mpr (.inl h)

/-- A capital or an underscore, then capitals, digits and underscores; all of them in ASCII. -/
def IsMemberName (name : String) : Prop :=
  headThenAll (fun c => c.isUpper || c == '_') (fun c => c.isUpper || c.isDigit || c == '_')
    name.toList = true

instance (name : String) : Decidable (IsMemberName name) := inferInstanceAs (Decidable (_ = true))

theorem isLetterOrDigit_of_isMemberChar {c : Char}
    (h : (c.isUpper || c.isDigit || c == '_') = true) : isLetterOrDigit c = true := by
  simp only [Bool.or_eq_true, beq_iff_eq] at h
  rcases h with (h | h) | rfl
  · simp [isLetterOrDigit, Char.isAlphanum, isAlpha_of_isUpper h]
  · exact isLetterOrDigit_of_isDigit c h
  · decide

theorem IsMemberName.isWord {name : String} (h : IsMemberName name) : IsWord name := by
  refine IsIdentifier.isWord
    (headThenAll_mono (fun c hc => ?_) (fun _ => isLetterOrDigit_of_isMemberChar) h)
  rcases Bool.or_eq_true_iff.mp hc with hupper | hline
  · rw [isLetter, isAlpha_of_isUpper hupper, Bool.true_or]
  · rw [isLetter, hline, Bool.or_true]

theorem isMemberName_enumMember (s : String) : IsMemberName (enumMember s) := by
  have hall : ∀ c ∈ collapse (fun c => c.isUpper || c.isDigit) false
      (s.toList.flatMap Text.upperChar), (c.isUpper || c.isDigit || c == '_') = true := by
    intro c hc
    rcases mem_collapse hc with hkeep | rfl
    · rw [hkeep, Bool.true_or]
    · decide
  rw [enumMember]
  split
  · decide
  · rename_i c cs hcs
    rw [hcs] at hall ⊢
    rw [IsMemberName, String.toList_ofList]
    split
    · rw [headThenAll, List.all_eq_true.mpr hall]
      decide
    · rename_i hdigit
      obtain ⟨hc, htail⟩ := List.forall_mem_cons.mp hall
      rw [Bool.not_eq_true] at hdigit
      rw [hdigit, Bool.or_false] at hc
      rw [headThenAll, hc, List.all_eq_true.mpr htail]
      rfl

theorem isMemberName_unique {name : String} (h : IsMemberName name) (taken : List String) :
    IsMemberName (unique name taken) :=
  headThenAll_unique (fun c hc => by rw [hc, Bool.or_true, Bool.true_or]) h taken

end TypeDraft.Name
