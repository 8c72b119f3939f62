import TypeDraft.Proofs.Name.Word

/-!
# Where a name comes from

A name without a number was asked for as it is, and a name of one word was made from that word. Both
can be told from its letters alone.
-/

namespace TypeDraft.Name

/-! ## Names without numbers -/

theorem any_isDigit_getLast?_numbered (name : String) (n : Nat) :
    (numbered name n).toList.getLast?.any Char.isDigit = true := by
  have hdigits : (toString n).toList ≠ [] := by
    rw [show (toString n).toList = Nat.toDigits 10 n from Nat.toList_repr]
    exact Nat.toDigits_ne_nil
  rw [numbered, String.toList_append, List.getLast?_append, List.getLast?_eq_some_getLast hdigits]
  exact List.all_eq_true.mp (all_isDigit_toString n) _ (List.getLast_mem hdigits)

/-- A name that does not end in a digit is handed out only to one who asks for it. -/
theorem unique_eq_iff {name wanted : String}
    (hend : wanted.toList.getLast?.any Char.isDigit = false) (taken : List String) :
    unique name taken = wanted ↔ name = wanted ∧ wanted ∉ taken := by
  constructor
  · rintro rfl
    refine ⟨?_, unique_not_mem name taken⟩
    rcases unique_eq_or name taken with heq | ⟨n, heq⟩
    · exact heq.symm
    · rw [heq, any_isDigit_getLast?_numbered] at hend
      cases hend
  · rintro ⟨rfl, hfree⟩
    rw [unique, if_neg hfree]

/-- The names in use after names made from some texts have been handed out one by one. -/
def handOut (taken : List String) (texts : List String) : List String :=
  texts.foldl (fun taken text => unique (pascalCase text) taken :: taken) taken

theorem handOut_append (taken texts texts' : List String) :
    handOut taken (texts ++ texts') = handOut (handOut taken texts) texts' :=
  List.foldl_append

theorem mem_handOut_iff {wanted : String}
    (hend : wanted.toList.getLast?.any Char.isDigit = false) (taken texts : List String) :
    wanted ∈ handOut taken texts ↔ wanted ∈ taken ∨ ∃ text ∈ texts, pascalCase text = wanted := by
  induction texts generalizing taken with
  | nil => simp [handOut]
  | cons text texts ih =>
      have hstep : wanted ∈ unique (pascalCase text) taken :: taken ↔
          pascalCase text = wanted ∨ wanted ∈ taken := by
        rw [List.mem_cons, eq_comm, unique_eq_iff hend]
        by_cases htaken : wanted ∈ taken <;> simp [htaken]
      rw [handOut, List.foldl_cons, ← handOut, ih, hstep, List.exists_mem_cons_iff]
      rw [or_comm (b := wanted ∈ taken), or_assoc]

/-! ## Names of one word -/

/-- Words with capitals that run together as one letter and small letters behind it are one word,
since each further word would show by a capital or a digit. -/
theorem eq_singleton_of_flatMap_capitalizeFirst {ws : List (List Char)}
    (hws : ∀ w ∈ ws, w ≠ [] ∧ w.all Char.isAlphanum = true) {initial : Char} {small : List Char}
    (hsmall : small.all Char.isLower = true)
    (h : ws.flatMap capitalizeFirst = initial :: small) :
    ∃ c, ws = [c :: small] ∧ c.toUpper = initial := by
  have hhead : ∀ w ∈ ws, ∃ c cs, w = c :: cs ∧ c.isAlphanum = true := by
    intro w hw
    obtain ⟨hne, hall⟩ := hws w hw
    obtain ⟨c, cs, rfl⟩ := List.exists_cons_of_ne_nil hne
    exact ⟨c, cs, rfl, (Bool.and_eq_true_iff.mp hall).1⟩
  cases ws with
  | nil => cases h
  | cons w ws =>
      obtain ⟨c, cs, rfl, hc⟩ := hhead w List.mem_cons_self
      rw [List.flatMap_cons, capitalizeFirst_cons hc, List.cons_append] at h
      obtain ⟨hupper, hrest⟩ := List.cons.inj h
      cases ws with
      | nil => exact ⟨c, by rw [← hrest, List.flatMap_nil, List.append_nil], hupper⟩
      | cons w' ws =>
          obtain ⟨d, ds, rfl, hd⟩ := hhead w' (List.mem_cons_of_mem _ List.mem_cons_self)
          rw [List.flatMap_cons, capitalizeFirst_cons hd] at hrest
          have hlower := List.all_eq_true.mp hsmall d.toUpper (by simp [← hrest])
          rw [(isAlphanum_toUpper hd).2] at hlower
          cases hlower

/-- A name of a letter and small letters behind it is made from one word. The name `Type` is also
made from a text without words. -/
theorem pascalCase_eq_iff {initial : Char} {small : List Char} (hinitial : initial.isAlpha = true)
    (hsmall : small.all Char.isLower = true) (hne : initial :: small ≠ "Type".toList) (s : String) :
    pascalCase s = String.ofList (initial :: small) ↔
      ∃ c, words s.toList = [c :: small] ∧ c.toUpper = initial := by
  have hwords : ∀ w ∈ words s.toList, w ≠ [] ∧ w.all Char.isAlphanum = true := fun w hw =>
    isAlphanum_of_mem_words hw
  constructor
  · intro h
    apply eq_singleton_of_flatMap_capitalizeFirst hwords hsmall
    rw [pascalCase] at h
    split at h
    · exact absurd (String.ofList_injective h.symm) hne
    · rename_i c cs hcs
      have hletters := String.ofList_injective h
      split at hletters
      · rw [hcs, hletters]
      · obtain ⟨rfl, -⟩ := List.cons.inj hletters
        cases hinitial
  · rintro ⟨c, hc, rfl⟩
    obtain ⟨-, hall⟩ := hwords (c :: small) (by simp [hc])
    rw [pascalCase, hc, List.flatMap_singleton,
      capitalizeFirst_cons (Bool.and_eq_true_iff.mp hall).1]
    simp only [hinitial, if_true]

theorem toUpper_eq_iff {c : Char} (h : c.isAlphanum = true) :
    c.toUpper = 'D' ↔ c = 'd' ∨ c = 'D' :=
  of_isAlphanum (p := fun c => c.toUpper = 'D' ↔ c = 'd' ∨ c = 'D') (by decide) h

/-- Whether a text, read as words, is the one word `date`, with or without a capital. -/
def SpellsDate (s : String) : Prop :=
  words s.toList = ["date".toList] ∨ words s.toList = ["Date".toList]

instance (s : String) : Decidable (SpellsDate s) := inferInstanceAs (Decidable (_ ∨ _))

theorem pascalCase_eq_date_iff (s : String) : pascalCase s = "Date" ↔ SpellsDate s := by
  have hword : pascalCase s = String.ofList ('D' :: "ate".toList) ↔
      ∃ c, words s.toList = [c :: "ate".toList] ∧ c.toUpper = 'D' :=
    pascalCase_eq_iff (by decide) (by decide) (by decide) s
  have hdate : String.ofList ('D' :: "ate".toList) = "Date" := by decide
  rw [hdate] at hword
  rw [hword]
  constructor
  · rintro ⟨c, hc, hupper⟩
    have hall := (isAlphanum_of_mem_words (s := s) (w := c :: "ate".toList) (by simp [hc])).2
    rcases (toUpper_eq_iff (Bool.and_eq_true_iff.mp hall).1).mp hupper with rfl | rfl
    · exact Or.inl hc
    · exact Or.inr hc
  · rintro (h | h)
    · exact ⟨'d', h, by decide⟩
    · exact ⟨'D', h, by decide⟩

/-! ## Words and their letters -/

theorem flatten_wordsFrom (word cs : List Char) :
    (wordsFrom word cs).flatten = word.reverse ++ cs.filter Char.isAlphanum := by
  induction cs generalizing word with
  | nil => cases word <;> simp [wordsFrom]
  | cons c cs ih =>
      rw [wordsFrom]
      split
      · rename_i hc
        rw [ih, List.filter_cons_of_pos hc, List.reverse_cons, List.append_assoc,
          List.singleton_append]
      · rename_i hc
        rw [List.filter_cons_of_neg hc]
        cases word with
        | nil => exact ih []
        | cons d ds =>
            rw [List.isEmpty_cons, if_neg Bool.false_ne_true, List.flatten_cons, ih,
              List.reverse_nil, List.nil_append]

/-- The last letter or digit of a text that spells `date` is an `e`. -/
theorem SpellsDate.getLast? {s : String} (h : SpellsDate s) :
    (s.toList.filter Char.isAlphanum).getLast? = some 'e' := by
  have hletters : (words s.toList).flatten = s.toList.filter Char.isAlphanum :=
    flatten_wordsFrom [] s.toList
  rw [← hletters]
  rcases h with h | h <;> rw [h] <;> decide

theorem endsInAny_eq_false {low : List Char} (hlow : low.getLast? ≠ some 's') {endings : List String}
    (h : ∀ e ∈ endings, e.toList.getLast? = some 's') : endsInAny low endings = false := by
  rw [endsInAny, List.any_eq_false]
  intro e he hsuffix
  obtain ⟨before, rfl⟩ := List.isSuffixOf_iff_suffix.mp hsuffix
  apply hlow
  rw [List.getLast?_append, h e he]
  rfl

/-- A text that does not end in `s` is taken for a singular. -/
theorem singularize_eq_self {s : String} (h : (s.toList.map Char.toLower).getLast? ≠ some 's') :
    singularize s = s := by
  have hies : endsInAny (s.toList.map Char.toLower) ["ies"] = false :=
    endsInAny_eq_false h (by decide)
  have hes : endsInAny (s.toList.map Char.toLower) ["ches", "shes", "xes", "zes", "sses"] = false :=
    endsInAny_eq_false h (by decide)
  have hs : endsInAny (s.toList.map Char.toLower) ["s"] = false := endsInAny_eq_false h (by decide)
  simp only [singularize, hies, hes, hs, Bool.false_eq_true, if_false, ite_self]

end TypeDraft.Name
