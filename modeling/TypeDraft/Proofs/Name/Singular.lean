import TypeDraft.Proofs.Name.Origin

/-!
# Singulars are left alone

Whatever ending is cut off, what is left is no plural: it ends in no `s`, or in one that belongs to
the word. So a guess at the singular of a singular is the word itself.
-/

namespace TypeDraft.Name

/-- Whether a text is not taken for a plural. -/
def IsSingular (s : String) : Prop :=
  s.toList.length ≤ 3 ∨ endsInAny (s.toList.map Char.toLower) ["ss", "us", "is"] ∨
    (s.toList.map Char.toLower).getLast? ≠ some 's'

theorem endsInAny_iff {low : List Char} {endings : List String} :
    endsInAny low endings ↔ ∃ e ∈ endings, ∃ before, before ++ e.toList = low := by
  simp only [endsInAny, List.any_eq_true, List.isSuffixOf_iff_suffix, List.IsSuffix]

theorem IsSingular.singularize_eq {s : String} (h : IsSingular s) : singularize s = s := by
  rcases h with hshort | hends | hlast
  · simp only [singularize, hshort, true_or, if_true]
  · simp only [singularize, hends, or_true, if_true]
  · exact singularize_eq_self hlast

/-- What is left of a text if an ending is cut off, in small letters. -/
theorem map_toLower_cut {cs before ending : List Char} {n : Nat}
    (h : before ++ ending = cs.map Char.toLower) (hn : ending.length = n) :
    (cs.take (cs.length - n)).map Char.toLower = before := by
  have hlength : cs.length = before.length + n := by
    rw [← List.length_map (f := Char.toLower), ← h, List.length_append, hn]
  rw [List.map_take, ← h, hlength, Nat.add_sub_cancel, List.take_left]

theorem isSingular_of_cut {cs before ending : List Char} {n : Nat}
    (h : before ++ ending = cs.map Char.toLower) (hn : ending.length = n)
    (hlast : before.getLast? ≠ some 's') :
    IsSingular (String.ofList (cs.take (cs.length - n))) := by
  rw [IsSingular, String.toList_ofList, map_toLower_cut h hn]
  exact .inr (.inr hlast)

/-- A text that is no singular ends in an `s` behind some other letter. -/
theorem exists_of_not_isSingular {s : String} (h : ¬ IsSingular s) :
    ∃ before, before ++ ['s'] = s.toList.map Char.toLower ∧ before.getLast? ≠ some 's' := by
  obtain ⟨-, hmore⟩ := not_or.mp h
  obtain ⟨hends, hlast⟩ := not_or.mp hmore
  obtain ⟨before, hlow⟩ := List.getLast?_eq_some_iff.mp (not_not.mp hlast)
  refine ⟨before, hlow.symm, fun hdouble => hends ?_⟩
  obtain ⟨earlier, rfl⟩ := List.getLast?_eq_some_iff.mp hdouble
  exact endsInAny_iff.mpr ⟨"ss", by simp, earlier, by simp [hlow]⟩

/-- What is left before an `es` is no plural. -/
theorem isSingular_of_es {s : String}
    (h : endsInAny (s.toList.map Char.toLower) ["ches", "shes", "xes", "zes", "sses"]) :
    IsSingular (String.ofList (s.toList.take (s.toList.length - 2))) := by
  obtain ⟨e, he, before, hlow⟩ := endsInAny_iff.mp h
  have hword : ∃ word, e.toList = word ++ ['e', 's'] ∧
      (word = ['s', 's'] ∨ ∃ c, word.getLast? = some c ∧ c ≠ 's') := by
    simp only [List.mem_cons, List.not_mem_nil, or_false] at he
    rcases he with rfl | rfl | rfl | rfl | rfl
    · exact ⟨['c', 'h'], by simp, .inr ⟨'h', rfl, by decide⟩⟩
    · exact ⟨['s', 'h'], by simp, .inr ⟨'h', rfl, by decide⟩⟩
    · exact ⟨['x'], by simp, .inr ⟨'x', rfl, by decide⟩⟩
    · exact ⟨['z'], by simp, .inr ⟨'z', rfl, by decide⟩⟩
    · exact ⟨['s', 's'], by simp, .inl rfl⟩
  obtain ⟨word, heq, hword⟩ := hword
  rw [heq, ← List.append_assoc] at hlow
  rcases hword with rfl | ⟨c, hc, hne⟩
  · have hleft : (s.toList.take (s.toList.length - 2)).map Char.toLower = before ++ ['s', 's'] :=
      map_toLower_cut hlow rfl
    exact .inr (.inl (endsInAny_iff.mpr ⟨"ss", by simp, before, by simp [hleft]⟩))
  · refine isSingular_of_cut hlow rfl ?_
    rw [List.getLast?_append, hc]
    simpa using hne

theorem isSingular_singularize (s : String) : IsSingular (singularize s) := by
  by_cases h : IsSingular s
  · rw [h.singularize_eq]
    exact h
  obtain ⟨before, hlow, hlast⟩ := exists_of_not_isSingular h
  simp only [singularize]
  split
  · rename_i hkept
    rw [IsSingular, ← or_assoc]
    exact .inl hkept
  split
  · -- The last letter is a `y` now.
    refine .inr (.inr ?_)
    split <;> simp
  split
  · rename_i hes
    exact isSingular_of_es hes
  · rw [if_pos (endsInAny_iff.mpr ⟨"s", List.mem_singleton_self _, before, by simpa using hlow⟩)]
    exact isSingular_of_cut hlow rfl hlast

/-- The singular of a singular is the word itself. -/
theorem singularize_singularize (s : String) : singularize (singularize s) = singularize s :=
  (isSingular_singularize s).singularize_eq

/-- Of a text of more than three letters something is left. -/
theorem singularize_eq_empty_iff {s : String} : singularize s = "" ↔ s = "" := by
  constructor
  · intro h
    by_cases hshort : s.toList.length ≤ 3
    · rwa [IsSingular.singularize_eq (.inl hshort)] at h
    · have hcut : ∀ n < 4, String.ofList (s.toList.take (s.toList.length - n)) ≠ "" := by
        intro n hn heq
        have hnil : s.toList.take (s.toList.length - n) = [] := String.ofList_injective heq
        have hlength := congrArg List.length hnil
        rw [List.length_take, List.length_nil] at hlength
        omega
      simp only [singularize] at h
      split at h
      · exact h
      split at h
      · simp at h
      split at h
      · exact absurd h (hcut 2 (by decide))
      split at h
      · exact absurd h (hcut 1 (by decide))
      · exact h
  · rintro rfl
    decide

end TypeDraft.Name
