import TypeDraft.Files

/-!
# Written files

What has been written to a path stands there. The way to the path leads through directories, none of
which is the file itself.
-/

namespace TypeDraft

namespace Files

variable {fs fs' : Files} {here target : Path} {names : List String} {bytes : List UInt8}

theorem hasDirectory_addFile (h : fs.hasDirectory here = true) (f : Path × List UInt8) :
    ({ fs with files := f :: fs.files } : Files).hasDirectory here = true := by
  simp only [hasDirectory, Bool.or_eq_true, List.any_cons] at h ⊢
  rcases h with h | h
  · exact .inl h
  · exact .inr (.inr h)

/-- Each step on the way to a place that may be written leaves a directory. -/
theorem of_isWritable_cons {name : String}
    (h : (fs.placeFrom here (name :: names)).isWritable = true) :
    fs.files.lookup here = none ∧ fs.hasDirectory here = true ∧ isOverlong name = false ∧
      (fs.placeFrom (here.step name) names).isWritable = true := by
  rw [placeFrom] at h
  split at h
  · cases h
  split at h
  · cases h
  split at h
  · cases h
  next hfile hdirectory hname =>
    exact ⟨Option.not_isSome_iff_eq_none.mp hfile, by simpa using hdirectory,
      by simpa using hname, h⟩

/-- A place that may be written is no directory. -/
theorem not_directory_of_isWritable (h : (fs.placeFrom here names).isWritable = true)
    (hnone : fs.files.lookup (names.foldl Path.step here) = none) :
    fs.hasDirectory (names.foldl Path.step here) = false := by
  induction names generalizing here with
  | nil =>
      rw [List.foldl_nil] at hnone ⊢
      rw [placeFrom, hnone] at h
      cases hdirectory : fs.hasDirectory here with
      | false => rfl
      | true =>
          rw [hdirectory] at h
          cases h
  | cons name names ih =>
      obtain ⟨-, -, -, hlater⟩ := of_isWritable_cons h
      exact ih hlater hnone

theorem placeFrom_addFile (h : (fs.placeFrom here names).isWritable = true)
    (htarget : names.foldl Path.step here = target) :
    ({ fs with files := (target, bytes) :: fs.files } : Files).placeFrom here names =
      .file bytes := by
  induction names generalizing here with
  | nil =>
      obtain rfl : here = target := htarget
      simp [placeFrom]
  | cons name names ih =>
      obtain ⟨hnone, hdirectory, hname, hlater⟩ := of_isWritable_cons h
      have hne : here ≠ target := by
        rintro rfl
        rw [← htarget] at hnone hdirectory
        exact Bool.false_ne_true ((not_directory_of_isWritable h hnone).symm.trans hdirectory)
      have hlookup : ((target, bytes) :: fs.files).lookup here = none := by
        rw [List.lookup_cons, beq_eq_false_iff_ne.mpr hne]
        exact hnone
      rw [placeFrom, hlookup, hasDirectory_addFile hdirectory, hname, ih hlater htarget]
      rfl

/-- What has been written to a path stands there. -/
theorem place_write {p : Path} (h : fs.write p bytes = some fs') : fs'.place p = .file bytes := by
  obtain ⟨fs₁, -, h⟩ := Option.bind_eq_some_iff.mp h
  split at h
  · next hwritable =>
    obtain rfl := Option.some.inj h
    rw [place] at hwritable ⊢
    split at hwritable
    · cases hwritable
    · next hshort =>
      rw [if_neg hshort]
      exact placeFrom_addFile hwritable rfl
  · cases h

end Files

end TypeDraft
