import Mathlib.Data.List.DropRight
import Mathlib.Data.List.TakeWhile
import TypeDraft.Text.Blank

/-!
# Trimming

What trimming leaves of a text: all of it if no blank stands at its ends, nothing if there is
nothing else. Further blanks at either end change nothing.
-/

namespace TypeDraft.Text

theorem dropWhile_isBlank_of_head {cs : List Char} (h : ∀ c ∈ cs.head?, isBlank c = false) :
    cs.dropWhile isBlank = cs := by
  cases cs with
  | nil => rfl
  | cons c cs => exact List.dropWhile_cons_of_neg (by simp [h c rfl])

/-- A text that neither begins nor ends with a blank stays as it is. -/
theorem trim_eq_self {cs : List Char} (hhead : ∀ c ∈ cs.head?, isBlank c = false)
    (hlast : ∀ c ∈ cs.getLast?, isBlank c = false) : trim cs = cs := by
  have hreverse : ∀ c ∈ cs.reverse.head?, isBlank c = false := by
    rwa [List.head?_reverse]
  rw [trim, dropWhile_isBlank_of_head hhead, dropWhile_isBlank_of_head hreverse,
    List.reverse_reverse]

/-- Nothing is left of a text just if it holds nothing but blanks. -/
theorem isEmpty_trim (cs : List Char) : (trim cs).isEmpty = cs.all isBlank := by
  rw [Bool.eq_iff_iff, List.isEmpty_iff, trim, List.reverse_eq_nil_iff, List.dropWhile_eq_nil_iff,
    List.all_eq_true]
  refine ⟨fun h => ?_, fun h c hc => h c ((List.dropWhile_suffix _).subset (List.mem_reverse.mp hc))⟩
  by_contra hblank
  -- the first character that is no blank would be left
  have hlength : 0 < (cs.dropWhile isBlank).length :=
    List.length_pos_iff.mpr fun hnil => hblank (List.dropWhile_eq_nil_iff.mp hnil)
  refine List.dropWhile_get_zero_not isBlank cs hlength (h _ ?_)
  exact List.mem_reverse.mpr (List.get_mem _ _)

theorem trim_eq_nil_iff {cs : List Char} : trim cs = [] ↔ ∀ c ∈ cs, isBlank c = true := by
  rw [← List.isEmpty_iff, isEmpty_trim, List.all_eq_true]

/-- Blanks before a text are dropped in any case. -/
theorem trim_dropWhile (cs : List Char) : trim (cs.dropWhile isBlank) = trim cs := by
  rw [trim, trim, List.dropWhile_idempotent]

/-- So are blanks behind it. -/
theorem trim_append_of_blanks {cs behind : List Char} (h : ∀ c ∈ behind, isBlank c = true) :
    trim (cs ++ behind) = trim cs := by
  rw [trim, trim, List.dropWhile_append]
  split
  · rename_i hempty
    rw [List.isEmpty_iff.mp hempty, List.dropWhile_eq_nil_iff.mpr h]
  · have hreverse : ∀ c ∈ behind.reverse, isBlank c = true := fun c hc => h c (List.mem_reverse.mp hc)
    rw [List.reverse_append, List.dropWhile_append_of_pos hreverse]

/-- What trimming takes away at the end of a text is blank. -/
theorem exists_dropWhile_eq_trim_append (cs : List Char) :
    ∃ behind, cs.dropWhile isBlank = trim cs ++ behind ∧ ∀ c ∈ behind, isBlank c = true := by
  refine ⟨(cs.dropWhile isBlank).rtakeWhile isBlank, ?_, fun c hc => List.mem_rtakeWhile_imp hc⟩
  exact (List.rdropWhile_append_rtakeWhile ..).symm

/-! ## The line feed at the very end -/

/-- Where no text with a property ends in a line feed, a text has the property without its last line
feed just if it has it as it is or a line feed stands behind a text that has it. -/
theorem withoutFinalBreak_iff {P : List Char → Prop} (hP : ∀ ds, P ds → ds.getLast? ≠ some '\n')
    {cs : List Char} : P (withoutFinalBreak cs) ↔ P cs ∨ ∃ ds, P ds ∧ cs = ds ++ ['\n'] := by
  rw [withoutFinalBreak]
  constructor
  · intro h
    split at h
    · rename_i hlast
      exact .inr ⟨cs.dropLast, h, (List.dropLast_append_getLast? '\n' hlast).symm⟩
    · exact .inl h
  · rintro (h | ⟨ds, h, rfl⟩)
    · rwa [if_neg (hP cs h)]
    · rwa [if_pos (by simp), List.dropLast_concat]

end TypeDraft.Text
