import TypeDraft.Proofs.Json.Rules
import TypeDraft.Terminal.Control
import Mathlib.Data.List.TakeWhile

/-!
# Text without control sequences

Such a text is printed as it is.
-/

namespace TypeDraft.Terminal

/-- A control sequence stands in a text. -/
def HasSequence (cs : List Char) : Prop :=
  ∃ before params letter after, cs = before ++ '\x1b' :: '[' :: (params ++ letter :: after) ∧
    (∀ c ∈ params, isParameter c = true) ∧ letter.isAlpha = true

theorem HasSequence.cons {cs : List Char} (c : Char) (h : HasSequence cs) :
    HasSequence (c :: cs) := by
  obtain ⟨before, params, letter, after, rfl, hparams, hletter⟩ := h
  exact ⟨c :: before, params, letter, after, rfl, hparams, hletter⟩

/-- A sequence that begins a line ends in it. -/
theorem dropSequence_eq_none {c : Char} {cs : List Char} (h : ¬ HasSequence (c :: cs)) :
    dropSequence (c :: (cs ++ ['\n'])) = none := by
  rw [dropSequence.eq_def]
  split
  · next heq =>
      obtain ⟨rfl, hcs⟩ := List.cons.inj heq
      cases cs with
      | nil => cases hcs
      | cons d ds =>
          rw [List.cons_append] at hcs
          obtain ⟨rfl, rfl⟩ := List.cons.inj hcs
          rw [List.dropWhile_append]
          cases hrest : ds.dropWhile isParameter with
          | nil => rfl
          | cons letter after =>
              simp only [List.isEmpty_cons, Bool.false_eq_true, if_false, List.cons_append,
                ite_eq_right_iff, reduceCtorEq, imp_false]
              intro hletter
              refine h ⟨[], ds.takeWhile isParameter, letter, after, ?_, ?_, hletter⟩
              · rw [← hrest, List.takeWhile_append_dropWhile, List.nil_append]
              · exact fun c hc => List.mem_takeWhile_imp hc
  · rfl

theorem quiet_dropSequence {cs : List Char} (h : ¬ HasSequence cs) :
    Json.Quiet dropSequence cs ['\n'] := by
  induction cs with
  | nil => trivial
  | cons c cs ih => exact ⟨dropSequence_eq_none h, ih fun hcs => h (hcs.cons c)⟩

theorem echo_eq_self {s : String} (h : ¬ HasSequence s.toList) : echo s = s ++ "\n" := by
  have hquiet : Json.Quiet dropSequence (s ++ "\n").toList [] := by
    rw [String.toList_append]
    exact Json.quiet_append.mpr ⟨quiet_dropSequence h, rfl, trivial⟩
  rw [echo, Json.replaceAll_of_quiet hquiet, String.ofList_toList]

end TypeDraft.Terminal
