import Mathlib.Data.List.Forall2

/-!
# Results and failures

When a chain of steps that may fail ends well.
-/

namespace TypeDraft

variable {α β ε ε' : Type}

theorem mapError_eq_ok {x : Except ε α} {f : ε → ε'} {a : α} :
    x.mapError f = .ok a ↔ x = .ok a := by
  cases x <;> simp [Except.mapError]

theorem map_eq_ok {x : Except ε α} {f : α → β} {b : β} :
    x.map f = .ok b ↔ ∃ a, x = .ok a ∧ f a = b := by
  cases x <;> simp [Except.map]

theorem bind_eq_ok {x : Except ε α} {f : α → Except ε β} {b : β} :
    (x >>= f) = .ok b ↔ ∃ a, x = .ok a ∧ f a = .ok b := by
  cases x <;> simp [bind, Except.bind]

/-- A step of a chain that keeps a state and ends well can be taken. -/
theorem bind_of_eq_ok {σ : Type} {x : StateT σ (Except ε) α} {s s' : σ} {a : α}
    (h : x s = .ok (a, s')) (k : α → StateT σ (Except ε) β) : (x >>= k) s = k a s' := by
  change (x s >>= fun p => k p.1 p.2) = k a s'
  rw [h]
  rfl

theorem mapM_eq_ok_of_forall₂ {f : α → Except ε β} {xs : List α} {ys : List β}
    (h : List.Forall₂ (fun x y => f x = .ok y) xs ys) : xs.mapM f = .ok ys := by
  induction h with
  | nil => rfl
  | cons hx _ ih =>
      rw [List.mapM_cons, hx, ih]
      rfl

end TypeDraft
