import TypeDraft.Output.Hoisted
import TypeDraft.Proofs.Name.Fresh

/-!
# What is answered while definitions are hoisted

Names are reserved, definitions are added and texts are asked for in any order. What has been
reserved and added up to some call is all that its answer depends on.
-/

namespace TypeDraft.Hoisted

open Name (CountEnds numbered unique)

/-! ## Calls and answers -/

inductive Call (δ : Type) where
  | reserve (name : String)
  | add (definition : δ)
  | render (main : String)

inductive Answer where
  | reserved (name : String)
  | added
  | rendered (text : String)

def Call.definition? {δ : Type} : Call δ → Option δ
  | add definition => some definition
  | reserve _ | render _ => none

def Answer.name? : Answer → Option String
  | reserved name => some name
  | added | rendered _ => none

/-- The names among some answers, in the order in which they were given out. -/
def givenOut (answers : List Answer) : List String := answers.filterMap Answer.name?

theorem givenOut_cons (answer : Answer) (answers : List Answer) :
    givenOut (answer :: answers) = answer.name?.toList ++ givenOut answers := by
  cases answer <;> rfl

/-- Texts behind another one, each after an empty line. -/
def behind : List String → String
  | [] => ""
  | text :: texts => "\n\n" ++ text ++ behind texts

variable {δ : Type} (text : δ → String)

/-- The definitions that some calls add, in order. -/
def addedBy (calls : List (Call δ)) : List δ := calls.filterMap Call.definition?

theorem addedBy_cons (call : Call δ) (calls : List (Call δ)) :
    addedBy (call :: calls) = call.definition?.toList ++ addedBy calls := by
  cases call <;> rfl

/-- The answer to one call, and what is collected after it. -/
def answer (h : Hoisted δ) : Call δ → Answer × Hoisted δ
  | .reserve name => (.reserved (h.reserve name).1, (h.reserve name).2)
  | .add definition => (.added, h.add definition)
  | .render main => (.rendered (h.render text main), h)

def answers (h : Hoisted δ) : List (Call δ) → List Answer
  | [] => []
  | call :: calls => (h.answer text call).1 :: answers (h.answer text call).2 calls

/-- What is collected once some calls have been answered. -/
def afterCalls (h : Hoisted δ) : List (Call δ) → Hoisted δ
  | [] => h
  | call :: calls => afterCalls (h.answer text call).2 calls

/-! ## One call -/

theorem answer_snd (h : Hoisted δ) (call : Call δ) : (h.answer text call).2 =
    { definitions := h.definitions ++ call.definition?.toList,
      names := (h.answer text call).1.name?.toList ++ h.names } := by
  cases call <;> simp [answer, reserve, add, Call.definition?, Answer.name?]

theorem not_mem_names_of_answer {h : Hoisted δ} {call : Call δ} {name : String}
    (hname : (h.answer text call).1.name? = some name) : name ∉ h.names := by
  cases call with
  | reserve base =>
      rw [← Option.some.inj hname]
      exact Name.unique_not_mem base h.names
  | add definition => cases hname
  | render main => cases hname

theorem render_eq (h : Hoisted δ) (main : String) :
    h.render text main = main ++ behind (h.definitions.map text) := by
  rw [render]
  induction h.definitions.map text generalizing main with
  | nil => simp [behind]
  | cons d ds ih =>
      rw [String.intercalate_cons_cons, ih, behind, String.append_assoc, String.append_assoc]

/-! ## Any number of calls -/

theorem afterCalls_eq (h : Hoisted δ) (calls : List (Call δ)) : h.afterCalls text calls =
    { definitions := h.definitions ++ addedBy calls,
      names := (givenOut (h.answers text calls)).reverse ++ h.names } := by
  induction calls generalizing h with
  | nil => simp [afterCalls, answers, addedBy, givenOut]
  | cons call calls ih =>
      rw [afterCalls, ih, answers, givenOut_cons, addedBy_cons, answer_snd]
      simp only [List.reverse_append, List.append_assoc]
      cases (h.answer text call).1 <;> rfl

theorem answers_append (h : Hoisted δ) (before after : List (Call δ)) :
    h.answers text (before ++ after) =
      h.answers text before ++ (h.afterCalls text before).answers text after := by
  induction before generalizing h with
  | nil => rfl
  | cons call before ih => rw [List.cons_append, answers, ih, answers, afterCalls, List.cons_append]

theorem length_answers (h : Hoisted δ) (calls : List (Call δ)) :
    (h.answers text calls).length = calls.length := by
  induction calls generalizing h with
  | nil => rfl
  | cons call calls ih => rw [answers, List.length_cons, ih, List.length_cons]

/-- What a call among others is answered depends on those before it only. -/
theorem answers_getElem? (h : Hoisted δ) (before after : List (Call δ)) (call : Call δ) :
    (h.answers text (before ++ call :: after))[before.length]? =
      some ((h.afterCalls text before).answer text call).1 := by
  rw [answers_append, ← length_answers text h before, List.getElem?_append_right (Nat.le_refl _),
    Nat.sub_self, answers, List.getElem?_cons_zero]

/-- A name once reserved is not given out again. -/
theorem givenOut_answers (h : Hoisted δ) (calls : List (Call δ)) :
    (givenOut (h.answers text calls)).Nodup ∧
      (givenOut (h.answers text calls)).Disjoint h.names := by
  induction calls generalizing h with
  | nil => exact ⟨List.nodup_nil, List.disjoint_nil_left _⟩
  | cons call calls ih =>
      obtain ⟨hnodup, hdisjoint⟩ := ih (h.answer text call).2
      have hnames := congrArg names (answer_snd text h call)
      rw [answers, givenOut_cons]
      cases hname : (h.answer text call).1.name? with
      | none =>
          rw [hnames, hname] at hdisjoint
          exact ⟨hnodup, hdisjoint⟩
      | some name =>
          rw [hnames, hname] at hdisjoint
          obtain ⟨hname', hdisjoint⟩ := List.disjoint_cons_right.mp hdisjoint
          exact ⟨List.nodup_cons.mpr ⟨hname', hnodup⟩,
            List.disjoint_cons_left.mpr ⟨not_mem_names_of_answer text hname, hdisjoint⟩⟩

/-- A fresh name is found by a count that ends, at the least number that is free. Whatever calls are
made, the names reserved are new and differ from each other, each being the fresh one at its time,
and a text asked for is the main one and behind it all definitions added so far, in order. -/
theorem answers_are_fresh_and_complete (h : Hoisted δ) :
    (∀ name taken, ∃ k ≤ taken.length + 2, CountEnds name taken 2 k ∧
      IsLeast {n | 2 ≤ n ∧ numbered name n ∉ taken} k ∧
      unique name taken = if name ∈ taken then numbered name k else name) ∧
    (∀ calls, (givenOut (h.answers text calls)).Nodup ∧
      (givenOut (h.answers text calls)).Disjoint h.names) ∧
    (∀ before name after, (h.answers text (before ++ .reserve name :: after))[before.length]? =
      some (.reserved (unique name ((givenOut (h.answers text before)).reverse ++ h.names)))) ∧
    ∀ before main after, (h.answers text (before ++ .render main :: after))[before.length]? =
      some (.rendered (main ++ behind ((h.definitions ++ addedBy before).map text))) := by
  refine ⟨fun name taken => ?_, givenOut_answers text h, fun before name after => ?_,
    fun before main after => ?_⟩
  · obtain ⟨k, hk, hends⟩ := Name.exists_countEnds_two name taken
    exact ⟨k, hk, hends, hends.isLeast, Name.unique_eq_of_countEnds hends⟩
  · rw [answers_getElem?, afterCalls_eq]
    rfl
  · rw [answers_getElem?, answer, render_eq, afterCalls_eq]

/-- A name with a number may be asked for later on. -/
example : givenOut (answers id {} [.reserve "Item", .reserve "Item", .reserve "Item2"]) =
    ["Item", "Item2", "Item22"] := by decide

end TypeDraft.Hoisted
