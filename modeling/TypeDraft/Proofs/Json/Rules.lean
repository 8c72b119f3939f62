import TypeDraft.Proofs.Json.Lexemes

/-!
# Where a repair rule applies

A rule is quiet on a piece of text if it applies at no place in it. Text on which a rule is quiet
stays, and a match is replaced; the rest of the text is looked at alone.
-/

namespace TypeDraft.Json

variable {rule : RepairRule}

/-! ## Replacing -/

theorem replaceFrom_eq (out : List Char) (skip : Nat) (cs : List Char) :
    replaceFrom rule out skip cs = out.reverse ++ replaceFrom rule [] skip cs := by
  induction cs generalizing out skip with
  | nil => simp [replaceFrom]
  | cons c cs ih =>
      cases skip with
      | succ skip => exact ih out skip
      | zero =>
          rw [replaceFrom, replaceFrom]
          cases rule (c :: cs) with
          | none => simp only [ih (c :: out), ih [c], List.reverse_cons, List.append_assoc]; rfl
          | some m =>
              obtain ⟨written, size⟩ := m
              simp only [ih (written.reverse ++ out), ih (written.reverse ++ [])]
              simp

theorem replaceFrom_skip (m rest : List Char) :
    replaceFrom rule [] m.length (m ++ rest) = replaceAll rule rest := by
  induction m with
  | nil => rfl
  | cons c m ih => exact ih

/-- A rule applies at no place in a text that has `rest` behind it. -/
def Quiet (rule : RepairRule) : (cs rest : List Char) → Prop
  | [], _ => True
  | c :: cs, rest => rule (c :: (cs ++ rest)) = none ∧ Quiet rule cs rest

theorem quiet_append {as bs rest : List Char} :
    Quiet rule (as ++ bs) rest ↔ Quiet rule as (bs ++ rest) ∧ Quiet rule bs rest := by
  induction as with
  | nil => simp [Quiet]
  | cons a as ih => simp [Quiet, ih, and_assoc]

theorem replaceAll_append_of_quiet {cs rest : List Char} (h : Quiet rule cs rest) :
    replaceAll rule (cs ++ rest) = cs ++ replaceAll rule rest := by
  induction cs with
  | nil => rfl
  | cons c cs ih =>
      rw [List.cons_append, replaceAll, replaceFrom, h.1]
      simp only
      rw [replaceFrom_eq]
      exact congrArg (c :: ·) (ih h.2)

theorem replaceAll_append_of_match {m rest written : List Char} (hm : m ≠ [])
    (h : rule (m ++ rest) = some (written, m.length)) :
    replaceAll rule (m ++ rest) = written ++ replaceAll rule rest := by
  obtain ⟨c, m, rfl⟩ := List.exists_cons_of_ne_nil hm
  rw [List.cons_append] at h ⊢
  rw [replaceAll, replaceFrom, h]
  simp only [List.length_cons, Nat.add_sub_cancel, List.append_nil]
  rw [replaceFrom_eq, List.reverse_reverse, replaceFrom_skip]

theorem replaceAll_of_quiet {cs : List Char} (h : Quiet rule cs []) : replaceAll rule cs = cs := by
  have heq := replaceAll_append_of_quiet h
  rwa [List.append_nil, show replaceAll rule [] = [] from rfl, List.append_nil] at heq

/-! ## Lexeme by lexeme -/

/-- A rule goes through lexemes step by step: it is quiet on one, or it matches from somewhere in
it to the end of it or of a later one. -/
theorem replaceAll_textOf {after : List Lexeme → List Lexeme} {P : List Lexeme → Prop}
    (hnil : after [] = [])
    (hstep : ∀ l ls, P (l :: ls) →
      (after (l :: ls) = l :: after ls ∧ Quiet rule l.text (textOf ls) ∧ P ls) ∨
      ∃ ms before m written, ms.length ≤ ls.length ∧ P ms ∧ m ≠ [] ∧
        textOf (l :: ls) = before ++ (m ++ textOf ms) ∧ Quiet rule before (m ++ textOf ms) ∧
        rule (m ++ textOf ms) = some (written, m.length) ∧
        textOf (after (l :: ls)) = before ++ (written ++ textOf (after ms))) :
    ∀ ls, P ls → replaceAll rule (textOf ls) = textOf (after ls) := by
  intro ls hls
  induction hlength : ls.length using Nat.strongRecOn generalizing ls with
  | _ n ih =>
      subst hlength
      cases ls with
      | nil =>
          rw [hnil]
          rfl
      | cons l ls =>
          rcases hstep l ls hls with ⟨heq, hquiet, hrest⟩ |
            ⟨ms, before, m, written, hle, hms, hm, htext, hquiet, hmatch, heq⟩
          · rw [heq, textOf_cons, textOf_cons, replaceAll_append_of_quiet hquiet,
              ih _ (Nat.lt_succ_self _) ls hrest rfl]
          · rw [htext, replaceAll_append_of_quiet hquiet, replaceAll_append_of_match hm hmatch,
              ih _ (Nat.lt_succ_of_le hle) ms hms rfl, heq]

/-- A rule whose matches reach from the last character of a lexeme to the end of the next one,
which they change by `f`. -/
theorem replaceAll_textOf_map {f : Lexeme → Lexeme} {P : List Lexeme → Prop}
    (htail : ∀ l ls, P (l :: ls) → P ls) (hlast : ∀ l, P [l] → Quiet rule l.text [])
    (hstep : ∀ l m ms, P (l :: m :: ms) → f l = l →
      (f m = m ∧ Quiet rule l.text (textOf (m :: ms))) ∨
      ∃ before c, l.text = before ++ [c] ∧ Quiet rule before (c :: textOf (m :: ms)) ∧
        rule (c :: textOf (m :: ms)) = some (c :: (f m).text, m.text.length + 1) ∧
        ∀ k ∈ ms.head?, f k = k) :
    ∀ ls, P ls → (∀ l ∈ ls.head?, f l = l) →
      replaceAll rule (textOf ls) = textOf (ls.map f) := by
  intro ls hls hhead
  refine replaceAll_textOf (P := fun ls => P ls ∧ ∀ l ∈ ls.head?, f l = l) rfl ?_ ls ⟨hls, hhead⟩
  rintro l ls ⟨hls, hhead⟩
  have hl : f l = l := hhead l rfl
  cases ls with
  | nil => exact .inl ⟨by simp [hl], hlast l hls, htail _ _ hls, nofun⟩
  | cons m ms =>
      rcases hstep l m ms hls hl with ⟨hm, hquiet⟩ | ⟨before, c, htext, hquiet, hmatch, hms⟩
      · exact .inl ⟨by simp [hl], hquiet, htail _ _ hls, by simpa using hm⟩
      · refine .inr ⟨ms, before, c :: m.text, c :: (f m).text, Nat.le_succ _,
          ⟨htail _ _ (htail _ _ hls), hms⟩, List.cons_ne_nil _ _, ?_, ?_, ?_, ?_⟩
        · simp [htext]
        · simpa using hquiet
        · simpa using hmatch
        · simp [hl, htext]

/-! ## Characters that a rule passes over -/

/-- A rule applies at some characters only. -/
def AppliesAt (rule : RepairRule) (heads : List Char) : Prop :=
  ∀ c, c ∉ heads → ∀ cs, rule (c :: cs) = none

theorem AppliesAt.quiet {heads cs : List Char} (h : AppliesAt rule heads)
    (hcs : ∀ c ∈ cs, c ∉ heads) (rest : List Char) : Quiet rule cs rest := by
  induction cs with
  | nil => trivial
  | cons c cs ih =>
      exact ⟨h c (hcs c List.mem_cons_self) _, ih fun d hd => hcs d (List.mem_cons_of_mem c hd)⟩

end TypeDraft.Json
