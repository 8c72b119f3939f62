import TypeDraft.CommandLine.Command
import TypeDraft.Proofs.Except
import Mathlib.Tactic.SplitIfs

/-!
# What a command is given

Of the settings that the arguments give for a key the last one counts. A command that is accepted
has settings that its options admit and, if it takes one, an input that is there.
-/

namespace TypeDraft.CommandLine

/-! ## The setting that counts -/

/-- The last text given for a key. -/
def lastText? (given : List (Key × Setting)) (key : Key) : Option String :=
  match given.reverse.lookup key with
  | some (.text t) => some t
  | _ => none

/-- The last flag given for a key. -/
def lastFlag? (given : List (Key × Setting)) (key : Key) : Option Bool :=
  match given.reverse.lookup key with
  | some (.flag b) => some b
  | _ => none

namespace Settings

theorem lookup_cons_eq (key k : Key) (s : Setting) (values : List (Key × Setting)) :
    List.lookup k ((key, s) :: values) = if k = key then some s else values.lookup k := by
  rw [List.lookup_cons]
  split
  · next h => rw [if_pos (beq_iff_eq.mp h)]
  · next h => rw [if_neg (beq_eq_false_iff_ne.mp h)]

theorem lookup_put (key k : Key) (s : Setting) (values : List (Key × Setting)) :
    (put key s values).lookup k = if k = key then some s else values.lookup k := by
  induction values with
  | nil => exact lookup_cons_eq key k s []
  | cons v values ih =>
      obtain ⟨key', t⟩ := v
      rw [put]
      split
      · next heq =>
          simp only [heq, lookup_cons_eq]
          split_ifs <;> rfl
      · next hne =>
          simp only [lookup_cons_eq, ih]
          split_ifs with hk hk'
          · exact absurd (hk.symm.trans hk') hne
          all_goals rfl

/-- A key has the setting that is given for it last. -/
theorem lookup_ofList (given : List (Key × Setting)) (k : Key) :
    (ofList given).values.lookup k = given.reverse.lookup k := by
  have hfold : ∀ given values : List (Key × Setting),
      (given.foldl (fun values g => put g.1 g.2 values) values).lookup k =
        (given.reverse.lookup k).or (values.lookup k) := by
    intro given
    induction given with
    | nil => exact fun values => rfl
    | cons g given ih =>
        intro values
        rw [List.foldl_cons, ih, lookup_put, List.reverse_cons, List.lookup_append, Option.or_assoc,
          lookup_cons_eq]
        split_ifs <;> simp
  simpa [ofList] using hfold given []

theorem text?_ofList (given : List (Key × Setting)) (k : Key) :
    (ofList given).text? k = lastText? given k := by
  rw [text?, lookup_ofList]
  rfl

theorem flag?_ofList (given : List (Key × Setting)) (k : Key) :
    (ofList given).flag? k = lastFlag? given k := by
  rw [flag?, lookup_ofList]
  rfl

/-- No setting that counts is refused in settings without a fault. -/
theorem refusal?_eq_none {fs : Files} {s : Settings} (h : s.firstFault? fs = none) {key : Key}
    {t : String} (ht : s.text? key = some t) : refusal? fs key t = none := by
  have hlookup : s.values.lookup key = some (.text t) := by
    rw [text?] at ht
    split at ht
    · next hlookup => rw [hlookup, Option.some.inj ht]
    · cases ht
  have hmem : (key, Setting.text t) ∈ s.values := by
    obtain ⟨before, after, hvalues, -⟩ := List.lookup_eq_some_iff.mp hlookup
    simp [hvalues]
  have hnone := List.findSome?_eq_none_iff.mp h _ hmem
  simpa using hnone

end Settings

/-! ## What an accepted command has -/

/-- The arguments ask for a command that takes an input: after what is said before its name they
give it settings and that input. -/
structure AsksFor (args : List String) (command : Command) (given : List (Key × Setting))
    (input : String) : Prop where
  scans : ∃ before rest, scan globalSpecs false args =
      .ok { settings := before, positional := command.name :: rest } ∧
    scan command.specs true rest = .ok { settings := given, positional := [input] }

theorem readGlobal_ne_call {args : List String} {c : Call} :
    readGlobal args ≠ .ok (.inl (.call c)) := by
  intro h
  obtain ⟨scanned, -, h⟩ := bind_eq_ok.mp h
  split at h <;> cases h

theorem positional_of_readGlobal {args rest : List String} (h : readGlobal args = .ok (.inr rest)) :
    ∃ before, scan globalSpecs false args = .ok { settings := before, positional := rest } := by
  obtain ⟨scanned, hscan, h⟩ := bind_eq_ok.mp h
  split at h
  · cases h
  · cases h
  · cases h
    exact ⟨scanned.settings, hscan⟩

theorem ofName?_eq_some {name : String} {command : Command}
    (h : Command.ofName? name = some command) : name = command.name := by
  have hname := List.find?_some h
  exact (beq_iff_eq.mp hname).symm

theorem takeInput_eq_ok {fs : Files} {command : Command} {args : List String} {input : String}
    (hcommand : command.takesInput = true) (h : takeInput fs command args = .ok (input, [])) :
    args = [input] ∧ (input ≠ "-" → noFile? fs input = none) := by
  unfold takeInput at h
  rw [if_pos hcommand] at h
  split at h
  · cases h
  · split_ifs at h with hdash
    · cases h
      exact ⟨rfl, fun hne => absurd hdash hne⟩
    · split at h
      · next hfile =>
          cases h
          exact ⟨rfl, fun _ => hfile⟩
      · cases h

/-- What the acceptance of a command says about it. -/
structure IsAccepted (fs : Files) (args : List String) (c : Call) (given : List (Key × Setting)) :
    Prop where
  asks : AsksFor args c.command given c.input
  settings : c.settings = .ofList given
  admitted : c.settings.firstFault? fs = none
  input : c.input ≠ "-" → noFile? fs c.input = none

theorem exists_isAccepted {fs : Files} {args : List String} {c : Call}
    (hc : c.command.takesInput = true) (h : read fs args = .ok (.call c)) :
    ∃ given, IsAccepted fs args c given := by
  rw [read] at h
  split_ifs at h
  · cases h
  obtain ⟨found, hfound, h⟩ := bind_eq_ok.mp h
  rw [mapError_eq_ok] at hfound
  split at h
  · next wish =>
      cases h
      exact absurd hfound readGlobal_ne_call
  · cases h
  · next name rest =>
      obtain ⟨before, hbefore⟩ := positional_of_readGlobal hfound
      split at h
      · rw [mapError_eq_ok, readUnknown] at h
        obtain ⟨again, hagain, h⟩ := bind_eq_ok.mp h
        split at h
        · cases h
          exact absurd hagain readGlobal_ne_call
        · cases h
      · next command hcommand =>
          obtain rfl := ofName?_eq_some hcommand
          rw [mapError_eq_ok, Command.read] at h
          obtain ⟨scanned, hscanned, h⟩ := bind_eq_ok.mp h
          simp only at h
          split_ifs at h
          · cases h
          split at h
          · cases h
          · next hfault =>
              obtain ⟨⟨input, extra⟩, hinput, h⟩ := bind_eq_ok.mp h
              simp only at h
              split_ifs at h with hextra
              cases h
              obtain rfl := List.isEmpty_iff.mp hextra
              obtain ⟨hpositional, hfile⟩ := takeInput_eq_ok hc hinput
              refine ⟨scanned.settings, ⟨⟨before, rest, hbefore, ?_⟩⟩, rfl, hfault, hfile⟩
              rw [hscanned, ← hpositional]

end TypeDraft.CommandLine
