import Mathlib.Algebra.Group.Nat.Defs
import Mathlib.Data.List.TakeWhile
import TypeDraft.Proofs.Text.Ascii
import TypeDraft.Yaml.Quoted

/-!
# Strings as they are written

What is written for a text is described beside the text, without columns: which blanks have become
line ends is left open. The writer gives one of the forms described here, and the readers undo them
all.
-/

namespace TypeDraft.Yaml

open Text (IsPlain IsPrintable)

namespace Written

@[simp] theorem out_push (w : Written) (cs : List Char) : (w.push cs).out = cs.reverse ++ w.out :=
  rfl

@[simp] theorem out_breakLine (w : Written) : w.breakLine.out = continued.reverse ++ w.out := rfl

end Written

/-! ## Folded texts -/

/-- What is written for blanks or for line ends inside a folded text. -/
inductive FoldedGap : (gap written : List Char) → Prop
  | blanks (n : Nat) : FoldedGap (List.replicate (n + 1) ' ') (List.replicate (n + 1) ' ')
  | wrapped : FoldedGap [' '] continued
  | breaks (n : Nat) :
      FoldedGap (List.replicate (n + 1) '\n') (List.replicate (n + 2) '\n' ++ [' ', ' '])

/-- Whether a character stands neither for a blank nor for a line end. -/
def IsInk (c : Char) : Prop := c ≠ ' ' ∧ c ≠ '\n'

instance (c : Char) : Decidable (IsInk c) := inferInstanceAs (Decidable (_ ∧ _))

/-- What is written for a text whose lines are kept, with `quote` for each quote in it. -/
inductive Folded (quote : List Char) : (text written : List Char) → Prop
  | nil : Folded quote [] []
  | char {c cs body} : IsInk c → Folded quote cs body →
      Folded quote (c :: cs) ((if c = '\'' then quote else [c]) ++ body)
  | gap {g g' cs body} : FoldedGap g g' → (∀ c ∈ cs.head?, IsInk c) → Folded quote cs body →
      Folded quote (g ++ cs) (g' ++ body)

/-- Whether no blank of a text stands beside a line end. -/
def GapsApart (cs : List Char) : Prop :=
  ∀ as c d bs, cs = as ++ c :: d :: bs → ¬ (c = ' ' ∧ d = '\n') ∧ ¬ (c = '\n' ∧ d = ' ')

section

variable {quote cs as bs body : List Char} {c d : Char}

theorem GapsApart.right (h : GapsApart (as ++ bs)) : GapsApart bs := by
  rintro as' c d bs' rfl
  exact h (as ++ as') c d bs' (by simp)

/-- Behind a run of blanks or of line ends stands neither. -/
theorem GapsApart.isInk {n : Nat} (h : GapsApart (List.replicate (n + 1) c ++ cs))
    (hc : c = ' ' ∨ c = '\n') (hcs : cs.head? ≠ some c) : ∀ d ∈ cs.head?, IsInk d := by
  intro d hd
  obtain ⟨cs, rfl⟩ : ∃ cs', cs = d :: cs' := List.head?_eq_some_iff.mp hd
  have hdc : d ≠ c := fun heq => hcs (congrArg some heq)
  have hapart := h (List.replicate n c) c d cs (by simp [List.replicate_succ'])
  rcases hc with rfl | rfl
  · exact ⟨hdc, fun heq => hapart.1 ⟨rfl, heq⟩⟩
  · exact ⟨fun heq => hapart.2 ⟨rfl, heq⟩, hdc⟩

theorem hasPair_append {first second : Char → Bool} (as bs : List Char) (hc : first c = true)
    (hd : second d = true) : hasPair first second (as ++ c :: d :: bs) = true := by
  induction as with
  | nil => simp [hasPair, hc, hd]
  | cons a as ih =>
      cases as with
      | nil =>
          rw [List.nil_append] at ih
          rw [List.cons_append, List.nil_append, hasPair, ih, Bool.or_true]
      | cons b as =>
          rw [List.cons_append] at ih
          rw [List.cons_append, List.cons_append, hasPair, ih, Bool.or_true]

theorem gapsApart_of_hasPair (hblank : hasPair isSpaceChar isBreak cs = false)
    (hbreak : hasPair isBreak isSpaceChar cs = false) : GapsApart cs := by
  rintro as c d bs rfl
  constructor
  · rintro ⟨rfl, rfl⟩
    exact absurd (hasPair_append as bs rfl rfl) (Bool.eq_false_iff.mp hblank)
  · rintro ⟨rfl, rfl⟩
    exact absurd (hasPair_append as bs rfl rfl) (Bool.eq_false_iff.mp hbreak)

/-- A list as a run of one character and the rest, which does not begin with it. -/
theorem exists_run (c : Char) (cs : List Char) :
    ∃ n rest, cs = List.replicate n c ++ rest ∧ rest.head? ≠ some c := by
  have htake : cs.takeWhile (· == c) = List.replicate (cs.takeWhile (· == c)).length c :=
    List.eq_replicate_of_mem fun d hd => by
      simpa using List.mem_takeWhile_imp (p := (· == c)) hd
  refine ⟨(cs.takeWhile (· == c)).length, cs.dropWhile (· == c), ?_, fun heq => ?_⟩
  · rw [← htake, List.takeWhile_append_dropWhile]
  · have hnot := List.head?_dropWhile_not (· == c) cs
    rw [heq] at hnot
    simp at hnot

theorem takeWhile_run (n : Nat) {rest : List Char} (hrest : rest.head? ≠ some c) :
    (List.replicate n c ++ rest).takeWhile (· == c) = List.replicate n c ∧
      (List.replicate n c ++ rest).dropWhile (· == c) = rest := by
  have hrun : ∀ d ∈ List.replicate n c, (d == c) = true := by simp
  rw [List.takeWhile_append_of_pos hrun, List.dropWhile_append_of_pos hrun]
  cases rest with
  | nil => simp
  | cons d rest =>
      have hd : (d == c) = false := by simpa using hrest
      rw [List.takeWhile_cons_of_neg (by simp [hd]), List.dropWhile_cons_of_neg (by simp [hd])]
      simp

section

variable {rest : List Char} {n : Nat} {isFirst : Bool} {w : Written}

theorem writeFolded_blanks (hrest : rest.head? ≠ some ' ') :
    writeFolded quote isFirst w (List.replicate (n + 1) ' ' ++ rest) =
      writeFolded quote false
        (if n = 0 ∧ lineWidth < w.column ∧ isFirst = false ∧ rest ≠ [] then w.breakLine
          else w.push (List.replicate (n + 1) ' ')) rest := by
  obtain ⟨htake, hdrop⟩ := takeWhile_run n hrest
  rw [List.replicate_succ, List.cons_append, writeFolded]
  simp only [htake, hdrop, beq_self_eq_true, if_true, Bool.and_eq_true, List.isEmpty_iff,
    List.replicate_eq_nil_iff, decide_eq_true_eq, Bool.not_eq_true', List.isEmpty_eq_false_iff,
    and_assoc]

theorem writeFolded_breaks (hrest : rest.head? ≠ some '\n') :
    writeFolded quote isFirst w (List.replicate (n + 1) '\n' ++ rest) =
      writeFolded quote false
        ⟨[' ', ' '] ++ (List.replicate (n + 2) '\n' ++ w.out), 2⟩ rest := by
  obtain ⟨htake, hdrop⟩ := takeWhile_run n hrest
  rw [List.replicate_succ, List.cons_append, writeFolded]
  simp only [htake, hdrop, beq_self_eq_true, if_true, List.length_replicate]
  rfl

theorem writeFolded_char (hc : IsInk c) :
    writeFolded quote isFirst w (c :: cs) =
      writeFolded quote false (w.push (if c = '\'' then quote else [c])) cs := by
  rw [writeFolded]
  simp [hc.1, hc.2]

/-- What is written for a text folds it. -/
theorem exists_folded (quote : List Char) (isFirst : Bool) (w : Written) (cs : List Char)
    (h : GapsApart cs) : ∃ body, (writeFolded quote isFirst w cs).out = body.reverse ++ w.out ∧
      Folded quote cs body := by
  induction hlength : cs.length using Nat.strongRecOn generalizing isFirst w cs with
  | ind length ih =>
      subst hlength
      cases cs with
      | nil => exact ⟨[], by rw [writeFolded]; rfl, .nil⟩
      | cons c cs =>
          obtain ⟨n, rest, hcs, hrest⟩ := exists_run c cs
          have hrun : c :: cs = List.replicate (n + 1) c ++ rest := by
            rw [hcs, List.replicate_succ, List.cons_append]
          have hshort : rest.length < (c :: cs).length := by
            rw [hrun, List.length_append, List.length_replicate]
            omega
          by_cases hblank : c = ' '
          · subst hblank
            rw [hrun] at h ⊢
            have hink := h.isInk (.inl rfl) hrest
            rw [writeFolded_blanks hrest]
            obtain ⟨body, hout, hbody⟩ := ih _ hshort false _ rest h.right rfl
            rw [hout]
            split
            · next hwrap =>
                obtain ⟨rfl, -⟩ := hwrap
                exact ⟨continued ++ body, by simp, .gap .wrapped hink hbody⟩
            · exact ⟨_, by simp, .gap (.blanks n) hink hbody⟩
          · by_cases hbreak : c = '\n'
            · subst hbreak
              rw [hrun] at h ⊢
              have hink := h.isInk (.inr rfl) hrest
              rw [writeFolded_breaks hrest]
              obtain ⟨body, hout, hbody⟩ := ih _ hshort false _ rest h.right rfl
              rw [hout]
              exact ⟨_, by simp, .gap (.breaks n) hink hbody⟩
            · rw [writeFolded_char ⟨hblank, hbreak⟩]
              obtain ⟨body, hout, hbody⟩ := ih cs.length (Nat.lt_succ_self _) false _ cs
                (GapsApart.right (List.singleton_append ▸ h)) rfl
              rw [hout]
              exact ⟨_, by simp, .char ⟨hblank, hbreak⟩ hbody⟩

end

end

/-! ## Escaped texts -/

/-- What is written for a text between double quotes: a line may be ended by a backslash, and a
blank may have one before it. -/
inductive Escaped : (text written : List Char) → Prop
  | nil : Escaped [] []
  | char {c cs body} : escapeOf? c = none → Escaped cs body → Escaped (c :: cs) (c :: body)
  | escape {c e cs body} : escapeOf? c = some e → Escaped cs body → Escaped (c :: cs) (e ++ body)
  | blank {cs body} : Escaped cs body → Escaped (' ' :: cs) ('\\' :: ' ' :: body)
  | continued {cs body} : body.head? ≠ some ' ' → Escaped cs body →
      Escaped cs ('\\' :: continued ++ body)

section

variable {cs body e : List Char} {c : Char}

theorem exists_of_escapeOf? (h : escapeOf? c = some e) : ∃ e', e = '\\' :: e' := by
  unfold escapeOf? at h
  dsimp only at h
  split at h
  case h_16 => split_ifs at h <;> exact ⟨_, (Option.some.inj h).symm⟩
  all_goals exact ⟨_, (Option.some.inj h).symm⟩

theorem Escaped.head?_ne (h : Escaped cs body) (hcs : cs.head? ≠ some ' ') :
    body.head? ≠ some ' ' := by
  cases h with
  | nil => nofun
  | char _ _ => exact hcs
  | escape he _ =>
      obtain ⟨e, rfl⟩ := exists_of_escapeOf? he
      simp
  | blank _ => simp
  | continued _ _ => simp

/-- What is written for a text escapes it. A blank near the start of a line is written as it is. -/
theorem exists_escaped (isFirst : Bool) (held : List Char) (w : Written) (cs : List Char) :
    ∃ body, (writeEscaped isFirst held w cs).out = body.reverse ++ (held ++ w.out) ∧
      Escaped cs body ∧ (w.column + held.length ≤ lineWidth → ∀ rest, cs = ' ' :: rest →
        ∃ body', body = ' ' :: body' ∧ Escaped rest body') := by
  induction cs generalizing isFirst held w with
  | nil => exact ⟨[], by simp [writeEscaped], .nil, fun _ _ h => by cases h⟩
  | cons c cs ih =>
      rw [writeEscaped]
      cases hescape : escapeOf? c with
      | some e =>
          have hblank : c ≠ ' ' := by
            rintro rfl
            cases hescape
          have hnone : ∀ (body : List Char) rest, c :: cs = ' ' :: rest →
              ∃ body', body = ' ' :: body' ∧ Escaped rest body' :=
            fun body rest h => absurd (List.cons.inj h).1 hblank
          dsimp only
          split
          · split
            · next hnext =>
                obtain ⟨cs, rfl⟩ := List.head?_eq_some_iff.mp hnext
                obtain ⟨body, hout, -, hfirst⟩ := ih false []
                  (((((w.push held.reverse).push e).push ['\\']).breakLine).push ['\\'])
                obtain ⟨body, rfl, hbody⟩ := hfirst
                  (by simp [Written.push, Written.breakLine, lineWidth]) cs rfl
                refine ⟨e ++ ('\\' :: continued ++ '\\' :: ' ' :: body), ?_,
                  .escape hescape (.continued (by simp) (.blank hbody)), fun _ => hnone _⟩
                rw [hout]
                simp
            · next hnext =>
                obtain ⟨body, hout, hbody, -⟩ := ih false []
                  ((((w.push held.reverse).push e).push ['\\']).breakLine)
                refine ⟨e ++ ('\\' :: continued ++ body), ?_,
                  .escape hescape (.continued (hbody.head?_ne hnext) hbody), fun _ => hnone _⟩
                rw [hout]
                simp
          · obtain ⟨body, hout, hbody, -⟩ := ih false [] ((w.push held.reverse).push e)
            refine ⟨e ++ body, ?_, .escape hescape hbody, fun _ => hnone _⟩
            rw [hout]
            simp [Written.push]
      | none =>
          dsimp only
          split
          · next hbreak =>
              have hwide : ¬ w.column + held.length ≤ lineWidth := by
                simp only [Bool.and_eq_true, decide_eq_true_eq] at hbreak
                omega
              split
              · next hnext =>
                  obtain rfl := Option.some.inj hnext
                  obtain ⟨body, hout, hbody, -⟩ := ih false [' ']
                    ((((w.push held.reverse).push ['\\']).breakLine).push ['\\'])
                  refine ⟨'\\' :: continued ++ '\\' :: ' ' :: body, ?_,
                    .continued (by simp) (.blank hbody), fun h => absurd h hwide⟩
                  rw [hout]
                  simp
              · next hnext =>
                  obtain ⟨body, hout, hbody, -⟩ := ih false [c]
                    (((w.push held.reverse).push ['\\']).breakLine)
                  refine ⟨'\\' :: continued ++ c :: body, ?_,
                    .continued hnext (.char hescape hbody), fun h => absurd h hwide⟩
                  rw [hout]
                  simp
          · obtain ⟨body, hout, hbody, -⟩ := ih false (c :: held) w
            refine ⟨c :: body, ?_, .char hescape hbody, fun _ rest h => ?_⟩
            · rw [hout]
              simp
            · obtain ⟨rfl, rfl⟩ := List.cons.inj h
              exact ⟨body, rfl, hbody⟩

end

/-! ## Hexadecimal digits -/

theorem exists_toDigits (n : Nat) : ∃ ks : List Nat, Nat.toDigits 16 n = ks.map Nat.digitChar ∧
    (∀ k ∈ ks, k < 16) ∧ ks.foldl (fun n k => n * 16 + k) 0 = n := by
  induction n using Nat.strongRecOn with
  | ind n ih =>
      rw [Nat.toDigits_eq_if (by decide)]
      split
      · next hlt => exact ⟨[n], rfl, by simpa using hlt, by simp⟩
      · next hge =>
          obtain ⟨ks, hks, hlt, hvalue⟩ := ih (n / 16) (by omega)
          refine ⟨ks ++ [n % 16], by simp [hks], ?_, ?_⟩
          · simp only [List.forall_mem_append, List.forall_mem_singleton]
            exact ⟨hlt, Nat.mod_lt _ (by decide)⟩
          · rw [List.foldl_append, hvalue]
            simp only [List.foldl_cons, List.foldl_nil]
            omega

/-- A number written with hexadecimal digits, and with zeros in front. -/
theorem exists_hexPadded (width n : Nat) : ∃ ks : List Nat,
    hexPadded width n = ks.map (fun k => (Nat.digitChar k).toUpper) ∧
      (∀ k ∈ ks, k < 16) ∧ ks.foldl (fun n k => n * 16 + k) 0 = n := by
  obtain ⟨ks, hks, hlt, hvalue⟩ := exists_toDigits n
  refine ⟨List.replicate (width - ks.length) 0 ++ ks, ?_, ?_, ?_⟩
  · simp only [hexPadded, hks, List.length_map, List.map_append, List.map_replicate, List.map_map]
    rfl
  · rw [List.forall_mem_append]
    exact ⟨fun k hk => by rw [List.eq_of_mem_replicate hk]; decide, hlt⟩
  · have hzeros : ∀ m, (List.replicate m 0).foldl (fun n k => n * 16 + k) 0 = 0 := by
      intro m
      induction m with
      | zero => rfl
      | succ m ih => exact ih
    rw [List.foldl_append, hzeros, hvalue]

theorem length_hexPadded {width n : Nat} (hwidth : 0 < width) (h : n < 16 ^ width) :
    (hexPadded width n).length = width := by
  have hle : (Nat.toDigits 16 n).length ≤ width :=
    (Nat.length_toDigits_le_iff (by decide) hwidth).mpr h
  simp only [hexPadded, List.length_append, List.length_replicate, List.length_map]
  omega

/-! ## The characters that are written -/

section

variable {quote cs body e : List Char} {c : Char}

theorem isPlain_of_isSpecial (h : isSpecial c = false) : IsPlain c := by
  simp only [isSpecial, Bool.and_eq_false_iff, bne_eq_false_iff_eq, Bool.not_eq_false',
    Bool.and_eq_true, decide_eq_true_eq] at h
  exact h

theorem isPlain_hexPadded (width n : Nat) : ∀ d ∈ hexPadded width n, IsPlain d := by
  obtain ⟨ks, hks, hlt, -⟩ := exists_hexPadded width n
  have hdigit : ∀ k < 16, IsPlain (Nat.digitChar k).toUpper := by decide
  rw [hks]
  exact List.forall_mem_map.mpr fun k hk => hdigit k (hlt k hk)

theorem isPrintable_of_escapeOf? (h : escapeOf? c = none) : IsPrintable c := by
  unfold escapeOf? at h
  dsimp only at h
  split at h
  case h_16 =>
    split_ifs at h with hprintable
    simpa [IsPrintable] using hprintable
  all_goals cases h

theorem isPlain_escapeOf? (h : escapeOf? c = some e) : ∀ d ∈ e, IsPlain d := by
  have hcode : ∀ x ∈ ['x', 'u', 'U'], ∀ width, ∀ d ∈ '\\' :: x :: hexPadded width c.toNat,
      IsPlain d := by
    intro x hx width
    rw [List.forall_mem_cons, List.forall_mem_cons]
    refine ⟨by decide, ?_, isPlain_hexPadded width _⟩
    revert x
    decide
  unfold escapeOf? at h
  dsimp only at h
  split at h
  case h_16 =>
    split_ifs at h
    all_goals
      obtain rfl := Option.some.inj h
      exact hcode _ (by simp) _
  all_goals
    obtain rfl := Option.some.inj h
    decide

theorem FoldedGap.isPlain {g g' : List Char} (h : FoldedGap g g') : ∀ d ∈ g', IsPlain d := by
  have hblank : IsPlain ' ' := by decide
  have hbreak : IsPlain '\n' := by decide
  cases h with
  | blanks n => exact fun d hd => List.eq_of_mem_replicate hd ▸ hblank
  | wrapped => decide
  | breaks n =>
      rw [List.forall_mem_append]
      exact ⟨fun d hd => List.eq_of_mem_replicate hd ▸ hbreak, by decide⟩

theorem Folded.isPlain (h : Folded quote cs body) (hquote : ∀ d ∈ quote, IsPlain d)
    (hcs : ∀ d ∈ cs, IsPlain d) : ∀ d ∈ body, IsPlain d := by
  induction h with
  | nil => nofun
  | @char c cs body _ _ ih =>
      rw [List.forall_mem_cons] at hcs
      rw [List.forall_mem_append]
      refine ⟨?_, ih hcs.2⟩
      split
      · exact hquote
      · simpa using hcs.1
  | gap hgap _ _ ih =>
      rw [List.forall_mem_append] at hcs ⊢
      exact ⟨hgap.isPlain, ih hcs.2⟩

theorem Escaped.isPlain (h : Escaped cs body) : ∀ d ∈ body, IsPlain d := by
  induction h with
  | nil => nofun
  | char hescape _ ih =>
      exact List.forall_mem_cons.mpr ⟨(isPrintable_of_escapeOf? hescape).isPlain, ih⟩
  | escape hescape _ ih => exact List.forall_mem_append.mpr ⟨isPlain_escapeOf? hescape, ih⟩
  | blank _ ih =>
      rw [List.forall_mem_cons, List.forall_mem_cons]
      exact ⟨by decide, by decide, ih⟩
  | continued _ _ ih =>
      rw [List.forall_mem_append]
      exact ⟨by decide, ih⟩

end

/-! ## The three styles -/

/-- Whether a text may be written without quotes. -/
structure KeepsPlain (cs : List Char) : Prop where
  printable : ∀ c ∈ cs, IsPrintable c
  head : cs.head? ≠ some ' '
  last : cs.getLast? ≠ some ' '
  indicator : hasIndicator cs = false

/-- What may be written for a string, and whether it is plain. -/
inductive WrittenAs (s : String) : (written : List Char) → (isPlain : Bool) → Prop
  | plain {body} : plainTag s = .str → KeepsPlain s.toList → Folded ['\''] s.toList body →
      WrittenAs s body true
  | single {body} : (∀ c ∈ s.toList, IsPlain c) → Folded ['\'', '\''] s.toList body →
      WrittenAs s ('\'' :: (body ++ ['\''])) false
  | double {body} : Escaped s.toList body → WrittenAs s ('"' :: (body ++ ['"'])) false

theorem keepsSingle_of_scalarStyle {s : String} (h : scalarStyle s ≠ .double) :
    (∀ c ∈ s.toList, IsPlain c) ∧ GapsApart s.toList := by
  have hkeeps : (!s.toList.any isSpecial && !hasPair isBreak isSpaceChar s.toList &&
      !hasPair isSpaceChar isBreak s.toList) = true := by
    by_contra hnot
    rw [Bool.not_eq_true] at hnot
    exact h (by simp [scalarStyle, hnot])
  simp only [Bool.and_eq_true, Bool.not_eq_true'] at hkeeps
  obtain ⟨⟨hspecial, hbreak⟩, hblank⟩ := hkeeps
  refine ⟨fun c hc => isPlain_of_isSpecial ?_, gapsApart_of_hasPair hblank hbreak⟩
  simpa using List.any_eq_false.mp hspecial c hc

theorem keepsPlain_of_scalarStyle {s : String} (h : scalarStyle s = .plain) :
    plainTag s = .str ∧ KeepsPlain s.toList := by
  have hplain := (keepsSingle_of_scalarStyle (s := s) (by rw [h]; decide)).1
  unfold scalarStyle at h
  dsimp only at h
  split_ifs at h with hstyle
  simp only [Bool.and_eq_true, decide_eq_true_eq, Bool.not_eq_true'] at hstyle
  obtain ⟨⟨⟨⟨⟨htag, -⟩, hbreak⟩, hhead⟩, hlast⟩, hindicator⟩ := hstyle
  refine ⟨htag, ⟨fun c hc => (hplain c hc).resolve_left ?_, fun heq => ?_, fun heq => ?_,
    hindicator⟩⟩
  · rintro rfl
    exact absurd (List.any_eq_false.mp hbreak _ hc) (by decide)
  · rw [heq] at hhead
    exact absurd hhead (by decide)
  · rw [heq] at hlast
    exact absurd hlast (by decide)

theorem writtenAs_writeString (column : Nat) (s : String) :
    ∃ isPlain, WrittenAs s (writeString column s).toList isPlain := by
  cases hstyle : scalarStyle s with
  | plain =>
      obtain ⟨htag, hkeeps⟩ := keepsPlain_of_scalarStyle hstyle
      obtain ⟨-, hapart⟩ := keepsSingle_of_scalarStyle (s := s) (by rw [hstyle]; decide)
      obtain ⟨body, hout, hbody⟩ := exists_folded ['\''] true ⟨[], column⟩ s.toList hapart
      have htext : (writeString column s).toList = body := by
        simp only [writeString, hstyle, String.toList_ofList, hout]
        simp
      rw [htext]
      exact ⟨true, .plain htag hkeeps hbody⟩
  | single =>
      obtain ⟨hplain, hapart⟩ := keepsSingle_of_scalarStyle (s := s) (by rw [hstyle]; decide)
      obtain ⟨body, hout, hbody⟩ := exists_folded ['\'', '\''] true
        (Written.push ⟨[], column⟩ ['\'']) s.toList hapart
      have htext : (writeString column s).toList = '\'' :: (body ++ ['\'']) := by
        simp only [writeString, hstyle, String.toList_ofList, Written.out_push, hout]
        simp
      rw [htext]
      exact ⟨false, .single hplain hbody⟩
  | double =>
      obtain ⟨body, hout, hbody, -⟩ := exists_escaped true [] (Written.push ⟨[], column⟩ ['"'])
        s.toList
      have htext : (writeString column s).toList = '"' :: (body ++ ['"']) := by
        simp only [writeString, hstyle, String.toList_ofList, Written.out_push, hout]
        simp
      rw [htext]
      exact ⟨false, .double hbody⟩

/-- Only line feeds and printable characters of ASCII are written. -/
theorem WrittenAs.isPlain {s : String} {body : List Char} {isPlain : Bool}
    (h : WrittenAs s body isPlain) : ∀ c ∈ body, IsPlain c := by
  cases h with
  | plain _ hkeeps hbody =>
      exact hbody.isPlain (by decide) fun c hc => (hkeeps.printable c hc).isPlain
  | single hplain hbody =>
      rw [List.forall_mem_cons, List.forall_mem_append]
      exact ⟨by decide, hbody.isPlain (by decide) hplain, by decide⟩
  | double hbody =>
      rw [List.forall_mem_cons, List.forall_mem_append]
      exact ⟨by decide, hbody.isPlain, by decide⟩

end TypeDraft.Yaml
