import TypeDraft.Proofs.Json.Literals
import TypeDraft.Proofs.Yaml.Cursor

/-!
# Strings of JSON between the quotes of YAML

Between double quotes, YAML reads what JSON reads there, with two exceptions: more characters are
line ends, and an escaped pair of surrogates stays two.
-/

namespace TypeDraft.Yaml

open Json (EscapesFrom codeUnit? simpleEscape?)
open Numeral (hexValue?)
open Text (isHighSurrogate isLowSurrogate loneSurrogate? ofCodeUnit pushCodeUnit)

/-- Whether a character carries a lone high surrogate. -/
def carriesHigh (c : Char) : Bool := (loneSurrogate? c).any isHighSurrogate

/-- Whether an escaped low surrogate follows a high one in a text inside quotes; `afterHigh` tells
whether a high one stands right before. -/
def joinsSurrogates : (afterHigh : Bool) → List Char → Bool
  | afterHigh, '\\' :: 'u' :: a :: b :: c :: d :: cs =>
    match codeUnit? a b c d with
    | some n => afterHigh && isLowSurrogate n || joinsSurrogates (isHighSurrogate n) cs
    | none => joinsSurrogates false cs
  | _, '\\' :: _ :: cs => joinsSurrogates false cs
  | _, c :: cs => joinsSurrogates (carriesHigh c) cs
  | _, [] => false

/-- Whether a text inside quotes means the same in YAML as in JSON. -/
def keepsString (body : List Char) : Bool := !body.any isBreak && !joinsSurrogates false body

/-! ## Code units -/

theorem hexValue?_lt {c : Char} {n : Nat} (h : hexValue? c = some n) : n < 16 := by
  have hle : ∀ a : Char, a ≤ c ↔ a.toNat ≤ c.toNat := fun a => Iff.rfl
  have hge : ∀ a : Char, c ≤ a ↔ c.toNat ≤ a.toNat := fun a => Iff.rfl
  unfold hexValue? at h
  simp only [hle, hge, Char.reduceToNat] at h
  split_ifs at h <;> cases h <;> omega

theorem codeUnit?_lt {a b c d : Char} {n : Nat} (h : codeUnit? a b c d = some n) :
    n < 0x10000 := by
  unfold codeUnit? at h
  split at h
  · next a' b' c' d' ha hb hc hd =>
      have ha := hexValue?_lt ha
      have hb := hexValue?_lt hb
      have hc := hexValue?_lt hc
      have hd := hexValue?_lt hd
      cases h
      omega
  · cases h

theorem takeHex_of_codeUnit? {cur : Cursor} {a b c d : Char} {n : Nat} {cs : List Char}
    (h : codeUnit? a b c d = some n) (hrest : cur.rest = a :: b :: c :: d :: cs) :
    takeHex 4 cur = .ok (n, cur.advance 4) := by
  unfold codeUnit? at h
  split at h
  · next a' b' c' d' ha hb hc hd =>
      cases h
      simp [takeHex, hrest, ha, hb, hc, hd]
  · cases h

theorem toNat_ofNat {n : Nat} (h : n.isValidChar) : (Char.ofNat n).toNat = n := by
  rw [Char.ofNat, dif_pos h]
  rfl

theorem carriesHigh_ofCodeUnit {n : Nat} (h : n < 0x10000) :
    carriesHigh (ofCodeUnit n) = isHighSurrogate n := by
  unfold carriesHigh ofCodeUnit loneSurrogate?
  split_ifs with hsurrogate hlone hlone
  · have hvalid : (0x100000 + n).isValidChar := .inr (by omega)
    rw [toNat_ofNat hvalid, Nat.add_sub_cancel_left]
    rfl
  · have hvalid : (0x100000 + n).isValidChar := .inr (by omega)
    rw [toNat_ofNat hvalid] at hlone
    simp only [isHighSurrogate, isLowSurrogate, Bool.or_eq_true, Bool.and_eq_true,
      decide_eq_true_eq] at hsurrogate
    omega
  · have hvalid : n.isValidChar := by
      simp only [isHighSurrogate, isLowSurrogate, Bool.or_eq_true, Bool.and_eq_true,
        decide_eq_true_eq] at hsurrogate
      unfold Nat.isValidChar
      omega
    rw [toNat_ofNat hvalid] at hlone
    omega
  · rw [Bool.or_eq_true, not_or, Bool.not_eq_true] at hsurrogate
    rw [hsurrogate.1]
    rfl

/-- Whether what has been read, last character first, ends with a lone high surrogate. -/
def endsHigh (out : List Char) : Bool := out.head?.any carriesHigh

theorem pushCodeUnit_of_apart {n : Nat} {out : List Char}
    (h : (endsHigh out && isLowSurrogate n) = false) : pushCodeUnit n out = ofCodeUnit n :: out := by
  cases out with
  | nil => rfl
  | cons c out =>
      unfold pushCodeUnit
      split
      · next heq => cases heq
      · next heq =>
          obtain ⟨rfl, rfl⟩ := List.cons.inj heq
          split
          · next high hlone =>
              rw [if_neg]
              simpa [endsHigh, carriesHigh, hlone] using h
          · rfl

/-! ## Texts inside quotes -/

/-- What is left of a text inside quotes and the string it stands for in JSON, where it means the
same in YAML. -/
structure KeepsFrom (out body : List Char) (s : String) : Prop where
  escapes : EscapesFrom out body s
  noBreak : ∀ c ∈ body, isBreak c = false
  apart : joinsSurrogates (endsHigh out) body = false

section

variable {out cs body rest : List Char} {s t : String} {c d : Char} {cur cur' : Cursor}

theorem carriesHigh_of_simpleEscape? (h : simpleEscape? c = some d) : carriesHigh d = false := by
  unfold simpleEscape? at h
  split at h
  all_goals first | cases h; decide | cases h

theorem escape?_of_simpleEscape? (h : simpleEscape? c = some d) : escape? c = some d := by
  unfold simpleEscape? at h
  split at h
  all_goals first | cases h; rfl | cases h

theorem joinsSurrogates_plain (hslash : c ≠ '\\') (afterHigh : Bool) :
    joinsSurrogates afterHigh (c :: cs) = joinsSurrogates (carriesHigh c) cs := by
  rw [joinsSurrogates] <;> simp [hslash]

theorem KeepsFrom.blanks {run : List Char} (hrun : ∀ d ∈ run, d = ' ')
    (h : KeepsFrom out (run ++ body) s) : KeepsFrom (run.reverse ++ out) body s := by
  induction run generalizing out with
  | nil => exact h
  | cons d run ih =>
      rw [List.forall_mem_cons] at hrun
      obtain ⟨rfl, hrun⟩ := hrun
      obtain ⟨hescapes, hbreak, hapart⟩ := h
      cases hescapes with
      | plain _ hslash _ hescapes =>
          rw [List.cons_append, joinsSurrogates_plain hslash] at hapart
          rw [List.cons_append, List.forall_mem_cons] at hbreak
          simpa using ih hrun ⟨hescapes, hbreak.2, hapart⟩

theorem ne_tab_of_le (h : 0x20 ≤ c.toNat) : c ≠ '\t' := by
  rintro rfl
  exact absurd h (by decide)

theorem exists_run_of_blanks (cs : List Char) : ∃ run body, cs = run ++ body ∧
    (∀ d ∈ run, d = ' ') ∧ body.head? ≠ some ' ' := by
  refine ⟨cs.takeWhile (· == ' '), cs.dropWhile (· == ' '),
    (List.takeWhile_append_dropWhile ..).symm, fun d hd => ?_, fun heq => ?_⟩
  · simpa using List.mem_takeWhile_imp (p := (· == ' ')) hd
  · have hnot := List.head?_dropWhile_not (· == ' ') cs
    rw [heq] at hnot
    cases hnot

/-- Behind a run of blanks stands neither white space nor a line end, be it the closing quote. -/
theorem KeepsFrom.exists_behind_blanks (h : KeepsFrom out body s) (hhead : body.head? ≠ some ' ')
    (rest : List Char) : ∃ c cs, body ++ '"' :: rest = c :: cs ∧
      c ≠ ' ' ∧ c ≠ '\t' ∧ isBreak c = false := by
  obtain ⟨hescapes, hbreak, -⟩ := h
  cases hescapes with
  | done => exact ⟨'"', rest, rfl, by decide, by decide, by decide⟩
  | plain hquote hslash hcontrol _ =>
      exact ⟨_, _, rfl, by simpa using hhead, ne_tab_of_le hcontrol,
        hbreak _ List.mem_cons_self⟩
  | simple _ _ | unit _ _ => exact ⟨'\\', _, rfl, by decide, by decide, by decide⟩

theorem readQuoted_plain {fuel : Nat} {quote : Char} (hrest : cur.rest = c :: cs)
    (hquote : c ≠ quote) (hslash : c = '\\' → quote ≠ '"') (hblank : c ≠ ' ') (htab : c ≠ '\t')
    (hbreak : isBreak c = false) :
    readQuoted quote out (fuel + 1) cur = readQuoted quote (c :: out) fuel cur.next := by
  have hescape : (c == '\\' && quote == '"') = false := by simpa using hslash
  rw [readQuoted, hrest]
  simp [hquote, hescape, hblank, htab, hbreak]

theorem readQuoted_simple {fuel : Nat} (hrest : cur.rest = '\\' :: c :: cs)
    (h : escape? c = some d) :
    readQuoted '"' out (fuel + 1) cur = readQuoted '"' (d :: out) fuel (cur.advance 2) := by
  rw [readQuoted, hrest]
  simp [h]

theorem readQuoted_unit {fuel n : Nat} {a b e : Char}
    (hrest : cur.rest = '\\' :: 'u' :: a :: b :: c :: e :: cs) (h : codeUnit? a b c e = some n) :
    readQuoted '"' out (fuel + 1) cur =
      readQuoted '"' (ofCodeUnit n :: out) fuel (cur.advance 6) := by
  have hlater : (cur.advance 2).rest = a :: b :: c :: e :: cs := by simp [hrest]
  have hlt := codeUnit?_lt h
  have hvalid : n < 0x110000 := by omega
  rw [readQuoted, hrest]
  simp [escape?, escapeDigits?, takeHex_of_codeUnit? h hlater, hvalid]

theorem readQuoted_blanks {fuel : Nat} {quote : Char} {run : List Char}
    (hrun : ∀ d ∈ run, d = ' ') (hrest : cur.rest = ' ' :: run ++ c :: cs) (hquote : ' ' ≠ quote)
    (hblank : c ≠ ' ') (htab : c ≠ '\t') (hbreak : isBreak c = false) :
    readQuoted quote out (fuel + 1) cur =
      readQuoted quote (run.reverse ++ ' ' :: out) fuel (cur.advance (run.length + 1)) := by
  have htake : cur.takeWhile (fun ch => ch == ' ' || ch == '\t') =
      (' ' :: run, cur.advance (run.length + 1)) := by
    refine Cursor.takeWhile_of_append hrest ?_ (by simp [hblank, htab])
    rintro d hd
    obtain rfl : d = ' ' := by
      rcases List.mem_cons.mp hd with rfl | hd
      · rfl
      · exact hrun d hd
    rfl
  have hlater : (cur.advance (run.length + 1)).rest = c :: cs := by simp [hrest]
  have hnone : (cur.advance (run.length + 1)).takeBreak = none :=
    Cursor.takeBreak_eq_none (by simpa only [hlater, List.head?_cons, Option.mem_some_iff,
      forall_eq'] using hbreak)
  rw [readQuoted, hrest]
  simp only [List.cons_append, htake, hnone, Cursor.peek, hlater]
  simp [hquote]

/-- What is read to the closing quote is the string, and the cursor stands behind the quote. -/
theorem readQuoted_eq {fuel : Nat} (h : KeepsFrom out body s)
    (hrest : cur.rest = body ++ '"' :: rest)
    (hread : readQuoted '"' out fuel cur = .ok (t, cur')) :
    t = s ∧ cur' = cur.advance (body.length + 1) := by
  induction fuel generalizing out body cur with
  | zero => cases hread
  | succ fuel ih =>
      obtain ⟨hescapes, hbreak, hapart⟩ := id h
      cases hescapes with
      | done =>
          rw [readQuoted, hrest] at hread
          cases hread
          exact ⟨rfl, rfl⟩
      | @plain _ c cs _ hquote hslash hcontrol hescapes =>
          rw [joinsSurrogates_plain hslash] at hapart
          rw [List.forall_mem_cons] at hbreak
          by_cases hblank : c = ' '
          · subst hblank
            -- A run of blanks is taken at once.
            obtain ⟨run, body, rfl, hrun, hhead⟩ := exists_run_of_blanks cs
            have hkeeps : KeepsFrom (run.reverse ++ ' ' :: out) body s :=
              KeepsFrom.blanks hrun ⟨hescapes, hbreak.2, hapart⟩
            obtain ⟨c, cs, hnext, hc⟩ := hkeeps.exists_behind_blanks hhead rest
            rw [readQuoted_blanks hrun (by rw [hrest, ← hnext]; simp) (by decide) hc.1 hc.2.1
              hc.2.2] at hread
            obtain ⟨rfl, rfl⟩ := ih hkeeps (by
              rw [Cursor.rest_advance, hrest]
              simp) hread
            refine ⟨rfl, ?_⟩
            rw [Cursor.advance_advance, List.length_cons, List.length_append]
            congr 1
            omega
          · rw [readQuoted_plain hrest hquote (fun h => absurd h hslash) hblank
              (ne_tab_of_le hcontrol) hbreak.1] at hread
            obtain ⟨rfl, rfl⟩ := ih ⟨hescapes, hbreak.2, hapart⟩ (by simp [hrest]) hread
            exact ⟨rfl, rfl⟩
      | @simple _ c d cs _ hescape hescapes =>
          have hu : c ≠ 'u' := by
            rintro rfl
            cases hescape
          have hrest' : cur.rest = '\\' :: c :: (cs ++ '"' :: rest) := hrest
          rw [readQuoted_simple hrest' (escape?_of_simpleEscape? hescape)] at hread
          rw [joinsSurrogates] at hapart
          · obtain ⟨rfl, rfl⟩ := ih ⟨hescapes, fun e he => hbreak e (by simp [he]), by
              rwa [endsHigh, List.head?_cons, Option.any_some,
                carriesHigh_of_simpleEscape? hescape]⟩ (by simp [hrest']) hread
            exact ⟨rfl, by simp [Nat.add_comm, Nat.add_left_comm]⟩
          · simp [hu]
      | @unit _ a b c d n cs _ hunit hescapes =>
          rw [readQuoted_unit hrest hunit] at hread
          simp only [joinsSurrogates, hunit, Bool.or_eq_false_iff] at hapart
          rw [pushCodeUnit_of_apart hapart.1] at hescapes
          obtain ⟨rfl, rfl⟩ := ih ⟨hescapes, fun e he => hbreak e (by simp [he]), by
            rw [endsHigh, List.head?_cons, Option.any_some,
              carriesHigh_ofCodeUnit (codeUnit?_lt hunit)]
            exact hapart.2⟩ (by simp [hrest]) hread
          exact ⟨rfl, by simp [Nat.add_comm, Nat.add_left_comm]⟩

theorem keepsFrom_of_keepsString (h : Json.Escapes body s) (hkeeps : keepsString body = true) :
    KeepsFrom [] body s := by
  simp only [keepsString, Bool.and_eq_true, Bool.not_eq_true', List.any_eq_false] at hkeeps
  exact ⟨h, fun c hc => by simpa using hkeeps.1 c hc, hkeeps.2⟩

end

end TypeDraft.Yaml
