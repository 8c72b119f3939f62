import Mathlib.Data.List.TakeWhile
import TypeDraft.Proofs.Json.Lexemes

/-!
# The atoms of JSON

The names and numbers that stand for values, and the texts that stand between quotes, as the
reader has them. A word ends where no character of words follows.
-/

namespace TypeDraft.Json

open Numeral (digitsValue splitExponent)

/-! ## Numbers -/

def IsDigits (ds : List Char) : Prop := ds ≠ [] ∧ ∀ d ∈ ds, d.isDigit = true

/-- Digits of which the first is a zero only if it is the only one. -/
def IsWhole (ds : List Char) : Prop := ds = ['0'] ∨ IsDigits ds ∧ ds.head? ≠ some '0'

/-- The text of a fractional part and its digits. -/
inductive IsFraction : List Char → List Char → Prop
  | none : IsFraction [] []
  | point {ds} : IsDigits ds → IsFraction ('.' :: ds) ds

/-- The text of an exponent and its value. -/
inductive IsExponent : List Char → Option Int → Prop
  | none : IsExponent [] none
  | plain {e ds} : e = 'e' ∨ e = 'E' → IsDigits ds →
      IsExponent (e :: ds) (some (digitsValue ds))
  | plus {e ds} : e = 'e' ∨ e = 'E' → IsDigits ds →
      IsExponent (e :: '+' :: ds) (some (digitsValue ds))
  | minus {e ds} : e = 'e' ∨ e = 'E' → IsDigits ds →
      IsExponent (e :: '-' :: ds) (some (-digitsValue ds))

def numberValue (negative : Bool) (whole fraction : List Char) (exponent : Option Int) : Value :=
  match fraction, exponent with
  | [], none =>
    let n : Int := digitsValue whole
    .int (if negative then -n else n)
  | _, _ =>
    .float (Double.ofDecimal negative (digitsValue (whole ++ fraction))
      (exponent.getD 0 - fraction.length))

def signText (negative : Bool) : List Char := if negative then ['-'] else []

/-- The text of a number and its value; an integer has no more digits than one may have. -/
inductive IsNumber : List Char → Value → Prop
  | mk {negative whole fractionText fraction exponentText exponent} : IsWhole whole →
      IsFraction fractionText fraction → IsExponent exponentText exponent →
      (fraction = [] → exponent = none → whole.length ≤ Numeral.maxDigits) →
      IsNumber (signText negative ++ (whole ++ (fractionText ++ exponentText)))
        (numberValue negative whole fraction exponent)

/-- Whether a word that stands before some text ends there. -/
def EndsWord (rest : List Char) : Prop := ∀ c ∈ rest.head?, isWordPart c = false

/-! ## Numbers are read -/

section

variable {cs ds rest : List Char}

theorem IsDigits.split (h : IsDigits ds) (hrest : ∀ c ∈ rest.head?, c.isDigit = false) :
    (ds ++ rest).takeWhile Char.isDigit = ds ∧ (ds ++ rest).dropWhile Char.isDigit = rest :=
  ⟨takeWhile_append_of_head h.2 hrest, dropWhile_append_of_head h.2 hrest⟩

theorem isWordPart_of_isDigit {c : Char} (h : c.isDigit = true) : isWordPart c = true := by
  simp [isWordPart, Char.isAlphanum, h]

theorem EndsWord.not_isDigit (h : EndsWord rest) : ∀ c ∈ rest.head?, c.isDigit = false := by
  intro c hc
  by_contra hdigit
  exact Bool.false_ne_true ((h c hc).symm.trans (isWordPart_of_isDigit (by simpa using hdigit)))

theorem EndsWord.head?_ne (h : EndsWord rest) {c : Char} (hc : isWordPart c = true) :
    ∀ r, rest ≠ c :: r := by
  rintro r rfl
  exact Bool.false_ne_true ((h c rfl).symm.trans hc)

theorem splitExponent_append {et : List Char} {e : Option Int} (h : IsExponent et e)
    (hrest : EndsWord rest) : splitExponent (et ++ rest) = (e, rest) := by
  cases h with
  | none =>
      rw [List.nil_append]
      unfold splitExponent
      split
      all_goals first | rfl | exact absurd rfl (hrest.head?_ne (by decide) _)
  | plain he hds =>
      obtain ⟨htake, hdrop⟩ := hds.split hrest.not_isDigit
      obtain ⟨d, ds, rfl⟩ := List.exists_cons_of_ne_nil hds.1
      have hd : d ≠ '-' ∧ d ≠ '+' := by
        constructor <;> rintro rfl <;> exact absurd (hds.2 _ List.mem_cons_self) (by decide)
      rw [List.cons_append] at htake hdrop
      rcases he with rfl | rfl <;> rw [List.cons_append, List.cons_append] <;>
        unfold splitExponent <;> split <;> simp_all
  | plus he hds | minus he hds =>
      obtain ⟨htake, hdrop⟩ := hds.split hrest.not_isDigit
      obtain ⟨d, ds, rfl⟩ := List.exists_cons_of_ne_nil hds.1
      rw [List.cons_append] at htake hdrop
      rcases he with rfl | rfl <;> simp [splitExponent, htake, hdrop]

theorem splitFraction_append {ft f : List Char} (h : IsFraction ft f)
    (hpoint : ∀ r, rest ≠ '.' :: r) (hdigit : ∀ c ∈ rest.head?, c.isDigit = false) :
    splitFraction (ft ++ rest) = (f, rest) := by
  cases h with
  | none =>
      rw [List.nil_append]
      unfold splitFraction
      split
      · exact absurd rfl (hpoint _)
      · rfl
  | point hds =>
      obtain ⟨htake, hdrop⟩ := hds.split hdigit
      obtain ⟨d, ds, rfl⟩ := List.exists_cons_of_ne_nil hds.1
      rw [List.cons_append] at htake hdrop
      simp [splitFraction, htake, hdrop]

theorem splitWhole_append (h : IsWhole ds) (hdigit : ∀ c ∈ rest.head?, c.isDigit = false) :
    splitWhole (ds ++ rest) = (ds, rest) := by
  rcases h with rfl | ⟨hds, hzero⟩
  · rfl
  · obtain ⟨htake, hdrop⟩ := hds.split hdigit
    unfold splitWhole
    split
    · next heq =>
        obtain ⟨d, ds, rfl⟩ := List.exists_cons_of_ne_nil hds.1
        simp_all
    · rw [htake, hdrop]

theorem IsExponent.head?_append {et : List Char} {e : Option Int} (h : IsExponent et e)
    (hrest : EndsWord rest) :
    ∀ c ∈ (et ++ rest).head?, c ≠ '.' ∧ c.isDigit = false := by
  cases h with
  | none =>
      intro c hc
      exact ⟨fun hpoint => absurd (hrest c hc) (hpoint ▸ by decide), hrest.not_isDigit c hc⟩
  | plain he hds => rcases he with rfl | rfl <;> simp
  | plus he hds => rcases he with rfl | rfl <;> simp
  | minus he hds => rcases he with rfl | rfl <;> simp

theorem IsWhole.exists_cons (h : IsWhole ds) : ∃ d ds', ds = d :: ds' ∧ d.isDigit = true := by
  rcases h with rfl | ⟨hds, -⟩
  · exact ⟨'0', [], rfl, by decide⟩
  · obtain ⟨d, ds, rfl⟩ := List.exists_cons_of_ne_nil hds.1
    exact ⟨d, ds, rfl, hds.2 d List.mem_cons_self⟩

theorem IsFraction.not_isDigit_head?_append {ft f : List Char} (h : IsFraction ft f)
    (hrest : ∀ c ∈ rest.head?, c.isDigit = false) :
    ∀ c ∈ (ft ++ rest).head?, c.isDigit = false := by
  cases h with
  | none => exact hrest
  | point hds => simp

theorem exists_sign (cs : List Char) : ∃ negative body, cs = signText negative ++ body ∧
    (negative = false → ∀ r, body ≠ '-' :: r) := by
  by_cases hminus : ∃ r, cs = '-' :: r
  · obtain ⟨r, rfl⟩ := hminus
    exact ⟨true, r, rfl, nofun⟩
  · exact ⟨false, cs, rfl, fun _ r hr => hminus ⟨r, hr⟩⟩

section

variable {negative : Bool} {body fraction rest₁ rest₂ : List Char} {exponent : Option Int}
  (hsign : negative = false → ∀ r, body ≠ '-' :: r)

include hsign

theorem readNumber_eq {d : Char} (hwhole : splitWhole body = (d :: ds, rest₁))
    (hfraction : splitFraction rest₁ = (fraction, rest₂))
    (hexponent : splitExponent rest₂ = (exponent, rest)) :
    readNumber (signText negative ++ body) =
      if fraction = [] ∧ exponent = none ∧ Numeral.maxDigits < (d :: ds).length then
        .error (.integerTooLong (d :: ds).length)
      else .ok (numberValue negative (d :: ds) fraction exponent, rest) := by
  cases negative with
  | true =>
      simp only [signText, if_true, List.singleton_append, readNumber, hwhole, hfraction,
        hexponent]
      cases fraction <;> cases exponent <;> simp [numberValue]
  | false =>
      have hsign := hsign rfl
      simp only [signText, Bool.false_eq_true, if_false, List.nil_append, readNumber, hwhole,
        hfraction, hexponent]
      cases fraction <;> cases exponent <;> simp [numberValue]

theorem exists_readNumber_error (hwhole : splitWhole body = ([], rest)) :
    ∃ e, readNumber (signText negative ++ body) = .error e := by
  cases negative with
  | true =>
      simp only [signText, if_true, List.singleton_append, readNumber, hwhole]
      exact ⟨_, rfl⟩
  | false =>
      have hsign := hsign rfl
      simp only [signText, Bool.false_eq_true, if_false, List.nil_append, readNumber, hwhole]
      exact ⟨_, rfl⟩

end

theorem readNumber_append {w : List Char} {v : Value} (h : IsNumber w v) (hrest : EndsWord rest) :
    readNumber (w ++ rest) = .ok (v, rest) := by
  cases h with
  | mk hwhole hfraction hexponent hshort =>
      have hhead := hexponent.head?_append hrest
      have hdigit := fun c hc => (hhead c hc).2
      obtain ⟨d, ds, rfl, hd⟩ := hwhole.exists_cons
      rw [List.append_assoc, List.append_assoc, List.append_assoc, readNumber_eq ?_
        (splitWhole_append hwhole (hfraction.not_isDigit_head?_append hdigit))
        (splitFraction_append hfraction ?_ hdigit) (splitExponent_append hexponent hrest), if_neg]
      · exact fun h => Nat.not_lt.mpr (hshort h.1 h.2.1) h.2.2
      · rintro - r heq
        exact absurd ((List.cons.inj heq).1 ▸ hd) (by decide)
      · rintro r heq
        exact (hhead '.' (by rw [heq]; rfl)).1 rfl

/-! ## What is read is a number -/

theorem isDigits_takeWhile (h : cs.takeWhile Char.isDigit ≠ []) :
    IsDigits (cs.takeWhile Char.isDigit) :=
  ⟨h, fun _ hd => List.mem_takeWhile_imp hd⟩

theorem exists_isExponent {e : Option Int} (h : splitExponent cs = (e, rest)) :
    ∃ et, cs = et ++ rest ∧ IsExponent et e := by
  have hnone : ((none, cs) : Option Int × List Char) = (e, rest) →
      ∃ et, cs = et ++ rest ∧ IsExponent et e := by
    intro h
    obtain ⟨rfl, rfl⟩ := Prod.mk.inj h
    exact ⟨[], rfl, .none⟩
  have hdigits : ∀ (before r : List Char) (negative : Bool),
      cs = before ++ r → r.takeWhile Char.isDigit ≠ [] →
      (some (if negative then -(digitsValue (r.takeWhile Char.isDigit) : Int)
        else digitsValue (r.takeWhile Char.isDigit)), r.dropWhile Char.isDigit) = (e, rest) →
      (∀ ds, IsDigits ds → IsExponent (before ++ ds)
        (some (if negative then -digitsValue ds else digitsValue ds))) →
      ∃ et, cs = et ++ rest ∧ IsExponent et e := by
    rintro before r negative rfl hne h hmk
    obtain ⟨rfl, rfl⟩ := Prod.mk.inj h
    refine ⟨before ++ r.takeWhile Char.isDigit, ?_, hmk _ (isDigits_takeWhile hne)⟩
    rw [List.append_assoc, List.takeWhile_append_dropWhile]
  unfold splitExponent at h
  simp only at h
  -- without digits after it, the mark begins no exponent
  split at h <;> (try split at h) <;> try exact hnone h
  · exact hdigits ['e', '-'] _ true rfl ‹_› h fun ds hds => .minus (.inl rfl) hds
  · exact hdigits ['E', '-'] _ true rfl ‹_› h fun ds hds => .minus (.inr rfl) hds
  · exact hdigits ['e', '+'] _ false rfl ‹_› h fun ds hds => .plus (.inl rfl) hds
  · exact hdigits ['E', '+'] _ false rfl ‹_› h fun ds hds => .plus (.inr rfl) hds
  · exact hdigits ['e'] _ false rfl ‹_› h fun ds hds => .plain (.inl rfl) hds
  · exact hdigits ['E'] _ false rfl ‹_› h fun ds hds => .plain (.inr rfl) hds

theorem exists_isFraction {f : List Char} (h : splitFraction cs = (f, rest)) :
    ∃ ft, cs = ft ++ rest ∧ IsFraction ft f := by
  unfold splitFraction at h
  split at h
  · next r =>
      split at h
      · obtain ⟨rfl, rfl⟩ := Prod.mk.inj h
        exact ⟨[], rfl, .none⟩
      · next ds heq hne =>
          obtain ⟨rfl, rfl⟩ := Prod.mk.inj h
          exact ⟨'.' :: r.takeWhile Char.isDigit, by simp [List.takeWhile_append_dropWhile],
            .point (isDigits_takeWhile hne)⟩
  · obtain ⟨rfl, rfl⟩ := Prod.mk.inj h
    exact ⟨[], rfl, .none⟩

theorem isWhole_of_splitWhole (h : splitWhole cs = (ds, rest)) (hne : ds ≠ []) :
    cs = ds ++ rest ∧ IsWhole ds := by
  unfold splitWhole at h
  split at h
  · obtain ⟨rfl, rfl⟩ := Prod.mk.inj h
    exact ⟨rfl, .inl rfl⟩
  · next hzero =>
      obtain ⟨rfl, rfl⟩ := Prod.mk.inj h
      refine ⟨(List.takeWhile_append_dropWhile ..).symm, .inr ⟨isDigits_takeWhile hne, ?_⟩⟩
      cases cs with
      | nil => exact nofun
      | cons c cs =>
          rw [List.takeWhile_cons]
          split
          · simpa using fun hc => hzero cs (by rw [hc])
          · exact nofun

theorem exists_isNumber {v : Value} (h : readNumber cs = .ok (v, rest)) :
    ∃ w, cs = w ++ rest ∧ IsNumber w v := by
  obtain ⟨negative, body, rfl, hsign⟩ := exists_sign cs
  obtain ⟨whole, rest₁, hwhole⟩ : ∃ whole rest₁, splitWhole body = (whole, rest₁) := ⟨_, _, rfl⟩
  obtain ⟨fraction, rest₂, hfraction⟩ : ∃ fraction rest₂,
    splitFraction rest₁ = (fraction, rest₂) := ⟨_, _, rfl⟩
  obtain ⟨exponent, rest₃, hexponent⟩ : ∃ exponent rest₃,
    splitExponent rest₂ = (exponent, rest₃) := ⟨_, _, rfl⟩
  cases whole with
  | nil =>
      obtain ⟨e, he⟩ := exists_readNumber_error hsign hwhole
      cases he.symm.trans h
  | cons d ds =>
      rw [readNumber_eq hsign hwhole hfraction hexponent] at h
      split at h
      · cases h
      · next hshort =>
          obtain ⟨rfl, rfl⟩ := Prod.mk.inj (Except.ok.inj h)
          obtain ⟨rfl, hds⟩ := isWhole_of_splitWhole hwhole (List.cons_ne_nil d ds)
          obtain ⟨ft, rfl, hft⟩ := exists_isFraction hfraction
          obtain ⟨et, rfl, het⟩ := exists_isExponent hexponent
          refine ⟨_, ?_, .mk hds hft het fun hf he => Nat.not_lt.mp fun hlt => hshort ⟨hf, he, hlt⟩⟩
          simp only [List.append_assoc]

end

/-! ## Atoms -/

/-- The text of a value that is neither a string nor an array or object. -/
inductive IsAtom : List Char → Value → Prop
  | null : IsAtom ['n', 'u', 'l', 'l'] .null
  | true : IsAtom ['t', 'r', 'u', 'e'] (.bool true)
  | false : IsAtom ['f', 'a', 'l', 's', 'e'] (.bool false)
  | nan : IsAtom ['N', 'a', 'N'] (.float .nan)
  | infinity : IsAtom ['I', 'n', 'f', 'i', 'n', 'i', 't', 'y'] (.float (.infinity Bool.false))
  | minusInfinity :
      IsAtom ['-', 'I', 'n', 'f', 'i', 'n', 'i', 't', 'y'] (.float (.infinity Bool.true))
  | number {w v} : IsNumber w v → IsAtom w v

theorem IsAtom.kind_ne {w : List Char} {v : Value} (h : IsAtom w v) :
    v.kind ≠ .array ∧ v.kind ≠ .object := by
  cases h with
  | number h =>
      cases h with
      | mk _ _ _ _ =>
          unfold numberValue
          split <;> exact ⟨nofun, nofun⟩
  | _ => exact ⟨nofun, nofun⟩

theorem IsDigits.isWordPart {ds : List Char} (h : IsDigits ds) :
    ∀ c ∈ ds, isWordPart c = true := fun c hc => isWordPart_of_isDigit (h.2 c hc)

theorem IsWhole.isWordPart {ds : List Char} (h : IsWhole ds) : ∀ c ∈ ds, isWordPart c = true := by
  rcases h with rfl | ⟨hds, -⟩
  · decide
  · exact hds.isWordPart

theorem IsFraction.isWordPart {ft f : List Char} (h : IsFraction ft f) :
    ∀ c ∈ ft, isWordPart c = true := by
  cases h with
  | none => exact nofun
  | point hds => exact List.forall_mem_cons.mpr ⟨by decide, hds.isWordPart⟩

theorem IsExponent.isWordPart {et : List Char} {e : Option Int} (h : IsExponent et e) :
    ∀ c ∈ et, isWordPart c = true := by
  cases h with
  | none => exact nofun
  | plain he hds =>
      exact List.forall_mem_cons.mpr ⟨by rcases he with rfl | rfl <;> decide, hds.isWordPart⟩
  | plus he hds | minus he hds =>
      exact List.forall_mem_cons.mpr ⟨by rcases he with rfl | rfl <;> decide,
        List.forall_mem_cons.mpr ⟨by decide, hds.isWordPart⟩⟩

theorem IsNumber.isWordPart {w : List Char} {v : Value} (h : IsNumber w v) :
    ∀ c ∈ w, isWordPart c = true := by
  cases h with
  | @mk negative _ _ _ _ _ hwhole hfraction hexponent _ =>
      simp only [List.forall_mem_append]
      exact ⟨by cases negative <;> decide, hwhole.isWordPart, hfraction.isWordPart,
        hexponent.isWordPart⟩

theorem IsNumber.ne_nil {w : List Char} {v : Value} (h : IsNumber w v) : w ≠ [] := by
  cases h with
  | mk hwhole _ _ _ =>
      obtain ⟨d, ds, rfl, -⟩ := hwhole.exists_cons
      simp

theorem atomsAreWords_isAtom : AtomsAreWords IsAtom := by
  intro cs v h
  cases h with
  | number h => exact ⟨h.ne_nil, h.isWordPart⟩
  | _ => exact ⟨by decide, by decide⟩

/-! ## Quoted texts -/

/-- A text between quotes and the string it stands for, `out` having been read before it, last
character first. -/
inductive EscapesFrom : (out body : List Char) → String → Prop
  | done {out} : EscapesFrom out [] (String.ofList out.reverse)
  | plain {out c cs s} : c ≠ '"' → c ≠ '\\' → 0x20 ≤ c.toNat → EscapesFrom (c :: out) cs s →
      EscapesFrom out (c :: cs) s
  | simple {out c d cs s} : simpleEscape? c = some d → EscapesFrom (d :: out) cs s →
      EscapesFrom out ('\\' :: c :: cs) s
  | unit {out a b c d n cs s} : codeUnit? a b c d = some n →
      EscapesFrom (Text.pushCodeUnit n out) cs s →
      EscapesFrom out ('\\' :: 'u' :: a :: b :: c :: d :: cs) s

def Escapes (body : List Char) (s : String) : Prop := EscapesFrom [] body s

theorem readString_append {opened out body rest : List Char} {s : String}
    (h : EscapesFrom out body s) :
    readString opened out (body ++ '"' :: rest) = .ok (s, rest) := by
  induction h with
  | done => rfl
  | plain hquote hslash hcontrol _ ih =>
      rw [List.cons_append, readString]
      · rw [if_neg (Nat.not_lt.mpr hcontrol)]
        exact ih
      all_goals simp [hquote, hslash]
  | @simple out c d cs s hescape _ ih =>
      have hu : c ≠ 'u' := by
        rintro rfl
        cases hescape
      rw [List.cons_append, List.cons_append, readString]
      · simp only [hescape]
        exact ih
      all_goals simp [hu]
  | unit hunit _ ih =>
      simp only [List.cons_append, readString, hunit]
      rw [if_neg (by simp)]
      exact ih

theorem exists_escapes {opened out cs rest : List Char} {s : String}
    (h : readString opened out cs = .ok (s, rest)) :
    ∃ body, cs = body ++ '"' :: rest ∧ EscapesFrom out body s := by
  fun_induction readString opened out cs with
  | case2 out cs =>
      obtain ⟨rfl, rfl⟩ := Prod.mk.inj (Except.ok.inj h)
      exact ⟨[], rfl, .done⟩
  | case6 out a b c d cs n hunit _ ih =>
      obtain ⟨body, rfl, hbody⟩ := ih h
      exact ⟨_, rfl, .unit hunit hbody⟩
  | case8 out c cs _ _ d hescape ih =>
      obtain ⟨body, rfl, hbody⟩ := ih h
      exact ⟨_, rfl, .simple hescape hbody⟩
  | case11 out c cs hquote hend _ _ hslash hcontrol ih =>
      obtain ⟨body, rfl, hbody⟩ := ih h
      refine ⟨_, rfl, .plain hquote ?_ (Nat.not_lt.mp hcontrol) hbody⟩
      rintro rfl
      cases body <;> exact hslash _ _ rfl rfl
  | _ => cases h

end TypeDraft.Json
