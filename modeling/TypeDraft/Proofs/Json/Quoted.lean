import TypeDraft.Json.Quoted
import TypeDraft.Proofs.Json.Reading

/-!
# Quoted strings are read back

Whatever characters a string has, the text that quotes it is read as that string.
-/

namespace TypeDraft.Json

open Numeral (hexValue?)

theorem hexValue?_digitChar {n : Nat} (h : n < 16) : hexValue? (Nat.digitChar n) = some n := by
  have hall : ∀ m : Fin 16, hexValue? (Nat.digitChar m) = some m.val := by decide
  exact hall ⟨n, h⟩

theorem codeUnit?_digits {n : Nat} (h : n < 0x10000) :
    codeUnit? (Nat.digitChar (n / 0x1000 % 16)) (Nat.digitChar (n / 0x100 % 16))
      (Nat.digitChar (n / 0x10 % 16)) (Nat.digitChar (n % 16)) = some n := by
  have hdigit : ∀ m, hexValue? (Nat.digitChar (m % 16)) = some (m % 16) := fun m =>
    hexValue?_digitChar (Nat.mod_lt m (by decide))
  simp only [codeUnit?, hdigit, Option.some.injEq]
  omega

/-- The code unit of a control character is no half of a pair. -/
theorem pushCodeUnit_of_control {c : Char} (h : c.toNat < 0x20) (out : List Char) :
    Text.pushCodeUnit c.toNat out = c :: out := by
  have hhigh : Text.isHighSurrogate c.toNat = false := by
    rw [Text.isHighSurrogate, Bool.and_eq_false_iff]
    exact .inl (decide_eq_false (by omega))
  have hlow : Text.isLowSurrogate c.toNat = false := by
    rw [Text.isLowSurrogate, Bool.and_eq_false_iff]
    exact .inl (decide_eq_false (by omega))
  have hunit : Text.ofCodeUnit c.toNat = c := by
    rw [Text.ofCodeUnit, hhigh, hlow, Bool.or_false, if_neg Bool.false_ne_true, Char.ofNat_toNat]
  cases out with
  | nil => rw [Text.pushCodeUnit, hunit]
  | cons d out =>
      rw [Text.pushCodeUnit, hlow, hunit]
      cases Text.loneSurrogate? d <;> simp

theorem escapesFrom_escapeChar (c : Char) {out body : List Char} {s : String}
    (h : EscapesFrom (c :: out) body s) : EscapesFrom out (escapeChar .unicode c ++ body) s := by
  unfold escapeChar
  split
  any_goals exact .simple rfl h
  rename_i hquote hslash _ _ _ _ _
  split
  · next hcontrol =>
      have hunit := codeUnit?_digits (n := c.toNat) (by omega)
      exact .unit hunit ((pushCodeUnit_of_control hcontrol out).symm ▸ h)
  · next hplain =>
      rw [if_neg (by simp)]
      exact .plain hquote hslash (Nat.not_lt.mp hplain) h

theorem escapesFrom_flatMap (cs out : List Char) :
    EscapesFrom out (cs.flatMap (escapeChar .unicode)) (String.ofList (out.reverse ++ cs)) := by
  induction cs generalizing out with
  | nil =>
      rw [List.append_nil]
      exact .done
  | cons c cs ih =>
      have hrest := ih (c :: out)
      rw [List.reverse_cons, List.append_assoc, List.singleton_append] at hrest
      exact escapesFrom_escapeChar c hrest

theorem readValue_quoteChars (s : String) (fuel depth : Nat) :
    readValue (fuel + 1) depth (quoteChars .unicode s.toList) = .ok (.str s, []) := by
  have hescapes := escapesFrom_flatMap s.toList []
  rw [List.reverse_nil, List.nil_append, String.ofList_toList] at hescapes
  have hread : readString (quoteChars .unicode s.toList) []
      (s.toList.flatMap (escapeChar .unicode) ++ ['"']) = .ok (s, []) :=
    readString_append hescapes
  rw [quoteChars, List.cons_append] at hread ⊢
  rw [readValue]
  simp only [hread]

/-- What quotes a string is a document of its own and is read as the string. -/
theorem decode_quote (s : String) : decode (quote .unicode s).toList = .ok (.str s) := by
  have hskip : skipSpace (quoteChars .unicode s.toList) = quoteChars .unicode s.toList := rfl
  have hdocument : readDocument (quoteChars .unicode s.toList) = .ok (.str s) := by
    rw [readDocument_eq (by simp [quoteChars]), hskip, readValue_quoteChars]
    rfl
  rw [quote, String.toList_ofList, decode, hdocument]
  rfl

end TypeDraft.Json
