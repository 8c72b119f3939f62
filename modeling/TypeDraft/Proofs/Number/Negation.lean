import Mathlib.Data.Nat.Bitwise
import TypeDraft.Number.Double

/-!
# The sign of a floating-point number

A decimal number below zero is rounded as its magnitude is, and its sign set afterwards.
-/

namespace TypeDraft.Double

/-- A magnitude below that of all infinite numbers, with its sign. -/
theorem negate_ofPattern {n : Nat} (h : n < 0x7ff * 0x10000000000000) :
    (⟨UInt64.ofNat n ||| (zero false).bits⟩ : Double).negate =
      ⟨UInt64.ofNat n ||| (zero true).bits⟩ := by
  have hzero : UInt64.ofNat n ||| (zero false).bits = UInt64.ofNat n := by simp [zero]
  rw [hzero, negate, zero, if_pos rfl]
  congr 1
  apply UInt64.toNat_inj.mp
  have hsmall : n < 2 ^ 63 := by omega
  simp only [UInt64.toNat_xor, UInt64.toNat_or, UInt64.toNat_ofNat', UInt64.reduceToNat]
  rw [Nat.mod_eq_of_lt (by omega)]
  -- Only the highest bit is set, and no magnitude has it.
  refine Nat.eq_of_testBit_eq fun i => ?_
  rw [show (9223372036854775808 : Nat) = 2 ^ 63 from rfl, Nat.testBit_xor, Nat.testBit_or,
    Nat.testBit_two_pow]
  by_cases hi : 63 = i
  · subst hi
    simp [Nat.testBit_lt_two_pow hsmall]
  · simp [hi]

theorem not_isNaN_ofPattern {n : Nat} (h : n < 0x7ff * 0x10000000000000) :
    (⟨UInt64.ofNat n ||| (zero false).bits⟩ : Double).isNaN = false := by
  have hzero : UInt64.ofNat n ||| (zero false).bits = UInt64.ofNat n := by simp [zero]
  have hfield : (⟨UInt64.ofNat n⟩ : Double).exponentField ≤ n / 2 ^ 52 := by
    rw [exponentField, UInt64.toNat_and]
    refine Nat.and_le_left.trans ?_
    simp only [UInt64.toNat_shiftRight, UInt64.toNat_ofNat', UInt64.reduceToNat]
    rw [Nat.mod_eq_of_lt (by omega), Nat.shiftRight_eq_div_pow]
  have hlt : n / 2 ^ 52 < 0x7ff := by omega
  rw [hzero, isNaN, Bool.and_eq_false_iff, beq_eq_false_iff_ne]
  exact .inl (Nat.ne_of_lt (hfield.trans_lt hlt))

/-- A magnitude with its sign, or the infinite number of that sign if it is too large. -/
private def ofPattern (negative : Bool) (n : Nat) : Double :=
  if n ≥ 0x7ff * 0x10000000000000 then infinity negative
  else ⟨UInt64.ofNat n ||| (zero negative).bits⟩

private theorem ofPattern_true (n : Nat) :
    ofPattern true n = (ofPattern false n).negate ∧ (ofPattern false n).isNaN = false := by
  unfold ofPattern
  by_cases hlarge : n ≥ 0x7ff * 0x10000000000000
  · rw [if_pos hlarge, if_pos hlarge]
    decide
  · rw [if_neg hlarge, if_neg hlarge]
    have hsmall := Nat.lt_of_not_le hlarge
    exact ⟨(negate_ofPattern hsmall).symm, not_isNaN_ofPattern hsmall⟩

theorem ofRatio_true (n d : Nat) : ofRatio true n d = (ofRatio false n d).negate ∧
    (ofRatio false n d).isNaN = false := by
  unfold ofRatio
  by_cases hn : n = 0
  · rw [if_pos hn, if_pos hn]
    decide
  · rw [if_neg hn, if_neg hn]
    exact ofPattern_true _

/-- The number below zero is the negated one above it, which is a number. -/
theorem ofDecimal_true (digits : Nat) (exponent : Int) :
    ofDecimal true digits exponent = (ofDecimal false digits exponent).negate ∧
      (ofDecimal false digits exponent).isNaN = false := by
  unfold ofDecimal
  simp only
  split_ifs
  · decide
  · decide
  · decide
  · exact ofRatio_true _ _
  · exact ofRatio_true _ _

end TypeDraft.Double
