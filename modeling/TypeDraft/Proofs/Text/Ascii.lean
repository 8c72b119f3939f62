import TypeDraft.Text.Blank
import TypeDraft.Text.Utf8

/-!
# Plain text

The letters and digits of ASCII are told by their codes. A text of printable ASCII characters and
line feeds stands in a file with one byte for each character, and is read from there as it is.
-/

namespace TypeDraft.Text

/-! ## Letters and digits -/

theorem isUpper_iff {c : Char} : c.isUpper = true ↔ 0x41 ≤ c.toNat ∧ c.toNat ≤ 0x5a := by
  delta Char.isUpper
  simp only [decide_eq_true_eq]
  exact Iff.rfl

theorem isLower_iff {c : Char} : c.isLower = true ↔ 0x61 ≤ c.toNat ∧ c.toNat ≤ 0x7a := by
  delta Char.isLower
  simp only [Bool.and_eq_true, decide_eq_true_eq]
  exact Iff.rfl

theorem isDigit_iff {c : Char} : c.isDigit = true ↔ 0x30 ≤ c.toNat ∧ c.toNat ≤ 0x39 := by
  delta Char.isDigit
  simp only [Bool.and_eq_true, decide_eq_true_eq]
  exact Iff.rfl

theorem isAlpha_iff {c : Char} : c.isAlpha = true ↔ c.isUpper = true ∨ c.isLower = true := by
  delta Char.isAlpha
  exact Bool.or_eq_true_iff

theorem isAlphanum_iff {c : Char} :
    c.isAlphanum = true ↔ (c.isUpper = true ∨ c.isLower = true) ∨ c.isDigit = true := by
  rw [Char.isAlphanum, Bool.or_eq_true, isAlpha_iff]

/-! ## Plain characters -/

/-- Whether a character is a printable one of ASCII, the blank being one. -/
def IsPrintable (c : Char) : Prop := 0x20 ≤ c.toNat ∧ c.toNat ≤ 0x7e

instance (c : Char) : Decidable (IsPrintable c) := inferInstanceAs (Decidable (_ ∧ _))

/-- Whether a character is a line feed or a printable one of ASCII. -/
def IsPlain (c : Char) : Prop := c = '\n' ∨ IsPrintable c

instance (c : Char) : Decidable (IsPlain c) := inferInstanceAs (Decidable (_ ∨ _))

theorem IsPrintable.isPlain {c : Char} (h : IsPrintable c) : IsPlain c := .inr h

theorem IsPrintable.ne {c d : Char} (h : IsPrintable c) (hd : ¬ IsPrintable d) : c ≠ d := by
  rintro rfl
  exact hd h

theorem isPrintable_of_isAlphanum {c : Char} (h : c.isAlphanum = true) : IsPrintable c := by
  rw [isAlphanum_iff, isUpper_iff, isLower_iff, isDigit_iff] at h
  constructor <;> omega

theorem IsPlain.le {c : Char} (h : IsPlain c) : c.toNat ≤ 0x7e := by
  rcases h with rfl | h
  · decide
  · exact h.2

theorem IsPlain.ne_return {c : Char} (h : IsPlain c) : c ≠ '\r' := by
  rintro rfl
  revert h
  decide

/-! ## Plain text in a file -/

theorem utf8Head_of_le {c : Char} (h : c.toNat ≤ 0x7e) (rest : List UInt8) :
    utf8Head (UInt8.ofNat c.toNat).toNat rest = .char c 1 := by
  have hbyte : (UInt8.ofNat c.toNat).toNat = c.toNat := by
    rw [UInt8.toNat_ofNat']
    omega
  have hlow : c.toNat < 0x80 := by omega
  rw [utf8Head, hbyte, if_pos hlow, Char.ofNat_toNat]

theorem decodeFrom_plain {cs : List Char} (h : ∀ c ∈ cs, IsPlain c) (out : List Char) (n : Nat) :
    decodeFrom out n 0 (cs.flatMap String.utf8EncodeChar) = .ok (out.reverse ++ cs) := by
  induction cs generalizing out n with
  | nil => simp [decodeFrom]
  | cons c cs ih =>
      obtain ⟨hc, hcs⟩ := List.forall_mem_cons.mp h
      have hbyte : String.utf8EncodeChar c = [UInt8.ofNat c.toNat] := by
        have hlow : c.val.toNat ≤ 0x7f := Nat.le_succ_of_le hc.le
        rw [String.utf8EncodeChar, if_pos hlow]
        rfl
      rw [List.flatMap_cons, hbyte, List.singleton_append, decodeFrom, utf8Head_of_le hc.le]
      simp [ih hcs]

/-- Plain text is read from the bytes that stand for it. -/
theorem decodeUtf8_of_plain {s : String} (h : ∀ c ∈ s.toList, IsPlain c) :
    decodeUtf8 s.toUTF8.data.toList = .ok s := by
  have hbytes : s.toUTF8.data.toList = s.toList.flatMap String.utf8EncodeChar := by
    rw [String.toUTF8_eq_toByteArray, ← String.utf8Encode_toList, List.utf8Encode,
      List.toList_data_toByteArray]
  rw [decodeUtf8, hbytes, decodeFrom_plain h]
  simp [Except.map]

theorem unifyFrom_of_ne {cs : List Char} (h : ∀ c ∈ cs, c ≠ '\r') (out : List Char) :
    unifyFrom out cs = out.reverse ++ cs := by
  induction cs generalizing out with
  | nil => simp [unifyFrom]
  | cons c cs ih =>
      obtain ⟨hc, hcs⟩ := List.forall_mem_cons.mp h
      rw [unifyFrom, ih hcs]
      · simp
      · exact fun cs' heq => absurd heq hc
      · exact hc

theorem unifyLineEnds_of_plain {s : String} (h : ∀ c ∈ s.toList, IsPlain c) :
    unifyLineEnds s = s := by
  rw [unifyLineEnds, unifyFrom_of_ne fun c hc => (h c hc).ne_return]
  simp

end TypeDraft.Text
