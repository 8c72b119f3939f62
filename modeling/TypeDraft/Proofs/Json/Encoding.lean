import TypeDraft.Json.Encode
import TypeDraft.Proofs.Name.Word

/-!
# Written JSON stands on one line

Whatever the strings hold, no line feed is written: those in strings are escaped, and the text of a
number has none.
-/

namespace TypeDraft

/-! ## The text of a number -/

namespace Double

/-- Digits, signs, a point, an exponent mark, and the letters of the names of what is not finite. -/
def isNumberChar (c : Char) : Bool := c.isDigit || "+-.aefin".toList.contains c

/-- A text has such characters only. -/
def IsNumberText (s : String) : Prop := s.toList.all isNumberChar = true

instance (s : String) : Decidable (IsNumberText s) := inferInstanceAs (Decidable (_ = true))

theorem IsNumberText.append {s t : String} (hs : IsNumberText s) (ht : IsNumberText t) :
    IsNumberText (s ++ t) := by
  rw [IsNumberText, String.toList_append, List.all_append, Bool.and_eq_true]
  exact ⟨hs, ht⟩

theorem isNumberText_ofList {cs : List Char} :
    IsNumberText (String.ofList cs) ↔ ∀ c ∈ cs, isNumberChar c = true := by
  rw [IsNumberText, String.toList_ofList, List.all_eq_true]

theorem isNumberText_toString (n : Nat) : IsNumberText (toString n) :=
  List.all_eq_true.mpr fun c hc => by
    rw [isNumberChar, List.all_eq_true.mp (Name.all_isDigit_toString n) c hc, Bool.true_or]

theorem isNumberText_intText (n : Int) : IsNumberText (toString n) := by
  cases n with
  | ofNat m => exact isNumberText_toString m
  | negSucc m => exact IsNumberText.append (s := "-") (by decide) (isNumberText_toString (m + 1))

theorem isNumberChar_of_mem_stripZeros {d : Nat} {e : Int} {c : Char}
    (h : c ∈ (stripZeros (Nat.toDigits 10 d) e).1) : isNumberChar c = true := by
  have hmem : c ∈ Nat.toDigits 10 d :=
    List.mem_reverse.mp ((List.dropWhile_suffix _).subset (List.mem_reverse.mp h))
  rw [isNumberChar, Nat.isDigit_of_mem_toDigits (by decide) (by decide) hmem, Bool.true_or]

theorem isNumberText_text (x : Double) : IsNumberText x.text := by
  have hdigits : ∀ c ∈ (stripZeros (Nat.toDigits 10 x.shortest.1) x.shortest.2).1,
      isNumberChar c = true := fun c => isNumberChar_of_mem_stripZeros
  have hzeros : ∀ (n : Nat), ∀ c ∈ List.replicate n '0', isNumberChar c = true := fun n c hc => by
    rw [List.eq_of_mem_replicate hc]
    decide
  have hsign : IsNumberText (if x.isNegative then "-" else "") := by
    split_ifs <;> decide
  unfold text
  simp only
  generalize stripZeros (Nat.toDigits 10 x.shortest.1) x.shortest.2 = stripped at hdigits ⊢
  obtain ⟨digits, e⟩ := stripped
  simp only at hdigits
  generalize (if x.isNegative = true then "-" else "") = sign at hsign ⊢
  split
  · decide
  split
  · exact hsign.append (by decide)
  split
  · exact hsign.append (by decide)
  refine hsign.append ?_
  split
  · split
    · exact (show IsNumberText "0." by decide).append
        (isNumberText_ofList.mpr (List.forall_mem_append.mpr ⟨hzeros _, hdigits⟩))
    split
    · exact (isNumberText_ofList.mpr (List.forall_mem_append.mpr ⟨hdigits, hzeros _⟩)).append
        (show IsNumberText ".0" by decide)
    · refine IsNumberText.append (IsNumberText.append (isNumberText_ofList.mpr ?_)
        (show IsNumberText "." by decide)) (isNumberText_ofList.mpr ?_)
      · exact fun c hc => hdigits c (List.mem_of_mem_take hc)
      · exact fun c hc => hdigits c (List.mem_of_mem_drop hc)
  · refine ((IsNumberText.append ?_ ?_).append ?_).append (isNumberText_toString _)
    · match digits with
      | [] => exact (by decide : IsNumberText "")
      | [c] => exact isNumberText_ofList.mpr hdigits
      | c :: d :: ds =>
          obtain ⟨hc, hds⟩ := List.forall_mem_cons.mp hdigits
          exact isNumberText_ofList.mpr
            (List.forall_mem_cons.mpr ⟨hc, List.forall_mem_cons.mpr ⟨by decide, hds⟩⟩)
    · split <;> decide
    · split <;> decide
end Double

/-! ## Values -/

namespace Json

variable {charset : Charset}

theorem newline_not_mem_hex4 (n : Nat) : '\n' ∉ hex4 n := by
  have hdigits : ∀ k < 16, '\n' ≠ Nat.digitChar k := by decide
  have hdigit : ∀ m, '\n' ≠ Nat.digitChar (m % 16) := fun m =>
    hdigits _ (Nat.mod_lt m (by decide))
  simp [hex4, hdigit]

theorem newline_not_mem_escapeUnit (n : Nat) : '\n' ∉ escapeUnit n := by
  simp [escapeUnit, newline_not_mem_hex4]

theorem newline_not_mem_escapeChar (c : Char) : '\n' ∉ escapeChar charset c := by
  unfold escapeChar
  split
  any_goals decide
  next hnewline _ _ _ _ =>
    split
    · exact newline_not_mem_escapeUnit _
    split
    · simp [newline_not_mem_escapeUnit]
    · simpa using Ne.symm hnewline

theorem newline_not_mem_quoteChars (cs : List Char) : '\n' ∉ quoteChars charset cs := by
  simp [quoteChars, newline_not_mem_escapeChar]

theorem newline_not_mem_floatText (x : Double) : '\n' ∉ (floatText x).toList := by
  unfold floatText
  split
  · decide
  split
  · split <;> decide
  · exact fun h => absurd (List.all_eq_true.mp x.isNumberText_text _ h) (by decide)

theorem newline_not_mem_intText (n : Int) : '\n' ∉ (toString n).toList := fun h =>
  absurd (List.all_eq_true.mp (Double.isNumberText_intText n) _ h) (by decide)

theorem newline_not_mem_atomChars (v : Value) : '\n' ∉ atomChars charset v := by
  cases v with
  | null => exact (by decide : '\n' ∉ "null".toList)
  | bool b =>
      cases b with
      | false => exact (by decide : '\n' ∉ "false".toList)
      | true => exact (by decide : '\n' ∉ "true".toList)
  | int n => exact newline_not_mem_intText n
  | float x => exact newline_not_mem_floatText x
  | _ => exact newline_not_mem_quoteChars _

mutual

theorem newline_not_mem_encode : (v : Value) → '\n' ∉ encode charset v
  | .arr items => by
    simp [encode, newline_not_mem_encodeItems items]
  | .obj fields => by
    simp [encode, newline_not_mem_encodeFields fields]
  | .null | .bool _ | .int _ | .float _ | .str _ | .map _ | .tuple _ | .set _ | .bytes _
  | .moment _ | .decimal _ => by
    unfold encode
    exact newline_not_mem_atomChars _

theorem newline_not_mem_encodeItems : (vs : List Value) → '\n' ∉ encodeItems charset vs
  | [] => by simp [encodeItems]
  | [v] => newline_not_mem_encode v
  | v :: w :: vs => by
    simp [encodeItems, newline_not_mem_encode v, newline_not_mem_encodeItems (w :: vs)]

theorem newline_not_mem_encodeFields : (fs : List (String × Value)) →
    '\n' ∉ encodeFields charset fs
  | [] => by simp [encodeFields]
  | [(k, v)] => by
    simp [encodeFields, newline_not_mem_quoteChars, newline_not_mem_encode v]
  | (k, v) :: f :: fs => by
    simp [encodeFields, newline_not_mem_quoteChars, newline_not_mem_encode v,
      newline_not_mem_encodeFields (f :: fs)]

end

/-! ## Objects -/

theorem head?_encode_obj (fields : List (String × Value)) :
    (encode charset (.obj fields)).head? = some '\x7b' := rfl

theorem getLast?_encode_obj (fields : List (String × Value)) :
    (encode charset (.obj fields)).getLast? = some '\x7d' := by
  rw [encode, List.getLast?_concat]

end Json

end TypeDraft
