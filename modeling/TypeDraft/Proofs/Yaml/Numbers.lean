import TypeDraft.Proofs.Json.Reading
import TypeDraft.Proofs.Number.Negation
import TypeDraft.Proofs.Text.Ascii
import TypeDraft.Proofs.Yaml.Words
import TypeDraft.Yaml.Load

/-!
# Numbers and names of JSON in YAML

A number of JSON is a number of YAML too if it is an integer, or if it has a point and its exponent
a sign; all others are strings there, and so are the names of the numbers that are not finite.
-/

namespace TypeDraft.Yaml

open Json (IsAtom IsDigits IsExponent IsFraction IsNumber IsWhole isWordPart ne_of_isDigit
  signText splitSign_signText)
open Numeral (digitsValue splitSign)

/-- Whether a number is an integer, or has a point and no exponent without a sign. -/
def keepsNumber (w : List Char) : Bool :=
  w.all (fun c => c.isDigit || c == '-') ||
    w.contains '.' &&
      match w.dropWhile fun c => c != 'e' && c != 'E' with
      | _ :: sign :: _ => sign == '+' || sign == '-'
      | _ => true

/-- Whether a number or a name of JSON means the same in YAML. -/
def keepsWord (w : List Char) : Bool :=
  w == ['n', 'u', 'l', 'l'] || w == ['t', 'r', 'u', 'e'] || w == ['f', 'a', 'l', 's', 'e'] ||
    keepsNumber w

/-! ## Numbers that are kept -/

/-- The parts of a number with a point and an exponent that is missing or has a sign. -/
structure IsPointed (whole fraction exponentText : List Char) (exponent : Option Int) : Prop where
  whole : IsWhole whole
  fraction : IsDigits fraction
  exponent : IsExponent exponentText exponent
  signed : isExponent exponentText = true

section

variable {ds : List Char} (hds : ∀ d ∈ ds, d.isDigit = true)

include hds

theorem not_mem_of_isDigit {c : Char} (hc : c.isDigit = false) : c ∉ ds :=
  fun hmem => Bool.false_ne_true (hc.symm.trans (hds c hmem))

end

theorem isDigit_of_isWhole {ds : List Char} (h : IsWhole ds) : ∀ d ∈ ds, d.isDigit = true := by
  rcases h with rfl | ⟨hds, -⟩
  · decide
  · exact hds.2

theorem not_mem_signText {c : Char} (hc : c ≠ '-') (negative : Bool) : c ∉ signText negative := by
  cases negative <;> simp [signText, hc]

/-- What follows a point in a number that is kept. -/
theorem isExponent_of_keepsNumber {negative : Bool} {ds f et : List Char} {e : Option Int}
    (hds : ∀ d ∈ ds, d.isDigit = true) (hf : ∀ d ∈ f, d.isDigit = true) (het : IsExponent et e)
    (hkeeps : keepsNumber (signText negative ++ (ds ++ '.' :: (f ++ et))) = true) :
    isExponent et = true := by
  have hbefore : ∀ c ∈ signText negative ++ (ds ++ '.' :: f),
      (c != 'e' && c != 'E') = true := by
    have he : ∀ c ∈ signText negative ++ (ds ++ '.' :: f), c ≠ 'e' ∧ c ≠ 'E' := by
      refine fun c hc => ⟨?_, ?_⟩
      all_goals
        rintro rfl
        simp [not_mem_signText, not_mem_of_isDigit hds, not_mem_of_isDigit hf] at hc
    simpa using he
  have hbehind : ∀ c ∈ et.head?, (c != 'e' && c != 'E') = false := by
    cases het with
    | none => exact nofun
    | plain he _ | plus he _ | minus he _ => rcases he with rfl | rfl <;> simp
  have hdrop := Json.dropWhile_append_of_head hbefore hbehind
  simp only [List.append_assoc, List.cons_append] at hdrop
  rw [keepsNumber, hdrop, Bool.or_eq_true, Bool.and_eq_true] at hkeeps
  rcases hkeeps with hall | ⟨-, hsign⟩
  · rw [List.all_eq_true] at hall
    exact absurd (hall '.' (by simp)) (by decide)
  · cases het with
    | none => rfl
    | @plain e ds he hds' =>
        obtain ⟨d, ds, rfl⟩ := List.exists_cons_of_ne_nil hds'.1
        have hd := hds'.2 d List.mem_cons_self
        simp [ne_of_isDigit hd (d := '+') (by decide), ne_of_isDigit hd (d := '-') (by decide)]
          at hsign
    | plus he hds' | minus he hds' =>
        have hne := hds'.1
        rcases he with rfl | rfl <;> simpa [isExponent, hne] using hds'.2

/-- A number that is kept is an integer, or has a point and no exponent without a sign. -/
theorem cases_of_keepsNumber {w : List Char} {v : Value} (h : IsNumber w v)
    (hkeeps : keepsNumber w = true) :
    (∃ negative ds, IsWhole ds ∧ ds.length ≤ Numeral.maxDigits ∧ w = signText negative ++ ds ∧
      v = .int (if negative then -(digitsValue ds : Int) else digitsValue ds)) ∨
    ∃ negative ds f et e, IsPointed ds f et e ∧ w = signText negative ++ (ds ++ '.' :: (f ++ et)) ∧
      v = .float (Double.ofDecimal negative (digitsValue (ds ++ f)) (e.getD 0 - f.length)) := by
  cases h with
  | @mk negative ds ft f et e hwhole hfraction hexponent hshort =>
      cases hfraction with
      | none =>
          cases hexponent with
          | none => exact .inl ⟨negative, ds, hwhole, hshort rfl rfl, by simp, rfl⟩
          | plain he hds | plus he hds | minus he hds =>
              exfalso
              rw [keepsNumber, Bool.or_eq_true, Bool.and_eq_true, List.all_eq_true] at hkeeps
              rcases hkeeps with hall | ⟨hpoint, -⟩
              · rcases he with rfl | rfl
                · exact absurd (hall 'e' (by simp)) (by decide)
                · exact absurd (hall 'E' (by simp)) (by decide)
              · rcases he with rfl | rfl
                all_goals
                  simp [not_mem_signText, not_mem_of_isDigit (isDigit_of_isWhole hwhole),
                    not_mem_of_isDigit hds.2] at hpoint
      | point hf =>
          refine .inr ⟨negative, ds, f, et, e, ⟨hwhole, hf, hexponent,
            isExponent_of_keepsNumber (isDigit_of_isWhole hwhole) hf.2 hexponent hkeeps⟩, rfl, ?_⟩
          obtain ⟨d, f, rfl⟩ := List.exists_cons_of_ne_nil hf.1
          rfl

/-! ## Letters and digits -/

section

variable {w : List Char} {c d : Char}

theorem toLower_of_isDigit (h : c.isDigit = true) : c.toLower = c := by
  rw [Text.isDigit_iff] at h
  refine dif_neg fun hupper => ?_
  have hle : 0x41 ≤ c.toNat := hupper.1
  omega

theorem toNat_of_isWordPart (h : isWordPart c = true) : 0x20 < c.toNat ∧ c.toNat < 0x7f := by
  simp only [isWordPart, Bool.or_eq_true, beq_iff_eq] at h
  rcases h with ((h | rfl) | rfl) | rfl
  · rw [Text.isAlphanum_iff, Text.isUpper_iff, Text.isLower_iff, Text.isDigit_iff] at h
    omega
  all_goals decide

theorem not_isBlank_of_isWordPart (h : isWordPart c = true) : Numeral.isBlank c = false := by
  by_contra hblank
  rw [Bool.not_eq_false, Numeral.isBlank, Bool.or_eq_true, Bool.and_eq_true, beq_iff_eq,
    decide_eq_true_eq, decide_eq_true_eq] at hblank
  rcases hblank with rfl | ⟨-, hhigh⟩
  · exact absurd h (by decide)
  · have hle : c.toNat ≤ 0xd := hhigh
    have hlt := (toNat_of_isWordPart h).1
    omega

theorem map_toAscii (hw : ∀ c ∈ w, isWordPart c = true) : w.map Numeral.toAscii = w := by
  refine (List.map_congr_left fun c hc => ?_).trans (List.map_id w)
  rw [Numeral.toAscii, if_pos (toNat_of_isWordPart (hw c hc)).2]
  rfl

theorem dropWhile_isBlank (hw : ∀ c ∈ w, isWordPart c = true) :
    w.dropWhile Numeral.isBlank = w := by
  cases w with
  | nil => rfl
  | cons c w =>
      exact List.dropWhile_cons_of_neg (by simp [not_isBlank_of_isWordPart (hw c List.mem_cons_self)])

theorem toLower_ofList (w : List Char) :
    (String.ofList w).toLower = String.ofList (w.map Char.toLower) :=
  String.toList_inj.mp <| by
    show ((String.ofList w).map Char.toLower).toList = _
    simp

theorem lower_ofList (hw : ∀ c ∈ w, isWordPart c = true) :
    Text.lower (String.ofList w) = String.ofList (w.map Char.toLower) := by
  have hfrom : ∀ before out cs, (∀ c ∈ cs, isWordPart c = true) →
      Text.lowerFrom before out cs = out.reverse ++ cs.map Char.toLower := by
    intro before out cs hcs
    induction cs generalizing before out with
    | nil => simp [Text.lowerFrom]
    | cons c cs ih =>
        rw [List.forall_mem_cons] at hcs
        have hsigma : c ≠ 'Σ' := by
          rintro rfl
          exact absurd hcs.1 (by decide)
        have hlt : c.toNat < 128 := (toNat_of_isWordPart hcs.1).2.trans (by decide)
        simp [Text.lowerFrom, hsigma, Text.lowerChar, hlt, ih _ _ hcs.2]
  rw [Text.lower, String.toList_ofList, hfrom [] [] w hw, List.reverse_nil, List.nil_append]

/-- A text with a digit is none of those without. -/
theorem ne_of_digit (hmem : d ∈ w) (hd : d.isDigit = true) {t : String}
    (ht : t.toList.all (fun c => !c.isDigit) = true) : String.ofList w ≠ t := by
  rintro rfl
  rw [String.toList_ofList, List.all_eq_true] at ht
  simpa [hd] using ht d hmem

theorem mem_map_toLower (hmem : d ∈ w) (hd : d.isDigit = true) : d ∈ w.map Char.toLower :=
  List.mem_map.mpr ⟨d, hmem, toLower_of_isDigit hd⟩

end

/-! ## Types of numbers -/

section

variable {w : List Char} {d : Char} (hmem : d ∈ w) (hd : d.isDigit = true)

include hmem hd

theorem isBoolean_of_digit : isBoolean (String.ofList w) = false := by
  have hne : ∀ t : String, t.toList.all (fun c => !c.isDigit) = true →
      String.ofList (w.map Char.toLower) ≠ t :=
    fun t ht => ne_of_digit (mem_map_toLower hmem hd) hd ht
  rw [isBoolean, toLower_ofList, boolean?, if_neg, if_neg]
  · rfl
  all_goals
    rw [List.contains_iff_mem]
    simp only [List.mem_cons, List.not_mem_nil, or_false, not_or]
    exact ⟨hne _ (by decide), hne _ (by decide), hne _ (by decide)⟩

theorem plainTag_of_digit (hw : ∀ c ∈ w, isWordPart c = true) :
    (isFloat w = true → plainTag (String.ofList w) = .float) ∧
      (isFloat w = false → isInteger w = true → plainTag (String.ofList w) = .int) := by
  have hbreak : Text.withoutFinalBreak w = w := by
    rw [Text.withoutFinalBreak, if_neg]
    intro hlast
    exact absurd (hw '\n' (List.mem_of_getLast? hlast)) (by decide)
  have hne : ∀ t : String, t.toList.all (fun c => !c.isDigit) = true →
      (String.ofList w == t) = false := fun t ht => beq_eq_false_iff_ne.mpr (ne_of_digit hmem hd ht)
  simp only [plainTag, String.toList_ofList, hbreak, hne "" (by decide), hne "~" (by decide),
    hne "null" (by decide), hne "Null" (by decide), hne "NULL" (by decide),
    isBoolean_of_digit hmem hd, Bool.or_false, Bool.false_eq_true, if_false]
  exact ⟨fun h => if_pos h, fun h h' => by rw [h, if_neg Bool.false_ne_true, if_pos h']⟩

end

/-! ## Integers -/

section

variable {ds : List Char} {negative : Bool}

theorem hexValue?_of_isDigit {c : Char} (h : c.isDigit = true) :
    Numeral.hexValue? c = some (c.toNat - '0'.toNat) := by
  simp only [Char.isDigit, Bool.and_eq_true, decide_eq_true_eq, ge_iff_le] at h
  rw [Numeral.hexValue?, if_pos ⟨h.1, h.2⟩]

theorem valueOf_ten (hds : ∀ d ∈ ds, d.isDigit = true) :
    Numeral.valueOf 10 ds = digitsValue ds := by
  have hfold : ∀ n, ds.foldl (fun n d => n * 10 + (Numeral.hexValue? d).getD 0) n =
      ds.foldl (fun n d => n * 10 + (d.toNat - '0'.toNat)) n := by
    induction ds with
    | nil => exact fun n => rfl
    | cons d ds ih =>
        rw [List.forall_mem_cons] at hds
        intro n
        rw [List.foldl_cons, List.foldl_cons, hexValue?_of_isDigit hds.1, Option.getD_some,
          ih hds.2]
  exact hfold 0

theorem isSome_digitOf?_ten {c : Char} (h : c.isDigit = true) :
    (Numeral.digitOf? 10 c).isSome = true := by
  have hle : c.toNat ≤ 57 := by
    simp only [Char.isDigit, Bool.and_eq_true, decide_eq_true_eq] at h
    exact h.2
  have hlt : c.toNat - 48 < 10 := by omega
  simp [Numeral.digitOf?, hexValue?_of_isDigit h, hlt]

theorem isWordPart_signText_append (negative : Bool) (hds : ∀ d ∈ ds, isWordPart d = true) :
    ∀ c ∈ signText negative ++ ds, isWordPart c = true :=
  List.forall_mem_append.mpr ⟨by cases negative <;> decide, hds⟩

theorem integer_ten (hwhole : IsWhole ds) (hshort : ds.length ≤ Numeral.maxDigits) :
    Numeral.integer 10 ds = .ok (digitsValue ds) := by
  have hds := isDigit_of_isWhole hwhole
  have hparts := hwhole.isWordPart
  obtain ⟨d, ds', heq, hd⟩ := hwhole.exists_cons
  have hsign : splitSign ds = (false, ds) := by
    rw [heq]
    exact splitSign_signText hd false ds'
  have hbase : Numeral.dropBase 10 ds = ds := by
    rcases hwhole with rfl | ⟨-, hzero⟩
    · rfl
    · unfold Numeral.dropBase
      split
      · exact absurd rfl hzero
      · rfl
  have htake : ds.takeWhile (fun c => (Numeral.digitOf? 10 c).isSome) = ds :=
    List.takeWhile_eq_self_iff.mpr fun d hd => isSome_digitOf?_ten (hds d hd)
  have hdrop : ds.dropWhile (fun c => (Numeral.digitOf? 10 c).isSome) = [] :=
    List.dropWhile_eq_nil_iff.mpr fun d hd => isSome_digitOf?_ten (hds d hd)
  have hne : ds.isEmpty = false := by simp [heq]
  simp only [Numeral.integer, map_toAscii hparts, dropWhile_isBlank hparts, hsign, hbase, htake,
    hdrop, hne, valueOf_ten hds]
  simp [Nat.not_lt.mpr hshort]

theorem filter_score {w : List Char} (hw : ∀ c ∈ w, isWordPart c = true) :
    w.filter (· ≠ '_') = w :=
  List.filter_eq_self.mpr fun c hc => by
    simpa using ne_of_isWordPart (hw c hc) (d := '_') (by decide)

theorem signed_signText {d : Char} (hd : d.isDigit = true) (cs : List Char) :
    signed (signText negative ++ d :: cs) = .ok (negative, d :: cs) := by
  rw [signed, if_neg (by simp), splitSign_signText hd]

theorem integerValue_of_isWhole (hwhole : IsWhole ds) (hshort : ds.length ≤ Numeral.maxDigits) :
    integerValue (String.ofList (signText negative ++ ds)) =
      .ok (if negative then -(digitsValue ds : Int) else digitsValue ds) := by
  have hread : integerOf 10 ds = .ok (digitsValue ds) := by
    rw [integerOf, integer_ten hwhole hshort]
  have hcolon : ':' ∉ ds := not_mem_of_isDigit (isDigit_of_isWhole hwhole) (by decide)
  have hparts := isWordPart_signText_append negative hwhole.isWordPart
  obtain ⟨d, ds', heq, hd⟩ := hwhole.exists_cons
  rw [integerValue, String.toList_ofList, filter_score hparts, heq, signed_signText hd, ← heq]
  simp only [bind, Except.bind]
  rcases hwhole with rfl | ⟨-, hzero⟩
  · rfl
  · split
    all_goals first | exact absurd rfl hzero | skip
    · simp at heq
    · simp [hcolon, hread, pure, Except.pure]

/-- A text with a digit is no name of a number that is not finite. -/
theorem decide_name_of_digit {cs : List Char} {d : Char} (hmem : d ∈ cs) (hd : d.isDigit = true) :
    ∀ t ∈ [".inf", ".Inf", ".INF", ".nan", ".NaN", ".NAN"], decide (cs = t.toList) = false := by
  intro t ht
  have hplain : t.toList.all (fun c => !c.isDigit) = true := by
    revert t
    decide
  exact decide_eq_false fun heq => ne_of_digit hmem hd hplain (heq ▸ String.ofList_toList)

theorem isFloat_of_isWhole (hwhole : IsWhole ds) : isFloat (signText negative ++ ds) = false := by
  have hdrop : ds.dropWhile (· ≠ '.') = [] := List.dropWhile_eq_nil_iff.mpr fun d hd => by
    simpa using ne_of_isDigit (isDigit_of_isWhole hwhole d hd) (d := '.') (by decide)
  obtain ⟨d, ds', heq, hd⟩ := hwhole.exists_cons
  have hsign : splitSign (signText negative ++ ds) = (negative, ds) := by
    rw [heq, splitSign_signText hd]
  have hmem : d ∈ ds := by simp [heq]
  have hname := decide_name_of_digit hmem hd
  have hname' := decide_name_of_digit (List.mem_append_right (signText negative) hmem) hd
  simp only [List.forall_mem_cons] at hname hname'
  simp only [isFloat, hsign, hdrop, hname, hname', Bool.or_self, Bool.false_eq_true, if_false]

theorem isInteger_of_isWhole (hwhole : IsWhole ds) :
    isInteger (signText negative ++ ds) = true := by
  have hds := isDigit_of_isWhole hwhole
  obtain ⟨d, ds', heq, hd⟩ := hwhole.exists_cons
  have hsign : splitSign (signText negative ++ ds) = (negative, ds) := by
    rw [heq, splitSign_signText hd]
  rw [isInteger]
  simp only [hsign]
  rcases hwhole with rfl | ⟨-, hzero⟩
  · rfl
  · split
    all_goals first | exact absurd rfl hzero | skip
    · next c r _ _ _ _ =>
        rw [List.forall_mem_cons] at hds
        have hall : r.all isDigitOrScore = true :=
          List.all_eq_true.mpr fun c hc => by simp [isDigitOrScore, hds.2 c hc]
        rw [hds.1, hall]
        rfl
    · simp at heq

end

/-! ## Numbers with a point -/

section

variable {ds f et : List Char} {e : Option Int} {negative : Bool}

theorem isWordPart_of_isPointed (h : IsPointed ds f et e) :
    ∀ c ∈ ds ++ '.' :: (f ++ et), isWordPart c = true := by
  simp only [List.forall_mem_append, List.forall_mem_cons]
  exact ⟨h.whole.isWordPart, by decide, h.fraction.isWordPart, h.exponent.isWordPart⟩

/-- The small letter that begins an exponent does as well as the capital one. -/
theorem IsPointed.lower (h : IsPointed ds f et e) :
    (ds ++ '.' :: (f ++ et)).map Char.toLower = ds ++ '.' :: (f ++ et.map Char.toLower) ∧
      IsPointed ds f (et.map Char.toLower) e := by
  have hdigits : ∀ {cs : List Char}, (∀ d ∈ cs, d.isDigit = true) → cs.map Char.toLower = cs :=
    fun hcs => (List.map_congr_left fun c hc => toLower_of_isDigit (hcs c hc)).trans
      (List.map_id _)
  have hpoint : Char.toLower '.' = '.' := by decide
  refine ⟨by simp [hdigits (isDigit_of_isWhole h.whole), hdigits h.fraction.2, hpoint], h.whole,
    h.fraction, ?_, ?_⟩
  · cases h.exponent with
    | none => exact .none
    | plain he hds =>
        rw [List.map_cons, hdigits hds.2]
        exact .plain (by rcases he with rfl | rfl <;> decide) hds
    | plus he hds =>
        rw [List.map_cons, List.map_cons, hdigits hds.2]
        exact .plus (by rcases he with rfl | rfl <;> decide) hds
    | minus he hds =>
        rw [List.map_cons, List.map_cons, hdigits hds.2]
        exact .minus (by rcases he with rfl | rfl <;> decide) hds
  · have hsigned := h.signed
    cases h.exponent with
    | none => rfl
    | @plain e cs he hds =>
        obtain ⟨d, cs, rfl⟩ := List.exists_cons_of_ne_nil hds.1
        have hd := hds.2 d List.mem_cons_self
        rcases he with rfl | rfl <;>
          simp [isExponent, ne_of_isDigit hd (d := '+') (by decide),
            ne_of_isDigit hd (d := '-') (by decide)] at hsigned
    | plus he hds | minus he hds =>
        have hne := hds.1
        rw [List.map_cons, List.map_cons, hdigits hds.2]
        rcases he with rfl | rfl <;> simpa [isExponent, hne] using hds.2

theorem isFloat_of_isPointed (h : IsPointed ds f et e) :
    isFloat (signText negative ++ (ds ++ '.' :: (f ++ et))) = true := by
  have hds := isDigit_of_isWhole h.whole
  have hbefore : ∀ d ∈ ds, decide (d ≠ '.') = true := fun d hd => by
    simpa using ne_of_isDigit (hds d hd) (d := '.') (by decide)
  have hhead : ∀ d ∈ ('.' :: (f ++ et)).head?, decide (d ≠ '.') = false := by simp
  have htake := Json.takeWhile_append_of_head hbefore hhead
  have hdrop := Json.dropWhile_append_of_head hbefore hhead
  have hbehind : (f ++ et).dropWhile isDigitOrScore = et := by
    refine Json.dropWhile_append_of_head (fun d hd => ?_) fun c hc => ?_
    · simp [isDigitOrScore, h.fraction.2 d hd]
    · cases h.exponent with
      | none => cases hc
      | plain he _ | plus he _ | minus he _ =>
          obtain rfl := Option.some.inj hc
          rcases he with rfl | rfl <;> decide
  have hall : ds.all isDigitOrScore = true :=
    List.all_eq_true.mpr fun d hd => by simp [isDigitOrScore, hds d hd]
  obtain ⟨d, ds', heq, hd⟩ := h.whole.exists_cons
  have hsign : splitSign (signText negative ++ (ds ++ '.' :: (f ++ et))) =
      (negative, ds ++ '.' :: (f ++ et)) := by
    rw [heq, List.cons_append, splitSign_signText hd]
  have hmem : d ∈ ds ++ '.' :: (f ++ et) := by simp [heq]
  have hname := decide_name_of_digit hmem hd
  have hname' := decide_name_of_digit (List.mem_append_right (signText negative) hmem) hd
  simp only [List.forall_mem_cons] at hname hname'
  simp only [isFloat, hsign, htake, hdrop, hbehind, hall, hname, hname', Bool.or_self,
    Bool.false_eq_true, if_false, if_true]
  simp [heq, hd, h.signed]

theorem double?_of_isPointed (h : IsPointed ds f et e) :
    Numeral.double? (ds ++ '.' :: (f ++ et)) =
      some (Double.ofDecimal false (digitsValue (ds ++ f)) (e.getD 0 - f.length)) := by
  have hparts := isWordPart_of_isPointed h
  have hds := isDigit_of_isWhole h.whole
  have hend : Json.EndsWord [] := nofun
  have hstop : ∀ c ∈ et.head?, c.isDigit = false := by
    intro c hc
    refine (h.exponent.head?_append hend c ?_).2
    rwa [List.append_nil]
  have hpoint : ∀ d ∈ ('.' :: (f ++ et)).head?, d.isDigit = false := by simp
  have htake := Json.takeWhile_append_of_head hds hpoint
  have hdrop := Json.dropWhile_append_of_head hds hpoint
  obtain ⟨htakeFraction, hdropFraction⟩ := h.fraction.split hstop
  have hsplit : Numeral.splitExponent et = (e, []) := by
    have happend := Json.splitExponent_append h.exponent hend
    rwa [List.append_nil] at happend
  obtain ⟨d, ds', heq, hd⟩ := h.whole.exists_cons
  have hmem : d ∈ ds ++ '.' :: (f ++ et) := by simp [heq]
  have hsign : splitSign (ds ++ '.' :: (f ++ et)) = (false, ds ++ '.' :: (f ++ et)) := by
    rw [heq]
    exact splitSign_signText hd false _
  have hreverse : ((ds ++ '.' :: (f ++ et)).reverse.dropWhile Numeral.isBlank).reverse =
      ds ++ '.' :: (f ++ et) := by
    rw [dropWhile_isBlank fun c hc => hparts c (List.mem_reverse.mp hc), List.reverse_reverse]
  have hne : ∀ t : String, t.toList.all (fun c => !c.isDigit) = true →
      (String.ofList ((ds ++ '.' :: (f ++ et)).map Char.toLower) == t) = false :=
    fun t ht => beq_eq_false_iff_ne.mpr (ne_of_digit (mem_map_toLower hmem hd) hd ht)
  simp only [Numeral.double?, map_toAscii hparts, dropWhile_isBlank hparts, hreverse, hsign,
    toLower_ofList, hne "inf" (by decide), hne "infinity" (by decide), hne "nan" (by decide),
    Numeral.splitDecimal, htake, hdrop, htakeFraction, hdropFraction, hsplit]
  simp [heq]

theorem floatValue_of_isPointed (h : IsPointed ds f et e) :
    floatValue (String.ofList (signText negative ++ (ds ++ '.' :: (f ++ et)))) =
      .ok (Double.ofDecimal negative (digitsValue (ds ++ f)) (e.getD 0 - f.length)) := by
  obtain ⟨hlower, hpointed⟩ := h.lower
  have hparts := isWordPart_signText_append negative (isWordPart_of_isPointed h)
  have hparts' := isWordPart_signText_append negative
    (isWordPart_of_isPointed hpointed)
  have hsignText : (signText negative).map Char.toLower = signText negative := by
    cases negative <;> rfl
  have hread : floatOf (ds ++ '.' :: (f ++ et.map Char.toLower)) =
      .ok (Double.ofDecimal false (digitsValue (ds ++ f)) (e.getD 0 - f.length)) := by
    rw [floatOf, double?_of_isPointed hpointed]
  have hcolon : ':' ∉ ds ++ '.' :: (f ++ et.map Char.toLower) := fun hmem =>
    absurd (isWordPart_of_isPointed hpointed ':' hmem) (by decide)
  obtain ⟨d, ds', heq, hd⟩ := h.whole.exists_cons
  have hsigned : signed (signText negative ++ (ds ++ '.' :: (f ++ et.map Char.toLower))) =
      .ok (negative, ds ++ '.' :: (f ++ et.map Char.toLower)) := by
    rw [heq, List.cons_append, signed_signText hd]
  have hmem : d ∈ ds ++ '.' :: (f ++ et.map Char.toLower) := by simp [heq]
  have hname := decide_name_of_digit hmem hd
  simp only [List.forall_mem_cons, decide_eq_false_iff_not] at hname
  rw [floatValue, lower_ofList hparts, String.toList_ofList, List.map_append, hsignText, hlower,
    filter_score hparts', hsigned]
  simp only [bind, Except.bind]
  rw [if_neg hname.1, if_neg hname.2.2.2.1, if_neg (by simpa using hcolon), hread]
  cases negative with
  | false => simp [pure, Except.pure]
  | true =>
      obtain ⟨hnegate, hnumber⟩ := Double.ofDecimal_true (digitsValue (ds ++ f))
        (e.getD 0 - f.length)
      simp [hnumber, hnegate, pure, Except.pure]

end

/-! ## Values -/

theorem exists_digit_of_isNumber {w : List Char} {v : Value} (h : IsNumber w v) :
    ∃ d ∈ w, d.isDigit = true := by
  cases h with
  | mk hwhole _ _ _ =>
      obtain ⟨d, ds, rfl, hd⟩ := hwhole.exists_cons
      exact ⟨d, by simp, hd⟩

/-- A number or a name that is kept has its value as a plain scalar. -/
theorem scalarValue_of_isAtom {w : List Char} {v : Value} (h : IsAtom w v)
    (hkeeps : keepsWord w = true) :
    scalarValue (plainTag (String.ofList w)) (String.ofList w) = .ok v := by
  have hnumber : ∀ {w v}, IsNumber w v → keepsNumber w = true →
      scalarValue (plainTag (String.ofList w)) (String.ofList w) = .ok v := by
    intro w v h hkeeps
    have hparts := h.isWordPart
    rcases cases_of_keepsNumber h hkeeps with ⟨negative, ds, hwhole, hshort, rfl, rfl⟩ |
      ⟨negative, ds, f, et, e, hpointed, rfl, rfl⟩
    · obtain ⟨d, ds', heq, hd⟩ := hwhole.exists_cons
      have hmem : d ∈ signText negative ++ ds := by simp [heq]
      rw [(plainTag_of_digit hmem hd hparts).2 (isFloat_of_isWhole hwhole)
        (isInteger_of_isWhole hwhole), scalarValue, integerValue_of_isWhole hwhole hshort]
      rfl
    · obtain ⟨d, ds', heq, hd⟩ := hpointed.whole.exists_cons
      have hmem : d ∈ signText negative ++ (ds ++ '.' :: (f ++ et)) := by simp [heq]
      rw [(plainTag_of_digit hmem hd hparts).1 (isFloat_of_isPointed hpointed), scalarValue,
        floatValue_of_isPointed hpointed]
      rfl
  cases h with
  | null | true | false => decide +kernel
  | nan | infinity | minusInfinity => exact absurd hkeeps (by decide)
  | number h =>
      refine hnumber h ?_
      obtain ⟨d, hmem, hd⟩ := exists_digit_of_isNumber h
      have hname : ∀ cs ∈ [['n', 'u', 'l', 'l'], ['t', 'r', 'u', 'e'], ['f', 'a', 'l', 's', 'e']],
          (w == cs) = false := by
        refine fun cs hcs => beq_eq_false_iff_ne.mpr fun heq => ?_
        subst heq
        have hplain : ∀ c ∈ w, c.isDigit = false := by
          revert hcs
          clear * -
          revert w
          decide
        exact Bool.false_ne_true ((hplain d hmem).symm.trans hd)
      simp only [List.forall_mem_cons] at hname
      simpa only [keepsWord, hname, Bool.false_or] using hkeeps

end TypeDraft.Yaml
