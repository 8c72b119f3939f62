import TypeDraft.Proofs.Json.Atoms
import TypeDraft.Proofs.Json.Passes
import TypeDraft.Value.Nesting

/-!
# Reading lexemes as JSON

Lexemes that write a value are read as that value if they are strict, and are refused if they are
not. Integers of too many digits and deep nesting are kept out by the atoms and by a bound on the
depth.
-/

namespace TypeDraft.Json

/-! ## The head of a text -/

theorem isSpace_eq_false_of_isBlank {c : Char} (h : Text.isBlank c = false) : isSpace c = false := by
  by_contra hc
  exact Bool.false_ne_true (h.symm.trans (isBlank_of_isSpace (Bool.not_eq_false _ ▸ hc)))

theorem skipSpace_append {g cs : List Char} (hg : IsGap g)
    (hcs : ∀ c ∈ cs.head?, isSpace c = false) : skipSpace (g ++ cs) = cs :=
  dropWhile_append_of_head hg hcs

theorem skipSpace_of_isGap {g : List Char} (hg : IsGap g) : skipSpace g = [] :=
  List.dropWhile_eq_nil_iff.mpr hg

theorem skipSpace_textOf {l : Lexeme} (hl : l.IsProper) (ls : List Lexeme) (rest : List Char) :
    ∃ c cs, l.token.text = c :: cs ∧ l.token.Begins c ∧
      skipSpace (textOf (l :: ls) ++ rest) = c :: (cs ++ (textOf ls ++ rest)) := by
  obtain ⟨c, cs, htext, hc⟩ := hl.2.exists_begins
  refine ⟨c, cs, htext, hc, ?_⟩
  rw [textOf_cons, Lexeme.text, htext, List.append_assoc, List.append_assoc]
  refine skipSpace_append hl.1 ?_
  simpa using isSpace_eq_false_of_isBlank hc.isBlank_eq_false

theorem isWordPart_eq_false_of_isSpace {c : Char} (h : isSpace c = true) :
    isWordPart c = false := by
  simp only [isSpace, Bool.or_eq_true, beq_iff_eq] at h
  rcases h with ((rfl | rfl) | rfl) | rfl <;> decide

theorem IsGap.endsWord {g : List Char} (hg : IsGap g) : EndsWord g :=
  fun c hc => isWordPart_eq_false_of_isSpace (hg c (List.mem_of_mem_head? hc))

theorem Lexeme.endsWord {m : Lexeme} (hm : m.IsProper) (hfollows : m.role.followsValue = true)
    (ms : List Lexeme) (rest : List Char) : EndsWord (textOf (m :: ms) ++ rest) := by
  obtain ⟨g, t⟩ := m
  cases g with
  | cons c g => simpa [EndsWord, Lexeme.text] using
      isWordPart_eq_false_of_isSpace (hm.1 c List.mem_cons_self)
  | nil =>
      cases t with
      | mark k =>
          have hk : isWordPart k.char = false := by cases k <;> decide
          simpa [EndsWord, Lexeme.text, Token.text] using hk
      | _ => cases hfollows

theorem IsTailRun.endsWord {ms : List Lexeme} (h : IsTailRun ms) (rest : List Char) :
    EndsWord (textOf ms ++ rest) := by
  obtain ⟨m, ms, rfl⟩ := List.exists_cons_of_ne_nil h.nonempty
  exact m.endsWord (h.proper m List.mem_cons_self) (h.follows m rfl) ms rest

/-! ## Values that are read -/

theorem ne_of_isDigit {c d : Char} (hc : c.isDigit = true) (hd : d.isDigit = false) : c ≠ d := by
  rintro rfl
  exact Bool.false_ne_true (hd.symm.trans hc)

theorem splitSign_signText {d : Char} (hd : d.isDigit = true) (negative : Bool) (cs : List Char) :
    Numeral.splitSign (signText negative ++ d :: cs) = (negative, d :: cs) := by
  cases negative with
  | true => rfl
  | false =>
      have hminus : d ≠ '-' := ne_of_isDigit hd (by decide)
      have hplus : d ≠ '+' := ne_of_isDigit hd (by decide)
      simp only [signText, Bool.false_eq_true, if_false, List.nil_append]
      unfold Numeral.splitSign
      split <;> simp_all

theorem readValue_digit {c : Char} (h : c.isDigit = true) (fuel depth : Nat) (cs : List Char) :
    readValue (fuel + 1) depth (c :: cs) = readNumber (c :: cs) := by
  have hne : ∀ d, d.isDigit = false → c ≠ d := fun d => ne_of_isDigit h
  unfold readValue
  split <;> simp_all

theorem readValue_minus {c : Char} (h : c.isDigit = true) (fuel depth : Nat) (cs : List Char) :
    readValue (fuel + 1) depth ('-' :: c :: cs) = readNumber ('-' :: c :: cs) := by
  have hne : c ≠ 'I' := ne_of_isDigit h (by decide)
  unfold readValue
  split <;> simp_all

theorem IsNumber.readValue_append {w rest : List Char} {v : Value} (h : IsNumber w v)
    (hrest : EndsWord rest) (fuel depth : Nat) :
    readValue (fuel + 1) depth (w ++ rest) = .ok (v, rest) := by
  have hnumber := readNumber_append h hrest
  cases h with
  | @mk negative _ _ _ _ _ hwhole _ _ _ =>
      obtain ⟨d, ds, rfl, hd⟩ := hwhole.exists_cons
      cases negative with
      | true => exact (readValue_minus hd fuel depth _).trans hnumber
      | false => exact (readValue_digit hd fuel depth _).trans hnumber

theorem IsAtom.readValue_append {w rest : List Char} {v : Value} (h : IsAtom w v)
    (hrest : EndsWord rest) (fuel depth : Nat) :
    readValue (fuel + 1) depth (w ++ rest) = .ok (v, rest) := by
  cases h with
  | number h => exact h.readValue_append hrest fuel depth
  | _ => rfl

theorem IsAtom.normalize {w : List Char} {v : Value} (h : IsAtom w v) : v.normalize = v := by
  cases h with
  | number h =>
      cases h with
      | mk _ _ _ _ =>
          unfold numberValue
          split <;> rfl
  | _ => rfl

/-- How reading a value ends: well if its lexemes are strict, else badly. -/
def Ends (strict : Prop) (r : Except Fault (Value × List Char)) (v : Value) (rest : List Char) :
    Prop :=
  strict ∧ r = .ok (v, rest) ∨ ¬ strict ∧ ∃ e, r = .error e

section

variable {fuel depth : Nat} {items : List Value} {fields : List (String × Value)}
  {ls ms : List Lexeme} {v w : Value} {rest : List Char}

/-- An item of an array and what follows it. -/
theorem Ends.item {behind : List Char} {cs : List Char} {strict : Prop}
    (hvalue : Ends (IsStrict ls) (readValue fuel depth cs) v behind)
    (htail : readValue fuel depth cs = .ok (v, behind) →
      Ends strict (readItems (fuel + 1) depth items cs) w rest) :
    Ends (IsStrict ls ∧ strict) (readItems (fuel + 1) depth items cs) w rest := by
  rcases hvalue with ⟨hstrict, hread⟩ | ⟨hstrict, e, hread⟩
  · simpa [Ends, hstrict] using htail hread
  · refine .inr ⟨fun h => hstrict h.1, e, ?_⟩
    rw [readItems, hread]

/-- A text begins with a key, and `behind` stands behind its colon. -/
def BeginsWithKey (k : String) (behind cs : List Char) : Prop :=
  ∃ r r', cs = '"' :: r ∧ readString cs [] r = .ok (k, r') ∧ skipSpace r' = ':' :: behind

theorem beginsWithKey {body gap : List Char} {k : String} (hbody : Escapes body k)
    (hgap : IsGap gap) (behind : List Char) :
    BeginsWithKey k behind ('"' :: (body ++ '"' :: (gap ++ ':' :: behind))) :=
  ⟨_, _, rfl, readString_append hbody, skipSpace_append hgap (by simp [isSpace])⟩

theorem exists_readFields_error {c : Char} (hc : c ≠ '"') (fuel depth : Nat)
    (fields : List (String × Value)) (cs : List Char) :
    ∃ e, readFields fuel depth fields (c :: cs) = .error e := by
  cases fuel with
  | zero => exact ⟨_, rfl⟩
  | succ fuel =>
      rw [readFields]
      · exact ⟨_, rfl⟩
      · exact fun r heq => hc (List.cons.inj heq).1

/-- A key and its value, and what follows them. -/
theorem Ends.field {g body gap behind : List Char} {form : KeyForm} {k : String} {strict : Prop}
    (hg : IsGap g) (hgap : IsGap gap) (hform : form.Allows body gap) (hbody : Escapes body k)
    (hvalue : Ends (IsStrict ls) (readValue fuel depth (skipSpace (textOf ls ++ behind))) v behind)
    (htail : ∀ cs, BeginsWithKey k (textOf ls ++ behind) cs →
      readValue fuel depth (skipSpace (textOf ls ++ behind)) = .ok (v, behind) →
      Ends strict (readFields (fuel + 1) depth fields cs) w rest) :
    Ends (form = .quoted .double ∧ IsStrict ls ∧ strict) (readFields (fuel + 1) depth fields
      (skipSpace (textOf (⟨g, .key form body gap⟩ :: ls) ++ behind))) w rest := by
  obtain ⟨c, cs, htext, hc, hskip⟩ :=
    skipSpace_textOf (l := ⟨g, .key form body gap⟩) ⟨hg, hgap, hform⟩ ls behind
  rw [hskip]
  by_cases hdouble : form = .quoted .double
  · subst hdouble
    have hcs : c :: (cs ++ (textOf ls ++ behind)) =
        '"' :: (body ++ '"' :: (gap ++ ':' :: (textOf ls ++ behind))) := by
      rw [← List.cons_append, ← htext]
      simp [Token.text, KeyForm.text, inQuotes, QuoteMark.char]
    have hkey := hcs ▸ beginsWithKey hbody hgap (textOf ls ++ behind)
    rcases hvalue with ⟨hstrict, hread⟩ | ⟨hstrict, e, hread⟩
    · simpa [Ends, hstrict] using htail _ hkey hread
    · refine .inr ⟨fun h => hstrict h.2.1, e, ?_⟩
      obtain ⟨r, r', heq, hstring, hcolon⟩ := hkey
      rw [heq] at hstring ⊢
      simp only [readFields, hstring, hcolon, hread]
  · refine .inr ⟨fun h => hdouble h.1, exists_readFields_error ?_ _ _ _ _⟩
    cases form with
    | quoted q =>
        cases q with
        | single => subst hc; decide
        | double => exact absurd rfl hdouble
    | bare =>
        exact ne_of_isPlain (isPlain_of_isBarePart (isBarePart_of_isBareStart hc)) (by decide)

end

/-! ## Lexemes that are read -/

/-- Each array and each object counts one level. -/
def level : NestingCost := ⟨1, 1⟩

theorem exists_depth_of_array {depth : Nat} {vs : List Value}
    (h : (Value.arr vs).exceeds level depth = false) :
    ∃ d, depth = d + 1 ∧ Value.anyExceeds level d vs = false := by
  rw [Value.exceeds, Bool.or_eq_false_iff, decide_eq_false_iff_not] at h
  obtain ⟨d, rfl⟩ := Nat.exists_eq_add_of_le' (Nat.not_lt.mp h.1)
  exact ⟨d, rfl, h.2⟩

theorem exists_depth_of_object {depth : Nat} {fs : List (String × Value)}
    (h : (Value.obj fs).exceeds level depth = false) :
    ∃ d, depth = d + 1 ∧ Value.anyFieldExceeds level d fs = false := by
  rw [Value.exceeds, Bool.or_eq_false_iff, decide_eq_false_iff_not] at h
  obtain ⟨d, rfl⟩ := Nat.exists_eq_add_of_le' (Nat.not_lt.mp h.1)
  exact ⟨d, rfl, h.2⟩

mutual

/-- A value fits in a depth if it has no more levels. -/
theorem exceeds_of_levels_le : (v : Value) → (depth : Nat) → v.levels ≤ depth →
    v.exceeds level depth = false
  | .null, _, _ | .bool _, _, _ | .int _, _, _ | .float _, _, _ | .str _, _, _ | .map _, _, _
  | .tuple _, _, _ | .set _, _, _ | .bytes _, _, _ | .moment _, _, _ | .decimal _, _, _ => rfl
  | .arr items, depth, h => by
    rw [Value.levels] at h
    rw [Value.exceeds, Bool.or_eq_false_iff, decide_eq_false_iff_not, Nat.not_lt]
    exact ⟨Nat.le_of_add_left_le h, anyExceeds_of_itemLevels_le items _ (Nat.le_sub_of_add_le h)⟩
  | .obj fields, depth, h => by
    rw [Value.levels] at h
    rw [Value.exceeds, Bool.or_eq_false_iff, decide_eq_false_iff_not, Nat.not_lt]
    exact ⟨Nat.le_of_add_left_le h,
      anyFieldExceeds_of_fieldLevels_le fields _ (Nat.le_sub_of_add_le h)⟩

theorem anyExceeds_of_itemLevels_le : (vs : List Value) → (depth : Nat) →
    Value.itemLevels vs ≤ depth → Value.anyExceeds level depth vs = false
  | [], _, _ => rfl
  | v :: vs, depth, h => by
    rw [Value.itemLevels, Nat.max_le] at h
    rw [Value.anyExceeds, exceeds_of_levels_le v depth h.1,
      anyExceeds_of_itemLevels_le vs depth h.2]
    rfl

theorem anyFieldExceeds_of_fieldLevels_le : (fs : List (String × Value)) → (depth : Nat) →
    Value.fieldLevels fs ≤ depth → Value.anyFieldExceeds level depth fs = false
  | [], _, _ => rfl
  | (_, v) :: fs, depth, h => by
    rw [Value.fieldLevels, Nat.max_le] at h
    rw [Value.anyFieldExceeds, exceeds_of_levels_le v depth h.1,
      anyFieldExceeds_of_fieldLevels_le fs depth h.2]
    rfl

end

theorem textOf_mark_append (g : List Char) (m : Mark) (ls : List Lexeme) (rest : List Char) :
    textOf (⟨g, .mark m⟩ :: ls) ++ rest = g ++ m.char :: (textOf ls ++ rest) := by
  simp [Lexeme.text, Token.text]

theorem skipSpace_mark {g : List Char} (hg : IsGap g) (m : Mark) (ls : List Lexeme)
    (rest : List Char) :
    skipSpace (textOf (⟨g, .mark m⟩ :: ls) ++ rest) = m.char :: (textOf ls ++ rest) := by
  have hm : isSpace m.char = false := isSpace_eq_false_of_isBlank m.isBlank_char
  rw [textOf_mark_append]
  exact skipSpace_append hg (by simpa using hm)

theorem readValue_array {r : List Char} (h : (skipSpace r).head? ≠ some ']') (fuel depth : Nat) :
    readValue (fuel + 1) (depth + 1) ('[' :: r) = readItems fuel depth [] (skipSpace r) := by
  simp only [readValue]
  split
  · next heq => exact absurd (congrArg List.head? heq) h
  · rfl

theorem readValue_object {r : List Char} (h : (skipSpace r).head? ≠ some '\x7d')
    (fuel depth : Nat) :
    readValue (fuel + 1) (depth + 1) ('\x7b' :: r) = readFields fuel depth [] (skipSpace r) := by
  simp only [readValue]
  split
  · next heq => exact absurd (congrArg List.head? heq) h
  · rfl

/-- What opens an array or object is not closed at once by lexemes that do not begin so. -/
theorem head?_skipSpace {l : Lexeme} (hl : l.IsProper) (hclose : l.role.isClose = false)
    (ls : List Lexeme) (rest : List Char) :
    (skipSpace (textOf (l :: ls) ++ rest)).head? ≠ some ']' ∧
      (skipSpace (textOf (l :: ls) ++ rest)).head? ≠ some '\x7d' := by
  obtain ⟨c, cs, -, hc, hskip⟩ := skipSpace_textOf hl ls rest
  have hclose := not_closes_of_begins hc hclose
  rw [hskip, List.head?_cons]
  constructor
  all_goals
    intro heq
    rw [Option.some.inj heq] at hclose
    exact absurd hclose (by decide)

theorem Role.not_isClose_of_opensValue {r : Role} {s : Setting} (h : r.opensValue s = true) :
    r.isClose = false := by
  cases r with
  | mark m => cases m <;> first | rfl | cases h
  | _ => rfl

theorem exists_fuel {n fuel : Nat} (h : n + 1 ≤ fuel) : ∃ f, fuel = f + 1 ∧ n ≤ f := by
  obtain ⟨f, rfl⟩ := Nat.exists_eq_add_of_le' (Nat.le_trans (Nat.le_add_left 1 n) h)
  exact ⟨f, rfl, Nat.le_of_succ_le_succ h⟩

theorem exists_fuel_append {ls ms : List Lexeme} {fuel : Nat} (hls : ls ≠ []) (hms : ms ≠ [])
    (h : (ls ++ ms).length ≤ fuel) : ∃ f, fuel = f + 1 ∧ ls.length ≤ f ∧ ms.length ≤ f := by
  have hl := List.length_pos_iff.mpr hls
  have hm := List.length_pos_iff.mpr hms
  rw [List.length_append] at h
  obtain ⟨f, rfl⟩ := Nat.exists_eq_add_of_le' (Nat.le_trans (Nat.add_le_add hl hm) h)
  exact ⟨f + 1, rfl, by omega, by omega⟩

theorem exists_readItems_error (fuel depth : Nat) (items : List Value) (cs : List Char) :
    ∃ e, readItems fuel depth items (']' :: cs) = .error e := by
  cases fuel with
  | zero => exact ⟨_, rfl⟩
  | succ fuel => cases fuel <;> exact ⟨_, rfl⟩

mutual

theorem Writes.readValue_ends {s : Setting} {v : Value} {ls : List Lexeme} :
    Writes IsAtom Escapes s v ls → ∀ {fuel depth : Nat} {rest : List Char}, EndsWord rest →
    ls.length ≤ fuel → v.exceeds level depth = false →
    Ends (IsStrict ls) (readValue fuel depth (skipSpace (textOf ls ++ rest))) v.normalize rest
  | @Writes.word _ _ _ g cs _ hg ha, fuel, depth, rest, hrest, hfuel, hdepth => by
    obtain ⟨fuel, rfl, -⟩ := exists_fuel hfuel
    obtain ⟨c, cs, htext, hc, hskip⟩ :=
      skipSpace_textOf (l := ⟨g, .word cs⟩) ⟨hg, atomsAreWords_isAtom _ _ ha⟩ [] rest
    rw [hskip, ← List.cons_append, ← htext, ha.normalize]
    exact .inl ⟨by simp [Token.IsStrict], ha.readValue_append hrest fuel depth⟩
  | @Writes.string _ _ s g q body _ hg hb, fuel, depth, rest, hrest, hfuel, hdepth => by
    obtain ⟨fuel, rfl, -⟩ := exists_fuel hfuel
    obtain ⟨c, cs, htext, hc, hskip⟩ :=
      skipSpace_textOf (l := ⟨g, .string s q body⟩) ⟨hg, trivial⟩ [] rest
    rw [hskip, ← List.cons_append, ← htext]
    cases q with
    | single => exact .inr ⟨by simp [Token.IsStrict], _, rfl⟩
    | double =>
        refine .inl ⟨by simp [Token.IsStrict], ?_⟩
        simp [Token.text, inQuotes, QuoteMark.char, readValue, readString_append hb,
          Value.normalize]
  | .emptyArray hg hg', fuel, depth, rest, hrest, hfuel, hdepth => by
    obtain ⟨fuel, rfl, -⟩ := exists_fuel hfuel
    obtain ⟨depth, rfl, -⟩ := exists_depth_of_array hdepth
    refine .inl ⟨by simp [Token.IsStrict], ?_⟩
    rw [skipSpace_mark hg]
    simp only [Mark.char, readValue]
    rw [skipSpace_mark hg']
    rfl
  | @Writes.array _ _ _ g v vs ls ms hg hv hvs, fuel, depth, rest, hrest, hfuel, hdepth => by
    have hl := hv.isValueRun atomsAreWords_isAtom
    have hm := hvs.isTailRun atomsAreWords_isAtom
    obtain ⟨fuel, rfl, hle⟩ := exists_fuel hfuel
    obtain ⟨fuel, rfl, hls, hms⟩ := exists_fuel_append hl.nonempty hm.nonempty hle
    obtain ⟨depth, rfl, hfits⟩ := exists_depth_of_array hdepth
    rw [Value.anyExceeds, Bool.or_eq_false_iff] at hfits
    have hopen : (skipSpace (textOf (ls ++ ms) ++ rest)).head? ≠ some ']' := by
      obtain ⟨l, ls, rfl⟩ := List.exists_cons_of_ne_nil hl.nonempty
      exact (head?_skipSpace (hl.proper l List.mem_cons_self)
        (Role.not_isClose_of_opensValue (hl.opens l rfl)) (ls ++ ms) rest).1
    have hvalue := hv.readValue_ends (hm.endsWord rest) hls hfits.1
    have hends : Ends (IsStrict ls ∧ IsStrict ms) (readItems (fuel + 1) depth [] _) _ rest :=
      hvalue.item fun hread => hvs.readItems_ends hms hfits.2 hread
    rw [skipSpace_mark hg]
    simp only [Mark.char]
    rw [readValue_array hopen, textOf_append, List.append_assoc]
    simpa [Token.IsStrict, Value.normalize, Value.normalizeItems] using hends
  | .emptyObject hg hg', fuel, depth, rest, hrest, hfuel, hdepth => by
    obtain ⟨fuel, rfl, -⟩ := exists_fuel hfuel
    obtain ⟨depth, rfl, -⟩ := exists_depth_of_object hdepth
    refine .inl ⟨by simp [Token.IsStrict], ?_⟩
    rw [skipSpace_mark hg]
    simp only [Mark.char, readValue]
    rw [skipSpace_mark hg']
    rfl
  | @Writes.object _ _ _ g g' form body gap k v fs ls ms hg hg' hgap hform hk hv hfs, fuel, depth,
      rest, hrest, hfuel, hdepth => by
    have hm := hfs.isTailRun atomsAreWords_isAtom
    obtain ⟨fuel, rfl, hle⟩ := exists_fuel hfuel
    obtain ⟨fuel, rfl, hlength⟩ := exists_fuel hle
    rw [List.length_append] at hlength
    obtain ⟨depth, rfl, hfits⟩ := exists_depth_of_object hdepth
    rw [Value.anyFieldExceeds, Bool.or_eq_false_iff] at hfits
    have hopen := (head?_skipSpace (l := ⟨g', .key form body gap⟩) ⟨hg', hgap, hform⟩ rfl (ls ++ ms)
      rest).2
    have hls : ls.length ≤ fuel := by omega
    have hms : ms.length ≤ fuel := by omega
    have hvalue := hv.readValue_ends (hm.endsWord rest) hls hfits.1
    have hends : Ends _ (readFields (fuel + 1) depth [] _) _ rest :=
      hvalue.field hg' hgap hform hk fun cs hkey hread =>
        hfs.readFields_ends hms hfits.2 hkey hread
    rw [skipSpace_mark hg]
    simp only [Mark.char]
    rw [readValue_object hopen, ← List.cons_append, textOf_append, List.append_assoc]
    simpa [Token.IsStrict, Value.normalize, Value.normalizeFields] using hends

theorem WritesItemsAfter.readItems_ends {vs : List Value} {ms : List Lexeme} :
    WritesItemsAfter IsAtom Escapes vs ms → ∀ {fuel depth : Nat} {rest : List Char}
    {items : List Value} {v : Value} {cs : List Char}, ms.length ≤ fuel →
    Value.anyExceeds level depth vs = false →
    readValue fuel depth cs = .ok (v, textOf ms ++ rest) →
    Ends (IsStrict ms) (readItems (fuel + 1) depth items cs)
      (.arr (items.reverse ++ v :: Value.normalizeItems vs)) rest
  | .close hg, fuel, depth, rest, items, v, cs, hfuel, hdepth, hread => by
    refine .inl ⟨by simp [Token.IsStrict], ?_⟩
    simp only [readItems, hread]
    rw [skipSpace_mark hg]
    simp [Mark.char, Value.normalizeItems]
  | .trailing hg hg', fuel, depth, rest, items, v, cs, hfuel, hdepth, hread => by
    refine .inr ⟨by simp [Token.IsStrict], ?_⟩
    simp only [readItems, hread]
    rw [skipSpace_mark hg]
    simp only [Mark.char]
    rw [skipSpace_mark hg']
    exact exists_readItems_error _ _ _ _
  | @WritesItemsAfter.next _ _ g v' vs ls ms hg hv hvs, fuel, depth, rest, items, v, cs, hfuel,
      hdepth, hread => by
    have hm := hvs.isTailRun atomsAreWords_isAtom
    obtain ⟨fuel, rfl, hlength⟩ := exists_fuel hfuel
    rw [List.length_append] at hlength
    rw [Value.anyExceeds, Bool.or_eq_false_iff] at hdepth
    have hls : ls.length ≤ fuel := by omega
    have hms : ms.length ≤ fuel := by omega
    have hvalue := hv.readValue_ends (hm.endsWord rest) hls hdepth.1
    have hends : Ends (IsStrict ls ∧ IsStrict ms) (readItems (fuel + 1) depth (v :: items) _) _
        rest :=
      hvalue.item fun hread => hvs.readItems_ends hms hdepth.2 hread
    rw [readItems, hread]
    simp only
    rw [skipSpace_mark hg]
    simp only [Mark.char]
    rw [textOf_append, List.append_assoc]
    simpa [Token.IsStrict, Value.normalizeItems] using hends

theorem WritesFieldsAfter.readFields_ends {fs : List (String × Value)} {ms : List Lexeme} :
    WritesFieldsAfter IsAtom Escapes fs ms → ∀ {fuel depth : Nat} {rest : List Char}
    {fields : List (String × Value)} {k : String} {v : Value} {behind cs : List Char},
    ms.length ≤ fuel → Value.anyFieldExceeds level depth fs = false →
    BeginsWithKey k behind cs →
    readValue fuel depth (skipSpace behind) = .ok (v, textOf ms ++ rest) →
    Ends (IsStrict ms) (readFields (fuel + 1) depth fields cs)
      (.obj (collectFields (fields.reverse ++ (k, v) :: Value.normalizeFields fs))) rest
  | .close hg, fuel, depth, rest, fields, k, v, behind, cs, hfuel, hdepth, hkey, hread => by
    obtain ⟨r, r', rfl, hstring, hcolon⟩ := hkey
    refine .inl ⟨by simp [Token.IsStrict], ?_⟩
    simp only [readFields, hstring, hcolon, hread]
    rw [skipSpace_mark hg]
    simp [Mark.char, Value.normalizeFields]
  | .trailing hg hg', fuel, depth, rest, fields, k, v, behind, cs, hfuel, hdepth, hkey, hread => by
    obtain ⟨r, r', rfl, hstring, hcolon⟩ := hkey
    refine .inr ⟨by simp [Token.IsStrict], ?_⟩
    simp only [readFields, hstring, hcolon, hread]
    rw [skipSpace_mark hg]
    simp only [Mark.char]
    rw [skipSpace_mark hg']
    exact exists_readFields_error (by decide) _ _ _ _
  | @WritesFieldsAfter.next _ _ g g' form body gap k' v' fs ls ms hg hg' hgap hform hk hv hfs, fuel,
      depth, rest, fields, k, v, behind, cs, hfuel, hdepth, hkey, hread => by
    have hm := hfs.isTailRun atomsAreWords_isAtom
    obtain ⟨fuel, rfl, hlength⟩ := exists_fuel hfuel
    rw [List.length_cons, List.length_append] at hlength
    rw [Value.anyFieldExceeds, Bool.or_eq_false_iff] at hdepth
    have hls : ls.length ≤ fuel := by omega
    have hms : ms.length ≤ fuel := by omega
    have hvalue := hv.readValue_ends (hm.endsWord rest) hls hdepth.1
    have hends : Ends _ (readFields (fuel + 1) depth ((k, v) :: fields) _) _ rest :=
      hvalue.field hg' hgap hform hk fun cs hkey hread =>
        hfs.readFields_ends hms hdepth.2 hkey hread
    obtain ⟨r, r', rfl, hstring, hcolon⟩ := hkey
    rw [readFields]
    simp only [hstring, hcolon, hread]
    rw [skipSpace_mark hg]
    simp only [Mark.char]
    rw [← List.cons_append, textOf_append, List.append_assoc]
    simpa [Token.IsStrict, Value.normalizeFields] using hends

end

/-! ## Whole texts -/

theorem length_le_length_textOf {ls : List Lexeme} (hls : ∀ l ∈ ls, l.IsProper) :
    ls.length ≤ (textOf ls).length := by
  induction ls with
  | nil => exact le_rfl
  | cons l ls ih =>
      obtain ⟨hl, hls⟩ := List.forall_mem_cons.mp hls
      obtain ⟨c, cs, htext, -⟩ := hl.2.exists_begins
      have hle := ih hls
      simp only [textOf_cons, Lexeme.text, htext, List.length_append, List.length_cons]
      omega

/-- No token begins with a character that stands in no word and is no mark and no quote. -/
theorem Token.Begins.ne {t : Token} {c d : Char} (h : t.Begins c) (hd : isPlain d = false)
    (hmark : d ∉ ['[', ']', '\x7b', '\x7d', ',', '\'', '"']) : c ≠ d := by
  rintro rfl
  cases t with
  | mark m => subst h; cases m <;> exact absurd hmark (by decide)
  | key form body gap =>
      cases form with
      | quoted q => subst h; cases q <;> exact absurd hmark (by decide)
      | bare =>
          exact ne_of_isPlain (isPlain_of_isBarePart (isBarePart_of_isBareStart h)) hd rfl
  | string s q body => subst h; cases q <;> exact absurd hmark (by decide)
  | word cs => exact ne_of_isPlain (isPlain_of_isWordPart h) hd rfl

theorem Token.Begins.ne_byteOrderMark {t : Token} {c : Char} (h : t.Begins c) : c ≠ '\ufeff' :=
  h.ne (by decide) (by decide)

theorem head?_textOf_ne_byteOrderMark {l : Lexeme} (hl : l.IsProper) (rest : List Char) :
    (l.text ++ rest).head? ≠ some '\ufeff' := by
  obtain ⟨c, cs, htext, hc⟩ := hl.2.exists_begins
  rw [Lexeme.text, htext]
  cases hg : l.gap with
  | nil => simpa using hc.ne_byteOrderMark
  | cons d g =>
      have hd : isSpace d = true := hl.1 d (by simp [hg])
      have hne : d ≠ '\ufeff' := fun heq => absurd (heq ▸ hd) (by decide)
      simpa using hne

/-- A document is a value with white space around it. -/
theorem readDocument_eq {cs : List Char} (h : cs.head? ≠ some '\ufeff') :
    readDocument cs =
      match readValue (cs.length + 1) nestingLimit (skipSpace cs) with
      | .error e => .error e
      | .ok (v, r) =>
        match skipSpace r with
        | [] => .ok v
        | r => .error (.malformed .extraData r.length) := by
  unfold readDocument
  split
  · exact absurd rfl h
  · rfl

/-- A text of lexemes is JSON just if they are strict, and stands for what they write. -/
theorem decode_textOf {s : Setting} {v : Value} {ls : List Lexeme} {g : List Char}
    (h : Writes IsAtom Escapes s v ls) (hg : IsGap g)
    (hdepth : v.exceeds level nestingLimit = false) :
    (IsStrict ls → decode (textOf ls ++ g) = .ok v.normalize) ∧
      (¬ IsStrict ls → ∃ e, decode (textOf ls ++ g) = .error e) := by
  have hrun := h.isValueRun atomsAreWords_isAtom
  have hfuel : ls.length ≤ (textOf ls ++ g).length + 1 := by
    have hle := length_le_length_textOf hrun.proper
    rw [List.length_append]
    omega
  have hhead : (textOf ls ++ g).head? ≠ some '\ufeff' := by
    obtain ⟨l, ls, rfl⟩ := List.exists_cons_of_ne_nil hrun.nonempty
    have hhead := head?_textOf_ne_byteOrderMark (hrun.proper l List.mem_cons_self) (textOf ls ++ g)
    rwa [← List.append_assoc, ← textOf_cons] at hhead
  have hread := readDocument_eq hhead
  have hends := h.readValue_ends hg.endsWord hfuel hdepth
  constructor
  · intro hstrict
    rcases hends with ⟨-, hvalue⟩ | ⟨hnot, -⟩
    · rw [decode, hread, hvalue]
      simp only [skipSpace_of_isGap hg]
      rfl
    · exact absurd hstrict hnot
  · intro hstrict
    rcases hends with ⟨hyes, -⟩ | ⟨-, e, hvalue⟩
    · exact absurd hyes hstrict
    · rw [decode, hread, hvalue]
      exact ⟨_, rfl⟩

end TypeDraft.Json
