import Mathlib.Algebra.Group.Nat.Defs
import TypeDraft.Proofs.Input.Fallback
import TypeDraft.Proofs.Json.Mending
import TypeDraft.Proofs.Json.Reading
import TypeDraft.Proofs.Value.Normal

/-!
# Loose JSON is mended

An array or object of nulls, booleans, integers and clean strings may be written with quotes of
either kind, bare keys, trailing commas and any white space. Repair makes JSON of every such text,
and the JSON stands for the same value.
-/

namespace TypeDraft.Json

/-! ## Integers -/

theorem head?_toDigits_ne_zero (n : Nat) (hn : 0 < n) :
    (Nat.toDigits 10 n).head? ≠ some '0' := by
  induction n using Nat.strongRecOn with
  | _ n ih =>
      rw [Nat.toDigits_eq_if (by decide)]
      split
      · next hlt =>
          intro heq
          have hdigit : n.digitChar = '0' := Option.some.inj heq
          have hall : ∀ m < 10, m ≠ 0 → m.digitChar ≠ '0' := by decide
          exact hall n hlt hn.ne' hdigit
      · next hge =>
          rw [List.head?_append_of_ne_nil _ (List.length_pos_iff.mp Nat.length_toDigits_pos)]
          exact ih (n / 10) (Nat.div_lt_self hn (by decide)) (Nat.div_pos (by omega) (by decide))

theorem isWhole_toDigits (n : Nat) : IsWhole (Nat.toDigits 10 n) := by
  rcases Nat.eq_zero_or_pos n with rfl | hn
  · exact .inl rfl
  · exact .inr ⟨⟨List.length_pos_iff.mp Nat.length_toDigits_pos,
      fun d hd => Nat.isDigit_of_mem_toDigits (by decide) (by decide) hd⟩,
      head?_toDigits_ne_zero n hn⟩

theorem digitsValue_toDigits (n : Nat) : Numeral.digitsValue (Nat.toDigits 10 n) = n := by
  have h := Nat.ofDigitChars_ten_toDigits (n := n)
  simpa only [Nat.ofDigitChars, Numeral.digitsValue, Nat.mul_comm 10] using h

theorem length_toDigits_le {n digits : Nat} (hdigits : 0 < digits)
    (h : n < Nat.pow 10 digits) : (Nat.toDigits 10 n).length ≤ digits :=
  (Nat.length_toDigits_le_iff (by decide) hdigits).mpr h

theorem lt_pow_of_log2_lt {n k digits : Nat} (h : n.log2 < k)
    (hle : Nat.ble (Nat.pow 2 k) (Nat.pow 10 digits) = true) : n < Nat.pow 10 digits := by
  rcases Nat.eq_zero_or_pos n with rfl | hpos
  · exact Nat.pow_pos (by decide)
  · exact Nat.lt_of_lt_of_le ((Nat.log2_lt hpos.ne').mp h) (Nat.le_of_ble_eq_true hle)

theorem length_toDigits_le_of_isShort {n : Int} (h : Value.isShort n = true) :
    (Nat.toDigits 10 n.natAbs).length ≤ Numeral.maxDigits := by
  refine length_toDigits_le (by decide) ?_
  rw [Value.isShort, Bool.or_eq_true, decide_eq_true_eq, decide_eq_true_eq] at h
  exact h.elim (fun hlog => lt_pow_of_log2_lt hlog (by decide +kernel)) id

theorem toList_toString (n : Int) :
    (toString n).toList = signText (decide (n < 0)) ++ Nat.toDigits 10 n.natAbs := by
  cases n with
  | ofNat m =>
      have hsign : decide (Int.ofNat m < 0) = false :=
        decide_eq_false (Int.not_lt.mpr (Int.natCast_nonneg m))
      rw [hsign]
      exact Nat.toList_repr
  | negSucc m =>
      rw [decide_eq_true (Int.negSucc_lt_zero m), Int.natAbs_negSucc, ← Nat.toList_repr]
      exact String.toList_append

theorem isNumber_toString {n : Int} (h : Value.isShort n = true) :
    IsNumber (toString n).toList (.int n) := by
  have hnumber := @IsNumber.mk (decide (n < 0)) _ _ _ _ _ (isWhole_toDigits n.natAbs) .none .none
    fun _ _ => length_toDigits_le_of_isShort h
  have hvalue : numberValue (decide (n < 0)) (Nat.toDigits 10 n.natAbs) [] none = .int n := by
    simp only [numberValue, digitsValue_toDigits, decide_eq_true_eq]
    split <;> congr 1 <;> omega
  rwa [hvalue, List.append_nil, List.append_nil, ← toList_toString] at hnumber

/-! ## Loose texts -/

/-- The atoms of loose JSON. -/
inductive IsPlainAtom : List Char → Value → Prop
  | null : IsPlainAtom ['n', 'u', 'l', 'l'] .null
  | true : IsPlainAtom ['t', 'r', 'u', 'e'] (.bool true)
  | false : IsPlainAtom ['f', 'a', 'l', 's', 'e'] (.bool false)
  | int {n} : IsPlainAtom (toString n).toList (.int n)

/-- A clean string stands for itself. -/
def IsCleanText (body : List Char) (s : String) : Prop := body = s.toList ∧ IsClean body

/-- A text writes a value with a free choice of quotes, bare keys, trailing commas and white space
at every place. -/
def IsLooseText (v : Value) (text : List Char) : Prop :=
  ∃ ls g, Writes IsPlainAtom IsCleanText .item v ls ∧ IsGap g ∧ text = textOf ls ++ g

theorem atomsAreWords_isPlainAtom : AtomsAreWords IsPlainAtom := by
  intro cs v h
  cases h with
  | @int n =>
      have hdigits := isWhole_toDigits n.natAbs
      obtain ⟨d, ds, heq, -⟩ := hdigits.exists_cons
      rw [toList_toString]
      refine ⟨by simp [heq], List.forall_mem_append.mpr ⟨?_, hdigits.isWordPart⟩⟩
      cases decide (n < 0) <;> decide
  | _ => exact ⟨by decide, by decide⟩

theorem IsPlainAtom.isAtom {cs : List Char} {v : Value} (h : IsPlainAtom cs v)
    (hshown : v.isShown) : IsAtom cs v := by
  cases h with
  | null => exact .null
  | true => exact .true
  | false => exact .false
  | int => exact .number (isNumber_toString hshown)

theorem IsCleanText.escapes {body : List Char} {s : String} (h : IsCleanText body s) :
    Escapes body s := by
  have hfrom : ∀ (body out : List Char), IsClean body →
      EscapesFrom out body (String.ofList (out.reverse ++ body)) := by
    intro body
    induction body with
    | nil =>
        intro out _
        rw [List.append_nil]
        exact .done
    | cons c body ih =>
        intro out hclean
        obtain ⟨hc, hclean⟩ := List.forall_mem_cons.mp hclean
        have hplain : c ≠ '"' ∧ c ≠ '\\' ∧ 0x20 ≤ c.toNat := by
          simp only [isCleanChar, Bool.and_eq_true, decide_eq_true_eq, List.mem_cons] at hc
          tauto
        have hrest := ih (c :: out) hclean
        rw [List.reverse_cons, List.append_assoc, List.singleton_append] at hrest
        exact .plain hplain.1 hplain.2.1 hplain.2.2 hrest
  have hbody := hfrom body [] h.2
  rw [List.reverse_nil, List.nil_append] at hbody
  rwa [h.1, String.ofList_toList, ← h.1] at hbody

mutual

/-- Loose lexemes are lexemes of JSON but for what strictness asks. -/
theorem Writes.ofPlain {s : Setting} {v : Value} {ls : List Lexeme} :
    Writes IsPlainAtom IsCleanText s v ls → v.isShown = true → Writes IsAtom Escapes s v ls
  | .word hg ha, h => .word hg (ha.isAtom h)
  | .string hg hb, _ => .string hg hb.escapes
  | .emptyArray hg hg', _ => .emptyArray hg hg'
  | .array hg hv hvs, h => by
    rw [Value.isShown, Value.areShown, Bool.and_eq_true] at h
    exact .array hg (hv.ofPlain h.1) (hvs.ofPlain h.2)
  | .emptyObject hg hg', _ => .emptyObject hg hg'
  | .object hg hg' hgap hform hk hv hfs, h => by
    rw [Value.isShown, Value.areShownFields, Bool.and_eq_true] at h
    exact .object hg hg' hgap hform hk.escapes (hv.ofPlain h.1) (hfs.ofPlain h.2)

theorem WritesItemsAfter.ofPlain {vs : List Value} {ms : List Lexeme} :
    WritesItemsAfter IsPlainAtom IsCleanText vs ms → Value.areShown vs = true →
    WritesItemsAfter IsAtom Escapes vs ms
  | .close hg, _ => .close hg
  | .trailing hg hg', _ => .trailing hg hg'
  | .next hg hv hvs, h => by
    rw [Value.areShown, Bool.and_eq_true] at h
    exact .next hg (hv.ofPlain h.1) (hvs.ofPlain h.2)

theorem WritesFieldsAfter.ofPlain {fs : List (String × Value)} {ms : List Lexeme} :
    WritesFieldsAfter IsPlainAtom IsCleanText fs ms → Value.areShownFields fs = true →
    WritesFieldsAfter IsAtom Escapes fs ms
  | .close hg, _ => .close hg
  | .trailing hg hg', _ => .trailing hg hg'
  | .next hg hg' hgap hform hk hv hfs, h => by
    rw [Value.areShownFields, Bool.and_eq_true] at h
    exact .next hg hg' hgap hform hk.escapes (hv.ofPlain h.1) (hfs.ofPlain h.2)

end

/-! ## Mended lexemes write the same -/

/-- What holds of the end of a list holds of the end of its tail. -/
theorem forall_getLast?_of_cons {P : Lexeme → Prop} {l : Lexeme} {ls : List Lexeme}
    (h : ∀ k ∈ (l :: ls).getLast?, P k) : ∀ k ∈ ls.getLast?, P k := by
  cases ls with
  | nil => simp
  | cons m ls => simpa using h

section

variable {IsAtom : List Char → Value → Prop} {IsBody : List Char → String → Prop}

theorem dropTrailing_append {ls ms : List Lexeme}
    (h : ∀ l ∈ ls.getLast?, l.token ≠ .mark .trailingComma) :
    dropTrailing (ls ++ ms) = dropTrailing ls ++ dropTrailing ms := by
  induction ls using dropTrailing.induct with
  | case1 g m ls ih =>
      have hls := forall_getLast?_of_cons (forall_getLast?_of_cons h)
      simp [dropTrailing, ih hls]
  | case2 l ls hne ih =>
      have hl : l.token ≠ .mark .trailingComma := by
        obtain ⟨g, t⟩ := l
        rintro rfl
        cases ls with
        | nil => exact h _ rfl rfl
        | cons m ls => exact hne g m ls rfl rfl
      rw [List.cons_append, dropTrailing_cons hl, dropTrailing_cons hl,
        ih (forall_getLast?_of_cons h), List.cons_append]
  | case3 => rfl

theorem mended_cons {l : Lexeme} (h : l.token ≠ .mark .trailingComma) (ls : List Lexeme) :
    mended (l :: ls) = l.mended :: mended ls := by
  rw [mended, dropTrailing_cons h, List.map_cons]
  rfl

theorem mended_mark (m : Mark) (hm : m ≠ .trailingComma) (g : List Char) (ls : List Lexeme) :
    mended (⟨g, .mark m⟩ :: ls) = ⟨g, .mark m⟩ :: mended ls :=
  mended_cons (fun heq => hm (Token.mark.inj heq)) ls

theorem not_trailing_of_endsValue {l : Lexeme} (h : l.role.endsValue = true) :
    l.token ≠ .mark .trailingComma := by
  intro heq
  rw [Lexeme.role, heq] at h
  cases h

theorem IsValueRun.mended_append {s : Setting} {ls : List Lexeme} (h : IsValueRun s ls)
    (ms : List Lexeme) : mended (ls ++ ms) = mended ls ++ mended ms := by
  rw [mended, dropTrailing_append fun l hl => not_trailing_of_endsValue (h.ends l hl),
    List.map_append]
  rfl

/-- A key whose quotes have been changed, with what follows it. -/
theorem mended_key (g body gap : List Char) (form : KeyForm) (ls : List Lexeme) :
    ∃ gap', (IsGap gap → IsGap gap') ∧
      mended (⟨g, .key form body gap⟩ :: ls) =
        ⟨g, .key (.quoted .double) body gap'⟩ :: mended ls := by
  rw [mended_cons (l := ⟨g, .key form body gap⟩) nofun]
  cases form with
  | quoted q => exact ⟨gap, id, rfl⟩
  | bare => exact ⟨[], fun _ => nofun, rfl⟩

mutual

theorem Writes.mended (hatom : AtomsAreWords IsAtom) {s : Setting} {v : Value}
    {ls : List Lexeme} : Writes IsAtom IsBody s v ls → Writes IsAtom IsBody s v (mended ls)
  | .word hg ha => .word hg ha
  | @Writes.string _ _ s g q body t hg hb => by
    cases s <;> cases q
    · exact .string (List.forall_mem_singleton.mpr rfl) hb
    · exact .string hg hb
    · exact .string hg hb
    · exact .string hg hb
  | .emptyArray hg hg' => .emptyArray hg hg'
  | .array hg hv hvs => by
    rw [mended_mark .openArray (by decide), (hv.isValueRun hatom).mended_append]
    exact .array hg (hv.mended hatom) (hvs.mended hatom)
  | .emptyObject hg hg' => .emptyObject hg hg'
  | @Writes.object _ _ _ g g' form body gap k v fs ls ms hg hg' hgap hform hk hv hfs => by
    obtain ⟨gap', hgap', heq⟩ := mended_key g' body gap form (ls ++ ms)
    rw [mended_mark .openObject (by decide), heq, (hv.isValueRun hatom).mended_append]
    exact .object hg hg' (hgap' hgap) trivial hk (hv.mended hatom) (hfs.mended hatom)

theorem WritesItemsAfter.mended (hatom : AtomsAreWords IsAtom) {vs : List Value}
    {ms : List Lexeme} :
    WritesItemsAfter IsAtom IsBody vs ms → WritesItemsAfter IsAtom IsBody vs (mended ms)
  | .close hg => .close hg
  | .trailing hg hg' => .close (List.forall_mem_append.mpr ⟨hg, hg'⟩)
  | .next hg hv hvs => by
    rw [mended_mark .comma (by decide), (hv.isValueRun hatom).mended_append]
    exact .next hg (hv.mended hatom) (hvs.mended hatom)

theorem WritesFieldsAfter.mended (hatom : AtomsAreWords IsAtom) {fs : List (String × Value)}
    {ms : List Lexeme} :
    WritesFieldsAfter IsAtom IsBody fs ms → WritesFieldsAfter IsAtom IsBody fs (mended ms)
  | .close hg => .close hg
  | .trailing hg hg' => .close (List.forall_mem_append.mpr ⟨hg, hg'⟩)
  | @WritesFieldsAfter.next _ _ g g' form body gap k v fs ls ms hg hg' hgap hform hk hv hfs => by
    obtain ⟨gap', hgap', heq⟩ := mended_key g' body gap form (ls ++ ms)
    rw [mended_mark .comma (by decide), heq, (hv.isValueRun hatom).mended_append]
    exact .next hg hg' (hgap' hgap) trivial hk (hv.mended hatom) (hfs.mended hatom)

end

end

theorem trailingComma_not_mem_dropTrailing {ls : List Lexeme} (h : WellPlaced ls)
    (hlast : ∀ l ∈ ls.getLast?, l.role.endsValue = true) :
    ∀ l ∈ dropTrailing ls, l.token ≠ .mark .trailingComma := by
  induction ls using dropTrailing.induct with
  | case1 g m ls ih =>
      have hls := forall_getLast?_of_cons (forall_getLast?_of_cons hlast)
      refine List.forall_mem_cons.mpr ⟨fun heq => ?_, ih h.tail.tail hls⟩
      have hclose : m.role.isClose = true := (List.isChain_cons_cons.mp h.chain).1
      simp only at heq
      rw [Lexeme.role, heq] at hclose
      cases hclose
  | case2 l ls hne ih =>
      rw [dropTrailing.eq_2 l ls hne]
      refine List.forall_mem_cons.mpr ⟨fun heq => ?_, ih h.tail (forall_getLast?_of_cons hlast)⟩
      obtain ⟨g, t⟩ := l
      subst heq
      cases ls with
      | nil => cases hlast _ rfl
      | cons m ls => exact hne g m ls rfl rfl
  | case3 => exact List.forall_mem_nil _

theorem Lexeme.isStrict_mended {l : Lexeme} (h : l.token ≠ .mark .trailingComma) :
    l.mended.token.IsStrict := by
  obtain ⟨g, t⟩ := l
  cases t with
  | mark m => exact fun hm => h (congrArg Token.mark hm)
  | key form body gap => rcases form with (_ | _) | _ <;> rfl
  | string s q body => cases s <;> cases q <;> rfl
  | word cs => trivial

theorem IsValueRun.isStrict_mended {s : Setting} {ls : List Lexeme} (h : IsValueRun s ls) :
    IsStrict (mended ls) :=
  List.forall_mem_map.mpr fun l hl => Lexeme.isStrict_mended
    (trailingComma_not_mem_dropTrailing h.toWellPlaced h.ends l hl)

theorem mended_of_isStrict {ls : List Lexeme} (h : IsStrict ls) : mended ls = ls := by
  induction ls with
  | nil => rfl
  | cons l ls ih =>
      rw [isStrict_cons] at h
      obtain ⟨g, t⟩ := l
      have htrailing : t ≠ .mark .trailingComma := by
        rintro rfl
        exact h.1 rfl
      have hl : Lexeme.mended ⟨g, t⟩ = ⟨g, t⟩ := by
        cases t with
        | key form body gap => cases h.1; rfl
        | string s q body => cases h.1; cases s <;> rfl
        | _ => rfl
      rw [mended_cons htrailing, hl, ih h.2]

/-! ## The text of an array or object -/

theorem Writes.exists_open {IsAtom : List Char → Value → Prop} {s : Setting} {v : Value}
    {IsBody : List Char → String → Prop} {ls : List Lexeme} (h : Writes IsAtom IsBody s v ls)
    (hatom : ∀ cs v, IsAtom cs v → v.kind ≠ .array ∧ v.kind ≠ .object)
    (hkind : v.kind = .array ∨ v.kind = .object) :
    ∃ g m ms, ls = ⟨g, .mark m⟩ :: ms ∧ m ≠ .trailingComma := by
  cases h with
  | word hg ha => exact absurd hkind (not_or.mpr (hatom _ _ ha))
  | string hg hb => rcases hkind with hkind | hkind <;> cases hkind
  | _ => exact ⟨_, _, _, rfl, by decide⟩

theorem IsPlainAtom.kind_ne {cs : List Char} {v : Value} (h : IsPlainAtom cs v) :
    v.kind ≠ .array ∧ v.kind ≠ .object := by
  cases h <;> exact ⟨nofun, nofun⟩

theorem Writes.isMendable {s : Setting} {v : Value} {ls : List Lexeme}
    (h : Writes IsPlainAtom IsCleanText s v ls) (hkind : v.kind = .array ∨ v.kind = .object) :
    IsMendable ls where
  toWellPlaced := (h.isValueRun atomsAreWords_isPlainAtom).toWellPlaced
  clean l hl := Token.isClean_of_body (h.forall_body (fun _ _ hb => hb.2) l hl)
  opens := by
    obtain ⟨g, m, ms, rfl, -⟩ := h.exists_open (fun _ _ ha => ha.kind_ne) hkind
    simp

/-- The text that repair makes of loose lexemes is that of lexemes of JSON which write the same
value, and repair makes nothing else of it. -/
theorem Writes.repair {s : Setting} {v : Value} {ls : List Lexeme} {g : List Char}
    (h : Writes IsPlainAtom IsCleanText s v ls) (hkind : v.kind = .array ∨ v.kind = .object)
    (hg : IsGap g) : ∃ ms, Writes IsPlainAtom IsCleanText s v ms ∧ IsStrict ms ∧
      Json.repair (textOf ls ++ g) = textOf ms ∧ Json.repair (textOf ms) = textOf ms := by
  have hatoms := atomsAreWords_isPlainAtom
  have hindent := h.unindent
  have hrun := hindent.isValueRun hatoms
  have hmended := hindent.mended hatoms
  refine ⟨Json.mended (Json.unindent ls), hmended, hrun.isStrict_mended,
    repair_textOf (h.isMendable hkind) (h.isValueRun hatoms).nonempty hg, ?_⟩
  have hfixed : Json.unindent (Json.mended (Json.unindent ls)) = Json.mended (Json.unindent ls) := by
    obtain ⟨g, m, ms, rfl, hm⟩ := h.exists_open (fun _ _ ha => ha.kind_ne) hkind
    rw [Json.unindent, mended_mark m hm]
    rfl
  have hagain := repair_textOf (hmended.isMendable hkind)
    (hmended.isValueRun hatoms).nonempty (List.forall_mem_nil _ : IsGap [])
  rwa [List.append_nil, hfixed, mended_of_isStrict hrun.isStrict_mended] at hagain

/-- Repair makes JSON of loose text, and nothing else of what it has made, so that the text is read
as the value that it writes. The parser of JSON does so too if normalization goes deep enough, and
repairs the text just if it is not JSON as it stands. -/
theorem repair_mends_loose_text {v : Value} {text : List Char} (hnormal : v.isNormal = true)
    (hkind : v.kind = .array ∨ v.kind = .object) (htext : IsLooseText v text) :
    repair (repair text) = repair text ∧
      (v.isShown = true → v.levels ≤ nestingLimit →
        decode (repair text) = .ok v ∧
        (v.levels ≤ Value.normalLimit →
          ∃ p, parseStrict .json (String.ofList text) = .ok p ∧ p.data = v ∧
            (p.repaired = true ↔ ¬ ∃ w, decode text = .ok w))) := by
  obtain ⟨ls, g, hls, hg, rfl⟩ := htext
  obtain ⟨ms, hms, hstrict, hrepair, hagain⟩ := hls.repair hkind hg
  refine ⟨by rw [hrepair, hagain], fun hshown hdepth => ?_⟩
  have hnormalize := Value.normalize_of_isNormal v hnormal
  have hfits := exceeds_of_levels_le v _ hdepth
  have hmended : decode (repair (textOf ls ++ g)) = .ok v := by
    have h := (decode_textOf (hms.ofPlain hshown) (List.forall_mem_nil _ : IsGap []) hfits).1
      hstrict
    rwa [List.append_nil, hnormalize, ← hrepair] at h
  obtain ⟨hjson, hnot⟩ := decode_textOf (hls.ofPlain hshown) hg hfits
  refine ⟨hmended, fun hle => ?_⟩
  have hraw : ∀ w, decode (textOf ls ++ g) = .ok w → w = v := by
    intro w hw
    by_cases hstrict : IsStrict ls
    · rw [hjson hstrict, hnormalize] at hw
      exact (Except.ok.inj hw).symm
    · obtain ⟨e, he⟩ := hnot hstrict
      rw [he] at hw
      cases hw
  rw [← String.toList_ofList (l := textOf ls ++ g)] at hmended hraw
  have hparse := parseStrict_json_of_repair hmended hle hraw
  rwa [String.toList_ofList] at hparse

theorem repair_mends_loose_text_nested :
    decode (repair "\x7ba : 'x', 'b': [\"y\",] \x7d".toList) =
      .ok (.obj [("a", .str "x"), ("b", .arr [.str "y"])]) := by
  have hwrites : Writes IsPlainAtom IsCleanText .item
      (.obj [("a", .str "x"), ("b", .arr [.str "y"])])
      [⟨[], .mark .openObject⟩, ⟨[], .key .bare ['a'] [' ']⟩,
        ⟨[' '], .string .field .single ['x']⟩, ⟨[], .mark .comma⟩,
        ⟨[' '], .key (.quoted .single) ['b'] []⟩, ⟨[' '], .mark .openArray⟩,
        ⟨[], .string .item .double ['y']⟩, ⟨[], .mark .trailingComma⟩, ⟨[], .mark .closeArray⟩,
        ⟨[' '], .mark .closeObject⟩] := by
    refine .object ?_ ?_ ?_ ?_ ⟨?_, ?_⟩ (.string ?_ ⟨?_, ?_⟩) (.next ?_ ?_ ?_ ?_ ⟨?_, ?_⟩
      (.array ?_ (.string ?_ ⟨?_, ?_⟩) (.trailing ?_ ?_)) (.close ?_))
    all_goals decide
  have hmended := (repair_mends_loose_text rfl (.inr rfl) ⟨_, [], hwrites, by decide, rfl⟩).2
  exact (hmended rfl (by decide)).1

/-! ## Integers that are not read -/

theorem readValue_of_long {ds rest : List Char} (negative : Bool) (hds : IsWhole ds)
    (hrest : EndsWord rest) (hpoint : ∀ r, rest ≠ '.' :: r)
    (hlong : Numeral.maxDigits < ds.length) (fuel depth : Nat) :
    readValue (fuel + 1) depth (signText negative ++ (ds ++ rest)) =
      .error (.integerTooLong ds.length) := by
  obtain ⟨d, ds, rfl, hd⟩ := hds.exists_cons
  have hsign : ∀ r, d :: ds ++ rest ≠ '-' :: r :=
    fun r heq => absurd ((List.cons.inj heq).1 ▸ hd) (by decide)
  have h := readNumber_eq (fun _ : negative = false => hsign)
    (splitWhole_append hds hrest.not_isDigit)
    (splitFraction_append .none hpoint hrest.not_isDigit) (splitExponent_append .none hrest)
  rw [if_pos ⟨rfl, rfl, hlong⟩] at h
  cases negative with
  | true => exact (readValue_minus hd fuel depth _).trans h
  | false => exact (readValue_digit hd fuel depth _).trans h

theorem readDocument_of_long {n : Int}
    (h : Numeral.maxDigits < (Nat.toDigits 10 n.natAbs).length) :
    ∃ e, readDocument ('[' :: ((toString n).toList ++ [']'])) = .error e := by
  have hends : EndsWord [']'] := by simp [EndsWord]; decide
  have hvalue := fun fuel depth => readValue_of_long (decide (n < 0)) (isWhole_toDigits n.natAbs)
    hends (by simp) h fuel depth
  simp only [← List.append_assoc, ← toList_toString] at hvalue
  obtain ⟨hne, hword⟩ := atomsAreWords_isPlainAtom _ _ (.int (n := n))
  obtain ⟨c, cs, htext⟩ := List.exists_cons_of_ne_nil hne
  have hc := hword c (htext ▸ List.mem_cons_self)
  have hskip : skipSpace ((toString n).toList ++ [']']) = (toString n).toList ++ [']'] := by
    rw [htext]
    exact skipSpace_append (List.forall_mem_nil _ : IsGap []) <| by
      simpa using isSpace_eq_false_of_isBlank (isBlank_eq_false_of_isWordPart hc)
  have hopen : (skipSpace ((toString n).toList ++ [']'])).head? ≠ some ']' := by
    rw [hskip, htext]
    intro heq
    exact absurd (Option.some.inj heq ▸ hc) (by decide)
  have hlength : ((toString n).toList ++ [']']).length = cs.length + 2 := by
    rw [htext]
    simp
  have hopening : skipSpace ('[' :: ((toString n).toList ++ [']'])) =
      '[' :: ((toString n).toList ++ [']']) := rfl
  obtain ⟨d, hd⟩ : ∃ d, nestingLimit = d + 1 := ⟨_, rfl⟩
  rw [readDocument_eq (by simp), hopening, List.length_cons, hlength, hd, readValue_array hopen,
    hskip, readItems, hvalue]
  exact ⟨_, rfl⟩

/-- No text that repair makes of one with an integer of too many digits is read. -/
theorem decode_repair_of_long {n : Int}
    (h : Numeral.maxDigits < (Nat.toDigits 10 n.natAbs).length) :
    IsLooseText (.arr [.int n]) ('[' :: ((toString n).toList ++ [']'])) ∧
      ∃ e, decode (repair ('[' :: ((toString n).toList ++ [']']))) = .error e := by
  have hwrites : Writes IsPlainAtom IsCleanText .item (.arr [.int n])
      [⟨[], .mark .openArray⟩, ⟨[], .word (toString n).toList⟩, ⟨[], .mark .closeArray⟩] :=
    .array (by decide) (.word (by decide) .int) (.close (by decide))
  have htext : textOf [⟨[], .mark .openArray⟩, ⟨[], .word (toString n).toList⟩,
      ⟨[], .mark .closeArray⟩] = '[' :: ((toString n).toList ++ [']']) := by
    simp [Lexeme.text, Token.text, Mark.char]
  have hstrict : IsStrict [⟨[], .mark .openArray⟩, ⟨[], .word (toString n).toList⟩,
      ⟨[], .mark .closeArray⟩] := by
    simp [Token.IsStrict]
  have hgap : IsGap [] := by decide
  have hrepair := repair_textOf (hwrites.isMendable (.inl rfl)) (List.cons_ne_nil _ _) hgap
  rw [unindent, mended_of_isStrict hstrict, List.append_nil, htext] at hrepair
  obtain ⟨e, he⟩ := readDocument_of_long h
  refine ⟨⟨_, [], hwrites, hgap, by rw [List.append_nil, htext]⟩, ?_⟩
  rw [hrepair, decode, he]
  exact ⟨_, rfl⟩

theorem lt_length_toDigits {digits : Nat} (h : 0 < digits) :
    digits < (Nat.toDigits 10 (10 ^ digits)).length :=
  Nat.lt_of_not_le fun hle =>
    absurd ((Nat.length_toDigits_le_iff (by decide) h).mp hle) (Nat.lt_irrefl _)

/-- The least integer that has more digits than an integer may have. -/
def longInteger : Int := (10 ^ Numeral.maxDigits : Nat)

theorem decode_repair_longInteger :
    (Value.arr [.int longInteger]).isNormal = true ∧
    IsLooseText (.arr [.int longInteger]) ('[' :: ((toString longInteger).toList ++ [']'])) ∧
      ∃ e, decode (repair ('[' :: ((toString longInteger).toList ++ [']']))) = .error e := by
  refine ⟨rfl, decode_repair_of_long ?_⟩
  rw [longInteger, Int.natAbs_natCast]
  exact lt_length_toDigits (by decide)

end TypeDraft.Json
