import TypeDraft.Proofs.Json.Reading
import TypeDraft.Proofs.Value.Normal

/-!
# What is read as JSON was written by strict lexemes

The other way round: every text that is read as JSON is a text of strict lexemes, and the value
read is the normal tree of what they write.
-/

namespace TypeDraft.Json

theorem exists_gap (cs : List Char) : ∃ g, IsGap g ∧ cs = g ++ skipSpace cs :=
  ⟨cs.takeWhile isSpace, fun _ hc => List.mem_takeWhile_imp hc,
    (List.takeWhile_append_dropWhile ..).symm⟩

theorem exceeds_array {depth : Nat} {vs : List Value} (h : Value.anyExceeds level depth vs = false) :
    (Value.arr vs).exceeds level (depth + 1) = false := by
  simpa [Value.exceeds, level] using h

theorem exceeds_object {depth : Nat} {fs : List (String × Value)}
    (h : Value.anyFieldExceeds level depth fs = false) :
    (Value.obj fs).exceeds level (depth + 1) = false := by
  simpa [Value.exceeds, level] using h

theorem exceeds_of_isAtom {w : List Char} {v : Value} (h : IsAtom w v) (depth : Nat) :
    v.exceeds level depth = false := by
  cases h with
  | number h =>
      cases h with
      | mk _ _ _ _ =>
          unfold numberValue
          split <;> rfl
  | _ => rfl

theorem exists_writes_of_isAtom {g cs rest : List Char} {v : Value} (s : Setting) (depth : Nat)
    (h : IsAtom cs v) (hg : IsGap g) :
    ∃ v' ls, Writes IsAtom Escapes s v' ls ∧ IsStrict ls ∧ g ++ (cs ++ rest) = textOf ls ++ rest ∧
      v = v'.normalize ∧ v'.exceeds level depth = false :=
  ⟨v, [⟨g, .word cs⟩], .word hg h, by simp [Token.IsStrict], by simp [Lexeme.text, Token.text],
    h.normalize.symm, exceeds_of_isAtom h depth⟩

mutual

theorem exists_writes_of_readValue : (fuel : Nat) → ∀ {depth : Nat} {cs rest g : List Char}
    {w : Value} (s : Setting), readValue fuel depth cs = .ok (w, rest) → IsGap g →
    ∃ v ls, Writes IsAtom Escapes s v ls ∧ IsStrict ls ∧ g ++ cs = textOf ls ++ rest ∧
      w = v.normalize ∧ v.exceeds level depth = false
  | 0, depth, cs, rest, g, w, s, h, hg => by cases h
  | fuel + 1, depth, cs, rest, g, w, s, h, hg => by
    rw [readValue.eq_def] at h
    simp only at h
    split at h
    · next r =>
        split at h
        · next t r' hstring =>
            obtain ⟨body, rfl, hbody⟩ := exists_escapes hstring
            obtain ⟨rfl, rfl⟩ := Prod.mk.inj (Except.ok.inj h)
            exact ⟨.str t, [⟨g, .string s .double body⟩], .string hg hbody, by simp [Token.IsStrict],
              by simp [Lexeme.text, Token.text, inQuotes, QuoteMark.char], rfl, rfl⟩
        · cases h
    · next r =>
        cases depth with
        | zero => cases h
        | succ depth =>
            obtain ⟨g', hg', hr⟩ := exists_gap r
            simp only at h
            split at h
            · next r' hclose =>
                obtain ⟨rfl, rfl⟩ := Prod.mk.inj (Except.ok.inj h)
                refine ⟨.obj [], [⟨g, .mark .openObject⟩, ⟨g', .mark .closeObject⟩],
                  .emptyObject hg hg', by simp [Token.IsStrict], ?_, rfl, exceeds_object rfl⟩
                rw [hr, hclose]
                simp [Lexeme.text, Token.text, Mark.char]
            · obtain ⟨body, gap, k, v, fs, ls, ms, hgap, hbody, hv, hfs, hstrict, htext, rfl,
                hdepth⟩ := exists_writes_of_readFields fuel h hg'
              refine ⟨.obj ((k, v) :: fs), ⟨g, .mark .openObject⟩ ::
                ⟨g', .key (.quoted .double) body gap⟩ :: (ls ++ ms),
                .object hg hg' hgap trivial hbody hv hfs, ?_, ?_, rfl, exceeds_object hdepth⟩
              · simpa [Token.IsStrict] using hstrict
              · rw [textOf_mark_append, ← htext, ← hr]
                rfl
    · next r =>
        cases depth with
        | zero => cases h
        | succ depth =>
            obtain ⟨g', hg', hr⟩ := exists_gap r
            simp only at h
            split at h
            · next r' hclose =>
                obtain ⟨rfl, rfl⟩ := Prod.mk.inj (Except.ok.inj h)
                refine ⟨.arr [], [⟨g, .mark .openArray⟩, ⟨g', .mark .closeArray⟩],
                  .emptyArray hg hg', by simp [Token.IsStrict], ?_, rfl, exceeds_array rfl⟩
                rw [hr, hclose]
                simp [Lexeme.text, Token.text, Mark.char]
            · obtain ⟨v, vs, ls, ms, hv, hvs, hstrict, htext, rfl, hdepth⟩ :=
                exists_writes_of_readItems fuel h hg'
              refine ⟨.arr (v :: vs), ⟨g, .mark .openArray⟩ :: (ls ++ ms), .array hg hv hvs,
                ?_, ?_, rfl, exceeds_array hdepth⟩
              · simpa [Token.IsStrict] using hstrict
              · rw [textOf_mark_append, ← htext, ← hr]
                rfl
    · obtain ⟨rfl, rfl⟩ := Prod.mk.inj (Except.ok.inj h)
      exact exists_writes_of_isAtom s depth .null hg
    · obtain ⟨rfl, rfl⟩ := Prod.mk.inj (Except.ok.inj h)
      exact exists_writes_of_isAtom s depth IsAtom.true hg
    · obtain ⟨rfl, rfl⟩ := Prod.mk.inj (Except.ok.inj h)
      exact exists_writes_of_isAtom s depth IsAtom.false hg
    · obtain ⟨rfl, rfl⟩ := Prod.mk.inj (Except.ok.inj h)
      exact exists_writes_of_isAtom s depth .nan hg
    · obtain ⟨rfl, rfl⟩ := Prod.mk.inj (Except.ok.inj h)
      exact exists_writes_of_isAtom s depth .infinity hg
    · obtain ⟨rfl, rfl⟩ := Prod.mk.inj (Except.ok.inj h)
      exact exists_writes_of_isAtom s depth .minusInfinity hg
    · obtain ⟨cs, rfl, hnumber⟩ := exists_isNumber h
      exact exists_writes_of_isAtom s depth (.number hnumber) hg

theorem exists_writes_of_readItems : (fuel : Nat) → ∀ {depth : Nat} {items : List Value}
    {cs rest g : List Char} {w : Value}, readItems fuel depth items cs = .ok (w, rest) → IsGap g →
    ∃ v vs ls ms, Writes IsAtom Escapes .item v ls ∧ WritesItemsAfter IsAtom Escapes vs ms ∧
      IsStrict (ls ++ ms) ∧ g ++ cs = textOf (ls ++ ms) ++ rest ∧
      w = .arr (items.reverse ++ Value.normalizeItems (v :: vs)) ∧
      Value.anyExceeds level depth (v :: vs) = false
  | 0, depth, items, cs, rest, g, w, h, hg => by cases h
  | fuel + 1, depth, items, cs, rest, g, w, h, hg => by
    rw [readItems] at h
    split at h
    · cases h
    · next v r hread =>
        obtain ⟨v, ls, hv, hstrict, htext, rfl, hdepth⟩ :=
          exists_writes_of_readValue fuel .item hread hg
        obtain ⟨g', hg', hr⟩ := exists_gap r
        split at h
        · next r' hclose =>
            obtain ⟨rfl, rfl⟩ := Prod.mk.inj (Except.ok.inj h)
            refine ⟨v, [], ls, [⟨g', .mark .closeArray⟩], hv, .close hg', ?_, ?_, ?_, ?_⟩
            · simpa [Token.IsStrict] using hstrict
            · rw [htext, hr, hclose]
              simp [Lexeme.text, Token.text, Mark.char]
            · simp [Value.normalizeItems]
            · simp [Value.anyExceeds, hdepth]
        · next r' hcomma =>
            obtain ⟨g'', hg'', hr'⟩ := exists_gap r'
            obtain ⟨v', vs, ls', ms, hv', hvs, hstrict', htext', rfl, hdepth'⟩ :=
              exists_writes_of_readItems fuel h hg''
            refine ⟨v, v' :: vs, ls, ⟨g', .mark .comma⟩ :: (ls' ++ ms), hv, .next hg' hv' hvs,
              ?_, ?_, ?_, ?_⟩
            · simpa [Token.IsStrict, hstrict] using hstrict'
            · rw [htext, hr, hcomma, hr', htext']
              simp [Lexeme.text, Token.text, Mark.char]
            · simp [Value.normalizeItems]
            · rw [Value.anyExceeds, hdepth, hdepth']
              rfl
        · cases h

theorem exists_writes_of_readFields : (fuel : Nat) → ∀ {depth : Nat}
    {fields : List (String × Value)} {cs rest g : List Char} {w : Value},
    readFields fuel depth fields cs = .ok (w, rest) → IsGap g →
    ∃ body gap k v fs ls ms, IsGap gap ∧ Escapes body k ∧ Writes IsAtom Escapes .field v ls ∧
      WritesFieldsAfter IsAtom Escapes fs ms ∧ IsStrict (ls ++ ms) ∧
      g ++ cs = textOf (⟨g, .key (.quoted .double) body gap⟩ :: (ls ++ ms)) ++ rest ∧
      w = .obj (collectFields (fields.reverse ++ Value.normalizeFields ((k, v) :: fs))) ∧
      Value.anyFieldExceeds level depth ((k, v) :: fs) = false
  | 0, depth, fields, cs, rest, g, w, h, hg => by cases h
  | fuel + 1, depth, fields, cs, rest, g, w, h, hg => by
    rw [readFields.eq_def] at h
    simp only at h
    split at h
    · next r =>
        split at h
        · cases h
        · next k r' hstring =>
            obtain ⟨body, rfl, hbody⟩ := exists_escapes hstring
            obtain ⟨gap, hgap, hr'⟩ := exists_gap r'
            split at h
            · next r'' hcolon =>
                obtain ⟨g', hg', hr''⟩ := exists_gap r''
                split at h
                · cases h
                · next v r₃ hread =>
                    obtain ⟨v, ls, hv, hstrict, htext, rfl, hdepth⟩ :=
                      exists_writes_of_readValue fuel .field hread hg'
                    obtain ⟨g₃, hg₃, hr₃⟩ := exists_gap r₃
                    have hkey : g ++ '"' :: (body ++ '"' :: r') =
                        Lexeme.text ⟨g, .key (.quoted .double) body gap⟩ ++ (textOf ls ++ r₃) := by
                      rw [hr', hcolon, hr'', htext]
                      simp [Lexeme.text, Token.text, KeyForm.text, inQuotes, QuoteMark.char]
                    split at h
                    · next r₄ hclose =>
                        obtain ⟨rfl, rfl⟩ := Prod.mk.inj (Except.ok.inj h)
                        refine ⟨body, gap, k, v, [], ls, [⟨g₃, .mark .closeObject⟩], hgap, hbody,
                          hv, .close hg₃, ?_, ?_, ?_, ?_⟩
                        · simpa [Token.IsStrict] using hstrict
                        · rw [hkey, hr₃, hclose]
                          simp [Lexeme.text, Token.text, Mark.char]
                        · simp [Value.normalizeFields]
                        · simp [Value.anyFieldExceeds, hdepth]
                    · next r₄ hcomma =>
                        obtain ⟨g₄, hg₄, hr₄⟩ := exists_gap r₄
                        obtain ⟨body', gap', k', v', fs, ls', ms, hgap', hbody', hv', hfs,
                          hstrict', htext', rfl, hdepth'⟩ := exists_writes_of_readFields fuel h hg₄
                        refine ⟨body, gap, k, v, (k', v') :: fs, ls, ⟨g₃, .mark .comma⟩ ::
                          ⟨g₄, .key (.quoted .double) body' gap'⟩ :: (ls' ++ ms), hgap, hbody, hv,
                          .next hg₃ hg₄ hgap' trivial hbody' hv' hfs, ?_, ?_, ?_, ?_⟩
                        · simpa [Token.IsStrict, hstrict] using hstrict'
                        · rw [hkey, hr₃, hcomma, hr₄, htext']
                          simp [Lexeme.text, Token.text, Mark.char]
                        · simp [Value.normalizeFields]
                        · rw [Value.anyFieldExceeds, hdepth, hdepth']
                          rfl
                    · cases h
            · cases h
    · cases h

end

/-- Every text of JSON is one of strict lexemes. -/
theorem exists_writes_of_decode {cs : List Char} {w : Value} (h : decode cs = .ok w) :
    ∃ v ls g, Writes IsAtom Escapes .item v ls ∧ IsStrict ls ∧ IsGap g ∧ cs = textOf ls ++ g ∧
      w = v.normalize ∧ v.exceeds level nestingLimit = false := by
  rw [decode] at h
  cases hread : readDocument cs with
  | error e => rw [hread] at h; cases h
  | ok w' =>
      rw [hread] at h
      cases h
      unfold readDocument at hread
      split at hread
      · cases hread
      · obtain ⟨g, hg, hcs⟩ := exists_gap cs
        split at hread
        · cases hread
        · next v r hvalue =>
            obtain ⟨v, ls, hv, hstrict, htext, rfl, hdepth⟩ :=
              exists_writes_of_readValue _ .item hvalue hg
            split at hread
            · next hend =>
                cases hread
                obtain ⟨g', hg', hr⟩ := exists_gap r
                rw [hend, List.append_nil] at hr
                exact ⟨v, ls, g', hv, hstrict, hg', by rw [hcs, htext, hr], rfl, hdepth⟩
            · cases hread

theorem isNormal_of_decode {cs : List Char} {w : Value} (h : decode cs = .ok w) :
    w.isNormal = true := by
  obtain ⟨v, _, _, _, _, _, _, rfl, _⟩ := exists_writes_of_decode h
  exact Value.isNormal_normalize v

end TypeDraft.Json
