import TypeDraft.Proofs.Yaml.Scanning
import TypeDraft.Proofs.Yaml.Writing

/-!
# Reading what was written

What is written for a string is read as that string: a quoted one up to its closing quote, a plain
one up to the next line, the blanks before which are passed as well.
-/

namespace TypeDraft.Yaml

open Text (IsPlain IsPrintable)

/-- Whether a character is neither a blank or a tab nor a line end. -/
def IsVisible (c : Char) : Prop := c ≠ ' ' ∧ c ≠ '\t' ∧ isBreak c = false

theorem isVisible_of_isInk {c : Char} (h : IsInk c) (hplain : IsPlain c) : IsVisible c := by
  have hne : ∀ d : Char, ¬ IsPlain d → c ≠ d := by
    rintro d hd rfl
    exact hd hplain
  refine ⟨h.1, hne '\t' (by decide), ?_⟩
  simp [isBreak, h.2, hne '\r' (by decide), hne '\u0085' (by decide), hne '\u2028' (by decide),
    hne '\u2029' (by decide)]

/-! ## Places -/

namespace Cursor

variable {c : Cursor} {l r : List Char} {d : Char}

theorem next_of_flat (h : c.rest = d :: r) (hbreak : isBreak d = false) (hmark : d ≠ '\ufeff') :
    c.next = ⟨r, c.index + 1, c.line, c.column + 1⟩ := by
  have hreturn : d ≠ '\r' := by
    rintro rfl
    cases hbreak
  unfold next
  simp [h, hbreak, hmark, hreturn]

theorem next_of_lineFeed (h : c.rest = '\n' :: r) : c.next = ⟨r, c.index + 1, c.line + 1, 0⟩ := by
  unfold next
  simp [h, isBreak]

/-- Over characters that end no line a cursor stays on its line. -/
theorem advance_of_flat (h : c.rest = l ++ r)
    (hl : ∀ d ∈ l, isBreak d = false ∧ d ≠ '\ufeff') :
    c.advance l.length = ⟨r, c.index + l.length, c.line, c.column + l.length⟩ := by
  induction l generalizing c with
  | nil =>
      obtain ⟨rest, index, line, column⟩ := c
      obtain rfl : rest = r := h
      rfl
  | cons d l ih =>
      obtain ⟨⟨hbreak, hmark⟩, hl⟩ := List.forall_mem_cons.mp hl
      rw [List.length_cons, advance_succ, next_of_flat h hbreak hmark, ih rfl hl]
      simp only [Nat.add_assoc, Nat.add_comm 1]

/-- Behind a line feed a cursor stands in the column that the blanks there lead to. -/
theorem column_of_lineFeed {n : Nat} (h : c.rest = '\n' :: (List.replicate n ' ' ++ r)) :
    (c.advance (n + 1)).column = n := by
  have hflat : ∀ d ∈ List.replicate n ' ', isBreak d = false ∧ d ≠ '\ufeff' := by
    intro d hd
    rw [List.eq_of_mem_replicate hd]
    decide
  have hblanks := advance_of_flat (c := c.next) (by rw [rest_next, h, List.tail_cons]) hflat
  rw [List.length_replicate] at hblanks
  rw [advance_succ, hblanks, next_of_lineFeed h, Nat.zero_add]

theorem takeBreak_of_lineFeed (h : c.rest = '\n' :: r) : c.takeBreak = some ('\n', c.next) := by
  simp [takeBreak, h]

theorem atDocumentMark_eq_false (h : c.rest = d :: r) (hhyphen : d ≠ '-') (hpoint : d ≠ '.') :
    c.atDocumentMark = false := by
  rw [atDocumentMark, TokenSource.atMark_eq_false '-' h hhyphen,
    TokenSource.atMark_eq_false '.' h hpoint, Bool.or_self]

end Cursor

/-! ## Between quotes -/

theorem replicate_append_cons {α : Type} (n : Nat) (a : α) (as : List α) :
    List.replicate n a ++ a :: as = List.replicate (n + 1) a ++ as := by
  rw [List.replicate_succ', List.append_assoc, List.singleton_append]

section

variable {quote d : Char} {out cs body r g g' : List Char} {c : Cursor} {fuel : Nat}

/-- Line feeds and the indentation behind them are passed. -/
theorem takeBreaks_of_lineFeeds {k : Nat} (out : List Char)
    (hrest : c.rest = List.replicate k '\n' ++ ' ' :: ' ' :: d :: r) (hd : IsVisible d)
    (hfuel : k < fuel) :
    takeBreaks out fuel c = .ok (List.replicate k '\n' ++ out, c.advance (k + 2)) := by
  induction k generalizing out c fuel with
  | zero =>
      obtain ⟨fuel, rfl⟩ : ∃ m, fuel = m + 1 := Nat.exists_eq_succ_of_ne_zero (by omega)
      have hmark : c.atDocumentMark = false :=
        Cursor.atDocumentMark_eq_false hrest (by decide) (by decide)
      have hskip : c.skipWhile (fun ch => ch == ' ' || ch == '\t') = c.advance 2 :=
        Cursor.skipWhile_of_append (l := [' ', ' ']) hrest (by simp)
          (by simp [hd.1, hd.2.1])
      have hnone : (c.advance 2).takeBreak = none := by
        refine Cursor.takeBreak_eq_none ?_
        simpa [hrest] using hd.2.2
      rw [takeBreaks, hmark, if_neg Bool.false_ne_true]
      simp only [hskip, hnone]
      rfl
  | succ k ih =>
      obtain ⟨fuel, rfl⟩ : ∃ m, fuel = m + 1 := Nat.exists_eq_succ_of_ne_zero (by omega)
      rw [List.replicate_succ, List.cons_append] at hrest
      have hmark : c.atDocumentMark = false :=
        Cursor.atDocumentMark_eq_false hrest (by decide) (by decide)
      have hskip : c.skipWhile (fun ch => ch == ' ' || ch == '\t') = c :=
        Cursor.skipWhile_of_append (l := []) hrest nofun (by simp)
      rw [takeBreaks, hmark, if_neg Bool.false_ne_true]
      simp only [hskip, Cursor.takeBreak_of_lineFeed hrest]
      rw [ih _ (by rw [Cursor.rest_next, hrest, List.tail_cons]) (by omega), ← Cursor.advance_one,
        Cursor.advance_advance, replicate_append_cons, Nat.add_comm 1, Nat.add_right_comm]

/-- Line feeds inside quotes are read as one less, and a single one as a blank. -/
theorem readQuoted_lineFeeds {k : Nat} (hquote : '\n' ≠ quote)
    (hrest : c.rest = '\n' :: (List.replicate k '\n' ++ ' ' :: ' ' :: d :: r)) (hd : IsVisible d)
    (hfuel : k < fuel) :
    readQuoted quote out (fuel + 1) c =
      readQuoted quote (foldBreaks '\n' (List.replicate k '\n') ++ out) fuel
        (c.advance (k + 3)) := by
  have htake : c.takeWhile (fun ch => ch == ' ' || ch == '\t') = ([], c) :=
    Cursor.takeWhile_of_append (l := []) hrest nofun (by simp)
  have hbreaks := takeBreaks_of_lineFeeds (c := c.next) (r := r) [] (by simp [hrest]) hd hfuel
  rw [readQuoted, hrest]
  simp only [htake, Cursor.takeBreak_of_lineFeed hrest, hbreaks]
  simp [hquote, isBreak, ← Cursor.advance_one, Nat.add_comm 1]

/-- What is written for a gap inside quotes is read as the gap. -/
theorem readQuoted_gap (hgap : FoldedGap g g') (hblank : ' ' ≠ quote) (hbreak : '\n' ≠ quote)
    (hrest : c.rest = g' ++ d :: r) (hd : IsVisible d) (hfuel : g'.length ≤ fuel) :
    readQuoted quote out (fuel + 1) c =
      readQuoted quote (g.reverse ++ out) fuel (c.advance g'.length) := by
  cases hgap with
  | blanks n =>
      have hrun : ∀ d ∈ List.replicate n ' ', d = ' ' := fun d => List.eq_of_mem_replicate
      rw [readQuoted_blanks hrun hrest hblank hd.1 hd.2.1 hd.2.2]
      simp [replicate_append_cons, List.replicate_succ]
  | wrapped =>
      rw [readQuoted_lineFeeds (k := 0) hbreak hrest hd (by simp [continued] at hfuel; omega)]
      rfl
  | breaks n =>
      rw [List.length_append, List.length_replicate] at hfuel
      rw [readQuoted_lineFeeds (k := n + 1) hbreak (by simpa [List.replicate_succ] using hrest) hd
        (by omega)]
      simp [foldBreaks, replicate_append_cons, List.replicate_succ]

theorem exists_of_folded (h : Folded ['\'', '\''] cs body) (hcs : ∀ d ∈ cs, IsPlain d)
    (hhead : ∀ d ∈ cs.head?, IsInk d) :
    ∃ d r', body ++ '\'' :: r = d :: r' ∧ IsVisible d := by
  have hquote : IsVisible '\'' := ⟨by decide, by decide, by decide⟩
  cases h with
  | nil => exact ⟨_, _, rfl, hquote⟩
  | @char c cs body hink _ =>
      split
      · exact ⟨_, _, rfl, hquote⟩
      · exact ⟨c, _, rfl, isVisible_of_isInk hink (hcs c List.mem_cons_self)⟩
  | gap hgap _ _ =>
      cases hgap with
      | blanks n => exact absurd rfl (hhead ' ' (by simp [List.replicate_succ])).1
      | wrapped => exact absurd rfl (hhead ' ' (by simp)).1
      | breaks n => exact absurd rfl (hhead '\n' (by simp [List.replicate_succ])).2

/-- What is written between single quotes is read as the text. -/
theorem readQuoted_folded (h : Folded ['\'', '\''] cs body) (hcs : ∀ d ∈ cs, IsPlain d)
    (hrest : c.rest = body ++ '\'' :: r) (hr : r.head? ≠ some '\'')
    (hfuel : body.length < fuel) :
    readQuoted '\'' out fuel c =
      .ok (String.ofList (out.reverse ++ cs), c.advance (body.length + 1)) := by
  induction h generalizing out c fuel with
  | nil =>
      obtain ⟨fuel, rfl⟩ : ∃ m, fuel = m + 1 := Nat.exists_eq_succ_of_ne_zero (by omega)
      rw [readQuoted, hrest]
      simp [hr, Cursor.advance_one]
  | @char ch cs body hink _ ih =>
      obtain ⟨fuel, rfl⟩ : ∃ m, fuel = m + 1 := Nat.exists_eq_succ_of_ne_zero (by omega)
      obtain ⟨hplain, htail⟩ := List.forall_mem_cons.mp hcs
      by_cases hquote : ch = '\''
      · subst hquote
        rw [if_pos rfl] at hrest hfuel ⊢
        rw [List.length_append] at hfuel ⊢
        have hstep : readQuoted '\'' out (fuel + 1) c =
            readQuoted '\'' ('\'' :: out) fuel (c.advance 2) := by
          rw [readQuoted, hrest]
          simp
        rw [hstep, ih htail (by rw [Cursor.rest_advance, hrest]; rfl) (by simp at hfuel; omega)]
        simp [Nat.add_assoc]
      · have hvisible := isVisible_of_isInk hink hplain
        rw [if_neg hquote] at hrest hfuel ⊢
        rw [List.singleton_append, List.cons_append] at hrest
        rw [readQuoted_plain hrest hquote (fun _ => by decide) hvisible.1 hvisible.2.1 hvisible.2.2,
          ih htail (by rw [Cursor.rest_next, hrest]; rfl) (by simp at hfuel; omega)]
        simp [← Cursor.advance_one, Nat.add_comm]
  | @gap g g' cs body hgap hhead hbody ih =>
      obtain ⟨fuel, rfl⟩ : ∃ m, fuel = m + 1 := Nat.exists_eq_succ_of_ne_zero (by omega)
      obtain ⟨-, hcs⟩ := List.forall_mem_append.mp hcs
      obtain ⟨d, r', hd, hvisible⟩ := exists_of_folded (r := r) hbody hcs hhead
      have hpos : 0 < g'.length := by cases hgap <;> simp [continued]
      rw [List.append_assoc] at hrest
      rw [List.length_append] at hfuel ⊢
      rw [readQuoted_gap hgap (by decide) (by decide) (hd ▸ hrest) hvisible (by omega),
        ih hcs (Cursor.rest_advance_append hrest) (by omega)]
      simp [Nat.add_assoc]

/-! ### Escapes -/

/-- A code point is read from its hexadecimal digits. -/
theorem takeHex_hexPadded {width n : Nat} (hwidth : 0 < width) (hn : n < 16 ^ width)
    (hrest : c.rest = hexPadded width n ++ r) : takeHex width c = .ok (n, c.advance width) := by
  obtain ⟨ks, hks, hlt, hvalue⟩ := exists_hexPadded width n
  have hlength := length_hexPadded hwidth hn
  have hdigit : ∀ k < 16, Numeral.hexValue? (Nat.digitChar k).toUpper = some k := by decide
  have hvalues : (hexPadded width n).mapM Numeral.hexValue? = some ks := by
    rw [hks]
    clear hks hvalue hlength
    induction ks with
    | nil => rfl
    | cons k ks ih =>
        obtain ⟨hk, hlt⟩ := List.forall_mem_cons.mp hlt
        rw [List.map_cons, List.mapM_cons, hdigit k hk, ih hlt]
        rfl
  have htake : c.rest.take width = hexPadded width n := by
    rw [hrest, List.take_left' hlength]
  rw [hks, List.length_map] at hlength
  simp only [takeHex, htake, hvalues, hlength, if_true, hvalue]

theorem ofCodeUnit_toNat (d : Char) : Text.ofCodeUnit d.toNat = d := by
  have hvalid : d.toNat.isValidChar := d.valid
  have hnot : (Text.isHighSurrogate d.toNat || Text.isLowSurrogate d.toNat) = false := by
    simp only [Text.isHighSurrogate, Text.isLowSurrogate, Bool.or_eq_false_iff,
      Bool.and_eq_false_iff, decide_eq_false_iff_not]
    unfold Nat.isValidChar at hvalid
    omega
  rw [Text.ofCodeUnit, hnot]
  simp

theorem readQuoted_code {x : Char} {width : Nat} (hescape : escape? x = none)
    (hdigits : escapeDigits? x = some width) (hwidth : 0 < width) (hd : d.toNat < 16 ^ width)
    (hrest : c.rest = '\\' :: x :: (hexPadded width d.toNat ++ r)) :
    readQuoted '"' out (fuel + 1) c = readQuoted '"' (d :: out) fuel (c.advance (2 + width)) := by
  have hhex : takeHex width (c.advance 2) = .ok (d.toNat, (c.advance 2).advance width) :=
    takeHex_hexPadded hwidth hd (by rw [Cursor.rest_advance, hrest]; rfl)
  have hvalid : d.toNat < 0x110000 := by
    have hvalid : d.toNat.isValidChar := d.valid
    unfold Nat.isValidChar at hvalid
    omega
  rw [readQuoted, hrest]
  simp [hescape, hdigits, hhex, hvalid, ofCodeUnit_toNat]

/-- What is written for a character as an escape is read as the character. -/
theorem readQuoted_escape {e : List Char} (hescape : escapeOf? d = some e)
    (hrest : c.rest = e ++ r) :
    readQuoted '"' out (fuel + 1) c = readQuoted '"' (d :: out) fuel (c.advance e.length) := by
  have hcode : ∀ x width, 0 < width → d.toNat < 16 ^ width → escape? x = none →
      escapeDigits? x = some width → e = '\\' :: x :: hexPadded width d.toNat →
      readQuoted '"' out (fuel + 1) c =
        readQuoted '"' (d :: out) fuel (c.advance e.length) := by
    rintro x width hwidth hlt hnone hdigits rfl
    rw [readQuoted_code hnone hdigits hwidth hlt hrest, List.length_cons, List.length_cons,
      length_hexPadded hwidth hlt, Nat.add_comm 2]
  have hlt : d.toNat < 0x110000 := by
    have hvalid : d.toNat.isValidChar := d.valid
    unfold Nat.isValidChar at hvalid
    omega
  unfold escapeOf? at hescape
  dsimp only at hescape
  split at hescape
  case h_16 =>
    split_ifs at hescape with hprintable hbyte hplane
    · exact hcode 'x' 2 (by decide) (by omega) rfl rfl (Option.some.inj hescape).symm
    · exact hcode 'u' 4 (by decide) (by omega) rfl rfl (Option.some.inj hescape).symm
    · exact hcode 'U' 8 (by decide) (by omega) rfl rfl (Option.some.inj hescape).symm
  all_goals
    obtain rfl := Option.some.inj hescape
    exact readQuoted_simple hrest rfl

/-- A line that a backslash ends goes on behind the indentation of the next one. -/
theorem readQuoted_continued (hrest : c.rest = '\\' :: '\n' :: ' ' :: ' ' :: d :: r)
    (hd : IsVisible d) (hfuel : 0 < fuel) :
    readQuoted '"' out (fuel + 1) c = readQuoted '"' out fuel (c.advance 4) := by
  have hnext : c.next.rest = '\n' :: ' ' :: ' ' :: d :: r := by rw [Cursor.rest_next, hrest]; rfl
  have hbreaks := takeBreaks_of_lineFeeds (k := 0) (c := c.next.next) (r := r) []
    (by rw [Cursor.rest_next, hnext]; rfl) hd hfuel
  rw [readQuoted, hrest]
  simp only [Cursor.takeBreak_of_lineFeed hnext, hbreaks]
  simp [escape?, escapeDigits?, ← Cursor.advance_one]

theorem exists_of_escaped (h : Escaped cs body) (hblank : body.head? ≠ some ' ') :
    ∃ d r', body ++ '"' :: r = d :: r' ∧ IsVisible d := by
  have hslash : IsVisible '\\' := ⟨by decide, by decide, by decide⟩
  cases h with
  | nil => exact ⟨'"', r, rfl, by decide, by decide, by decide⟩
  | @char c cs body hescape _ =>
      have hprintable := isPrintable_of_escapeOf? hescape
      have hink : IsInk c := ⟨by simpa using hblank, hprintable.ne (by decide)⟩
      exact ⟨c, _, rfl, isVisible_of_isInk hink hprintable.isPlain⟩
  | escape hescape _ =>
      obtain ⟨e, rfl⟩ := exists_of_escapeOf? hescape
      exact ⟨_, _, rfl, hslash⟩
  | blank _ => exact ⟨_, _, rfl, hslash⟩
  | continued _ _ => exact ⟨_, _, rfl, hslash⟩

/-- The blanks at the head of an escaped text are those that are written as they are. -/
theorem Escaped.exists_blanks (h : Escaped cs body) : ∃ n cs' body',
    cs = List.replicate n ' ' ++ cs' ∧ body = List.replicate n ' ' ++ body' ∧
      Escaped cs' body' ∧ body'.head? ≠ some ' ' := by
  induction h with
  | @char c cs body hescape hbody ih =>
      by_cases hblank : c = ' '
      · obtain ⟨n, cs', body', rfl, rfl, hbody', hhead⟩ := ih
        exact ⟨n + 1, cs', body', by rw [hblank]; rfl, by rw [hblank]; rfl, hbody', hhead⟩
      · exact ⟨0, _, _, rfl, rfl, .char hescape hbody, by simpa using hblank⟩
  | nil => exact ⟨0, _, _, rfl, rfl, .nil, nofun⟩
  | escape hescape hbody _ =>
      obtain ⟨e, rfl⟩ := exists_of_escapeOf? hescape
      exact ⟨0, _, _, rfl, rfl, .escape hescape hbody, by simp⟩
  | blank hbody _ => exact ⟨0, _, _, rfl, rfl, .blank hbody, by simp⟩
  | continued hhead hbody _ => exact ⟨0, _, _, rfl, rfl, .continued hhead hbody, by simp⟩

/-- What is written between double quotes is read as the text. -/
theorem readQuoted_escaped (h : Escaped cs body) (hrest : c.rest = body ++ '"' :: r)
    (hfuel : body.length < fuel) :
    readQuoted '"' out fuel c =
      .ok (String.ofList (out.reverse ++ cs), c.advance (body.length + 1)) := by
  induction fuel generalizing out cs body c with
  | zero => cases hfuel
  | succ fuel ih =>
      cases h with
      | nil =>
          rw [readQuoted, hrest]
          simp [Cursor.advance_one]
      | @char ch cs body hescape hbody =>
          have hprintable := isPrintable_of_escapeOf? hescape
          by_cases hblank : ch = ' '
          · subst hblank
            obtain ⟨n, cs, body, rfl, rfl, hbody, hhead⟩ := hbody.exists_blanks
            obtain ⟨d, r', hd, hvisible⟩ := exists_of_escaped (r := r) hbody hhead
            have hrun : ∀ d ∈ List.replicate n ' ', d = ' ' := fun d => List.eq_of_mem_replicate
            simp only [List.length_cons, List.length_append, List.length_replicate] at hfuel ⊢
            rw [List.cons_append, List.append_assoc] at hrest
            rw [readQuoted_blanks hrun (by rw [hrest, hd]; rfl) (by decide) hvisible.1 hvisible.2.1
              hvisible.2.2, ih hbody (by simp [hrest]) (by omega), Cursor.advance_advance]
            have hplace : n + 1 + (body.length + 1) = n + body.length + 1 + 1 := by omega
            simp [replicate_append_cons, List.replicate_succ, hplace]
          · have hquote : ch ≠ '"' := by
              rintro rfl
              cases hescape
            have hslash : ch ≠ '\\' := by
              rintro rfl
              cases hescape
            have hvisible := isVisible_of_isInk ⟨hblank, hprintable.ne (by decide)⟩
              hprintable.isPlain
            rw [List.cons_append] at hrest
            rw [readQuoted_plain hrest hquote (fun h => absurd h hslash) hvisible.1 hvisible.2.1
              hvisible.2.2,
              ih hbody (by simp [hrest]) (by simpa using hfuel)]
            simp [← Cursor.advance_one, Nat.add_comm]
      | @escape ch e cs body hescape hbody =>
          obtain ⟨e', he⟩ := exists_of_escapeOf? hescape
          have hpos : 0 < e.length := by simp [he]
          rw [List.append_assoc] at hrest
          rw [List.length_append] at hfuel ⊢
          rw [readQuoted_escape hescape hrest, ih hbody (Cursor.rest_advance_append hrest)
            (by omega)]
          simp [Nat.add_assoc]
      | @blank cs body hbody =>
          simp only [List.length_cons] at hfuel ⊢
          rw [List.cons_append, List.cons_append] at hrest
          rw [readQuoted_simple hrest rfl,
            ih hbody (by simp [hrest]) (by omega)]
          simp [Nat.add_comm, Nat.add_left_comm]
      | @continued _ body hhead hbody =>
          obtain ⟨d, r', hd, hvisible⟩ := exists_of_escaped (r := r) hbody hhead
          simp only [continued, List.length_append, List.length_cons, List.length_nil] at hfuel ⊢
          rw [readQuoted_continued (by rw [hrest, continued, ← hd]; simp) hvisible (by omega),
            ih hbody (by simp [hrest, continued]) (by omega)]
          simp [Nat.add_comm, Nat.add_left_comm]

end

end TypeDraft.Yaml
