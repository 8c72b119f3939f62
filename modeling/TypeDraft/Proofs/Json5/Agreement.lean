import TypeDraft.Json5.Decode
import TypeDraft.Proofs.Json.Literals
import TypeDraft.Proofs.Json.Writing

/-!
# JSON read as JSON5

The reader of JSON5 takes a text of JSON for the same value or refuses it. It refuses it just if a
string holds a line or paragraph separator, or if arrays and objects are nested too deeply.
-/

namespace TypeDraft.Json5

open Json (Escapes EndsWord EscapesFrom IsAtom IsGap IsNumber IsStrict Lexeme Mark Setting Token
  Writes WritesFieldsAfter WritesItemsAfter level textOf)

/-- How reading ends: well if the text is accepted, else badly. -/
def Ends {α : Type} (accepted : Prop) (r : Option α) (a : α) : Prop :=
  accepted ∧ r = some a ∨ ¬ accepted ∧ r = none

section

variable {α : Type} {p q : Prop} {r : Option α} {a b : α}

theorem Ends.congr (h : Ends p r a) (hpq : p ↔ q) : Ends q r a := by rwa [Ends, ← hpq]

theorem Ends.eq_of_some (h : Ends p r a) (hr : r = some b) : b = a := by
  rcases h with ⟨-, hread⟩ | ⟨-, hread⟩
  · exact Option.some.inj (hr.symm.trans hread)
  · cases hr.symm.trans hread

end

/-! ## White space -/

theorem isBlank_of_isSpace {c : Char} (h : isSpace c = true) (hmark : c ≠ '\ufeff') :
    Text.isBlank c = true := by
  have hnat : ∀ d : Char, c = d → c.toNat = d.toNat := fun d heq => heq ▸ rfl
  simp only [isSpace, isLineEnd, spaceRanges, Text.inRanges, List.any_cons, List.any_nil,
    Bool.or_eq_true, Bool.and_eq_true, beq_iff_eq, decide_eq_true_eq] at h
  simp only [Text.isBlank, Text.blankRanges, Text.inRanges, List.any_cons, List.any_nil,
    Bool.or_eq_true, Bool.and_eq_true, decide_eq_true_eq]
  have hline := hnat '\n'
  have hreturn := hnat '\r'
  have hseparator := hnat '\u2028'
  have hparagraph := hnat '\u2029'
  have htab := hnat '\t'
  have hvertical := hnat '\x0b'
  have hfeed := hnat '\x0c'
  simp only [Char.reduceToNat] at hline hreturn hseparator hparagraph htab hvertical hfeed
  grind

theorem isSpace_of_isSpace {c : Char} (h : Json.isSpace c = true) : isSpace c = true := by
  simp only [Json.isSpace, Bool.or_eq_true, beq_iff_eq] at h
  rcases h with ((rfl | rfl) | rfl) | rfl <;> decide

/-- Whether white space ends before a character. -/
def EndsSpace (c : Char) : Prop := isSpace c = false ∧ c ≠ '/'

theorem endsSpace_of_begins {t : Token} {c : Char} (h : t.Begins c) : EndsSpace c := by
  refine ⟨?_, h.ne (by decide) (by decide)⟩
  by_contra hspace
  have hblank := isBlank_of_isSpace (Bool.not_eq_false _ ▸ hspace) h.ne_byteOrderMark
  exact Bool.false_ne_true (h.isBlank_eq_false.symm.trans hblank)

theorem skipFrom_cons {c : Char} (hc : c ≠ '/') (cs : List Char) :
    skipFrom .space (c :: cs) = if isSpace c then skipFrom .space cs else c :: cs := by
  rw [skipFrom.eq_def]
  split <;> simp_all

theorem skipSpace_append {g cs : List Char} (hg : IsGap g) (hcs : ∀ c ∈ cs.head?, EndsSpace c) :
    skipSpace (g ++ cs) = cs := by
  rw [skipSpace]
  induction g with
  | nil =>
      cases cs with
      | nil => rfl
      | cons c cs =>
          obtain ⟨hspace, hslash⟩ := hcs c rfl
          simp [skipFrom_cons hslash, hspace]
  | cons d g ih =>
      have hd : Json.isSpace d = true := hg d List.mem_cons_self
      have hslash : d ≠ '/' := by
        rintro rfl
        exact absurd hd (by decide)
      rw [List.cons_append, skipFrom_cons hslash, if_pos (isSpace_of_isSpace hd)]
      exact ih fun c hc => hg c (List.mem_cons_of_mem d hc)

theorem skipSpace_of_isGap {g : List Char} (hg : IsGap g) : skipSpace g = [] := by
  have h : skipSpace (g ++ []) = [] := skipSpace_append hg nofun
  rwa [List.append_nil] at h

theorem skipSpace_textOf {l : Lexeme} (hl : l.IsProper) (ls : List Lexeme) (rest : List Char) :
    ∃ c cs, l.token.text = c :: cs ∧ l.token.Begins c ∧
      skipSpace (textOf (l :: ls) ++ rest) = c :: (cs ++ (textOf ls ++ rest)) := by
  obtain ⟨c, cs, htext, hc⟩ := hl.2.exists_begins
  refine ⟨c, cs, htext, hc, ?_⟩
  rw [Json.textOf_cons, Lexeme.text, htext, List.append_assoc, List.append_assoc]
  exact skipSpace_append hl.1 (by simpa using endsSpace_of_begins hc)

theorem skipSpace_mark {g : List Char} (hg : IsGap g) (m : Mark) (ls : List Lexeme)
    (rest : List Char) :
    skipSpace (textOf (⟨g, .mark m⟩ :: ls) ++ rest) = m.char :: (textOf ls ++ rest) := by
  have hm : EndsSpace m.char := by cases m <;> exact ⟨by decide, by decide⟩
  rw [Json.textOf_mark_append]
  exact skipSpace_append hg (by simpa using hm)

/-! ## Strings -/

/-- A quoted text that stands on one line, separators being line ends too. -/
def KeepsLine (body : List Char) : Prop := ∀ c ∈ body, isLineEnd c = false

theorem keepsLine_cons {c : Char} {cs : List Char} :
    KeepsLine (c :: cs) ↔ isLineEnd c = false ∧ KeepsLine cs := List.forall_mem_cons

theorem not_isLineEnd_of_codeUnit? {a b c d : Char} {n : Nat} (h : Json.codeUnit? a b c d = some n) :
    ∀ e ∈ [a, b, c, d], isLineEnd e = false := by
  intro e he
  have hsome := Json.isSome_hexValue?_of_codeUnit? h e he
  by_contra hend
  rw [Bool.not_eq_false] at hend
  simp only [isLineEnd, Bool.or_eq_true, beq_iff_eq] at hend
  rcases hend with ((rfl | rfl) | rfl) | rfl <;> exact absurd hsome (by decide)

theorem simpleEscape_of_some {c d : Char} (h : Json.simpleEscape? c = some d) :
    simpleEscape c = d ∧ isLineEnd c = false ∧ c.isDigit = false ∧
      c ∉ ['x', 'u', '0', '\r'] := by
  unfold Json.simpleEscape? at h
  split at h
  all_goals first | cases h; decide | cases h

theorem readString_plain {c : Char} (hquote : c ≠ '"') (hslash : c ≠ '\\') (out cs : List Char) :
    readString '"' out (c :: cs) =
      if isLineEnd c then none else readString '"' (c :: out) cs := by
  rw [readString]
  · simp [hquote, hslash]
  all_goals simp [hslash]

theorem readString_append {out body rest : List Char} {s : String} (h : EscapesFrom out body s) :
    Ends (KeepsLine body) (readString '"' out (body ++ '"' :: rest)) (s, rest) := by
  induction h with
  | done => exact .inl ⟨nofun, by simp [readString]⟩
  | @plain out c cs s hquote hslash _ _ ih =>
      rw [List.cons_append, readString_plain hquote hslash]
      by_cases hend : isLineEnd c = true
      · rw [if_pos hend]
        exact .inr ⟨fun h => by simp [(keepsLine_cons.mp h).1] at hend, rfl⟩
      · rw [if_neg hend]
        exact ih.congr (by simp [keepsLine_cons, hend])
  | @simple out c d cs s hescape _ ih =>
      obtain ⟨heq, hend, hdigit, hother⟩ := simpleEscape_of_some hescape
      simp only [List.mem_cons, not_or] at hother
      have hread : readString '"' out ('\\' :: c :: cs ++ '"' :: rest) =
          readString '"' (d :: out) (cs ++ '"' :: rest) := by
        rw [List.cons_append, List.cons_append, readString]
        · simp [hend, hdigit, hother, heq]
        all_goals simp [hother]
      have hslash : isLineEnd '\\' = false := by decide
      rw [hread]
      exact ih.congr (by simp [keepsLine_cons, hend, hslash])
  | unit hunit _ ih =>
      have hhex := not_isLineEnd_of_codeUnit? hunit
      simp only [List.forall_mem_cons] at hhex
      have hslash : isLineEnd '\\' = false := by decide
      have hu : isLineEnd 'u' = false := by decide
      simp only [List.cons_append, readString, hunit]
      exact ih.congr (by simp [keepsLine_cons, hhex, hslash, hu])

/-! ## Numbers -/

section

open Json (IsExponent IsFraction IsWhole)

variable {ds rest et : List Char} {e : Option Int}

theorem readExponent_append (h : IsExponent et e) (hrest : EndsWord rest) :
    readExponent (et ++ rest) = some (e, rest) := by
  have hsplit := Json.splitExponent_append h hrest
  cases h with
  | none =>
      rw [List.nil_append]
      unfold readExponent
      split
      · exact absurd rfl (hrest.head?_ne (by decide) _)
      · exact absurd rfl (hrest.head?_ne (by decide) _)
      · rfl
  | plain he _ => rcases he with rfl | rfl <;> simp_all [readExponent]
  | plus he _ => rcases he with rfl | rfl <;> simp_all [readExponent]
  | minus he _ => rcases he with rfl | rfl <;> simp_all [readExponent]

theorem readDecimal_append {ft f : List Char} (negative : Bool) (hwhole : IsWhole ds)
    (hfraction : IsFraction ft f) (hexponent : IsExponent et e)
    (hshort : f = [] → e = none → ds.length ≤ Numeral.maxDigits) (hrest : EndsWord rest) :
    readDecimal negative (ds ++ (ft ++ (et ++ rest))) =
      some (Json.numberValue negative ds f e, rest) := by
  have hhead := hexponent.head?_append hrest
  have hdigit := fun c hc => (hhead c hc).2
  have hbehind := hfraction.not_isDigit_head?_append hdigit
  have hsplit := Json.splitWhole_append hwhole hbehind
  obtain ⟨d, ds, rfl, -⟩ := hwhole.exists_cons
  have hafter : (ft ++ (et ++ rest)).head?.any Char.isDigit = false := by
    cases hcs : (ft ++ (et ++ rest)).head? with
    | none => rfl
    | some c => exact hbehind c hcs
  simp only [readDecimal, hsplit, hafter]
  cases hfraction with
  | none =>
      have hpoint : ∀ r, et ++ rest ≠ '.' :: r := fun r heq =>
        (hhead '.' (by rw [heq]; rfl)).1 rfl
      rw [List.nil_append]
      split
      · next hmatch => exact absurd hmatch (hpoint _)
      · simp only [readExponent_append hexponent hrest]
        cases e with
        | none => simpa [Json.numberValue] using hshort rfl rfl
        | some e => simp [Json.numberValue]
  | point hds =>
      obtain ⟨htake, hdrop⟩ := hds.split hdigit
      obtain ⟨c, f, rfl⟩ := List.exists_cons_of_ne_nil hds.1
      simp only [List.cons_append] at htake hdrop ⊢
      simp only [htake, hdrop, readExponent_append hexponent hrest]
      simp [Json.numberValue]

theorem readNumber_digit {d : Char} (hd : d.isDigit = true) (negative : Bool) {cs : List Char}
    (hcs : d = '0' → cs.head? ≠ some 'x' ∧ cs.head? ≠ some 'X') :
    readNumber (Json.signText negative ++ d :: cs) = readDecimal negative (d :: cs) := by
  have hletter : d ≠ 'I' ∧ d ≠ 'N' :=
    ⟨Json.ne_of_isDigit hd (by decide), Json.ne_of_isDigit hd (by decide)⟩
  rw [readNumber, Json.splitSign_signText hd]
  simp only
  split <;> simp_all

/-- Behind the digits of a number stands nothing that goes on a word but its point and its
exponent. -/
theorem head?_behind_whole {ft f : List Char} (hfraction : IsFraction ft f)
    (hexponent : IsExponent et e) (hrest : EndsWord rest) {c : Char}
    (hc : Json.isWordPart c = true) (hother : c ∉ ['.', 'e', 'E']) :
    (ft ++ (et ++ rest)).head? ≠ some c := by
  have hend : rest.head? ≠ some c := fun heq =>
    Bool.false_ne_true ((hrest c heq).symm.trans hc)
  simp only [List.mem_cons, not_or] at hother
  obtain ⟨hpoint, he, hE, -⟩ := hother
  have hexp : (et ++ rest).head? ≠ some c := by
    cases hexponent with
    | none => exact hend
    | plain h _ | plus h _ | minus h _ =>
        rcases h with rfl | rfl <;> simp [Ne.symm he, Ne.symm hE]
  cases hfraction with
  | none => exact hexp
  | point _ => simp [Ne.symm hpoint]

theorem readNumber_append {w rest : List Char} {v : Value} (h : IsNumber w v)
    (hrest : EndsWord rest) : readNumber (w ++ rest) = some (v, rest) := by
  cases h with
  | @mk negative ds ft f et e hwhole hfraction hexponent hshort =>
      have hread := readDecimal_append negative hwhole hfraction hexponent hshort hrest
      obtain ⟨d, ds', rfl, hd⟩ := hwhole.exists_cons
      rw [List.append_assoc, List.append_assoc, List.append_assoc, List.cons_append,
        readNumber_digit hd, ← List.cons_append, hread]
      rintro rfl
      obtain rfl : ds' = [] := by
        rcases hwhole with heq | ⟨-, hzero⟩
        · exact (List.cons.inj heq).2
        · exact absurd rfl hzero
      rw [List.nil_append]
      exact ⟨head?_behind_whole hfraction hexponent hrest (by decide) (by decide),
        head?_behind_whole hfraction hexponent hrest (by decide) (by decide)⟩

end

theorem readValue_number {d : Char} (hd : d.isDigit = true ∨ d = '-') (fuel depth : Nat)
    (cs : List Char) : readValue (fuel + 1) depth (d :: cs) = readNumber (d :: cs) := by
  have hne : ∀ c, c.isDigit = false → c ≠ '-' → d ≠ c := by
    rintro c hc hminus rfl
    rcases hd with hd | rfl
    · exact Bool.false_ne_true (hc.symm.trans hd)
    · exact hminus rfl
  unfold readValue
  split <;> simp_all

theorem IsNumber.exists_head {w : List Char} {v : Value} (h : IsNumber w v) :
    ∃ d cs, w = d :: cs ∧ (d.isDigit = true ∨ d = '-') := by
  cases h with
  | @mk negative _ _ _ _ _ hwhole _ _ _ =>
      obtain ⟨d, ds, rfl, hd⟩ := hwhole.exists_cons
      cases negative with
      | true => exact ⟨'-', _, rfl, .inr rfl⟩
      | false => exact ⟨d, _, rfl, .inl hd⟩

theorem readValue_atom {w rest : List Char} {v : Value} (h : IsAtom w v) (hrest : EndsWord rest)
    (fuel depth : Nat) : readValue (fuel + 1) depth (w ++ rest) = some (v, rest) := by
  cases h with
  | number h =>
      have hread := readNumber_append h hrest
      obtain ⟨d, cs, rfl, hd⟩ := IsNumber.exists_head h
      rw [List.cons_append] at hread ⊢
      rw [readValue_number hd, hread]
  | _ => rfl

/-! ## Values -/

section

variable {fuel depth : Nat} {items : List Value} {fields : List (String × Value)}
  {ls ms : List Lexeme} {v w : Value} {rest : List Char}

/-- Whether every quoted text of some lexemes stands on one line. -/
def KeepLines (ls : List Lexeme) : Prop := ∀ l ∈ ls, ∀ body ∈ l.token.body?, KeepsLine body

@[simp] theorem keepLines_nil : KeepLines [] := nofun

@[simp] theorem keepLines_cons {l : Lexeme} :
    KeepLines (l :: ls) ↔ (∀ body ∈ l.token.body?, KeepsLine body) ∧ KeepLines ls :=
  List.forall_mem_cons

@[simp] theorem keepLines_append : KeepLines (ls ++ ms) ↔ KeepLines ls ∧ KeepLines ms :=
  List.forall_mem_append

/-- An item of an array and what follows it. -/
theorem Ends.item {behind cs : List Char} {p q : Prop}
    (hvalue : Ends p (readValue fuel depth cs) (v, behind))
    (htail : readValue fuel depth cs = some (v, behind) →
      Ends q (readItems (fuel + 1) depth items cs) (w, rest)) :
    Ends (p ∧ q) (readItems (fuel + 1) depth items cs) (w, rest) := by
  rcases hvalue with ⟨hp, hread⟩ | ⟨hp, hread⟩
  · exact (htail hread).congr (by simp [hp])
  · exact .inr ⟨fun h => hp h.1, by rw [readItems, hread]⟩

/-- A text begins with a key, and `behind` stands behind its colon. -/
def BeginsWithKey (k : String) (behind cs : List Char) : Prop :=
  ∃ r, readKey cs = some (k, r) ∧ skipSpace r = ':' :: behind

/-- A key and its value, and what follows them. -/
theorem Ends.field {g body gap behind : List Char} {k : String} {p q : Prop} (hg : IsGap g)
    (hgap : IsGap gap) (hbody : Escapes body k)
    (hvalue : Ends p (readValue fuel depth (skipSpace (textOf ls ++ behind))) (v, behind))
    (htail : ∀ cs, BeginsWithKey k (textOf ls ++ behind) cs →
      readValue fuel depth (skipSpace (textOf ls ++ behind)) = some (v, behind) →
      Ends q (readFields (fuel + 1) depth fields cs) (w, rest)) :
    Ends (KeepsLine body ∧ p ∧ q) (readFields (fuel + 1) depth fields
      (skipSpace (textOf (⟨g, .key (.quoted .double) body gap⟩ :: ls) ++ behind))) (w, rest) := by
  have htext : skipSpace (textOf (⟨g, .key (.quoted .double) body gap⟩ :: ls) ++ behind) =
      '"' :: (body ++ '"' :: (gap ++ ':' :: (textOf ls ++ behind))) := by
    have hquote : ∀ cs, skipSpace (g ++ '"' :: cs) = '"' :: cs :=
      fun cs => skipSpace_append hg (by simp [EndsSpace]; decide)
    have h := hquote (body ++ '"' :: (gap ++ ':' :: (textOf ls ++ behind)))
    simpa [Lexeme.text, Token.text, Json.KeyForm.text, Json.inQuotes, Json.QuoteMark.char] using h
  rw [htext]
  have hcolon : skipSpace (gap ++ ':' :: (textOf ls ++ behind)) = ':' :: (textOf ls ++ behind) :=
    skipSpace_append hgap (by simp [EndsSpace]; decide)
  have hends : Ends _ (readString '"' [] (body ++ '"' :: (gap ++ ':' :: (textOf ls ++ behind))))
    _ := readString_append hbody
  rcases hends with ⟨hline, hkey⟩ | ⟨hline, hkey⟩
  · rcases hvalue with ⟨hp, hread⟩ | ⟨hp, hread⟩
    · exact (htail ('"' :: _) ⟨_, hkey, hcolon⟩ hread).congr (by simp [hp, hline])
    · exact .inr ⟨fun h => hp h.2.1, by simp only [readFields, readKey, hkey, hcolon, hread]⟩
  · exact .inr ⟨fun h => hline h.1, by simp only [readFields, readKey, hkey]⟩

end

theorem readValue_array {r : List Char} (h : (skipSpace r).head? ≠ some ']') (fuel depth : Nat) :
    readValue (fuel + 1) (depth + 1) ('[' :: r) = readItems fuel depth [] (skipSpace r) := by
  simp only [readValue]
  split
  · next heq => exact absurd (congrArg List.head? heq) h
  · rfl

theorem readValue_object {r : List Char} (h : (skipSpace r).head? ≠ some '\x7d')
    (fuel depth : Nat) :
    readValue (fuel + 1) (depth + 1) ('\x7b' :: r) = readFields fuel depth [] (skipSpace r) := by
  simp only [readValue]
  split
  · next heq => exact absurd (congrArg List.head? heq) h
  · rfl

/-- What begins a value or a key is no closing mark. -/
theorem head?_skipSpace {l : Lexeme} (hl : l.IsProper) (hclose : l.role.isClose = false)
    (ls : List Lexeme) (rest : List Char) :
    (skipSpace (textOf (l :: ls) ++ rest)).head? ≠ some ']' ∧
      (skipSpace (textOf (l :: ls) ++ rest)).head? ≠ some '\x7d' := by
  obtain ⟨c, cs, -, hc, hskip⟩ := skipSpace_textOf hl ls rest
  have hclose := Json.not_closes_of_begins hc hclose
  rw [hskip, List.head?_cons]
  constructor
  all_goals
    intro heq
    rw [Option.some.inj heq] at hclose
    exact absurd hclose (by decide)

/-- So an array with items is not closed at once. -/
theorem not_closes_array {s : Json.Setting} {ls : List Lexeme} (h : Json.IsValueRun s ls)
    (ms : List Lexeme) (rest : List Char) :
    (skipSpace (textOf (ls ++ ms) ++ rest)).head? ≠ some ']' := by
  obtain ⟨l, ls, rfl⟩ := List.exists_cons_of_ne_nil h.nonempty
  exact (head?_skipSpace (h.proper l List.mem_cons_self)
    (Json.Role.not_isClose_of_opensValue (h.opens l rfl)) (ls ++ ms) rest).1

theorem not_exceeds_array {depth : Nat} {vs : List Value} :
    (Value.arr vs).exceeds level depth = false ↔
      ∃ d, depth = d + 1 ∧ Value.anyExceeds level d vs = false :=
  ⟨Json.exists_depth_of_array, fun ⟨_, hdepth, h⟩ => hdepth ▸ Json.exceeds_array h⟩

theorem not_exceeds_object {depth : Nat} {fs : List (String × Value)} :
    (Value.obj fs).exceeds level depth = false ↔
      ∃ d, depth = d + 1 ∧ Value.anyFieldExceeds level d fs = false :=
  ⟨Json.exists_depth_of_object, fun ⟨_, hdepth, h⟩ => hdepth ▸ Json.exceeds_object h⟩

mutual

theorem readValue_ends {s : Setting} {v : Value} {ls : List Lexeme} :
    Writes IsAtom Escapes s v ls → IsStrict ls → ∀ {fuel depth : Nat} {rest : List Char},
    EndsWord rest → ls.length ≤ fuel →
    Ends (v.exceeds level depth = false ∧ KeepLines ls)
      (readValue fuel depth (skipSpace (textOf ls ++ rest))) (v.normalize, rest)
  | @Writes.word _ _ _ g cs _ hg ha, hstrict, fuel, depth, rest, hrest, hfuel => by
    obtain ⟨fuel, rfl, -⟩ := Json.exists_fuel hfuel
    obtain ⟨c, cs, htext, hc, hskip⟩ :=
      skipSpace_textOf (l := ⟨g, .word cs⟩) ⟨hg, Json.atomsAreWords_isAtom _ _ ha⟩ [] rest
    rw [hskip, ← List.cons_append, ← htext, ha.normalize]
    exact .inl ⟨⟨Json.exceeds_of_isAtom ha depth, by simp [Token.body?]⟩,
      readValue_atom ha hrest fuel depth⟩
  | @Writes.string _ _ s g q body t hg hb, hstrict, fuel, depth, rest, hrest, hfuel => by
    obtain ⟨fuel, rfl, -⟩ := Json.exists_fuel hfuel
    obtain ⟨c, cs, htext, hc, hskip⟩ :=
      skipSpace_textOf (l := ⟨g, .string s q body⟩) ⟨hg, trivial⟩ [] rest
    obtain rfl : q = .double := by simpa [Token.IsStrict] using hstrict
    rw [hskip, ← List.cons_append, ← htext]
    have hends : Ends _ (readString '"' [] (body ++ '"' :: rest)) _ := readString_append hb
    have hread : readValue (fuel + 1) depth
        (Token.text (.string s .double body) ++ (textOf [] ++ rest)) =
          (readString '"' [] (body ++ '"' :: rest)).map fun (s, r) => (.str s, r) := by
      simp [Token.text, Json.inQuotes, Json.QuoteMark.char, readValue]
    rw [hread]
    rcases hends with ⟨hline, hstring⟩ | ⟨hline, hstring⟩
    · exact .inl ⟨⟨rfl, by simpa [Token.body?] using hline⟩, by rw [hstring]; rfl⟩
    · exact .inr ⟨fun h => hline (by simpa [Token.body?] using h.2), by rw [hstring]; rfl⟩
  | @Writes.emptyArray _ _ _ g g' hg hg', hstrict, fuel, depth, rest, hrest, hfuel => by
    obtain ⟨fuel, rfl, -⟩ := Json.exists_fuel hfuel
    rw [skipSpace_mark hg]
    cases depth with
    | zero => exact .inr ⟨by simp [not_exceeds_array], rfl⟩
    | succ depth =>
        refine .inl ⟨by simp [not_exceeds_array, Token.body?, Value.anyExceeds], ?_⟩
        simp only [Mark.char, readValue]
        rw [skipSpace_mark hg']
        rfl
  | @Writes.array _ _ _ g v vs ls ms hg hv hvs, hstrict, fuel, depth, rest, hrest, hfuel => by
    have hl := hv.isValueRun Json.atomsAreWords_isAtom
    have hm := hvs.isTailRun Json.atomsAreWords_isAtom
    obtain ⟨fuel, rfl, hle⟩ := Json.exists_fuel hfuel
    obtain ⟨fuel, rfl, hls, hms⟩ := Json.exists_fuel_append hl.nonempty hm.nonempty hle
    rw [Json.isStrict_cons, Json.isStrict_append] at hstrict
    obtain ⟨-, hstrictItem, hstrictTail⟩ := hstrict
    rw [skipSpace_mark hg]
    cases depth with
    | zero => exact .inr ⟨by simp [not_exceeds_array], rfl⟩
    | succ depth =>
        have hvalue : Ends _ (readValue fuel depth _) _ :=
          readValue_ends hv hstrictItem (hm.endsWord rest) hls
        have hends : Ends _ (readItems (fuel + 1) depth [] _) _ := hvalue.item fun hread =>
          readItems_ends hvs hstrictTail hms hread
        simp only [Mark.char]
        rw [readValue_array (not_closes_array hl ms rest), Json.textOf_append, List.append_assoc, Value.normalize,
          Value.normalizeItems]
        refine hends.congr ?_
        simp [not_exceeds_array, Value.anyExceeds, Token.body?]
        tauto
  | @Writes.emptyObject _ _ _ g g' hg hg', hstrict, fuel, depth, rest, hrest, hfuel => by
    obtain ⟨fuel, rfl, -⟩ := Json.exists_fuel hfuel
    rw [skipSpace_mark hg]
    cases depth with
    | zero => exact .inr ⟨by simp [not_exceeds_object], rfl⟩
    | succ depth =>
        refine .inl ⟨by simp [not_exceeds_object, Token.body?, Value.anyFieldExceeds], ?_⟩
        simp only [Mark.char, readValue]
        rw [skipSpace_mark hg']
        rfl
  | @Writes.object _ _ _ g g' form body gap k v fs ls ms hg hg' hgap hform hk hv hfs, hstrict,
      fuel, depth, rest, hrest, hfuel => by
    have hm := hfs.isTailRun Json.atomsAreWords_isAtom
    obtain ⟨fuel, rfl, hle⟩ := Json.exists_fuel hfuel
    obtain ⟨fuel, rfl, hlength⟩ := Json.exists_fuel hle
    rw [List.length_append] at hlength
    have hls : ls.length ≤ fuel := by omega
    have hms : ms.length ≤ fuel := by omega
    simp only [Json.isStrict_cons, Json.isStrict_append] at hstrict
    obtain ⟨-, hdouble, hstrictItem, hstrictTail⟩ := hstrict
    obtain rfl : form = .quoted .double := hdouble
    rw [skipSpace_mark hg]
    cases depth with
    | zero => exact .inr ⟨by simp [not_exceeds_object], rfl⟩
    | succ depth =>
        have hopen := (head?_skipSpace (l := ⟨g', .key (.quoted .double) body gap⟩)
          ⟨hg', hgap, hform⟩ rfl (ls ++ ms) rest).2
        have hvalue : Ends _ (readValue fuel depth _) _ :=
          readValue_ends hv hstrictItem (hm.endsWord rest) hls
        have hends : Ends _ (readFields (fuel + 1) depth [] _) _ :=
          hvalue.field hg' hgap hk fun cs hkey hread => readFields_ends hfs hstrictTail hms hkey hread
        simp only [Mark.char]
        rw [readValue_object hopen, ← List.cons_append, Json.textOf_append, List.append_assoc,
          Value.normalize, Value.normalizeFields]
        refine hends.congr ?_
        simp [not_exceeds_object, Value.anyFieldExceeds, Token.body?]
        tauto

theorem readItems_ends {vs : List Value} {ms : List Lexeme} :
    WritesItemsAfter IsAtom Escapes vs ms → IsStrict ms → ∀ {fuel depth : Nat} {rest : List Char}
    {items : List Value} {v : Value} {cs : List Char}, ms.length ≤ fuel →
    readValue fuel depth cs = some (v, textOf ms ++ rest) →
    Ends (Value.anyExceeds level depth vs = false ∧ KeepLines ms)
      (readItems (fuel + 1) depth items cs)
      (.arr (items.reverse ++ v :: Value.normalizeItems vs), rest)
  | .close hg, hstrict, fuel, depth, rest, items, v, cs, hfuel, hread => by
    refine .inl ⟨by simp [Value.anyExceeds, Token.body?], ?_⟩
    simp only [readItems, hread]
    rw [skipSpace_mark hg]
    simp [Mark.char, Value.normalizeItems]
  | .trailing hg hg', hstrict, fuel, depth, rest, items, v, cs, hfuel, hread => by
    simp [Token.IsStrict] at hstrict
  | @WritesItemsAfter.next _ _ g v' vs ls ms hg hv hvs, hstrict, fuel, depth, rest, items, v, cs,
      hfuel, hread => by
    have hl := hv.isValueRun Json.atomsAreWords_isAtom
    have hm := hvs.isTailRun Json.atomsAreWords_isAtom
    obtain ⟨fuel, rfl, hlength⟩ := Json.exists_fuel hfuel
    rw [List.length_append] at hlength
    have hls : ls.length ≤ fuel := by omega
    have hms : ms.length ≤ fuel := by omega
    rw [Json.isStrict_cons, Json.isStrict_append] at hstrict
    obtain ⟨-, hstrictItem, hstrictTail⟩ := hstrict
    have hopen := not_closes_array hl ms rest
    have hvalue : Ends _ (readValue fuel depth _) _ :=
      readValue_ends hv hstrictItem (hm.endsWord rest) hls
    have hends : Ends _ (readItems (fuel + 1) depth (v :: items) _) _ := hvalue.item fun hread =>
      readItems_ends hvs hstrictTail hms hread
    rw [readItems, hread]
    simp only
    rw [skipSpace_mark hg]
    simp only [Mark.char]
    split
    · next heq => exact absurd (congrArg List.head? heq) hopen
    · rw [Json.textOf_append, List.append_assoc]
      simp only [List.reverse_cons, List.append_assoc, List.singleton_append,
        Value.normalizeItems] at hends ⊢
      refine hends.congr ?_
      simp [Value.anyExceeds, Token.body?]
      tauto

theorem readFields_ends {fs : List (String × Value)} {ms : List Lexeme} :
    WritesFieldsAfter IsAtom Escapes fs ms → IsStrict ms → ∀ {fuel depth : Nat}
    {rest : List Char} {fields : List (String × Value)} {k : String} {v : Value}
    {behind cs : List Char}, ms.length ≤ fuel → BeginsWithKey k behind cs →
    readValue fuel depth (skipSpace behind) = some (v, textOf ms ++ rest) →
    Ends (Value.anyFieldExceeds level depth fs = false ∧ KeepLines ms)
      (readFields (fuel + 1) depth fields cs)
      (.obj (collectFields (fields.reverse ++ (k, v) :: Value.normalizeFields fs)), rest)
  | .close hg, hstrict, fuel, depth, rest, fields, k, v, behind, cs, hfuel, hkey, hread => by
    obtain ⟨r, hstring, hcolon⟩ := hkey
    refine .inl ⟨by simp [Value.anyFieldExceeds, Token.body?], ?_⟩
    simp only [readFields, hstring, hcolon, hread]
    rw [skipSpace_mark hg]
    simp [Mark.char, Value.normalizeFields]
  | .trailing hg hg', hstrict, fuel, depth, rest, fields, k, v, behind, cs, hfuel, hkey,
      hread => by
    simp [Token.IsStrict] at hstrict
  | @WritesFieldsAfter.next _ _ g g' form body gap k' v' fs ls ms hg hg' hgap hform hk hv hfs,
      hstrict, fuel, depth, rest, fields, k, v, behind, cs, hfuel, hkey, hread => by
    have hm := hfs.isTailRun Json.atomsAreWords_isAtom
    obtain ⟨fuel, rfl, hlength⟩ := Json.exists_fuel hfuel
    rw [List.length_cons, List.length_append] at hlength
    have hls : ls.length ≤ fuel := by omega
    have hms : ms.length ≤ fuel := by omega
    simp only [Json.isStrict_cons, Json.isStrict_append] at hstrict
    obtain ⟨-, hdouble, hstrictItem, hstrictTail⟩ := hstrict
    obtain rfl : form = .quoted .double := hdouble
    have hopen := (head?_skipSpace (l := ⟨g', .key (.quoted .double) body gap⟩)
      ⟨hg', hgap, hform⟩ rfl (ls ++ ms) rest).2
    have hvalue : Ends _ (readValue fuel depth _) _ :=
      readValue_ends hv hstrictItem (hm.endsWord rest) hls
    have hends : Ends _ (readFields (fuel + 1) depth ((k, v) :: fields) _) _ :=
      hvalue.field hg' hgap hk fun cs hkey hread => readFields_ends hfs hstrictTail hms hkey hread
    obtain ⟨r, hstring, hcolon⟩ := hkey
    rw [readFields]
    simp only [hstring, hcolon, hread]
    rw [skipSpace_mark hg]
    simp only [Mark.char]
    split
    · next heq => exact absurd (congrArg List.head? heq) hopen
    · rw [← List.cons_append, Json.textOf_append, List.append_assoc]
      simp only [List.reverse_cons, List.append_assoc, List.singleton_append,
        Value.normalizeFields] at hends ⊢
      refine hends.congr ?_
      simp [Value.anyFieldExceeds, Token.body?]
      tauto

end

/-! ## Whole texts -/

/-- A text of JSON is read as JSON5 for the same value, if no quoted text holds a separator of lines
and the nesting is not too deep; else it is not read. -/
theorem decode_textOf {s : Setting} {v : Value} {ls : List Lexeme} {g : List Char}
    (h : Writes IsAtom Escapes s v ls) (hstrict : IsStrict ls) (hg : IsGap g) :
    Ends (v.exceeds level nestingLimit = false ∧ KeepLines ls) (decode (textOf ls ++ g))
      v.normalize := by
  have hfuel : ls.length ≤ (textOf ls ++ g).length + 1 := by
    have hle := Json.length_le_length_textOf (h.isValueRun Json.atomsAreWords_isAtom).proper
    rw [List.length_append]
    omega
  rcases readValue_ends h hstrict hg.endsWord hfuel with ⟨hyes, hread⟩ | ⟨hno, hread⟩
  · refine .inl ⟨hyes, ?_⟩
    rw [decode, hread]
    simp only [skipSpace_of_isGap hg]
    rfl
  · exact .inr ⟨hno, by rw [decode, hread]⟩

theorem eq_of_decode {cs : List Char} {v w : Value} (hjson : Json.decode cs = .ok v)
    (h : decode cs = some w) : w = v := by
  obtain ⟨u, ls, g, hls, hstrict, hg, rfl, rfl, -⟩ := Json.exists_writes_of_decode hjson
  exact (decode_textOf hls hstrict hg).eq_of_some h

end TypeDraft.Json5
