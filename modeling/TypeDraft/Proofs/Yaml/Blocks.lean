import Mathlib.Data.List.TakeDrop
import TypeDraft.Proofs.Yaml.Plain

/-!
# The tokens of block mappings

The source gives the tokens of a block mapping line by line: those of a key once its colon has been
found, which opens the mapping at the first one, and that of a scalar behind it. A line ends where
the next key may begin.
-/

namespace TypeDraft.Yaml

open Text (IsPlain IsPrintable)

/-- Whether a text is empty or begins with a letter or a digit, as a line does behind its blanks. -/
def BeginsLine (r : List Char) : Prop := ∀ d ∈ r.head?, d.isAlphanum = true

section

variable {r : List Char} {d : Char}

theorem isVisible_of_isAlphanum (h : d.isAlphanum = true) : IsVisible d := by
  refine ⟨ne_of_isAlphanum h (by decide), ne_of_isAlphanum h (by decide), ?_⟩
  exact not_isBreak_of_isWordPart (isWordPart_of_isAlphanum h)

theorem BeginsLine.isVisible (h : BeginsLine r) : ∀ d ∈ r.head?, IsVisible d :=
  fun d hd => isVisible_of_isAlphanum (h d hd)

theorem BeginsLine.head?_ne (h : BeginsLine r) (hd : d.isAlphanum = false) :
    r.head? ≠ some d := by
  intro heq
  exact absurd (h d heq) (by simp [hd])

/-- No document mark stands on such a line. -/
theorem BeginsLine.atDocumentMark (h : BeginsLine r) {n : Nat} {c : Cursor}
    (hrest : c.rest = List.replicate n ' ' ++ r) : c.atDocumentMark = false := by
  cases n with
  | zero =>
      cases r with
      | nil => simp [Cursor.atDocumentMark, Cursor.atMark, hrest]
      | cons d r =>
          have hd : d.isAlphanum = true := h d rfl
          apply Cursor.atDocumentMark_eq_false hrest
          · exact ne_of_isAlphanum hd (by decide)
          · exact ne_of_isAlphanum hd (by decide)
  | succ n => exact Cursor.atDocumentMark_eq_false hrest (by decide) (by decide)

end

namespace TokenSource

/-! ## Scalars -/

/-- A text that is taken as a scalar where it stands behind a key in a mapping at some column.
Behind it stands the next line; the blanks before that may have been passed. -/
structure ReadsAs (indent : Nat) (body : List Char) (text : String) (isPlain : Bool) : Prop where
  begins : ∃ d body', body = d :: body' ∧ IsVisible d ∧ d ≠ '#'
  takes : ∀ (s : TokenSource) (fuel n : Nat) (r : List Char), s.indent = indent →
    s.flowLevel = 0 → s.keyAllowed = false → indent < s.cursor.column →
    s.cursor.rest = body ++ '\n' :: (List.replicate n ' ' ++ r) → n ≤ indent → BeginsLine r →
    s.cursor.rest.length < fuel →
    ∃ m allowed, s.takeToken fuel =
        .ok ({ s with cursor := s.cursor.advance m, keyAllowed := allowed }.push
          (.scalar text isPlain)) ∧
      (m = body.length ∧ allowed = false ∨ m = body.length + 1 + n ∧ allowed = true)

section

variable {s : TokenSource} {r : List Char} {d : Char} {fuel : Nat}

theorem noteKey_of_not (h : s.keyAllowed = false) : s.noteKey = .ok s := by
  rw [noteKey, h, if_neg Bool.false_ne_true]

theorem takeToken_quote {quote : Char} (hquote : quote = '\'' ∨ quote = '"')
    (hrest : s.cursor.rest = quote :: r) :
    s.takeToken fuel = s.takeNode fun c =>
      (readQuoted quote [] fuel c.next).map fun (text, c) => (.scalar text false, c) := by
  unfold takeToken
  rcases hquote with rfl | rfl
  all_goals
    simp [Cursor.peek, hrest, atMark_eq_false '-' hrest (by decide),
      atMark_eq_false '.' hrest (by decide)]

theorem takeToken_plain (hrest : s.cursor.rest = d :: r) (hcolumn : 0 < s.cursor.column)
    (hlevel : s.flowLevel = 0) (hvisible : IsVisible d) (hlead : d ∉ leadIndicators)
    (hsign : d = '-' ∨ d = '?' ∨ d = ':' → endsWord r.head? = false) :
    s.takeToken fuel = s.takePlain fuel := by
  have hflow : s.inFlow = false := by simp [inFlow, hlevel]
  have hplace : (s.cursor.column == 0) = false := by simpa using Nat.ne_of_gt hcolumn
  have hends := not_endsWord_of_isVisible hvisible
  have hat : s.cursor.peekAt 1 = r.head? := by simp [Cursor.peekAt, hrest]
  simp only [leadIndicators, List.mem_cons, List.not_mem_nil, or_false, not_or] at hlead
  unfold takeToken
  simp only [Cursor.peek, hrest, List.head?_cons, hplace, hflow, hat, startsPlain, hends]
  by_cases hindicator : d = '-' ∨ d = '?' ∨ d = ':'
  · have hgoes := hsign hindicator
    rcases hindicator with rfl | rfl | rfl <;> simp [hgoes]
  · simp only [not_or] at hindicator
    simp [hlead, hindicator]

/-- A plain text is taken up to the next line. -/
theorem takePlain_folded {cs body : List Char} {indent n : Nat} (hindent : s.indent = indent)
    (hlevel : s.flowLevel = 0) (hkey : s.keyAllowed = false) (hcolumn : indent < s.cursor.column)
    (hrest : s.cursor.rest = body ++ '\n' :: (List.replicate n ' ' ++ r)) (hn : n ≤ indent)
    (hr : BeginsLine r) (hfuel : s.cursor.rest.length < fuel) (hcs : KeepsPlain cs) (hne : cs ≠ [])
    (hinner : hasInnerIndicator true cs = false) (hbody : Folded ['\''] cs body)
    (hwrap : '\n' ∈ body → indent < 2) :
    s.takePlain fuel =
      .ok ({ s with
        cursor := s.cursor.advance (body.length + 1 + n)
        keyAllowed := true }.push (.scalar (String.ofList cs) true)) := by
  have hflow : s.inFlow = false := by simp [inFlow, hlevel]
  have hlong : body.length + n + 1 < fuel := by
    simp only [hrest, List.length_append, List.length_cons, List.length_replicate] at hfuel
    omega
  have hread : readPlain s.inFlow (s.indent + 1) [] [] false fuel s.cursor =
      ⟨String.ofList cs, true, s.cursor.advance (body.length + 1 + n)⟩ := by
    rw [hflow, hindent, readPlain_folded hbody hcs.printable hne hcs.head hcs.last hinner hrest
      (fun c' => hr.atDocumentMark) hr.isVisible (by omega) (fun h => by have := hwrap h; omega)
      (by omega) hlong]
    rfl
  rw [takePlain, noteKey_of_not hkey]
  simp only [Except.map, hread]

theorem hasInnerIndicator_of_hasIndicator {cs : List Char} (h : hasIndicator cs = false) :
    hasInnerIndicator true cs = false := by
  cases cs with
  | nil => rfl
  | cons c cs =>
      simp only [hasIndicator, Bool.or_eq_false_iff] at h
      exact h.2

/-- What a plain text begins with. -/
theorem exists_of_keepsPlain {cs body : List Char} (hcs : KeepsPlain cs) (hne : cs ≠ [])
    (hbody : Folded ['\''] cs body) : ∃ d body', body = d :: body' ∧ IsVisible d ∧ d ≠ '#' := by
  obtain ⟨d, cs, rfl⟩ := List.exists_cons_of_ne_nil hne
  have hd : IsPrintable d := hcs.printable d List.mem_cons_self
  have hink : IsInk d := ⟨by simpa using hcs.head, hd.ne (by decide)⟩
  obtain ⟨body, rfl, -⟩ := hbody.exists_cons hink
  refine ⟨d, body, rfl, isVisible_of_isInk hink hd.isPlain, ?_⟩
  rintro rfl
  have hinner := hasInnerIndicator_of_hasIndicator hcs.indicator
  cases hinner

/-- What a plain text begins with does not begin another token. -/
theorem takeToken_folded {cs body : List Char} (hcs : KeepsPlain (d :: cs))
    (hbody : Folded ['\''] (d :: cs) body) (hrest : s.cursor.rest = body ++ r)
    (hcolumn : 0 < s.cursor.column) (hlevel : s.flowLevel = 0) :
    s.takeToken fuel = s.takePlain fuel := by
  have hd : IsPrintable d := hcs.printable d List.mem_cons_self
  have hink : IsInk d := ⟨by simpa using hcs.head, hd.ne (by decide)⟩
  obtain ⟨body, rfl, hbody'⟩ := hbody.exists_cons hink
  have hindicator := hcs.indicator
  simp only [hasIndicator, hasInnerIndicator, Bool.or_eq_false_iff] at hindicator
  obtain ⟨⟨⟨-, hlead⟩, hsign⟩, ⟨hcolon, -⟩, -⟩ := hindicator
  apply takeToken_plain hrest hcolumn hlevel (isVisible_of_isInk hink hd.isPlain)
  · simpa using hlead
  · intro hmark
    -- Behind a sign that means something alone stands another character of the text.
    have hgap : cs.head?.all isGap = false := by
      rcases hmark with rfl | rfl | rfl
      · simpa using hsign
      · simpa using hsign
      · simpa using hcolon
    cases cs with
    | nil => cases hgap
    | cons e cs =>
        have he : IsPrintable e := hcs.printable e (by simp)
        have hgap : isGap e = false := hgap
        have hink : IsInk e := by
          refine ⟨?_, he.ne (by decide)⟩
          rintro rfl
          cases hgap
        obtain ⟨body, rfl, -⟩ := hbody'.exists_cons hink
        exact not_endsWord_of_isVisible (isVisible_of_isInk hink he.isPlain)

theorem takeToken_of_readQuoted {quote : Char} {body : List Char} {text : String}
    (hquote : quote = '\'' ∨ quote = '"') (hkey : s.keyAllowed = false)
    (hrest : s.cursor.rest = quote :: (body ++ [quote]) ++ r)
    (hread : readQuoted quote [] fuel s.cursor.next =
      .ok (text, s.cursor.next.advance (body.length + 1))) :
    s.takeToken fuel = .ok ({ s with
      cursor := s.cursor.advance (quote :: (body ++ [quote])).length
      keyAllowed := false }.push (.scalar text false)) := by
  have hplace : s.cursor.next.advance (body.length + 1) =
      s.cursor.advance (quote :: (body ++ [quote])).length := by
    simp [← Cursor.advance_one, Nat.add_comm 1]
  rw [takeToken_quote hquote hrest, takeNode, noteKey_of_not hkey]
  simp only [hread, hplace, bind, Except.bind, pure, Except.pure, Except.map]

/-- What is written for a string behind a key of the outermost mapping is taken as the string. -/
theorem readsAs_of_writtenAs {text : String} {body : List Char} {isPlain : Bool}
    (h : WrittenAs text body isPlain) : ReadsAs 0 body text isPlain := by
  cases h with
  | plain htag hcs hbody =>
      have hne : text.toList ≠ [] := by
        intro hempty
        rw [String.toList_eq_nil_iff.mp hempty] at htag
        exact absurd htag (by decide)
      refine ⟨exists_of_keepsPlain hcs hne hbody, ?_⟩
      intro s fuel n r hindent hlevel hkey hcolumn hrest hn hr hfuel
      obtain ⟨d, cs, htext⟩ := List.exists_cons_of_ne_nil hne
      refine ⟨body.length + 1 + n, true, ?_, .inr ⟨rfl, rfl⟩⟩
      rw [takeToken_folded (htext ▸ hcs) (htext ▸ hbody) hrest (by omega) hlevel,
        takePlain_folded hindent hlevel hkey hcolumn hrest hn hr hfuel hcs hne
          (hasInnerIndicator_of_hasIndicator hcs.indicator) hbody (fun _ => by decide),
        String.ofList_toList]
  | @single body hcs hbody =>
      refine ⟨⟨_, _, rfl, ⟨by decide, by decide, by decide⟩, by decide⟩, ?_⟩
      intro s fuel n r hindent hlevel hkey hcolumn hrest hn hr hfuel
      refine ⟨_, false, takeToken_of_readQuoted (.inl rfl) hkey hrest ?_, .inl ⟨rfl, rfl⟩⟩
      rw [readQuoted_folded (r := '\n' :: (List.replicate n ' ' ++ r)) hbody hcs
        (by rw [Cursor.rest_next, hrest]; simp) (by simp) (by simp [hrest] at hfuel; omega)]
      simp
  | @double body hbody =>
      refine ⟨⟨_, _, rfl, ⟨by decide, by decide, by decide⟩, by decide⟩, ?_⟩
      intro s fuel n r hindent hlevel hkey hcolumn hrest hn hr hfuel
      refine ⟨_, false, takeToken_of_readQuoted (.inr rfl) hkey hrest ?_, .inl ⟨rfl, rfl⟩⟩
      rw [readQuoted_escaped (r := '\n' :: (List.replicate n ' ' ++ r)) hbody
        (by rw [Cursor.rest_next, hrest]; simp) (by simp [hrest] at hfuel; omega)]
      simp

theorem folded_of_isInk {cs : List Char} (h : ∀ d ∈ cs, IsInk d) : Folded ['\''] cs cs := by
  induction cs with
  | nil => exact .nil
  | cons c cs ih =>
      obtain ⟨hc, hcs⟩ := List.forall_mem_cons.mp h
      have hfolded := Folded.char hc (ih hcs)
      split at hfolded
      · next hquote => simpa [hquote] using hfolded
      · exact hfolded

/-- A plain word is taken as it is behind any key. -/
theorem readsAs_of_word {text : String} (indent : Nat) (hne : text.toList ≠ [])
    (hcs : KeepsPlain text.toList) (hink : ∀ d ∈ text.toList, IsInk d) :
    ReadsAs indent text.toList text true := by
  have hbody := folded_of_isInk hink
  refine ⟨exists_of_keepsPlain hcs hne hbody, ?_⟩
  intro s fuel n r hindent hlevel hkey hcolumn hrest hn hr hfuel
  refine ⟨text.toList.length + 1 + n, true, ?_, .inr ⟨rfl, rfl⟩⟩
  obtain ⟨d, cs, htext⟩ := List.exists_cons_of_ne_nil hne
  rw [takeToken_folded (htext ▸ hcs) (htext ▸ hbody) hrest (by omega) hlevel,
    takePlain_folded hindent hlevel hkey hcolumn hrest hn hr hfuel hcs hne
      (hasInnerIndicator_of_hasIndicator hcs.indicator) hbody
      (fun hmem => absurd rfl (hink _ hmem).2), String.ofList_toList]

end

/-! ## Tokens that are given -/

/-- Whether the next tokens of a source are given, each as often as it is asked for. -/
def Gives : TokenSource → List Token → Prop
  | _, [] => True
  | s, t :: ts => ∃ s', s.peek = .ok (t, s') ∧ s'.peek = .ok (t, s') ∧ Gives s'.drop ts

section

variable {s s' : TokenSource} {q ts : List Token} {t : Token}

theorem dropStaleKeys_of_nil (h : s.keyStarts = []) : s.dropStaleKeys = .ok s := by
  unfold dropStaleKeys
  rw [h]
  simp only [List.any_nil, Bool.false_eq_true, if_false, List.filter_nil]
  rw [← h]

/-- Where no key may have begun, the tokens that were found are certain. -/
theorem settle_of_queue (fuel : Nat) (hkeys : s.keyStarts = []) (hqueue : s.queue ≠ []) :
    s.settle fuel = .ok s := by
  have hempty : s.queue.isEmpty = false := by simpa using hqueue
  have hundecided : s.isUndecided = false := by simp [isUndecided, hkeys]
  cases fuel with
  | zero => rfl
  | succ fuel =>
      rw [settle, hempty, dropStaleKeys_of_nil hkeys]
      simp [hundecided]

theorem peek_of_queue (hkeys : s.keyStarts = []) (hqueue : s.queue = t :: q) :
    s.peek = .ok (t, s) := by
  rw [peek, settle_of_queue _ hkeys (by simp [hqueue])]
  simp [hqueue, bind, Except.bind, pure, Except.pure]

theorem gives_of_queue (hkeys : s.keyStarts = []) (hqueue : s.queue = q)
    (hlater : Gives { s with queue := [], taken := s.taken + q.length } ts) :
    Gives s (q ++ ts) := by
  induction q generalizing s with
  | nil =>
      obtain ⟨cursor, bound, queue, taken, finished, flowLevel, indent, indents, keyAllowed,
        keyStarts⟩ := s
      obtain rfl : queue = [] := hqueue
      exact hlater
  | cons t q ih =>
      have hpeek := peek_of_queue hkeys hqueue
      refine ⟨s, hpeek, hpeek, ih hkeys (by rw [drop, hqueue, List.tail_cons]) ?_⟩
      have hcount : s.taken + 1 + q.length = s.taken + (t :: q).length := by
        rw [List.length_cons]
        omega
      simpa only [drop, hcount] using hlater

/-- Once the first token that was found is certain, all that were found are given. -/
theorem gives_of_settle (h : s.settle (s.bound + 1) = .ok s') (hkeys : s'.keyStarts = [])
    (hqueue : s'.queue = t :: q)
    (hlater : Gives { s' with queue := [], taken := s'.taken + (q.length + 1) } ts) :
    Gives s (t :: (q ++ ts)) := by
  have hpeek : s.peek = .ok (t, s') := by
    rw [peek, h]
    simp [hqueue, bind, Except.bind, pure, Except.pure]
  have hgives : Gives s' (t :: q ++ ts) := gives_of_queue hkeys hqueue hlater
  obtain ⟨s'', hpeek', -, hdrop⟩ := hgives
  obtain ⟨-, rfl⟩ := Prod.mk.inj (Except.ok.inj (hpeek'.symm.trans (peek_of_queue hkeys hqueue)))
  exact ⟨_, hpeek, hpeek', hdrop⟩

end

/-! ## Lines -/

/-- A source outside flow collections that has handed out all tokens that it has found. -/
structure Rests (s : TokenSource) (indent : Int) (indents : List Int) : Prop where
  queue : s.queue = []
  keys : s.keyStarts = []
  level : s.flowLevel = 0
  unfinished : s.finished = false
  indent : s.indent = indent
  indents : s.indents = indents

/-- Nothing but blanks and line ends is left before a place where a line begins. -/
structure BeforeLine (s : TokenSource) (c : Cursor) (indent : Int) (indents : List Int) : Prop
    extends Rests s indent indents where
  skips : s.skipToToken s.bound = { s with cursor := c, keyAllowed := true }
  begins : BeginsLine c.rest
  short : c.rest.length < s.bound

/-- A key and its colon have just been taken. -/
structure BehindKey (s : TokenSource) (c : Cursor) (indent : Int) (indents : List Int) : Prop
    extends Rests s indent indents where
  cursor : s.cursor = c
  keyAllowed : s.keyAllowed = false
  short : c.rest.length < s.bound

section

variable {s : TokenSource} {c : Cursor} {indent : Int} {indents : List Int} {r : List Char}
  {fuel n : Nat}

theorem skipToToken_of_blanks (hrest : s.cursor.rest = List.replicate n ' ' ++ r)
    (hr : ∀ d ∈ r.head?, IsVisible d ∧ d ≠ '#') (hfuel : 0 < fuel) :
    s.skipToToken fuel = { s with cursor := s.cursor.advance n } := by
  obtain ⟨fuel, rfl⟩ : ∃ m, fuel = m + 1 := Nat.exists_eq_succ_of_ne_zero (by omega)
  have hskip : s.cursor.skipWhile (· == ' ') = s.cursor.advance n := by
    rw [Cursor.skipWhile_of_append hrest (by simp) fun d hd => by simpa using (hr d hd).1.1,
      List.length_replicate]
  have hlater : (s.cursor.advance n).rest = r := by
    rw [Cursor.rest_advance, hrest, List.drop_left' (List.length_replicate ..)]
  have hcomment : (s.cursor.advance n).skipComment = s.cursor.advance n := by
    rw [Cursor.skipComment, if_neg]
    rw [Cursor.peek, hlater, beq_iff_eq]
    exact fun hsign => (hr '#' hsign).2 rfl
  have hnone : (s.cursor.advance n).takeBreak = none :=
    Cursor.takeBreak_eq_none fun d hd => (hr d (hlater ▸ hd)).1.2.2
  simp only [skipToToken, hskip, hcomment, hnone]

theorem skipToToken_of_line (hrest : s.cursor.rest = List.replicate n ' ' ++ r)
    (hr : BeginsLine r) (hfuel : 0 < fuel) :
    s.skipToToken fuel = { s with cursor := s.cursor.advance n } := by
  apply skipToToken_of_blanks hrest _ hfuel
  exact fun d hd => ⟨hr.isVisible d hd, ne_of_isAlphanum (hr d hd) (by decide)⟩

theorem skipToToken_of_lineFeed (hlevel : s.flowLevel = 0)
    (hrest : s.cursor.rest = '\n' :: (List.replicate n ' ' ++ r)) (hr : BeginsLine r)
    (hfuel : 1 < fuel) :
    s.skipToToken fuel = { s with cursor := s.cursor.advance (n + 1), keyAllowed := true } := by
  obtain ⟨fuel, rfl⟩ : ∃ m, fuel = m + 1 := Nat.exists_eq_succ_of_ne_zero (by omega)
  have hskip : s.cursor.skipWhile (· == ' ') = s.cursor :=
    Cursor.skipWhile_of_append (l := []) hrest nofun (by simp)
  have hcomment : s.cursor.skipComment = s.cursor := by
    rw [Cursor.skipComment, if_neg]
    simp [Cursor.peek, hrest]
  have hflow : s.inFlow = false := by simp [inFlow, hlevel]
  rw [skipToToken]
  simp only [hskip, hcomment, Cursor.takeBreak_of_lineFeed hrest, hflow, Bool.not_false,
    Bool.or_true]
  rw [skipToToken_of_line (n := n) (by rw [Cursor.rest_next, hrest, List.tail_cons]) hr (by omega)]
  simp [← Cursor.advance_one, Nat.add_comm 1]

/-- No block collection is closed by what does not stand further out. -/
theorem unwind_of_le {column : Int} (h : s.indent ≤ column) : s.unwind column = s := by
  unfold unwind
  split
  · rfl
  · have hspan : (s.indent :: s.indents).span (fun i => decide (column < i)) =
        ([], s.indent :: s.indents) := by
      rw [List.span_eq_takeWhile_dropWhile, List.takeWhile_cons_of_neg (by simpa using h),
        List.dropWhile_cons_of_neg (by simpa using h)]
    rw [hspan]
    simp

/-- The innermost collection is closed where the one around it goes on. -/
theorem unwind_of_lt {column outer : Int} {outers : List Int} (hlevel : s.flowLevel = 0)
    (houter : s.indents = outer :: outers) (hlt : column < s.indent) (hle : outer ≤ column) :
    s.unwind column =
      { s with queue := s.queue ++ [.blockEnd], indent := outer, indents := outers } := by
  have hflow : s.inFlow = false := by simp [inFlow, hlevel]
  have hspan : (s.indent :: outer :: outers).span (fun i => decide (column < i)) =
      ([s.indent], outer :: outers) := by
    rw [List.span_eq_takeWhile_dropWhile]
    rw [List.takeWhile_cons_of_pos (by simpa using hlt),
      List.takeWhile_cons_of_neg (by simpa using hle)]
    rw [List.dropWhile_cons_of_pos (by simpa using hlt),
      List.dropWhile_cons_of_neg (by simpa using hle)]
  rw [unwind, hflow, if_neg Bool.false_ne_true, houter, hspan]
  rfl

theorem fetch_of_skip {s' : TokenSource} (hskip : s.skipToToken s.bound = s')
    (hstale : s'.dropStaleKeys = .ok s') (hindent : s'.indent ≤ s'.cursor.column) :
    s.fetch = s'.takeToken s'.bound := by
  rw [fetch, hskip, hstale]
  simp only [bind, Except.bind, unwind_of_le hindent]

theorem settle_of_fetch {s' : TokenSource} (fuel : Nat) (hrests : Rests s indent indents)
    (hfetch : s.fetch = .ok s') : s.settle (fuel + 1) = s'.settle fuel := by
  rw [settle, hrests.unfinished, hrests.queue, hfetch]
  simp [bind, Except.bind]

theorem Rests.beforeLine (h : Rests s indent indents) (hkey : s.keyAllowed = true)
    (hr : BeginsLine s.cursor.rest) (hshort : s.cursor.rest.length < s.bound) :
    BeforeLine s s.cursor indent indents where
  toRests := h
  skips := by
    rw [skipToToken_of_line (n := 0) rfl hr (by omega), ← hkey]
    rfl
  begins := hr
  short := hshort

/-- Behind a line feed the next line begins. -/
theorem Rests.beforeNextLine (h : Rests s indent indents)
    (hrest : s.cursor.rest = '\n' :: (List.replicate n ' ' ++ r)) (hr : BeginsLine r)
    (hshort : s.cursor.rest.length < s.bound) :
    BeforeLine s (s.cursor.advance (n + 1)) indent indents where
  toRests := h
  skips := by
    rw [hrest, List.length_cons] at hshort
    exact skipToToken_of_lineFeed h.level hrest hr (by omega)
  begins := by
    rw [Cursor.rest_advance, hrest]
    simpa using hr
  short := by
    rw [Cursor.rest_advance, List.length_drop]
    omega

/-- Where the next line begins does not depend on how much of what is before it was passed. -/
theorem Rests.beforeLine_behind {body : List Char} {m : Nat} (h : Rests s indent indents)
    (hcursor : s.cursor = c.advance m)
    (hrest : c.rest = body ++ '\n' :: (List.replicate n ' ' ++ r)) (hr : BeginsLine r)
    (hshort : c.rest.length < s.bound)
    (hcases : m = body.length ∧ s.keyAllowed = false ∨
      m = body.length + 1 + n ∧ s.keyAllowed = true) :
    BeforeLine s (c.advance (body.length + 1 + n)) indent indents := by
  have hshort' : s.cursor.rest.length < s.bound := by
    rw [hcursor, Cursor.rest_advance, List.length_drop]
    omega
  rcases hcases with ⟨rfl, -⟩ | ⟨rfl, hkey⟩
  · have hend : s.cursor.rest = '\n' :: (List.replicate n ' ' ++ r) := by
      rw [hcursor, Cursor.rest_advance_append hrest]
    have hline := h.beforeNextLine hend hr hshort'
    rwa [hcursor, Cursor.advance_advance, ← Nat.add_assoc, Nat.add_right_comm] at hline
  · have hend : s.cursor.rest = r := by
      have happend : c.rest = (body ++ '\n' :: List.replicate n ' ') ++ r := by
        rw [hrest]
        simp
      have hlength : (body ++ '\n' :: List.replicate n ' ').length = body.length + 1 + n := by
        simp
        omega
      rw [hcursor, ← hlength, Cursor.rest_advance_append happend]
    exact hcursor ▸ h.beforeLine hkey (hend.symm ▸ hr) hshort'

/-- Behind the colon the line of a scalar is given, and the next line begins. -/
theorem BehindKey.gives_scalar {column : Nat} {body : List Char} {text : String} {isPlain : Bool}
    {ts : List Token} (h : BehindKey s c column indents) (hreads : ReadsAs column body text isPlain)
    (hcolumn : column ≤ c.column)
    (hrest : c.rest = ' ' :: (body ++ '\n' :: (List.replicate n ' ' ++ r))) (hn : n ≤ column)
    (hr : BeginsLine r)
    (hlater : ∀ s', BeforeLine s' (c.advance (body.length + 2 + n)) column indents → Gives s' ts) :
    Gives s (.scalar text isPlain :: ts) := by
  obtain ⟨d, body', hbody, hvisible, hhash⟩ := hreads.begins
  have hshort := h.short
  have hnext : c.next = ⟨body ++ '\n' :: (List.replicate n ' ' ++ r), c.index + 1, c.line,
      c.column + 1⟩ := Cursor.next_of_flat hrest (by decide) (by decide)
  have hskip : s.skipToToken s.bound = { s with cursor := c.next } := by
    rw [skipToToken_of_blanks (n := 1) (by rw [h.cursor, hrest]; rfl) (by
      rw [hbody]
      simpa using ⟨hvisible, hhash⟩) (by omega), h.cursor, Cursor.advance_one]
  obtain ⟨m, allowed, htake, hcases⟩ := hreads.takes { s with cursor := c.next } s.bound n r
    h.indent h.level h.keyAllowed (by rw [hnext]; simp only; omega) (by rw [hnext]) hn hr
    (by rw [hrest, List.length_cons] at hshort; rw [hnext]; simp only; omega)
  have hfetch := fetch_of_skip hskip (dropStaleKeys_of_nil h.keys)
    (by rw [hnext, h.indent]; simp only; omega)
  have hsettle := (settle_of_fetch s.bound h.toRests (hfetch.trans htake)).trans
    (settle_of_queue _ h.keys (by simp [push]))
  refine gives_of_settle (q := []) hsettle h.keys (by simp [push, h.queue]) (hlater _ ?_)
  have hplace : c.next.advance (body.length + 1 + n) = c.advance (body.length + 2 + n) := by
    rw [← Cursor.advance_one, Cursor.advance_advance]
    congr 1
    omega
  have hbehind : c.next.rest = body ++ '\n' :: (List.replicate n ' ' ++ r) := by rw [hnext]
  have hshort' : c.next.rest.length < s.bound := by
    rw [hrest, List.length_cons] at hshort
    rw [hbehind]
    omega
  rw [← hplace]
  exact Rests.beforeLine_behind ⟨rfl, h.keys, h.level, h.unfinished, h.indent, h.indents⟩ rfl
    hbehind hr hshort' hcases

/-! ### Keys -/

/-- Whether a text is that of a key: letters, digits and underscores, of which it has few enough. -/
structure IsKey (key : List Char) : Prop where
  head : ∃ d key', key = d :: key' ∧ d.isAlphanum = true
  all : ∀ d ∈ key, d.isAlphanum = true ∨ d = '_'
  short : key.length ≤ 1024

instance (key : List Char) : Decidable (IsKey key) :=
  decidable_of_iff ((∀ d ∈ key.take 1, d.isAlphanum = true) ∧ key ≠ [] ∧
    (∀ d ∈ key, d.isAlphanum = true ∨ d = '_') ∧ key.length ≤ 1024) <| by
  constructor
  · rintro ⟨hhead, hne, hall, hshort⟩
    obtain ⟨d, key, rfl⟩ := List.exists_cons_of_ne_nil hne
    exact ⟨⟨d, key, rfl, hhead d (by simp)⟩, hall, hshort⟩
  · rintro ⟨⟨d, key, rfl, hd⟩, hall, hshort⟩
    exact ⟨by simpa using hd, List.cons_ne_nil d key, hall, hshort⟩

theorem IsKey.isVisible {key : List Char} (h : IsKey key) : ∀ d ∈ key, IsVisible d := by
  intro d hd
  rcases h.all d hd with halphanum | rfl
  · exact isVisible_of_isAlphanum halphanum
  · exact ⟨by decide, by decide, by decide⟩

theorem hasInnerIndicator_of_isKey {key : List Char} {after : Bool}
    (h : ∀ d ∈ key, d.isAlphanum = true ∨ d = '_') : hasInnerIndicator after key = false := by
  induction key generalizing after with
  | nil => rfl
  | cons d key ih =>
      obtain ⟨hd, hkey⟩ := List.forall_mem_cons.mp h
      have hne : d ≠ ':' ∧ d ≠ '#' := by
        rcases hd with halphanum | rfl
        · exact ⟨ne_of_isAlphanum halphanum (by decide), ne_of_isAlphanum halphanum (by decide)⟩
        · decide
      simp [hasInnerIndicator, hne, ih hkey]

/-- A key is taken up to its colon, and no further. -/
theorem readPlain_key {key : List Char} {column : Int} (hkey : IsKey key)
    (hrest : c.rest = key ++ ':' :: r) (hr : endsWord r.head? = true) :
    readPlain false column [] [] false (fuel + 1) c =
      ⟨String.ofList key, false, c.advance key.length⟩ := by
  obtain ⟨d, key', hcons, hd⟩ := hkey.head
  have hstops : stopsPlain false (':' :: r) = true := by simp [stopsPlain, hr]
  have hrun : plainRun false [] c.rest = key.reverse := by
    have hindicator : hasInnerIndicator false (key ++ []) = false := by
      rw [List.append_nil]
      exact hasInnerIndicator_of_isKey hkey.all
    have hnone : ∀ d ∈ ([] : List Char).head?, isGap d = true :=
      fun _ h => absurd h (Option.not_mem_none _)
    rw [hrest, plainRun_word [] hkey.isVisible hindicator hnone hstops, List.append_nil]
  have hgap := plainGap_of_blanks (n := 0) fuel (Cursor.rest_advance_append hrest)
    ⟨by decide, by decide, by decide⟩
  rw [readPlain_word (by simp [hcons]) (by simpa [hcons] using ne_of_isAlphanum hd (by decide))
    hrest hrun hgap]
  simp

/-- A key that may begin is noted. -/
theorem noteKey_of_rests (h : Rests s indent indents) (hkey : s.keyAllowed = true) :
    s.noteKey = .ok { s with keyStarts := [(0, s.keyHere)] } := by
  have hnone : s.keyStart? = none := by simp [keyStart?, h.keys]
  rw [noteKey, if_pos hkey, dropKey, hnone]
  simp [Except.map, h.keys, h.level, keyHere]

/-- A key is a scalar as long as its colon has not been found. -/
theorem takeToken_key {key : List Char} (fuel : Nat) (h : Rests s indent indents)
    (hallowed : s.keyAllowed = true) (hkey : IsKey key)
    (hrest : s.cursor.rest = key ++ ':' :: r) (hr : endsWord r.head? = true) :
    s.takeToken (fuel + 1) =
      .ok { s with
        cursor := s.cursor.advance key.length
        keyAllowed := false
        keyStarts := [(0, s.keyHere)]
        queue := [.scalar (String.ofList key) true] } := by
  obtain ⟨d, key', hcons, hd⟩ := hkey.head
  have hflow : s.inFlow = false := by simp [inFlow, h.level]
  rw [takeToken_eq_takePlain (by rw [hrest, hcons]; exact .plain hd), takePlain,
    noteKey_of_rests h hallowed]
  simp only [Except.map, inFlow] at hflow ⊢
  rw [hflow, readPlain_key hkey hrest hr]
  simp [push, h.queue]

theorem takeToken_block_colon (hrest : s.cursor.rest = ':' :: r) (hr : endsWord r.head? = true) :
    s.takeToken fuel = s.takeValue := by
  have hends : endsWord (s.cursor.peekAt 1) = true := by simpa [Cursor.peekAt, hrest] using hr
  unfold takeToken
  simp [Cursor.peek, hrest, hends, atMark_eq_false '-' hrest (by decide),
    atMark_eq_false '.' hrest (by decide)]

/-- The colon makes the scalar before it a key, which opens a mapping if it stands further in. -/
theorem takeValue_of_pending {start : KeyStart} {k : Token} (hlevel : s.flowLevel = 0)
    (hkeys : s.keyStarts = [(0, start)]) (htoken : start.token = s.taken) (hqueue : s.queue = [k])
    (hindent : s.indent ≤ start.column) :
    s.takeValue = .ok { s with
      cursor := s.cursor.next
      keyAllowed := false
      keyStarts := []
      queue := (if s.indent < start.column then [.blockMappingStart] else []) ++ [.key, k, .value]
      indent := start.column
      indents := if s.indent < start.column then s.indent :: s.indents else s.indents } := by
  have hstart : s.keyStart? = some start := by simp [keyStart?, hkeys, hlevel]
  have hforget : s.forgetKey = { s with keyStarts := [] } := by simp [forgetKey, hkeys, hlevel]
  have hflow : s.inFlow = false := by simp [inFlow, hlevel]
  rw [takeValue, hstart]
  by_cases hopens : s.indent < start.column
  · simp [hforget, hopens, openColumn, insertAt, push, htoken, hqueue, inFlow, hlevel, bind,
      Except.bind, pure, Except.pure]
  · have hsame : s.indent = start.column := by omega
    simp [hforget, openColumn, insertAt, push, htoken, hqueue, inFlow, hlevel, bind, Except.bind,
      pure, Except.pure, hsame]

theorem IsKey.isFlat {key : List Char} (h : IsKey key) :
    ∀ d ∈ key, isBreak d = false ∧ d ≠ '\ufeff' := by
  intro d hd
  refine ⟨(h.isVisible d hd).2.2, ?_⟩
  rcases h.all d hd with halphanum | rfl
  · exact ne_of_isAlphanum halphanum (by decide)
  · decide

/-- A key that begins here is still possible at its colon. -/
theorem isStale_keyHere {key : List Char} (hkey : IsKey key) (hrest : s.cursor.rest = key ++ r) :
    s.keyHere.isStale (s.cursor.advance key.length) = false := by
  have hshort := hkey.short
  rw [Cursor.advance_of_flat hrest hkey.isFlat]
  simp [KeyStart.isStale, keyHere, hshort]

theorem dropStaleKeys_of_fresh {start : KeyStart} (hkeys : s.keyStarts = [(0, start)])
    (hfresh : start.isStale s.cursor = false) : s.dropStaleKeys = .ok s := by
  unfold dropStaleKeys
  rw [hkeys]
  simp only [List.any_cons, List.any_nil, hfresh, Bool.false_and, Bool.or_self, Bool.false_eq_true,
    if_false, List.filter_cons, Bool.not_false, if_true, List.filter_nil]
  rw [← hkeys]

/-- The colon of a pending key makes it certain. -/
theorem settle_colon {start : KeyStart} {k : Token} (hunfinished : s.finished = false)
    (hlevel : s.flowLevel = 0) (hkeys : s.keyStarts = [(0, start)])
    (hfresh : start.isStale s.cursor = false) (htoken : start.token = s.taken)
    (hqueue : s.queue = [k]) (hindent : s.indent ≤ start.column)
    (hcolumn : start.column ≤ s.cursor.column) (hrest : s.cursor.rest = ':' :: r)
    (hr : endsWord r.head? = true) (hbound : 0 < s.bound) (hfuel : 0 < fuel) :
    s.settle fuel = .ok { s with
      cursor := s.cursor.next
      keyAllowed := false
      keyStarts := []
      queue := (if s.indent < start.column then [.blockMappingStart] else []) ++ [.key, k, .value]
      indent := start.column
      indents := if s.indent < start.column then s.indent :: s.indents else s.indents } := by
  have hstale := dropStaleKeys_of_fresh hkeys hfresh
  have hskip : s.skipToToken s.bound = s := by
    rw [skipToToken_of_blanks (n := 0) hrest (by simp [IsVisible, isBreak]) hbound]
    rfl
  have hundecided : s.isUndecided = true := by simp [isUndecided, hkeys, htoken]
  obtain ⟨fuel, rfl⟩ : ∃ m, fuel = m + 1 := Nat.exists_eq_succ_of_ne_zero (by omega)
  rw [TokenSource.settle, if_neg (by simp [hunfinished]), if_neg (by simp [hqueue]), hstale]
  simp only [hundecided, if_true]
  rw [fetch_of_skip hskip hstale (by omega), takeToken_block_colon hrest hr,
    takeValue_of_pending hlevel hkeys htoken hqueue hindent]
  simp only [bind, Except.bind]
  apply settle_of_queue
  · rfl
  · simp

/-- The line of a key is read up to its colon, by when the key is certain. -/
theorem BeforeLine.settle {key : List Char} (h : BeforeLine s c indent indents)
    (hcolumn : indent ≤ c.column) (hkey : IsKey key) (hrest : c.rest = key ++ ':' :: r)
    (hr : endsWord r.head? = true) :
    s.settle (s.bound + 1) = .ok { s with
      cursor := c.advance (key.length + 1)
      keyAllowed := false
      queue := (if indent < c.column then [.blockMappingStart] else []) ++
        [.key, .scalar (String.ofList key) true, .value]
      indent := c.column
      indents := if indent < c.column then indent :: indents else indents } := by
  have hbound : 0 < s.bound := Nat.zero_lt_of_lt h.short
  -- The key is found as a scalar first.
  have hrests : Rests { s with cursor := c, keyAllowed := true } indent indents :=
    ⟨h.queue, h.keys, h.level, h.unfinished, h.indent, h.indents⟩
  have hplace : c.column ≤ (c.advance key.length).column := by
    rw [Cursor.advance_of_flat hrest hkey.isFlat]
    simp
  obtain ⟨fuel, hfuel⟩ : ∃ fuel, s.bound = fuel + 1 := ⟨s.bound - 1, by omega⟩
  have htake := takeToken_key fuel hrests rfl hkey hrest hr
  rw [← hfuel] at htake
  have hfetch := (fetch_of_skip h.skips (dropStaleKeys_of_nil h.keys) (h.indent ▸ hcolumn)).trans
    htake
  refine (settle_of_fetch _ h.toRests hfetch).trans ((settle_colon ?_ ?_ rfl ?_ ?_ rfl ?_ hplace
    (Cursor.rest_advance_append hrest) hr ?_ hbound).trans ?_)
  · exact h.unfinished
  · exact h.level
  · exact isStale_keyHere hkey hrest
  · simp [keyHere, h.queue]
  · exact h.indent ▸ hcolumn
  · exact hbound
  · simp [h.keys, h.indent, h.indents, keyHere]

/-- A key is given, in front of which a mapping is opened if the key stands further in. -/
theorem BeforeLine.gives_key {key : List Char} (h : BeforeLine s c indent indents)
    (ts : List Token) (hcolumn : indent ≤ c.column) (hkey : IsKey key)
    (hrest : c.rest = key ++ ':' :: r) (hr : endsWord r.head? = true)
    (hlater : ∀ s', BehindKey s' (c.advance (key.length + 1)) c.column
      (if indent < c.column then indent :: indents else indents) → Gives s' ts) :
    Gives s ((if indent < c.column then [.blockMappingStart] else []) ++
      .key :: .scalar (String.ofList key) true :: .value :: ts) := by
  have hsettle := h.settle hcolumn hkey hrest hr
  have hshort : (c.advance (key.length + 1)).rest.length < s.bound := by
    have hshort := h.short
    rw [Cursor.rest_advance, List.length_drop]
    omega
  split
  · next hopens =>
      rw [if_pos hopens, if_pos hopens] at hsettle
      rw [if_pos hopens] at hlater
      apply gives_of_settle (q := [.key, .scalar (String.ofList key) true, .value]) hsettle h.keys
        rfl
      exact hlater _ ⟨⟨rfl, h.keys, h.level, h.unfinished, rfl, rfl⟩, rfl, rfl, hshort⟩
  · next hopens =>
      rw [if_neg hopens, if_neg hopens] at hsettle
      rw [if_neg hopens] at hlater
      apply gives_of_settle (q := [.scalar (String.ofList key) true, .value]) hsettle h.keys rfl
      exact hlater _ ⟨⟨rfl, h.keys, h.level, h.unfinished, rfl, rfl⟩, rfl, rfl, hshort⟩

theorem takeToken_nil (h : s.cursor.rest = []) (fuel : Nat) :
    s.takeToken fuel = s.finishStream := by
  rw [takeToken, Cursor.peek, h, List.head?_nil]

/-- At the end of the text a mapping and the one around it are closed. -/
theorem BeforeLine.gives_end (h : BeforeLine s c indent [0, -1]) (hindent : 0 < indent)
    (hrest : c.rest = []) (hcolumn : c.column = 0) :
    Gives s [.blockEnd, .blockEnd, .streamEnd] := by
  have hstale : ({ s with cursor := c, keyAllowed := true } : TokenSource).dropStaleKeys =
      .ok { s with cursor := c, keyAllowed := true } := dropStaleKeys_of_nil h.keys
  have hinner : ({ s with cursor := c, keyAllowed := true } : TokenSource).unwind (0 : Nat) =
    { s with
      cursor := c
      keyAllowed := true
      queue := s.queue ++ [.blockEnd]
      indent := 0
      indents := [-1] } := unwind_of_lt h.level h.indents (h.indent ▸ hindent) (Int.le_refl _)
  have houter : ({ s with
      cursor := c
      keyAllowed := true
      queue := s.queue ++ [.blockEnd]
      indent := 0
      indents := [-1] } : TokenSource).unwind (-1) = { s with
      cursor := c
      keyAllowed := true
      queue := s.queue ++ [.blockEnd] ++ [.blockEnd]
      indent := -1
      indents := [] } :=
    unwind_of_lt h.level rfl (by decide : (-1 : Int) < 0) (Int.le_refl _)
  have hfetch : s.fetch = .ok { s with
      cursor := c
      keyAllowed := false
      keyStarts := []
      queue := [.blockEnd, .blockEnd, .streamEnd]
      indent := -1
      indents := []
      finished := true } := by
    rw [fetch, h.skips, hstale]
    simp only [bind, Except.bind, hcolumn, hinner]
    rw [takeToken_nil hrest, finishStream, houter]
    simp [dropKey, keyStart?, h.keys, h.queue, Except.map, push]
  have hsettle := (settle_of_fetch s.bound h.toRests hfetch).trans
    (settle_of_queue _ rfl (by simp))
  have hnone (s : TokenSource) : Gives s [] := trivial
  exact gives_of_settle (q := [.blockEnd, .streamEnd]) hsettle rfl rfl (hnone _)

end

end TokenSource

end TypeDraft.Yaml
