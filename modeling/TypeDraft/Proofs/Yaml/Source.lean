import TypeDraft.Proofs.Json.Reading
import TypeDraft.Proofs.Yaml.Tokens

/-!
# The source of the tokens of JSON

The source of tokens finds the tokens of a text of JSON before they are certain, and gives them in
order. What is still to come of them follows from where the source stands: between two lexemes, or
between a key and its colon, where the key may be given up or not.
-/

namespace TypeDraft.Yaml

open Json (IsGap Lexeme Mark Role textOf)

namespace TokenSource

/-- The source stands outside all block collections, and there are steps enough for the rest. -/
structure IsFlowing (s : TokenSource) : Prop where
  indent : s.indent = -1
  indents : s.indents = []
  short : s.cursor.rest.length < s.bound
  unfinished : s.finished = false

/-- The source stands between lexemes, with some of them and a last gap before it. -/
structure IsBetween (s : TokenSource) (ls : List Lexeme) (g : List Char) : Prop
    extends IsFlowing s where
  isGap_end : IsGap g
  readable : IsReadable s.flowLevel ls
  allowed : ∀ l ∈ ls.head?, l.role = .key → s.keyAllowed = true
  rest : s.cursor.rest = textOf ls ++ g

/-- The source stands between a key and its colon, behind which are some lexemes and a last gap. -/
structure IsBeforeColon (s : TokenSource) (gap : List Char) (ls : List Lexeme) (g : List Char) :
    Prop extends IsFlowing s where
  isGap : IsGap gap
  isGap_end : IsGap g
  readable : IsReadable s.flowLevel ls
  noKey : ∀ l ∈ ls.head?, l.role ≠ .key
  inside : 0 < s.flowLevel
  rest : s.cursor.rest = gap ++ ':' :: (textOf ls ++ g)

/-- The tokens that are still to be taken from a source. -/
inductive Ahead : TokenSource → List Token → Prop
  | finished {s} : s.finished = true → Ahead s s.queue
  | between {s ls g} : IsBetween s ls g →
      Ahead s (s.queue ++ (tokensFrom s.cursor ls ++ [.streamEnd]))
  | key {s q k start gap ls g} : IsBeforeColon s gap ls g → s.queue = q ++ [k] →
      IsPending s.keyStarts s.flowLevel start → start.token = s.taken + q.length →
      start.line ≤ s.cursor.line → start.isStale (s.cursor.advance gap.length) = false →
      Ahead s (q ++ .key :: k :: .value ::
        (tokensFrom (s.cursor.advance (gap.length + 1)) ls ++ [.streamEnd]))
  | lateKey {s gap ls g} : IsBeforeColon s gap ls g →
      (∀ k ∈ s.keyStarts, k.1 = s.flowLevel →
        k.2.isStale (s.cursor.advance gap.length) = true) →
      Ahead s (s.queue ++ .value ::
        (tokensFrom (s.cursor.advance (gap.length + 1)) ls ++ [.streamEnd]))

variable {s s' : TokenSource} {t : Token} {ts : List Token} {ls : List Lexeme}
  {gap g r : List Char}

section

variable (queue : List Token) (taken : Nat) (keys : List (Nat × KeyStart))

/-! Neither the tokens found nor the possible keys matter for where the source stands. -/

theorem IsFlowing.congr (h : IsFlowing s) :
    IsFlowing { s with queue := queue, taken := taken, keyStarts := keys } :=
  ⟨h.indent, h.indents, h.short, h.unfinished⟩

theorem IsBetween.congr (h : IsBetween s ls g) :
    IsBetween { s with queue := queue, taken := taken, keyStarts := keys } ls g :=
  ⟨h.toIsFlowing.congr queue taken keys, h.isGap_end, h.readable, h.allowed, h.rest⟩

theorem IsBeforeColon.congr (h : IsBeforeColon s gap ls g) :
    IsBeforeColon { s with queue := queue, taken := taken, keyStarts := keys } gap ls g :=
  ⟨h.toIsFlowing.congr queue taken keys, h.isGap, h.isGap_end, h.readable, h.noKey, h.inside,
    h.rest⟩

end

/-! ## What a step leaves to come -/

/-- Giving up keys whose colon can no longer come changes nothing that is to come. -/
theorem Ahead.dropStaleKeys (h : Ahead s ts) (hdrop : s.dropStaleKeys = .ok s') : Ahead s' ts := by
  obtain rfl := dropStaleKeys_eq hdrop
  cases h with
  | finished hend => exact .finished hend
  | between hat => exact .between (hat.congr _ _ _)
  | @key q k start gap ls g hat hqueue hpending htoken hline hstale =>
      have hkept : start.isStale s.cursor = false := by
        by_contra hnow
        have hlater := KeyStart.isStale_advance (Bool.not_eq_false _ ▸ hnow) hline
        exact Bool.false_ne_true (hstale.symm.trans (hlater _))
      refine .key (hat.congr _ _ _) hqueue ⟨?_, ?_⟩ htoken hline hstale
      · exact List.mem_filter.mpr ⟨hpending.1, by simp [hkept]⟩
      · exact fun k hk => hpending.2 k (List.mem_filter.mp hk).1
  | lateKey hat hlate =>
      exact .lateKey (hat.congr _ _ _) fun k hk => hlate k (List.mem_filter.mp hk).1

/-- The first token found is the next one as soon as it is certain. -/
theorem Ahead.drop {q : List Token} (h : Ahead s ts) (hqueue : s.queue = t :: q)
    (hcertain : s.finished = true ∨ s.isUndecided = false) :
    ∃ us, ts = t :: us ∧ Ahead s.drop us := by
  have htail : s.drop.queue = q := by rw [TokenSource.drop, hqueue, List.tail_cons]
  cases h with
  | finished hend =>
      refine ⟨q, hqueue, ?_⟩
      rw [← htail]
      exact .finished hend
  | between hat =>
      refine ⟨q ++ _, by rw [hqueue]; rfl, ?_⟩
      rw [← htail]
      exact .between (hat.congr _ _ _)
  | @key q' k start gap ls g hat hqueue' hpending htoken hline hstale =>
      cases q' with
      | nil =>
          -- The key would be the next token, but its colon has not been seen.
          have hundecided : s.isUndecided = true :=
            List.any_eq_true.mpr ⟨_, hpending.1, by simp [htoken]⟩
          rcases hcertain with hend | hcertain
          · exact absurd (hat.unfinished.symm.trans hend) Bool.false_ne_true
          · exact absurd (hcertain.symm.trans hundecided) Bool.false_ne_true
      | cons t' q' =>
          obtain ⟨rfl, rfl⟩ := List.cons.inj (hqueue.symm.trans hqueue')
          have htaken : start.token = s.taken + 1 + q'.length := by
            rw [htoken, List.length_cons]
            omega
          exact ⟨_, List.cons_append, .key (hat.congr _ _ _) htail hpending htaken hline hstale⟩
  | lateKey hat hlate =>
      refine ⟨q ++ _, by rw [hqueue]; rfl, ?_⟩
      rw [← htail]
      exact .lateKey (hat.congr _ _ _) hlate

/-- The source at the next token, `n` characters on. -/
def reach (s : TokenSource) (n : Nat) (allowed : Bool) : TokenSource :=
  { s with
    cursor := s.cursor.advance n
    keyAllowed := allowed
    keyStarts := s.keyStarts.filter fun k => !k.2.isStale (s.cursor.advance n) }

theorem IsFlowing.exists_reach (h : IsFlowing s) (hrest : s.cursor.rest = g ++ r) (hg : IsGap g)
    (hr : BeginsPlainly r) (hstep : s.fetch = .ok s') :
    ∃ allowed, (s.keyAllowed = true → allowed = true) ∧
      (s.reach g.length allowed).takeToken s.bound = .ok s' := by
  have hfuel : g.length < s.bound := by
    have hshort := h.short
    rw [hrest, List.length_append] at hshort
    omega
  obtain ⟨n, allowed, ⟨hn, hstop⟩, hallowed, hskip⟩ := exists_skipToToken hrest hg hr hfuel
  rw [fetch, hskip] at hstep
  obtain ⟨u, hdrop, hstep⟩ := bind_eq_ok.mp hstep
  obtain rfl : u = s.reach n allowed := dropStaleKeys_eq hdrop
  have hstep : ((s.reach n allowed).unwind (s.reach n allowed).cursor.column).takeToken s.bound =
    .ok s' := hstep
  rw [unwind_eq (s := s.reach n allowed) h.indent h.indents (by omega)] at hstep
  rcases hstop with rfl | htab
  · exact ⟨allowed, hallowed, hstep⟩
  · obtain ⟨g', hg'⟩ := List.head?_eq_some_iff.mp htab
    have hrest' : (s.cursor.advance n).rest = '\t' :: (g' ++ r) := by
      rw [Cursor.rest_advance, hrest, List.drop_append_of_le_length hn, hg', List.cons_append]
    rw [takeToken_tab hrest'] at hstep
    cases hstep


/-- How many characters there are still to read, and the end. -/
def work (s : TokenSource) : Nat := if s.finished then 0 else s.cursor.rest.length + 1

/-- A step that takes tokens leaves less to do, and the same to come. -/
def LeadsTo (s s' : TokenSource) (ts : List Token) : Prop := Ahead s' ts ∧ s'.work < s.work

/-- Where a source stands when it has moved on, whatever it has found. -/
theorem IsFlowing.advance (h : IsFlowing s) (n level taken : Nat) (allowed : Bool)
    (queue : List Token) (keys : List (Nat × KeyStart)) :
    IsFlowing { s with
      cursor := s.cursor.advance n
      flowLevel := level
      keyAllowed := allowed
      queue := queue
      taken := taken
      keyStarts := keys } where
  indent := h.indent
  indents := h.indents
  short := by
    have hshort := h.short
    simp only [Cursor.rest_advance, List.length_drop]
    omega
  unfinished := h.unfinished

theorem IsFlowing.work_lt {n : Nat} (h : IsFlowing s) (hcursor : s'.cursor = s.cursor.advance n)
    (hpos : 0 < n) (hle : n ≤ s.cursor.rest.length) : s'.work < s.work := by
  have hlength : s'.cursor.rest.length = s.cursor.rest.length - n := by
    rw [hcursor, Cursor.rest_advance, List.length_drop]
  unfold work
  rw [h.unfinished]
  simp only [Bool.false_eq_true, if_false]
  split <;> omega

theorem IsBetween.fetch_end (h : IsBetween s [] g) (hstep : s.fetch = .ok s') :
    LeadsTo s s' (s.queue ++ [.streamEnd]) := by
  have hrest : s.cursor.rest = g ++ [] := by rw [h.rest, Json.textOf_nil, List.nil_append, List.append_nil]
  obtain ⟨allowed, -, hstep⟩ := h.exists_reach hrest h.isGap_end nofun hstep
  obtain ⟨hend, hqueue⟩ := takeToken_end (s := s.reach g.length allowed)
    (Cursor.rest_advance_append hrest) h.indent h.indents hstep
  refine ⟨?_, ?_⟩
  · have hqueue' : s'.queue = s.queue ++ [.streamEnd] := hqueue
    rw [← hqueue']
    exact .finished hend
  · simp [work, hend, h.unfinished]

/-- The next lexeme is where the source comes to stand. -/
theorem IsBetween.exists_reach_lexeme {l : Lexeme} (h : IsBetween s (l :: ls) g)
    (hstep : s.fetch = .ok s') : ∃ allowed, (s.keyAllowed = true → allowed = true) ∧
      (s.reach l.gap.length allowed).cursor.rest = l.token.text ++ (textOf ls ++ g) ∧
      (s.reach l.gap.length allowed).takeToken s.bound = .ok s' := by
  have hrest : s.cursor.rest = l.gap ++ (l.token.text ++ (textOf ls ++ g)) := by
    rw [h.rest, Json.textOf_cons, Lexeme.text, List.append_assoc, List.append_assoc]
  obtain ⟨allowed, hallowed, hstep⟩ := h.exists_reach hrest
    (h.readable.gap l List.mem_cons_self)
    ((h.readable.kept l List.mem_cons_self).beginsPlainly _) hstep
  exact ⟨allowed, hallowed, Cursor.rest_advance_append hrest, hstep⟩

theorem IsBetween.text_length {l : Lexeme} (h : IsBetween s (l :: ls) g) :
    0 < l.text.length ∧ l.text.length ≤ s.cursor.rest.length := by
  have hne : l.token.text ≠ [] := by
    have hkept := h.readable.kept l List.mem_cons_self
    cases htoken : l.token with
    | mark m => exact List.cons_ne_nil _ _
    | key form body gap => simp [Json.Token.text]
    | string setting q body => exact List.cons_ne_nil _ _
    | word cs =>
        rw [htoken] at hkept
        rintro rfl
        cases hkept.1
  have hpos := List.length_pos_iff.mpr hne
  rw [h.rest, Json.textOf_cons]
  simp only [Lexeme.text, List.length_append]
  omega

/-- Where a source stands when it has taken a lexeme. -/
theorem IsBetween.next {l : Lexeme} (h : IsBetween s (l :: ls) g) {allowed : Bool}
    (hallowed : ∀ m ∈ ls.head?, m.role = .key → allowed = true) (queue : List Token)
    (keys : List (Nat × KeyStart)) :
    IsBetween { s with
      cursor := s.cursor.advance l.text.length
      flowLevel := levelAfter s.flowLevel l.role
      keyAllowed := allowed
      queue := queue
      keyStarts := keys } ls g where
  toIsFlowing := h.toIsFlowing.advance _ _ _ _ _ _
  isGap_end := h.isGap_end
  readable := h.readable.tail
  allowed := hallowed
  rest := by
    refine Cursor.rest_advance_append ?_
    rw [h.rest, Json.textOf_cons, List.append_assoc]

theorem IsBetween.fetch_mark {m : Mark} (h : IsBetween s (⟨gap, .mark m⟩ :: ls) g)
    (hstep : s.fetch = .ok s') :
    LeadsTo s s' (s.queue ++ (tokensFrom s.cursor (⟨gap, .mark m⟩ :: ls) ++ [.streamEnd])) := by
  obtain ⟨hpos, hle⟩ := h.text_length
  obtain ⟨allowed, -, hrest, hstep⟩ := h.exists_reach_lexeme hstep
  obtain ⟨keys, rfl⟩ := takeToken_mark hrest hstep
  have hcursor : (s.reach gap.length allowed).cursor.next =
      s.cursor.advance (Lexeme.text ⟨gap, .mark m⟩).length := by
    simp [reach, Lexeme.text, Json.Token.text]
  have hallowed : ∀ l ∈ ls.head?, l.role = .key → allowsKey m = true := by
    intro l hl hrole
    have hbefore := h.readable.precedes_head l hl
    rw [hrole] at hbefore
    cases m <;> first | rfl | cases hbefore
  rw [tokensFrom_cons, tokensOf, List.append_assoc, ← List.append_assoc s.queue, hcursor]
  exact ⟨.between (h.next hallowed _ _), h.work_lt rfl hpos hle⟩

theorem IsBetween.fetch_string {setting : Json.Setting} {q : Json.QuoteMark} {body : List Char}
    (h : IsBetween s (⟨gap, .string setting q body⟩ :: ls) g) (hstep : s.fetch = .ok s') :
    LeadsTo s s'
      (s.queue ++ (tokensFrom s.cursor (⟨gap, .string setting q body⟩ :: ls) ++ [.streamEnd])) := by
  obtain ⟨hpos, hle⟩ := h.text_length
  obtain ⟨rfl, hkept⟩ := h.readable.kept _ List.mem_cons_self
  obtain ⟨allowed, -, hrest, hstep⟩ := h.exists_reach_lexeme hstep
  obtain ⟨keys, -, rfl⟩ := takeToken_string
    (by simpa [Json.Token.text, Json.inQuotes, Json.QuoteMark.char] using hrest) hkept hstep
  have hcursor : (s.reach gap.length allowed).cursor.advance (body.length + 2) =
      s.cursor.advance (Lexeme.text ⟨gap, .string setting .double body⟩).length := by
    simp [reach, Lexeme.text, Json.Token.text, Json.inQuotes]
  have hallowed : ∀ l ∈ ls.head?, l.role = .key → false = true := by
    intro l hl hrole
    have hbefore := h.readable.precedes_head l hl
    rw [hrole] at hbefore
    cases hbefore
  rw [tokensFrom_cons, tokensOf, List.append_assoc, ← List.append_assoc s.queue, hcursor]
  exact ⟨.between (h.next hallowed _ _), h.work_lt rfl hpos hle⟩

/-- A key is found as a string, and may still turn out to be a key. -/
theorem IsBetween.exists_beforeColon {body colonGap : List Char}
    (h : IsBetween s (⟨gap, .key (.quoted .double) body colonGap⟩ :: ls) g)
    (hstep : s.fetch = .ok s') : IsBeforeColon s' colonGap ls g ∧
      s'.cursor = s.cursor.advance (gap.length + (body.length + 2)) ∧
      s'.queue = s.queue ++ [.scalar (contents body) false] ∧
      ∃ start, IsPending s'.keyStarts s'.flowLevel start ∧
        start.token = s'.taken + s.queue.length ∧ start.line = (s.cursor.advance gap.length).line ∧
        start.index = (s.cursor.advance gap.length).index := by
  obtain ⟨-, hgap, hkept⟩ := h.readable.kept _ List.mem_cons_self
  obtain ⟨allowed, hallowed, hrest, hstep⟩ := h.exists_reach_lexeme hstep
  have hquoted : (s.reach gap.length allowed).cursor.rest =
      '"' :: (body ++ '"' :: (colonGap ++ ':' :: (textOf ls ++ g))) := by
    simpa [Json.Token.text, Json.KeyForm.text, Json.inQuotes, Json.QuoteMark.char] using hrest
  obtain ⟨keys, hpending, rfl⟩ := takeToken_string hquoted hkept hstep
  have hcursor : (s.reach gap.length allowed).cursor.advance (body.length + 2) =
      s.cursor.advance (gap.length + (body.length + 2)) := Cursor.advance_advance _ _ _
  have hbehind : (s.cursor.advance (gap.length + (body.length + 2))).rest =
      colonGap ++ ':' :: (textOf ls ++ g) := by
    rw [← hcursor, Cursor.rest_advance, hquoted]
    simp
  rw [hcursor]
  refine ⟨⟨h.toIsFlowing.advance _ _ _ _ _ _, hgap, h.isGap_end, h.readable.tail,
    fun l hl hrole => ?_, h.readable.fits.1 rfl, hbehind⟩, rfl, rfl,
    _, hpending (hallowed (h.allowed _ rfl rfl)), rfl, rfl, rfl⟩
  have hbefore := h.readable.precedes_head l hl
  rw [hrole] at hbefore
  cases hbefore

theorem IsBetween.fetch_key {form : Json.KeyForm} {body colonGap : List Char}
    (h : IsBetween s (⟨gap, .key form body colonGap⟩ :: ls) g) (hstep : s.fetch = .ok s') :
    LeadsTo s s'
      (s.queue ++ (tokensFrom s.cursor (⟨gap, .key form body colonGap⟩ :: ls) ++ [.streamEnd])) := by
  obtain ⟨-, hle⟩ := h.text_length
  obtain ⟨rfl, -⟩ := h.readable.kept _ List.mem_cons_self
  obtain ⟨hat, hcursor, hqueue, start, hpending, htoken, hline, hindex⟩ := h.exists_beforeColon hstep
  have hlength : (Lexeme.text ⟨gap, .key (.quoted .double) body colonGap⟩).length =
      gap.length + (body.length + 2) + (colonGap.length + 1) := by
    simp [Lexeme.text, Json.Token.text, Json.KeyForm.text, Json.inQuotes]
    omega
  have hlast : s.cursor.advance (gap.length + (body.length + 2) + (colonGap.length + 1)) =
      s'.cursor.advance (colonGap.length + 1) := by rw [hcursor, Cursor.advance_advance]
  have hlate : start.isStale (s'.cursor.advance colonGap.length) =
      comesLate (s.cursor.advance gap.length) (body.length + 2 + colonGap.length) := by
    rw [hcursor, comesLate, KeyStart.isStale, hline, hindex, Cursor.advance_advance,
      Cursor.advance_advance, Nat.add_assoc]
  rw [hlength] at hle
  refine ⟨?_, h.work_lt hcursor (by omega) (by omega)⟩
  rw [tokensFrom_cons, tokensOf, hlength, hlast, ← hlate]
  -- Whether the key is still awaited at its colon.
  split
  · next hstale =>
      rw [List.append_assoc, List.cons_append, List.append_cons, ← hqueue]
      exact .lateKey hat fun k hk hlevel => hpending.2 k hk hlevel ▸ hstale
  · next hstale =>
      refine .key hat hqueue hpending htoken ?_ (Bool.eq_false_iff.mpr hstale)
      rw [hline, hcursor, ← Cursor.advance_advance]
      exact (Cursor.place_le_advance _ _).1

/-- A word is taken with no more than the white space behind it. -/
theorem IsBetween.exists_behindWord {w g' r : List Char}
    (h : IsBetween s (⟨gap, .word w⟩ :: ls) g) (hsplit : textOf ls ++ g = g' ++ r)
    (hg' : IsGap g') (hr : BeginsPlainly r) (hstop : stopsPlain s.inFlow r = true)
    (hstep : s.fetch = .ok s') : ∃ n ≤ g'.length,
      s'.cursor = s.cursor.advance (gap.length + w.length + n) ∧
      s'.queue = s.queue ++ [.scalar (String.ofList w) true] ∧
      ∀ ls' g'', IsReadable s.flowLevel ls' → IsGap g'' → (∀ l ∈ ls'.head?, l.role ≠ .key) →
        g'.drop n ++ r = textOf ls' ++ g'' → IsBetween s' ls' g'' := by
  obtain ⟨hbegins, hw⟩ := h.readable.kept _ List.mem_cons_self
  obtain ⟨before, -, hrest, hstep⟩ := h.exists_reach_lexeme hstep
  obtain ⟨fuel, hfuel⟩ := Nat.exists_eq_add_one_of_ne_zero (Nat.ne_zero_of_lt h.short)
  rw [hsplit] at hrest
  rw [hfuel] at hstep
  obtain ⟨keys, allowed, n, hn, rfl⟩ := takeToken_word hrest hbegins hw hg' hr hstop hstep
  have hcursor : (s.reach gap.length before).cursor.advance (w.length + n) =
      s.cursor.advance (gap.length + w.length + n) := by
    rw [reach, Cursor.advance_advance, Nat.add_assoc]
  refine ⟨n, hn, hcursor, rfl, fun ls' g'' hls hg hkey hrest' => ?_⟩
  refine ⟨?_, hg, hls, fun l hl hrole => absurd hrole (hkey l hl), ?_⟩
  · have hflowing := h.toIsFlowing.advance (gap.length + w.length + n) s.flowLevel s.taken allowed
      (s.queue ++ [.scalar (String.ofList w) true]) keys
    rw [← hcursor] at hflowing
    exact hflowing
  · have hword : ((s.reach gap.length before).cursor.advance w.length).rest = g' ++ r :=
      Cursor.rest_advance_append hrest
    show ((s.reach gap.length before).cursor.advance (w.length + n)).rest = _
    rw [← Cursor.advance_advance, Cursor.rest_advance, hword, ← hrest',
      List.drop_append_of_le_length hn]

theorem IsBetween.fetch_word {w : List Char} (h : IsBetween s (⟨gap, .word w⟩ :: ls) g)
    (hstep : s.fetch = .ok s') :
    LeadsTo s s' (s.queue ++ (tokensFrom s.cursor (⟨gap, .word w⟩ :: ls) ++ [.streamEnd])) := by
  have hlength : (Lexeme.text ⟨gap, .word w⟩).length = gap.length + w.length := by
    simp [Lexeme.text, Json.Token.text]
  have hpos := h.text_length.1
  rw [hlength] at hpos
  have hall := congrArg List.length h.rest
  rw [Json.textOf_cons, List.length_append, List.length_append, hlength] at hall
  rw [tokensFrom_cons, tokensOf, hlength, List.append_assoc, ← List.append_assoc s.queue]
  cases ls with
  | nil =>
      have hbegins : BeginsPlainly [] := fun _ h => absurd h (Option.not_mem_none _)
      obtain ⟨n, hn, hcursor, hqueue, hnext⟩ := h.exists_behindWord (r := [])
        (by rw [Json.textOf_nil, List.nil_append, List.append_nil]) h.isGap_end hbegins rfl hstep
      have hreadable : IsReadable s.flowLevel [] :=
        ⟨List.forall_mem_nil _, List.forall_mem_nil _, List.isChain_nil, trivial⟩
      have hat := hnext [] (g.drop n) hreadable (isGap_drop h.isGap_end n)
        (fun _ h => absurd h (Option.not_mem_none _))
        (by rw [Json.textOf_nil, List.append_nil, List.nil_append])
      refine ⟨?_, h.work_lt hcursor (by omega) (by omega)⟩
      rw [← hqueue]
      exact .between hat
  | cons m ms =>
      have hm : m.role.followsValue = true := h.readable.precedes_head m rfl
      have hinside : s.inFlow = true :=
        decide_eq_true (h.readable.tail.fits.1 (staysInside_of_followsValue hm))
      have hstop : stopsPlain s.inFlow (m.token.text ++ (textOf ms ++ g)) = true := by
        rw [hinside]
        exact stopsPlain_of_followsValue hm _
      have hsplit : textOf (m :: ms) ++ g = m.gap ++ (m.token.text ++ (textOf ms ++ g)) := by
        rw [Json.textOf_cons, Lexeme.text, List.append_assoc, List.append_assoc]
      obtain ⟨n, hn, hcursor, hqueue, hnext⟩ := h.exists_behindWord hsplit
        (h.readable.tail.gap m List.mem_cons_self)
        ((h.readable.tail.kept m List.mem_cons_self).beginsPlainly _) hstop hstep
      have hkey : ∀ l ∈ (⟨m.gap.drop n, m.token⟩ :: ms : List Lexeme).head?, l.role ≠ .key := by
        intro l hl hrole
        obtain rfl := Option.some.inj hl
        rw [show m.role = .key from hrole] at hm
        cases hm
      have hat := hnext (⟨m.gap.drop n, m.token⟩ :: ms) g (h.readable.tail.dropGap n) h.isGap_end
        hkey (by simp only [Json.textOf_cons, Lexeme.text, List.append_assoc])
      rw [Json.textOf_cons, Lexeme.text, List.length_append, List.length_append] at hall
      refine ⟨?_, h.work_lt hcursor (by omega) (by omega)⟩
      rw [← tokensFrom_dropGap hn, Cursor.advance_advance, ← hcursor, ← hqueue]
      exact .between hat

/-! ### Colons -/

theorem IsBeforeColon.exists_reach (h : IsBeforeColon s gap ls g) (hstep : s.fetch = .ok s') :
    ∃ allowed, (s.reach gap.length allowed).cursor.rest = ':' :: (textOf ls ++ g) ∧
      (s.reach gap.length allowed).takeToken s.bound = .ok s' := by
  have hcolon : BeginsPlainly (':' :: (textOf ls ++ g)) := by
    intro d hd
    obtain rfl : ':' = d := Option.some.inj hd
    decide
  obtain ⟨allowed, -, hstep⟩ := h.toIsFlowing.exists_reach h.rest h.isGap hcolon hstep
  exact ⟨allowed, Cursor.rest_advance_append h.rest, hstep⟩

/-- Where a source stands when it has taken a colon. -/
theorem IsBeforeColon.next (h : IsBeforeColon s gap ls g) (queue : List Token)
    (keys : List (Nat × KeyStart)) :
    IsBetween { s with
      cursor := s.cursor.advance (gap.length + 1)
      keyAllowed := false
      queue := queue
      keyStarts := keys } ls g where
  toIsFlowing := h.toIsFlowing.advance _ _ _ _ _ _
  isGap_end := h.isGap_end
  readable := h.readable
  allowed := fun l hl hrole => absurd hrole (h.noKey l hl)
  rest := by
    show (s.cursor.advance (gap.length + 1)).rest = _
    rw [← Cursor.advance_advance, Cursor.rest_advance, Cursor.rest_advance_append h.rest]
    rfl

theorem IsBeforeColon.work_lt (h : IsBeforeColon s gap ls g)
    (hcursor : s'.cursor = s.cursor.advance (gap.length + 1)) : s'.work < s.work := by
  refine h.toIsFlowing.work_lt hcursor (Nat.succ_pos _) ?_
  rw [h.rest]
  simp

theorem IsBeforeColon.fetch_key {q : List Token} {k : Token} {start : KeyStart}
    (h : IsBeforeColon s gap ls g) (hqueue : s.queue = q ++ [k])
    (hpending : IsPending s.keyStarts s.flowLevel start)
    (htoken : start.token = s.taken + q.length)
    (hstale : start.isStale (s.cursor.advance gap.length) = false) (hstep : s.fetch = .ok s') :
    LeadsTo s s' (q ++ .key :: k :: .value ::
      (tokensFrom (s.cursor.advance (gap.length + 1)) ls ++ [.streamEnd])) := by
  obtain ⟨allowed, hrest, hstep⟩ := h.exists_reach hstep
  have hpending' : IsPending (s.reach gap.length allowed).keyStarts s.flowLevel start :=
    ⟨List.mem_filter.mpr ⟨hpending.1, by simp [hstale]⟩,
      fun k hk => hpending.2 k (List.mem_filter.mp hk).1⟩
  obtain ⟨keys, rfl⟩ := takeToken_colon hrest (decide_eq_true h.inside) hpending' hqueue htoken hstep
  have hcursor : (s.reach gap.length allowed).cursor.next = s.cursor.advance (gap.length + 1) :=
    Cursor.next_advance _ _
  rw [hcursor]
  refine ⟨?_, h.work_lt rfl⟩
  have hfound : q ++ .key :: k :: .value ::
      (tokensFrom (s.cursor.advance (gap.length + 1)) ls ++ [.streamEnd]) =
      q ++ [.key, k, .value] ++
        (tokensFrom (s.cursor.advance (gap.length + 1)) ls ++ [.streamEnd]) := by simp
  rw [hfound]
  exact .between (h.next _ _)

theorem IsBeforeColon.fetch_lateKey (h : IsBeforeColon s gap ls g)
    (hlate : ∀ k ∈ s.keyStarts, k.1 = s.flowLevel →
      k.2.isStale (s.cursor.advance gap.length) = true) (hstep : s.fetch = .ok s') :
    LeadsTo s s' (s.queue ++ .value ::
      (tokensFrom (s.cursor.advance (gap.length + 1)) ls ++ [.streamEnd])) := by
  obtain ⟨allowed, hrest, hstep⟩ := h.exists_reach hstep
  have hnone : ∀ k ∈ (s.reach gap.length allowed).keyStarts, k.1 ≠ s.flowLevel := by
    intro k hk hlevel
    obtain ⟨hk, hfresh⟩ := List.mem_filter.mp hk
    simp [hlate k hk hlevel] at hfresh
  obtain ⟨keys, rfl⟩ := takeToken_late_colon hrest (decide_eq_true h.inside) hnone hstep
  have hcursor : (s.reach gap.length allowed).cursor.next = s.cursor.advance (gap.length + 1) :=
    Cursor.next_advance _ _
  rw [hcursor, List.append_cons s.queue]
  exact ⟨.between (h.next _ _), h.work_lt rfl⟩

/-- A step that takes tokens keeps what is to come. -/
theorem Ahead.fetch (h : Ahead s ts) (hunfinished : s.finished = false)
    (hstep : s.fetch = .ok s') : LeadsTo s s' ts := by
  cases h with
  | finished hend => exact absurd (hunfinished.symm.trans hend) Bool.false_ne_true
  | @between ls g hat =>
      cases ls with
      | nil => exact hat.fetch_end hstep
      | cons l ls =>
          obtain ⟨gap, token⟩ := l
          cases token with
          | mark m => exact hat.fetch_mark hstep
          | key form body colonGap => exact hat.fetch_key hstep
          | string setting q body => exact hat.fetch_string hstep
          | word cs => exact hat.fetch_word hstep
  | key hat hqueue hpending htoken _ hstale =>
      exact hat.fetch_key hqueue hpending htoken hstale hstep
  | lateKey hat hlate => exact hat.fetch_lateKey hlate hstep

/-! ## The next token -/

theorem Ahead.work_le (h : Ahead s ts) : s.work ≤ s.bound := by
  have hflowing : ∀ s : TokenSource, IsFlowing s → s.work ≤ s.bound := by
    intro s hs
    rw [work, hs.unfinished]
    exact hs.short
  cases h with
  | finished hend => simp [work, hend]
  | between hat => exact hflowing s hat.toIsFlowing
  | key hat | lateKey hat => exact hflowing s hat.toIsFlowing

/-- Reading on until the first token is certain keeps what is to come. -/
theorem Ahead.settle {fuel : Nat} (h : Ahead s ts) (hfuel : s.work ≤ fuel)
    (hstep : s.settle fuel = .ok s') :
    Ahead s' ts ∧ (s'.finished = true ∨ s'.isUndecided = false) := by
  induction fuel generalizing s with
  | zero =>
      obtain rfl := Except.ok.inj hstep
      refine ⟨h, .inl ?_⟩
      by_contra hunfinished
      simp [work, hunfinished] at hfuel
  | succ fuel ih =>
      rw [TokenSource.settle] at hstep
      split at hstep
      · next hend =>
          obtain rfl := Except.ok.inj hstep
          exact ⟨h, .inl hend⟩
      · next hunfinished =>
          rw [Bool.not_eq_true] at hunfinished
          split at hstep
          · obtain ⟨u, hfetch, hstep⟩ := bind_eq_ok.mp hstep
            obtain ⟨hahead, hwork⟩ := h.fetch hunfinished hfetch
            exact ih hahead (by omega) hstep
          · split at hstep
            · cases hstep
            · next u hdrop =>
                have hahead := h.dropStaleKeys hdrop
                obtain rfl := dropStaleKeys_eq hdrop
                split at hstep
                · obtain ⟨u, hfetch, hstep⟩ := bind_eq_ok.mp hstep
                  obtain ⟨hahead, hwork⟩ := hahead.fetch hunfinished hfetch
                  exact ih hahead (Nat.le_of_lt_succ (hwork.trans_le hfuel)) hstep
                · next hcertain =>
                    obtain rfl := Except.ok.inj hstep
                    exact ⟨hahead, .inr (Bool.eq_false_iff.mpr hcertain)⟩

/-- The token that is looked at is the next one to come. -/
theorem Ahead.peek (h : Ahead s ts) (hstep : s.peek = .ok (t, s')) :
    ∃ us, ts = t :: us ∧ Ahead s' ts ∧ Ahead s'.drop us := by
  obtain ⟨u, hsettle, hstep⟩ := bind_eq_ok.mp hstep
  obtain ⟨hahead, hcertain⟩ := h.settle (h.work_le.trans (Nat.le_succ _)) hsettle
  split at hstep
  · next q hqueue =>
      obtain ⟨rfl, rfl⟩ := Prod.mk.inj (Except.ok.inj hstep)
      obtain ⟨us, rfl, hbehind⟩ := hahead.drop hqueue hcertain
      exact ⟨us, rfl, hahead, hbehind⟩
  · cases hstep

/-- The tokens of a text of lexemes. -/
theorem ahead_of_ofText {l : Lexeme} (hls : IsReadable 0 (l :: ls)) (hg : IsGap g)
    (h : ofText (textOf (l :: ls) ++ g) = .ok s) :
    ∃ c, Ahead s (tokensFrom c (l :: ls) ++ [.streamEnd]) := by
  have hproper : l.IsProper :=
    ⟨hls.gap l List.mem_cons_self, (hls.kept l List.mem_cons_self).isProper⟩
  have hmark : (textOf (l :: ls) ++ g).head? ≠ some '\ufeff' := by
    rw [Json.textOf_cons, List.append_assoc]
    exact Json.head?_textOf_ne_byteOrderMark hproper _
  unfold ofText at h
  split at h
  · obtain rfl := Except.ok.inj h
    simp only [Cursor.peek, beq_eq_false_iff_ne.mpr hmark, Bool.false_eq_true, if_false]
    refine ⟨{ rest := textOf (l :: ls) ++ g }, ?_⟩
    exact .between ⟨⟨rfl, rfl, Nat.lt_succ_self _, rfl⟩, hg, hls, fun _ _ _ => rfl, rfl⟩
  · cases h

end TokenSource

end TypeDraft.Yaml
