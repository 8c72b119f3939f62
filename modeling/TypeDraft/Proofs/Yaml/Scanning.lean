import Mathlib.Data.List.TakeDrop
import TypeDraft.Proofs.Except
import TypeDraft.Proofs.Yaml.Strings
import TypeDraft.Proofs.Yaml.Words

/-!
# One token of JSON in YAML

What the source of tokens does where a token of JSON stands: which token it finds, how far it moves,
and whether a key may have begun.
-/

namespace TypeDraft.Yaml

open Json (IsGap Mark isWordPart)

def markToken : Mark → Token
  | .openArray => .flowSequenceStart
  | .closeArray => .flowSequenceEnd
  | .openObject => .flowMappingStart
  | .closeObject => .flowMappingEnd
  | .comma | .trailingComma => .flowEntry

/-- How many collections are open behind a mark. -/
def levelBehind (level : Nat) : Mark → Nat
  | .openArray | .openObject => level + 1
  | .closeArray | .closeObject => level - 1
  | .comma | .trailingComma => level

/-- Whether a key may begin behind a mark. -/
def allowsKey : Mark → Bool
  | .closeArray | .closeObject => false
  | _ => true

/-- What a word may begin with: a letter or a digit, or a hyphen before one. -/
inductive BeginsWord : List Char → Prop
  | plain {c r} : c.isAlphanum = true → BeginsWord (c :: r)
  | minus {c r} : c.isAlphanum = true → BeginsWord ('-' :: c :: r)

theorem ne_of_isAlphanum {c d : Char} (hc : c.isAlphanum = true) (hd : d.isAlphanum = false) :
    c ≠ d := by
  rintro rfl
  exact Bool.false_ne_true (hd.symm.trans hc)

theorem isWordPart_of_isAlphanum {c : Char} (h : c.isAlphanum = true) : isWordPart c = true := by
  simp [isWordPart, h]

/-! ## Possible keys -/

/-- The only possible key of a level begins at a given place. -/
def IsPending (keys : List (Nat × KeyStart)) (level : Nat) (start : KeyStart) : Prop :=
  (level, start) ∈ keys ∧ ∀ k ∈ keys, k.1 = level → k.2 = start

theorem IsPending.lookup {keys : List (Nat × KeyStart)} {level : Nat} {start : KeyStart}
    (h : IsPending keys level start) : keys.lookup level = some start := by
  cases hlookup : keys.lookup level with
  | none =>
      rw [List.lookup_eq_none_iff] at hlookup
      simpa using hlookup _ h.1
  | some k =>
      obtain ⟨before, behind, rfl, -⟩ := List.lookup_eq_some_iff.mp hlookup
      exact congrArg some (h.2 (level, k) (by simp) rfl)

theorem KeyStart.isStale_advance {k : KeyStart} {c : Cursor} (h : k.isStale c = true)
    (hline : k.line ≤ c.line) (n : Nat) : k.isStale (c.advance n) = true := by
  obtain ⟨hlater, hfurther⟩ := c.place_le_advance n
  simp only [isStale, Bool.or_eq_true, bne_iff_ne, decide_eq_true_eq] at h ⊢
  omega

namespace TokenSource

variable {s s' : TokenSource} {r : List Char} {fuel : Nat}

/-- The key that would begin at the next token. -/
def keyHere (s : TokenSource) : KeyStart where
  token := s.taken + s.queue.length
  required := !s.inFlow && s.indent == s.cursor.column
  index := s.cursor.index
  line := s.cursor.line
  column := s.cursor.column

theorem dropStaleKeys_eq (h : s.dropStaleKeys = .ok s') :
    s' = { s with keyStarts := s.keyStarts.filter fun k => !k.2.isStale s.cursor } := by
  unfold dropStaleKeys at h
  split at h
  · cases h
  · exact (Except.ok.inj h).symm

theorem dropKey_eq (h : s.dropKey = .ok s') :
    ∃ keys, s' = { s with keyStarts := keys } ∧ ∀ k ∈ keys, k.1 ≠ s.flowLevel := by
  unfold dropKey at h
  split at h
  · split at h
    · cases h
    · exact ⟨_, (Except.ok.inj h).symm, fun k hk => by simpa using (List.mem_filter.mp hk).2⟩
  · next hnone =>
      refine ⟨s.keyStarts, (Except.ok.inj h).symm, fun k hk heq => ?_⟩
      rw [keyStart?, List.lookup_eq_none_iff] at hnone
      simpa [heq] using hnone k hk

/-- A key that may begin is noted, and is the only one of its level then. -/
theorem noteKey_eq (h : s.noteKey = .ok s') : ∃ keys, s' = { s with keyStarts := keys } ∧
    (s.keyAllowed = true → IsPending keys s.flowLevel s.keyHere) := by
  unfold noteKey at h
  split at h
  · obtain ⟨u, hdrop, rfl⟩ := map_eq_ok.mp h
    obtain ⟨keys, rfl, hother⟩ := dropKey_eq hdrop
    refine ⟨_, rfl, fun _ => ⟨by simp [keyHere, inFlow], fun k hk heq => ?_⟩⟩
    rcases List.mem_append.mp hk with hk | hk
    · exact absurd heq (hother k hk)
    · obtain rfl := List.mem_singleton.mp hk
      rfl
  · next hkey => exact ⟨s.keyStarts, (Except.ok.inj h).symm, fun hallowed => absurd hallowed hkey⟩

/-- Outside all block collections none is closed. -/
theorem unwind_eq {column : Int} (hindent : s.indent = -1) (hindents : s.indents = [])
    (hcolumn : -1 ≤ column) : s.unwind column = s := by
  unfold unwind
  split
  · rfl
  · have hspan : (s.indent :: s.indents).span (fun i => decide (column < i)) = ([], [-1]) := by
      rw [hindent, hindents, List.span_eq_takeWhile_dropWhile]
      simp [Int.not_lt.mpr hcolumn]
    rw [hspan]
    obtain ⟨cursor, bound, queue, taken, finished, flowLevel, indent, indents, keyAllowed,
      keyStarts⟩ := s
    simp only at hindent hindents
    subst hindent hindents
    simp

/-! ## The next token -/

theorem atMark_eq_false {c : Cursor} {d : Char} (sign : Char) (h : c.rest = d :: r) (hd : d ≠ sign) :
    c.atMark sign = false := by
  unfold Cursor.atMark
  split
  · next heq =>
      rw [h] at heq
      simp [← (List.cons.inj heq).1, hd]
  · rfl

theorem takeToken_mark {m : Mark} (h : s.cursor.rest = m.char :: r)
    (hstep : s.takeToken fuel = .ok s') :
    ∃ keys, s' =
      { s with
        keyStarts := keys
        flowLevel := levelBehind s.flowLevel m
        keyAllowed := allowsKey m
        cursor := s.cursor.next
        queue := s.queue ++ [markToken m] } := by
  have hmark : ∀ sign, m.char ≠ sign → s.cursor.atMark sign = false :=
    fun sign hsign => atMark_eq_false sign h hsign
  have hhyphen : s.cursor.atMark '-' = false := hmark '-' (by cases m <;> decide)
  have hpoint : s.cursor.atMark '.' = false := hmark '.' (by cases m <;> decide)
  unfold takeToken at hstep
  simp only [Cursor.peek, h, hhyphen, hpoint, Bool.and_false, List.head?_cons] at hstep
  cases m with
  | openArray | openObject =>
      simp [Mark.char] at hstep
      obtain ⟨u, hnote, rfl⟩ := map_eq_ok.mp hstep
      obtain ⟨keys, rfl, -⟩ := noteKey_eq hnote
      exact ⟨keys, rfl⟩
  | closeArray | closeObject | comma | trailingComma =>
      simp [Mark.char] at hstep
      obtain ⟨u, hdrop, rfl⟩ := map_eq_ok.mp hstep
      obtain ⟨keys, rfl, -⟩ := dropKey_eq hdrop
      exact ⟨keys, rfl⟩

theorem takeToken_string {body : List Char} {t : String}
    (h : s.cursor.rest = '"' :: (body ++ '"' :: r)) (hbody : KeepsFrom [] body t)
    (hstep : s.takeToken fuel = .ok s') :
    ∃ keys, (s.keyAllowed = true → IsPending keys s.flowLevel s.keyHere) ∧ s' =
      { s with
        keyStarts := keys
        keyAllowed := false
        cursor := s.cursor.advance (body.length + 2)
        queue := s.queue ++ [.scalar t false] } := by
  have hnode : s.takeToken fuel = s.takeNode fun c =>
      (readQuoted '"' [] fuel c.next).map fun p => (.scalar p.1 false, p.2) := by
    unfold takeToken
    simp [Cursor.peek, h, atMark_eq_false '-' h (by decide),
      atMark_eq_false '.' h (by decide)]
  rw [hnode] at hstep
  obtain ⟨u, hnote, hstep⟩ := bind_eq_ok.mp hstep
  obtain ⟨keys, rfl, hkey⟩ := noteKey_eq hnote
  obtain ⟨⟨t', c⟩, hread, hstep⟩ := bind_eq_ok.mp hstep
  obtain ⟨⟨text, c'⟩, hquoted, heq⟩ := map_eq_ok.mp hread
  obtain ⟨rfl, rfl⟩ := Prod.mk.inj heq
  obtain ⟨rfl, rfl⟩ := readQuoted_eq hbody (by rw [Cursor.rest_next, h, List.tail_cons]) hquoted
  refine ⟨keys, hkey, ?_⟩
  rw [← Except.ok.inj hstep, ← Cursor.advance_one, Cursor.advance_advance, Nat.add_comm 1]
  rfl

theorem endsWord_peekAt {c : Cursor} {a b : Char} (h : c.rest = a :: b :: r)
    (hb : isWordPart b = true) : endsWord (c.peekAt 1) = false := by
  simp [Cursor.peekAt, h, not_endsWord_of_isWordPart hb]

theorem takeToken_eq_takePlain (h : BeginsWord s.cursor.rest) :
    s.takeToken fuel = s.takePlain fuel := by
  generalize hrest : s.cursor.rest = cs at h
  cases h with
  | @plain c r hc =>
      have hne : ∀ d : Char, d.isAlphanum = false → c ≠ d := fun d => ne_of_isAlphanum hc
      have hends := not_endsWord_of_isWordPart (isWordPart_of_isAlphanum hc)
      simp only [takeToken, startsPlain, Cursor.peek, hrest, List.head?_cons,
        atMark_eq_false '-' hrest (hne '-' (by decide)),
        atMark_eq_false '.' hrest (hne '.' (by decide)),
        hends]
      simp [hne]
  | @minus c r hc =>
      have hends := endsWord_peekAt hrest (isWordPart_of_isAlphanum hc)
      have hmark : s.cursor.atMark '-' = false := by
        have hne := ne_of_isAlphanum hc (d := '-') (by decide)
        unfold Cursor.atMark
        rw [hrest]
        split
        · next heq => simp_all
        · rfl
      simp only [takeToken, startsPlain, Cursor.peek, hrest, List.head?_cons, hends, hmark,
        atMark_eq_false '.' hrest (by decide)]
      simp

theorem takeToken_word {w g : List Char} (h : s.cursor.rest = w ++ (g ++ r))
    (hbegins : BeginsWord w) (hw : ∀ c ∈ w, isWordPart c = true) (hg : IsGap g)
    (hr : BeginsPlainly r) (hstop : stopsPlain s.inFlow r = true)
    (hstep : s.takeToken (fuel + 1) = .ok s') :
    ∃ keys allowed, ∃ n ≤ g.length, s' =
      { s with
        keyStarts := keys
        keyAllowed := allowed
        cursor := s.cursor.advance (w.length + n)
        queue := s.queue ++ [.scalar (String.ofList w) true] } := by
  have hne : w ≠ [] := by
    rintro rfl
    cases hbegins
  rw [takeToken_eq_takePlain (by
    rw [h]
    cases hbegins with
    | plain hc => exact .plain hc
    | minus hc => exact .minus hc)] at hstep
  obtain ⟨u, hnote, rfl⟩ := map_eq_ok.mp hstep
  obtain ⟨keys, rfl, -⟩ := noteKey_eq hnote
  obtain ⟨n, hn, htext, hcursor⟩ := exists_readPlain fuel (s.indent + 1) h
    hne hw hg hr hstop
  refine ⟨keys, (readPlain s.inFlow (s.indent + 1) [] [] false (fuel + 1) s.cursor).newLine,
    n, hn, ?_⟩
  rw [← hcursor, ← htext]
  rfl

theorem takeToken_tab (h : s.cursor.rest = '\t' :: r) : s.takeToken fuel = .error .malformed := by
  unfold takeToken
  simp [Cursor.peek, h, startsPlain, endsWord, atMark_eq_false '-' h (by decide),
    atMark_eq_false '.' h (by decide)]

theorem takeToken_end (h : s.cursor.rest = []) (hindent : s.indent = -1)
    (hindents : s.indents = []) (hstep : s.takeToken fuel = .ok s') :
    s'.finished = true ∧ s'.queue = s.queue ++ [.streamEnd] := by
  simp only [takeToken, Cursor.peek, h, List.head?_nil] at hstep
  rw [finishStream, unwind_eq hindent hindents (by decide)] at hstep
  obtain ⟨u, hdrop, rfl⟩ := map_eq_ok.mp hstep
  obtain ⟨keys, rfl, -⟩ := dropKey_eq hdrop
  exact ⟨rfl, rfl⟩

theorem takeToken_eq_takeValue (h : s.cursor.rest = ':' :: r) (hflow : s.inFlow = true) :
    s.takeToken fuel = s.takeValue := by
  unfold takeToken
  simp [Cursor.peek, h, hflow, atMark_eq_false '-' h (by decide),
    atMark_eq_false '.' h (by decide)]

/-- A colon makes the pending key, which is the last token found, a key. -/
theorem takeToken_colon {q : List Token} {k : Token} {start : KeyStart}
    (h : s.cursor.rest = ':' :: r) (hflow : s.inFlow = true)
    (hpending : IsPending s.keyStarts s.flowLevel start) (hqueue : s.queue = q ++ [k])
    (htoken : start.token = s.taken + q.length) (hstep : s.takeToken fuel = .ok s') :
    ∃ keys, s' =
      { s with
        keyStarts := keys
        keyAllowed := false
        cursor := s.cursor.next
        queue := q ++ [.key, k, .value] } := by
  have hkey : s.keyStart? = some start := hpending.lookup
  rw [takeToken_eq_takeValue h hflow] at hstep
  have hflow' : s.forgetKey.inFlow = true := hflow
  simp only [takeValue, hkey, hflow', if_true] at hstep
  refine ⟨s.forgetKey.keyStarts, ?_⟩
  rw [← Except.ok.inj hstep]
  simp [push, insertAt, forgetKey, hqueue, htoken]

/-- Behind a key that was given up, a colon is a token of its own. -/
theorem takeToken_late_colon (h : s.cursor.rest = ':' :: r) (hflow : s.inFlow = true)
    (hnone : ∀ k ∈ s.keyStarts, k.1 ≠ s.flowLevel) (hstep : s.takeToken fuel = .ok s') :
    ∃ keys, s' =
      { s with
        keyStarts := keys
        keyAllowed := false
        cursor := s.cursor.next
        queue := s.queue ++ [.value] } := by
  have hkey : s.keyStart? = none := by
    rw [keyStart?, List.lookup_eq_none_iff]
    exact fun k hk => by simpa using (hnone k hk).symm
  rw [takeToken_eq_takeValue h hflow] at hstep
  simp only [takeValue, hkey, openBlock, hflow, if_true] at hstep
  obtain ⟨u, hopen, hstep⟩ := bind_eq_ok.mp hstep
  obtain rfl := Except.ok.inj hopen
  obtain ⟨u, hdrop, hstep⟩ := bind_eq_ok.mp hstep
  obtain ⟨keys, rfl, -⟩ := dropKey_eq hdrop
  refine ⟨keys, ?_⟩
  rw [← Except.ok.inj hstep]
  simp [push, hflow]

end TokenSource

end TypeDraft.Yaml
