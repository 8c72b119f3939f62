import TypeDraft.Proofs.Json.Passes

/-!
# Requoting lexemes

Where single quotes and bare keys become double quotes. A pairing of quotes across neighbouring
strings is ruled out by what may stand between them and by what the strings may hold.
-/

namespace TypeDraft.Json

variable {rule : RepairRule}

/-! ## Single-quoted keys -/

/-- The characters that strings may hold if every rule is to leave them alone: those but quotes,
backslashes, commas, colons, brackets and control characters. -/
def isCleanChar (c : Char) : Bool :=
  c ∉ ['"', '\'', '\\', ',', ':', '[', ']', '\x7b', '\x7d'] && 0x20 ≤ c.toNat

def IsClean (body : List Char) : Prop := ∀ c ∈ body, isCleanChar c = true

instance (body : List Char) : Decidable (IsClean body) :=
  inferInstanceAs (Decidable (∀ c ∈ body, isCleanChar c = true))

def Token.IsClean : Token → Prop
  | key _ body _ | string _ _ body => Json.IsClean body
  | _ => True

theorem Token.isClean_of_body {t : Token} (h : ∀ body ∈ t.body?, Json.IsClean body) :
    t.IsClean := by
  cases t with
  | key form body gap => exact h body rfl
  | string s q body => exact h body rfl
  | _ => trivial

theorem IsClean.not_mem {body : List Char} {c : Char} (h : IsClean body)
    (hc : isCleanChar c = false) : c ∉ body :=
  fun hmem => Bool.false_ne_true (hc.symm.trans (h c hmem))

theorem IsClean.quiet {body heads : List Char} (h : IsClean body) (hrule : AppliesAt rule heads)
    (hheads : ∀ c ∈ heads, isCleanChar c = false) (rest : List Char) : Quiet rule body rest :=
  hrule.quiet (fun _ hc hmem => h.not_mem (hheads _ hmem) hc) rest

theorem Token.IsClean.isQuietInside {t : Token} {heads : List Char} (h : t.IsClean)
    (hrule : AppliesAt rule heads) (hheads : ∀ c ∈ heads, isCleanChar c = false) :
    t.IsQuietInside rule := by
  cases t with
  | mark m => trivial
  | key form body gap =>
      cases form with
      | quoted q => exact fun rest => Json.IsClean.quiet h hrule hheads _
      | bare => trivial
  | string s q body => exact fun rest => Json.IsClean.quiet h hrule hheads _
  | word cs => trivial

theorem appliesAt_requoteKey : AppliesAt requoteKey ['\''] := by
  intro c hc cs
  have hquoted : quoted? (c :: cs) = none := by
    unfold quoted?
    split <;> simp_all
  simp [requoteKey, hquoted]

theorem quoted?_inQuotes {body : List Char} (h : '\'' ∉ body) (rest : List Char) :
    quoted? (inQuotes .single body ++ rest) = some (body, rest) := by
  have hbody : ∀ c ∈ body, (c ≠ '\'' : Bool) = true := by
    rintro c hc
    simpa using ne_of_mem_of_not_mem hc h
  have hend : ∀ c ∈ ('\'' :: rest).head?, (c ≠ '\'' : Bool) = false := by simp
  simp only [inQuotes, QuoteMark.char, List.cons_append, List.append_assoc, List.nil_append,
    quoted?, takeWhile_append_of_head hbody hend, dropWhile_append_of_head hbody hend]

/-- A lexeme has no single quotes, or it is in single quotes. -/
theorem Lexeme.IsProper.single_quotes {l : Lexeme} (hl : l.IsProper) (hclean : l.token.IsClean) :
    '\'' ∉ l.text ∨ ∃ before body after,
      l.text = before ++ (inQuotes .single body ++ after) ∧ '\'' ∉ before ∧ IsClean body := by
  have hplain : ∀ cs : List Char, (∀ c ∈ cs, isPlain c = true) → '\'' ∉ cs :=
    fun cs hcs hmem => absurd (hcs _ hmem) (by decide)
  obtain ⟨g, t⟩ := l
  have hg : '\'' ∉ g := hplain g fun c hc => by simp [isPlain, hl.1 c hc]
  cases t with
  | mark m => cases m <;> simp [Lexeme.text, Token.text, Mark.char, hg]
  | key form body gap =>
      have hgap : '\'' ∉ gap := hplain gap fun c hc => by simp [isPlain, hl.2.1 c hc]
      have hbody : '\'' ∉ body := hclean.not_mem (by decide)
      cases form with
      | quoted q =>
          cases q with
          | single => exact .inr ⟨g, body, gap ++ [':'], rfl, hg, hclean⟩
          | double => simp [Lexeme.text, Token.text, KeyForm.text, inQuotes, QuoteMark.char, hg,
              hgap, hbody]
      | bare => simp [Lexeme.text, Token.text, KeyForm.text, hg, hgap, hbody]
  | string s q body =>
      have hbody : '\'' ∉ body := hclean.not_mem (by decide)
      cases q with
      | single => exact .inr ⟨g, body, [], by simp [Lexeme.text, Token.text], hg, hclean⟩
      | double => simp [Lexeme.text, Token.text, inQuotes, QuoteMark.char, hg, hbody]
  | word cs =>
      have hcs := hplain cs fun c hc => isPlain_of_isWordPart (hl.2.2 c hc)
      simp [Lexeme.text, Token.text, hg, hcs]

/-- Behind the next single quote, wherever it is, no colon stands at once. -/
theorem head?_after_single_quote {ls : List Lexeme} (hls : WellPlaced ls)
    (hclean : ∀ l ∈ ls, l.token.IsClean) {c : Char} {rest : List Char}
    (h : (textOf ls).dropWhile (· ≠ '\'') = c :: rest) : rest.head? ≠ some ':' := by
  induction ls with
  | nil => cases h
  | cons l ls ih =>
      have hpos : ∀ cs : List Char, '\'' ∉ cs → ∀ c ∈ cs, (c ≠ '\'' : Bool) = true :=
        fun cs hcs c hc => by simpa using ne_of_mem_of_not_mem hc hcs
      rw [textOf_cons] at h
      rcases (hls.proper l List.mem_cons_self).single_quotes (hclean l List.mem_cons_self) with
        hnone | ⟨before, body, after, htext, hbefore, hbody⟩
      · rw [List.dropWhile_append_of_pos (hpos _ hnone)] at h
        exact ih hls.tail (fun m hm => hclean m (List.mem_cons_of_mem l hm)) h
      · rw [htext, List.append_assoc, List.dropWhile_append_of_pos (hpos _ hbefore)] at h
        simp only [inQuotes, QuoteMark.char, List.cons_append, ne_eq, decide_not,
          decide_true, Bool.not_true, Bool.false_eq_true, not_false_eq_true,
          List.dropWhile_cons_of_neg, List.cons.injEq] at h
        rw [← h.2]
        cases body with
        | nil => simp
        | cons d body =>
            have hd : d ≠ ':' := fun hd => absurd (hd ▸ hbody d List.mem_cons_self) (by decide)
            simpa using hd

theorem requoteKey_eq_none {cs : List Char}
    (h : ∀ inside rest, quoted? cs = some (inside, rest) → rest.head? ≠ some ':') :
    requoteKey cs = none := by
  unfold requoteKey
  split
  · exact absurd rfl (h _ _ ‹_›)
  · rfl

theorem requoteKey_behind_single_quote {ls : List Lexeme} (hls : WellPlaced ls)
    (hclean : ∀ l ∈ ls, l.token.IsClean) : requoteKey ('\'' :: textOf ls) = none := by
  refine requoteKey_eq_none fun inside rest h => ?_
  rw [quoted?] at h
  split at h
  · next hdrop =>
      obtain ⟨-, rfl⟩ := Prod.mk.inj (Option.some.inj h)
      exact head?_after_single_quote hls hclean hdrop
  · cases h

/-- What follows a value is a comma or a closing mark. -/
theorem exists_mark_behind_value {l m : Lexeme} {ls : List Lexeme} (hls : WellPlaced (l :: m :: ls))
    (hl : l.role.endsValue = true) :
    ∃ k : Mark, m.token = .mark k ∧ k.char ∈ [',', ']', '\x7d'] := by
  have hfollows : m.role.followsValue = true :=
    Role.followsValue_of_endsValue hl (List.isChain_cons_cons.mp hls.chain).1
  obtain ⟨g, t⟩ := m
  cases t with
  | mark k => exact ⟨k, rfl, by cases k <;> first | decide | cases hfollows⟩
  | _ => cases hfollows

theorem head?_behind_value {l : Lexeme} {ls : List Lexeme} (hls : WellPlaced (l :: ls))
    (hl : l.role.endsValue = true) : (textOf ls).head? ≠ some ':' := by
  cases ls with
  | nil => simp
  | cons m ls =>
      obtain ⟨k, hk, hchar⟩ := exists_mark_behind_value hls hl
      rw [textOf_cons, Lexeme.text, hk]
      cases hg : m.gap with
      | nil =>
          simp only [Token.text, List.nil_append, List.cons_append, List.head?_cons]
          intro hcolon
          simp [Option.some.inj hcolon] at hchar
      | cons c g =>
          have hc := (hls.tail.proper m List.mem_cons_self).1 c (by simp [hg])
          simp only [List.cons_append, List.head?_cons]
          intro hcolon
          exact absurd (Option.some.inj hcolon ▸ hc) (by decide)

def Lexeme.requoteKey : Lexeme → Lexeme
  | ⟨g, .key (.quoted .single) body gap⟩ => ⟨g, .key (.quoted .double) body gap⟩
  | l => l

theorem replaceAll_requoteKey {ls : List Lexeme} (h : WellPlaced ls)
    (hclean : ∀ l ∈ ls, l.token.IsClean) :
    replaceAll requoteKey (textOf ls) = textOf (ls.map Lexeme.requoteKey) := by
  refine replaceAll_textOf (P := fun ls => WellPlaced ls ∧ ∀ l ∈ ls, l.token.IsClean) rfl ?_ ls
    ⟨h, hclean⟩
  rintro l ls ⟨h, hclean⟩
  have hl := h.proper _ List.mem_cons_self
  have hls : WellPlaced ls ∧ ∀ l ∈ ls, l.token.IsClean :=
    ⟨h.tail, fun m hm => hclean m (List.mem_cons_of_mem l hm)⟩
  have hquiet : (∀ e ∈ l.token.edges, Json.requoteKey (e ++ textOf ls) = none) →
      Quiet Json.requoteKey l.text (textOf ls) :=
    hl.quiet appliesAt_requoteKey (by decide)
      ((hclean l List.mem_cons_self).isQuietInside appliesAt_requoteKey (by decide))
  have hnone : ∀ c, c ≠ '\'' → ∀ cs, Json.requoteKey (c :: cs) = none :=
    fun c hc => appliesAt_requoteKey c (by simpa using hc)
  obtain ⟨g, t⟩ := l
  cases t with
  | mark m =>
      refine .inl ⟨rfl, hquiet ?_, hls⟩
      cases m <;> simp [Token.edges, Mark.char, hnone]
  | key form body gap =>
      have hbody : '\'' ∉ body := (hclean _ List.mem_cons_self).not_mem (by decide)
      cases form with
      | quoted q =>
          cases q with
          | single =>
              obtain rfl : gap = [] := hl.2.2
              refine .inr ⟨ls, g, inQuotes .single body ++ [':'], inQuotes .double body ++ [':'],
                le_rfl, hls, by simp, ?_, hl.1.quiet appliesAt_requoteKey (by decide) _, ?_, ?_⟩
              · simp [Lexeme.text, Token.text, KeyForm.text]
              · rw [List.append_assoc, List.singleton_append, Json.requoteKey,
                  quoted?_inQuotes hbody]
                simp [inQuotes, QuoteMark.char]
              · simp [Lexeme.requoteKey, Lexeme.text, Token.text, KeyForm.text]
          | double =>
              refine .inl ⟨rfl, hquiet ?_, hls⟩
              simp [Token.edges, inQuotes, QuoteMark.char, hnone]
      | bare =>
          refine .inl ⟨rfl, hquiet ?_, hls⟩
          simp [Token.edges, hnone]
  | string s q body =>
      have hbody : '\'' ∉ body := (hclean _ List.mem_cons_self).not_mem (by decide)
      refine .inl ⟨rfl, hquiet ?_, hls⟩
      cases q with
      | single =>
          have hopening : Json.requoteKey (inQuotes .single body ++ textOf ls) = none :=
            requoteKey_eq_none fun inside rest heq => by
              rw [quoted?_inQuotes hbody] at heq
              obtain ⟨-, rfl⟩ := Prod.mk.inj (Option.some.inj heq)
              exact head?_behind_value h rfl
          simpa [Token.edges, QuoteMark.char] using
            ⟨hopening, requoteKey_behind_single_quote hls.1 hls.2⟩
      | double => simp [Token.edges, inQuotes, QuoteMark.char, hnone]
  | word cs => exact .inl ⟨rfl, hquiet (by simp [Token.edges]), hls⟩

/-! ## Single-quoted strings -/

def Token.isSingle : Token → Bool
  | key (.quoted .single) _ _ | string _ .single _ => true
  | _ => false

/-- No string in single quotes has a single quote inside. -/
def SinglesAreClosed (ls : List Lexeme) : Prop :=
  ∀ l ∈ ls, ∀ s body, l.token = .string s .single body → '\'' ∉ body

theorem SinglesAreClosed.tail {l : Lexeme} {ls : List Lexeme} (h : SinglesAreClosed (l :: ls)) :
    SinglesAreClosed ls := (List.forall_mem_cons.mp h).2

theorem quoted?_eq_none {c : Char} (hc : c ≠ '\'') (cs : List Char) : quoted? (c :: cs) = none := by
  unfold quoted?
  split <;> simp_all

theorem Token.Begins.ne_single {t : Token} {c : Char} (h : t.Begins c) (ht : t.isSingle = false) :
    c ≠ '\'' := by
  cases t with
  | mark m => subst h; cases m <;> decide
  | key form body gap =>
      cases form with
      | quoted q => subst h; cases q <;> first | decide | cases ht
      | bare => exact ne_of_isPlain (isPlain_of_isBarePart (isBarePart_of_isBareStart h)) (by decide)
  | string s q body => subst h; cases q <;> first | decide | cases ht
  | word cs => exact ne_of_isPlain (isPlain_of_isWordPart h) (by decide)

section

variable {l : Lexeme}

theorem quoted?_of_not_isSingle (hl : l.IsProper) (h : l.token.isSingle = false)
    (rest : List Char) : quoted? (afterBlanks (l.text ++ rest)) = none := by
  obtain ⟨c, cs, -, hc, -, hafter⟩ := hl.blanks rest
  rw [hafter, quoted?_eq_none (hc.ne_single h)]

theorem quoted?_of_string {s : Setting} {body : List Char} (hl : l.IsProper)
    (h : l.token = .string s .single body) (hbody : '\'' ∉ body) (rest : List Char) :
    blanks (l.text ++ rest) = l.gap ∧
      quoted? (afterBlanks (l.text ++ rest)) = some (body, rest) := by
  obtain ⟨c, cs, htext, -, hblanks, hafter⟩ := hl.blanks rest
  refine ⟨hblanks, ?_⟩
  rw [hafter, ← List.cons_append, ← htext, h]
  exact quoted?_inQuotes hbody rest

end

theorem appliesAt_requoteValue : AppliesAt requoteValue [':'] := by
  intro c hc cs
  unfold requoteValue
  split <;> simp_all

def Lexeme.requoteValue : Lexeme → Lexeme
  | ⟨_, .string .field .single body⟩ => ⟨[' '], .string .field .double body⟩
  | l => l

theorem Lexeme.requoteValue_eq_self {l : Lexeme}
    (h : ∀ body, l.token ≠ .string .field .single body) : l.requoteValue = l := by
  unfold Lexeme.requoteValue
  split
  · exact absurd rfl (h _)
  · rfl

/-- A rule that applies at colons is quiet on a key up to its colon. -/
theorem quiet_before_colon {g body gap : List Char} {form : KeyForm}
    (hl : Lexeme.IsProper ⟨g, .key form body gap⟩) (hrule : AppliesAt rule [':'])
    (hinside : (Token.key form body gap).IsQuietInside rule) (rest : List Char) :
    Quiet rule (g ++ (form.text body ++ gap)) rest := by
  have hgap : ∀ rest, Quiet rule gap rest := hl.2.1.quiet hrule (by decide)
  refine quiet_append.mpr ⟨hl.1.quiet hrule (by decide) _, quiet_append.mpr ⟨?_, hgap _⟩⟩
  cases form with
  | quoted q =>
      have hq : ∀ cs, rule (q.char :: cs) = none := hrule q.char (by cases q <;> decide)
      exact ⟨hq _, quiet_append.mpr ⟨hinside _, hq _, trivial⟩⟩
  | bare =>
      refine hrule.quiet (fun c hc hmem => ?_) _
      exact ne_of_isPlain (isPlain_of_isBarePart (hl.2.2.isBarePart c hc)) (by decide)
        (List.mem_singleton.mp hmem)

/-- A rule that applies at colons is quiet on a lexeme if it does not apply at the colon of a
key. -/
theorem Lexeme.IsProper.quiet_of_colon {l : Lexeme} (hl : l.IsProper)
    (hrule : AppliesAt rule [':']) (hinside : l.token.IsQuietInside rule) (rest : List Char)
    (hkey : l.role = .key → rule (':' :: rest) = none) : Quiet rule l.text rest := by
  obtain ⟨g, t⟩ := l
  have hedges : ∀ c, c ≠ ':' → ∀ cs, rule (c :: cs) = none := fun c hc => hrule c (by simpa using hc)
  cases t with
  | key form body gap =>
      have htext : Lexeme.text ⟨g, .key form body gap⟩ = (g ++ (form.text body ++ gap)) ++ [':'] := by
        simp [Lexeme.text, Token.text]
      rw [htext]
      exact quiet_append.mpr ⟨quiet_before_colon hl hrule hinside _, hkey rfl, trivial⟩
  | mark m =>
      refine hl.quiet hrule (by decide) hinside ?_
      cases m <;> simp [Token.edges, Mark.char, hedges]
  | string s q body =>
      refine hl.quiet hrule (by decide) hinside ?_
      cases q <;> simp [Token.edges, inQuotes, QuoteMark.char, hedges]
  | word cs => exact hl.quiet hrule (by decide) hinside (by simp [Token.edges])

theorem Role.eq_key_of_precedes {r : Role} (h : r.precedes (.string .field) = true) : r = .key := by
  cases r with
  | mark m => cases m <;> cases h
  | key => rfl
  | _ => cases h

theorem Token.not_isSingle_of_opensValue {t : Token} {s : Setting}
    (h : t.role.opensValue s = true) (hs : ∀ body, t ≠ .string s .single body) :
    t.isSingle = false := by
  cases t with
  | string s' q body =>
      obtain rfl : s' = s := by simpa [Token.role, Role.opensValue] using h
      cases q with
      | single => exact absurd rfl (hs body)
      | double => rfl
  | key form body gap => cases h
  | _ => rfl

/-- A colon with the single-quoted text behind it. -/
theorem requoteValue_of_string {l : Lexeme} {body : List Char} (hl : l.IsProper)
    (h : l.token = .string .field .single body) (hbody : '\'' ∉ body) (rest : List Char) :
    requoteValue (':' :: (l.text ++ rest)) =
      some (':' :: l.requoteValue.text, l.text.length + 1) := by
  obtain ⟨hblanks, hquoted⟩ := quoted?_of_string hl h hbody rest
  simp only [Json.requoteValue, hblanks, hquoted]
  obtain ⟨g, t⟩ := l
  subst h
  simp [Lexeme.requoteValue, Lexeme.text, Token.text, inQuotes, QuoteMark.char]
  omega

theorem replaceAll_requoteValue {ls : List Lexeme} (h : ReadyFor requoteValue ls)
    (hsingles : SinglesAreClosed ls) (hhead : ∀ l ∈ ls.head?, l.requoteValue = l) :
    replaceAll requoteValue (textOf ls) = textOf (ls.map Lexeme.requoteValue) := by
  refine replaceAll_textOf_map (P := fun ls => ReadyFor requoteValue ls ∧ SinglesAreClosed ls)
    (fun l ls h => ⟨h.1.tail, h.2.tail⟩) ?_ ?_ ls ⟨h, hsingles⟩ hhead
  · rintro l ⟨h, -⟩
    exact (h.proper l List.mem_cons_self).quiet_of_colon appliesAt_requoteValue
      (h.inside l List.mem_cons_self) [] fun _ => rfl
  · rintro l m ms ⟨h, hsingles⟩ -
    have hl := h.proper l List.mem_cons_self
    have hm := h.tail.proper m List.mem_cons_self
    have hquiet := hl.quiet_of_colon appliesAt_requoteValue (h.inside l List.mem_cons_self)
      (textOf (m :: ms))
    by_cases hstring : ∃ body, m.token = .string .field .single body
    · obtain ⟨body, hbody⟩ := hstring
      have hkey : l.role = .key := Role.eq_key_of_precedes <| by
        simpa [Lexeme.Precedes, Lexeme.role, hbody, Token.role] using
          (List.isChain_cons_cons.mp h.chain).1
      obtain ⟨g, t⟩ := l
      cases t with
      | key form key gap =>
          refine .inr ⟨g ++ (form.text key ++ gap), ':', by simp [Lexeme.text, Token.text],
            quiet_before_colon hl appliesAt_requoteValue (h.inside _ List.mem_cons_self) _,
            requoteValue_of_string hm hbody (hsingles.tail m List.mem_cons_self _ _ hbody) _, ?_⟩
          cases ms with
          | nil => exact nofun
          | cons k ms =>
              obtain ⟨mark, hmark, -⟩ := exists_mark_behind_value h.tail.toWellPlaced
                (by simp [Lexeme.role, hbody, Token.role, Role.endsValue])
              simpa using Lexeme.requoteValue_eq_self (by simp [hmark])
      | _ => cases hkey
    · rw [not_exists] at hstring
      refine .inl ⟨Lexeme.requoteValue_eq_self hstring, hquiet fun hkey => ?_⟩
      have hopens := (List.isChain_cons_cons.mp h.chain).1
      rw [Lexeme.Precedes, hkey] at hopens
      simp only [textOf_cons, Json.requoteValue,
        quoted?_of_not_isSingle hm (Token.not_isSingle_of_opensValue hopens hstring)]

theorem appliesAt_requoteElement : AppliesAt requoteElement ['[', ','] := by
  intro c hc cs
  simp only [List.mem_cons, List.not_mem_nil, or_false, not_or] at hc
  simp [requoteElement, hc]

def Lexeme.requoteElement : Lexeme → Lexeme
  | ⟨g, .string .item .single body⟩ => ⟨g, .string .item .double body⟩
  | l => l

theorem Lexeme.requoteElement_eq_self {l : Lexeme}
    (h : ∀ body, l.token ≠ .string .item .single body) : l.requoteElement = l := by
  unfold Lexeme.requoteElement
  split
  · exact absurd rfl (h _)
  · rfl

theorem Role.of_precedes_item {r : Role} (h : r.precedes (.string .item) = true) :
    r = .mark .openArray ∨ r = .mark .comma := by
  cases r with
  | mark m => cases m <;> simp_all [Role.precedes, Role.opensValue, Role.isClose, Role.followsValue]
  | _ => cases h

theorem Token.not_isSingle {t : Token} (hkey : ∀ body gap, t ≠ .key (.quoted .single) body gap)
    (hstring : ∀ s body, t ≠ .string s .single body) : t.isSingle = false := by
  unfold Token.isSingle
  split
  · exact absurd rfl (hkey _ _)
  · exact absurd rfl (hstring _ _)
  · rfl

/-- An opening bracket or a comma with the single-quoted text behind it. -/
theorem requoteElement_of_string {c : Char} {l : Lexeme} {body : List Char} (hl : l.IsProper)
    (hc : (c == '[' || c == ',') = true) (h : l.token = .string .item .single body)
    (hbody : '\'' ∉ body) (rest : List Char) :
    requoteElement (c :: (l.text ++ rest)) =
      some (c :: l.requoteElement.text, l.text.length + 1) := by
  obtain ⟨hblanks, hquoted⟩ := quoted?_of_string hl h hbody rest
  simp only [Json.requoteElement, if_pos hc, hblanks, hquoted]
  obtain ⟨g, t⟩ := l
  subst h
  simp [Lexeme.requoteElement, Lexeme.text, Token.text, inQuotes, QuoteMark.char]
  omega

theorem replaceAll_requoteElement {ls : List Lexeme} (h : ReadyFor requoteElement ls)
    (hkeys : ∀ l ∈ ls, ∀ body gap, l.token ≠ .key (.quoted .single) body gap)
    (hsingles : SinglesAreClosed ls) (hhead : ∀ l ∈ ls.head?, l.requoteElement = l) :
    replaceAll requoteElement (textOf ls) = textOf (ls.map Lexeme.requoteElement) := by
  refine replaceAll_textOf_map (P := fun ls => ReadyFor requoteElement ls ∧
    (∀ l ∈ ls, ∀ body gap, l.token ≠ .key (.quoted .single) body gap) ∧ SinglesAreClosed ls)
    (fun l ls h => ⟨h.1.tail, (List.forall_mem_cons.mp h.2.1).2, h.2.2.tail⟩) ?_ ?_ ls
    ⟨h, hkeys, hsingles⟩ hhead
  · rintro l ⟨h, -⟩
    refine (h.proper l List.mem_cons_self).quiet_of_mark appliesAt_requoteElement (by decide)
      (h.inside l List.mem_cons_self) [] fun m _ => ?_
    cases m <;> rfl
  · rintro l m ms ⟨h, hkeys, hsingles⟩ -
    have hl := h.proper l List.mem_cons_self
    have hm := h.tail.proper m List.mem_cons_self
    have hbeside : l.role.precedes m.role = true := (List.isChain_cons_cons.mp h.chain).1
    by_cases hstring : ∃ body, m.token = .string .item .single body
    · obtain ⟨body, hbody⟩ := hstring
      have hmark : ∃ k : Mark, l.token = .mark k ∧ (k.char == '[' || k.char == ',') = true := by
        obtain ⟨g, t⟩ := l
        rw [show m.role = .string .item by simp [Lexeme.role, hbody, Token.role]] at hbeside
        rcases Role.of_precedes_item hbeside with hrole | hrole
        all_goals
          cases t with
          | mark k => exact ⟨k, rfl, by cases hrole; decide⟩
          | _ => cases hrole
      obtain ⟨k, hk, hchar⟩ := hmark
      refine .inr ⟨l.gap, k.char, by simp [Lexeme.text, hk, Token.text],
        hl.1.quiet appliesAt_requoteElement (by decide) _,
        requoteElement_of_string hm hchar hbody (hsingles.tail m List.mem_cons_self _ _ hbody) _,
        ?_⟩
      cases ms with
      | nil => exact fun _ h => absurd h (Option.not_mem_none _)
      | cons k ms =>
          obtain ⟨mark, hmark, -⟩ := exists_mark_behind_value h.tail.toWellPlaced
            (by simp [Lexeme.role, hbody, Token.role, Role.endsValue])
          simpa using Lexeme.requoteElement_eq_self (by simp [hmark])
    · rw [not_exists] at hstring
      refine .inl ⟨Lexeme.requoteElement_eq_self hstring, hl.quiet_of_mark
        appliesAt_requoteElement (by decide) (h.inside l List.mem_cons_self) _ fun k hk => ?_⟩
      have hsingle : m.token.isSingle = false := by
        refine Token.not_isSingle (hkeys m (by simp)) fun s body hbody => ?_
        cases s with
        | item => exact hstring body hbody
        | field =>
            rw [Lexeme.role, Lexeme.role, hk, hbody] at hbeside
            cases Role.eq_key_of_precedes hbeside
      simp only [textOf_cons, Json.requoteElement, quoted?_of_not_isSingle hm hsingle, ite_self]

/-! ## Bare keys -/

theorem appliesAt_quoteBareKey : AppliesAt quoteBareKey ['\x7b', ','] := by
  intro c hc cs
  simp only [List.mem_cons, List.not_mem_nil, or_false, not_or] at hc
  simp [quoteBareKey, hc]

def Lexeme.quoteBareKey : Lexeme → Lexeme
  | ⟨g, .key .bare body _⟩ => ⟨g, .key (.quoted .double) body []⟩
  | l => l

theorem Lexeme.quoteBareKey_eq_self {l : Lexeme} (h : ∀ body gap, l.token ≠ .key .bare body gap) :
    l.quoteBareKey = l := by
  unfold Lexeme.quoteBareKey
  split
  · exact absurd rfl (h _ _)
  · rfl

theorem isBarePart_eq_false_of_isBlank {c : Char} (h : Text.isBlank c = true) :
    isBarePart c = false := by
  by_contra hc
  exact Bool.false_ne_true
    ((isBlank_eq_false_of_isBarePart (Bool.not_eq_false _ ▸ hc)).symm.trans h)

/-- An opening brace or a comma with the bare key behind it. -/
theorem quoteBareKey_of_key {c : Char} {l : Lexeme} {body gap : List Char} (hl : l.IsProper)
    (hc : (c == '\x7b' || c == ',') = true) (h : l.token = .key .bare body gap)
    (rest : List Char) :
    quoteBareKey (c :: (l.text ++ rest)) = some (c :: l.quoteBareKey.text, l.text.length + 1) := by
  obtain ⟨d, cs, htext, -, hblanks, hafter⟩ := hl.blanks rest
  obtain ⟨g, t⟩ := l
  subst h
  obtain ⟨hgap, hbody⟩ : IsGap gap ∧ IsBareWord body := hl.2
  cases body with
  | nil => exact hbody.elim
  | cons e body =>
      obtain ⟨rfl, rfl⟩ : e = d ∧ body ++ (gap ++ [':']) = cs := List.cons.inj htext
      have hcolon : ∀ b ∈ (':' :: rest).head?, Text.isBlank b = false := by
        simp only [List.head?_cons, Option.mem_some_iff, forall_eq']
        decide
      have hend : ∀ b ∈ (gap ++ ':' :: rest).head?, isBarePart b = false := by
        cases gap with
        | nil =>
            simp only [List.nil_append, List.head?_cons, Option.mem_some_iff, forall_eq']
            decide
        | cons b gap =>
            simpa using isBarePart_eq_false_of_isBlank (hgap.isBlank b List.mem_cons_self)
      have hsplit : body ++ (gap ++ [':']) ++ rest = body ++ (gap ++ ':' :: rest) := by simp
      simp only [Json.quoteBareKey, if_pos hc, hafter, hblanks, hsplit,
        takeWhile_append_of_head hbody.2 hend, dropWhile_append_of_head hbody.2 hend,
        show afterBlanks (gap ++ ':' :: rest) = ':' :: rest from
          dropWhile_append_of_head hgap.isBlank hcolon,
        show blanks (gap ++ ':' :: rest) = gap from takeWhile_append_of_head hgap.isBlank hcolon,
        hbody.1]
      simp [Lexeme.quoteBareKey, Lexeme.text, Token.text, KeyForm.text, inQuotes, QuoteMark.char]
      omega

theorem quoteBareKey_eq_none {c : Char} {cs : List Char}
    (h : ∀ d ds, afterBlanks cs = d :: ds → isBareStart d = true →
      (afterBlanks (ds.dropWhile isBarePart)).head? ≠ some ':') :
    quoteBareKey (c :: cs) = none := by
  cases hafter : afterBlanks cs with
  | nil => simp [quoteBareKey, hafter]
  | cons d ds =>
      simp only [quoteBareKey, hafter]
      split
      · split
        · next hstart hrest => exact absurd (by rw [hrest]; rfl) (h d ds hafter hstart)
        · rfl
      · rfl

/-- No word that is a value is taken for a key. -/
theorem head?_behind_word {g cs : List Char} {ls : List Lexeme}
    (h : WellPlaced (⟨g, .word cs⟩ :: ls)) {d : Char} {ds : List Char} (hcs : cs = d :: ds) :
    (afterBlanks ((ds ++ textOf ls).dropWhile isBarePart)).head? ≠ some ':' := by
  have hword : ∀ c ∈ cs, isWordPart c = true := (h.proper _ List.mem_cons_self).2.2
  rw [List.dropWhile_append]
  cases hds : ds.dropWhile isBarePart with
  | nil =>
      cases ls with
      | nil => simp [afterBlanks]
      | cons m ls =>
          obtain ⟨k, hk, hchar⟩ := exists_mark_behind_value h rfl
          obtain ⟨c, cs', htext, -, -, hafter⟩ :=
            (h.tail.proper m List.mem_cons_self).blanks (textOf ls)
          obtain ⟨rfl, rfl⟩ : k.char = c ∧ [] = cs' := by simpa [hk, Token.text] using htext
          have hhead : ∀ b ∈ (m.text ++ textOf ls).head?, isBarePart b = false := by
            rw [Lexeme.text, hk]
            cases hgap : m.gap with
            | nil =>
                simp only [Token.text, List.nil_append, List.cons_append, List.head?_cons,
                  Option.mem_some_iff, forall_eq']
                cases k <;> decide
            | cons b gap =>
                have hb := (h.tail.proper m List.mem_cons_self).1.isBlank b (by simp [hgap])
                simpa using isBarePart_eq_false_of_isBlank hb
          have hsame : (m.text ++ textOf ls).dropWhile isBarePart = m.text ++ textOf ls :=
            dropWhile_append_of_head (List.forall_mem_nil _) hhead
          simp only [textOf_cons, List.isEmpty_nil, if_true, hsame, hafter, List.head?_cons]
          intro hcolon
          simp [Option.some.inj hcolon] at hchar
  | cons e es =>
      have he : e ∈ cs := by
        rw [hcs]
        exact List.mem_cons_of_mem d ((List.dropWhile_suffix _).subset (hds ▸ List.mem_cons_self))
      have hblank := isBlank_eq_false_of_isWordPart (hword e he)
      simp only [List.isEmpty_cons, Bool.false_eq_true, if_false, afterBlanks, List.cons_append,
        List.dropWhile_cons, hblank, List.head?_cons]
      intro hcolon
      exact absurd (Option.some.inj hcolon ▸ hword e he) (by decide)

theorem quoteBareKey_of_other {c : Char} {l : Lexeme} {ls : List Lexeme} (h : WellPlaced (l :: ls))
    (hbare : ∀ body gap, l.token ≠ .key .bare body gap) :
    quoteBareKey (c :: (l.text ++ textOf ls)) = none := by
  obtain ⟨d, cs, htext, hd, -, hafter⟩ := (h.proper l List.mem_cons_self).blanks (textOf ls)
  refine quoteBareKey_eq_none fun e es he hstart => ?_
  obtain ⟨rfl, rfl⟩ : d = e ∧ cs ++ textOf ls = es := List.cons.inj (hafter.symm.trans he)
  obtain ⟨g, t⟩ := l
  cases t with
  | word word => exact head?_behind_word h htext
  | mark m => subst hd; cases m <;> exact absurd hstart (by decide)
  | string s q body => subst hd; cases q <;> exact absurd hstart (by decide)
  | key form body gap =>
      cases form with
      | quoted q => subst hd; cases q <;> exact absurd hstart (by decide)
      | bare => exact absurd rfl (hbare body gap)

theorem Role.of_precedes_key {r : Role} (h : r.precedes .key = true) :
    r = .mark .openObject ∨ r = .mark .comma := by
  cases r with
  | mark m => cases m <;> simp_all [Role.precedes, Role.opensValue, Role.isClose, Role.followsValue]
  | _ => cases h

theorem replaceAll_quoteBareKey {ls : List Lexeme} (h : ReadyFor quoteBareKey ls)
    (hhead : ∀ l ∈ ls.head?, l.quoteBareKey = l) :
    replaceAll quoteBareKey (textOf ls) = textOf (ls.map Lexeme.quoteBareKey) := by
  refine replaceAll_textOf_map (P := ReadyFor quoteBareKey) (fun l ls h => h.tail) ?_ ?_ ls h hhead
  · rintro l h
    refine (h.proper l List.mem_cons_self).quiet_of_mark appliesAt_quoteBareKey (by decide)
      (h.inside l List.mem_cons_self) [] fun m _ => ?_
    cases m <;> rfl
  · rintro l m ms h -
    have hl := h.proper l List.mem_cons_self
    have hm := h.tail.proper m List.mem_cons_self
    have hbeside : l.role.precedes m.role = true := (List.isChain_cons_cons.mp h.chain).1
    by_cases hkey : ∃ body gap, m.token = .key .bare body gap
    · obtain ⟨body, gap, hkey⟩ := hkey
      have hmark : ∃ k : Mark, l.token = .mark k ∧ (k.char == '\x7b' || k.char == ',') = true := by
        obtain ⟨g, t⟩ := l
        rw [show m.role = .key by simp [Lexeme.role, hkey, Token.role]] at hbeside
        rcases Role.of_precedes_key hbeside with hrole | hrole
        all_goals
          cases t with
          | mark k => exact ⟨k, rfl, by cases hrole; decide⟩
          | _ => cases hrole
      obtain ⟨k, hk, hchar⟩ := hmark
      refine .inr ⟨l.gap, k.char, by simp [Lexeme.text, hk, Token.text],
        hl.1.quiet appliesAt_quoteBareKey (by decide) _, quoteBareKey_of_key hm hchar hkey _, ?_⟩
      cases ms with
      | nil => exact fun _ h => absurd h (Option.not_mem_none _)
      | cons k ms =>
          have hopens := (List.isChain_cons_cons.mp h.tail.chain).1
          simp only [List.head?_cons, Option.mem_some_iff, forall_eq']
          refine Lexeme.quoteBareKey_eq_self fun body gap hbare => ?_
          simp [Lexeme.Precedes, Lexeme.role, hkey, hbare, Token.role, Role.precedes,
            Role.opensValue] at hopens
    · simp only [not_exists] at hkey
      refine .inl ⟨Lexeme.quoteBareKey_eq_self hkey, hl.quiet_of_mark appliesAt_quoteBareKey
        (by decide) (h.inside l List.mem_cons_self) _ fun k hk => ?_⟩
      rw [textOf_cons]
      exact quoteBareKey_of_other h.tail.toWellPlaced hkey

end TypeDraft.Json
