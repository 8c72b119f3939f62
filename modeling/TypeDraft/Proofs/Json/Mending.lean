import TypeDraft.Proofs.Json.Requoting

/-!
# What repair makes of lexemes

The two rules that put commas between neighbouring lines find nothing to do, since what follows a
value is never a quote or an opening brace. The rules before them leave double quotes everywhere
and no trailing comma.
-/

namespace TypeDraft.Json

variable {rule : RepairRule}

/-! ## Commas between lines -/

theorem quiet_textOf {P : List Lexeme → Prop}
    (hstep : ∀ l ls, P (l :: ls) → Quiet rule l.text (textOf ls) ∧ P ls) :
    ∀ ls, P ls → Quiet rule (textOf ls) [] := by
  intro ls hls
  induction ls with
  | nil => trivial
  | cons l ls ih =>
      obtain ⟨hquiet, htail⟩ := hstep l ls hls
      rw [textOf_cons, quiet_append, List.append_nil]
      exact ⟨hquiet, ih htail⟩

theorem appliesAt_separate (left right : Char) : AppliesAt (separate left right) [left] := by
  intro c hc cs
  have hne : (c == left) = false := by simpa using hc
  simp [separate, hne]

theorem separate_of_head {left right c : Char} {cs : List Char}
    (h : ∀ d ∈ (afterBlanks cs).head?, d ≠ right) : separate left right (c :: cs) = none := by
  rw [separate]
  split
  · cases hafter : afterBlanks cs with
    | nil => rfl
    | cons d ds =>
        rw [hafter] at h
        have hd : (d == right) = false := by simpa using h d rfl
        simp [hd]
  · rfl

theorem separate_of_no_break {left right c : Char} {cs : List Char} (h : '\n' ∉ blanks cs) :
    separate left right (c :: cs) = none := by
  simp [separate, h]

theorem not_mem_blanks_of_no_break {body rest : List Char} {q : QuoteMark} (h : '\n' ∉ body) :
    '\n' ∉ blanks (body ++ q.char :: rest) := by
  intro hmem
  have hblanks : blanks (body ++ q.char :: rest) <+: body := by
    rw [blanks, List.takeWhile_append]
    split
    · have hquote : (q.char :: rest).takeWhile Text.isBlank = [] :=
        List.takeWhile_cons_of_neg (by simp [q.isBlank_char])
      exact ⟨[], by rw [hquote, List.append_nil, List.append_nil]⟩
    · exact List.takeWhile_prefix _
  exact h (hblanks.subset hmem)

theorem quiet_separate_of_no_break {left right : Char} {body : List Char} {q : QuoteMark}
    (h : '\n' ∉ body) (rest : List Char) :
    Quiet (separate left right) body (q.char :: rest) := by
  induction body with
  | nil => trivial
  | cons c body ih =>
      have hbody : '\n' ∉ body := fun hmem => h (List.mem_cons_of_mem c hmem)
      exact ⟨separate_of_no_break (not_mem_blanks_of_no_break hbody), ih hbody⟩

/-- No quoted text has a line end. -/
def Token.HasNoBreak : Token → Prop
  | key _ body _ | string _ _ body => '\n' ∉ body
  | _ => True

theorem Token.hasNoBreak_of_body {t : Token} (h : ∀ body ∈ t.body?, '\n' ∉ body) :
    t.HasNoBreak := by
  cases t with
  | key form body gap => exact h body rfl
  | string s q body => exact h body rfl
  | _ => trivial

theorem Token.HasNoBreak.isQuietInside {t : Token} (h : t.HasNoBreak) (left right : Char) :
    t.IsQuietInside (separate left right) := by
  cases t with
  | key form body gap =>
      cases form with
      | quoted q => exact quiet_separate_of_no_break h
      | bare => trivial
  | string s q body => exact quiet_separate_of_no_break h
  | _ => trivial

theorem head?_afterBlanks_behind_value {l : Lexeme} {ls : List Lexeme} (h : WellPlaced (l :: ls))
    (hl : l.role.endsValue = true) :
    ∀ d ∈ (afterBlanks (textOf ls)).head?, d ∈ [',', ']', '\x7d'] := by
  cases ls with
  | nil => exact nofun
  | cons m ls =>
      obtain ⟨k, hk, hchar⟩ := exists_mark_behind_value h hl
      obtain ⟨c, cs, htext, -, -, hafter⟩ :=
        (h.tail.proper m List.mem_cons_self).blanks (textOf ls)
      obtain ⟨rfl, -⟩ : k.char = c ∧ [] = cs := by simpa [hk, Token.text] using htext
      rw [textOf_cons, hafter]
      simpa using hchar

theorem replaceAll_separate_strings {ls : List Lexeme} (h : WellPlaced ls)
    (hbreak : ∀ l ∈ ls, l.token.HasNoBreak) :
    replaceAll (separate '"' '"') (textOf ls) = textOf ls := by
  refine replaceAll_of_quiet (quiet_textOf
    (P := fun ls => WellPlaced ls ∧ ∀ l ∈ ls, l.token.HasNoBreak) ?_ ls ⟨h, hbreak⟩)
  rintro l ls ⟨h, hbreak⟩
  refine ⟨?_, h.tail, (List.forall_mem_cons.mp hbreak).2⟩
  have hl := h.proper l List.mem_cons_self
  have hbody := hbreak l List.mem_cons_self
  refine hl.quiet (appliesAt_separate _ _) (by decide) (hbody.isQuietInside _ _) ?_
  have hnone : ∀ c, c ≠ '"' → ∀ cs, separate '"' '"' (c :: cs) = none :=
    fun c hc => appliesAt_separate _ _ c (by simpa using hc)
  have hopening : ∀ (q : QuoteMark) (body rest : List Char), '\n' ∉ body →
      separate '"' '"' (q.char :: (body ++ q.char :: rest)) = none :=
    fun q body rest hbody => separate_of_no_break (not_mem_blanks_of_no_break hbody)
  obtain ⟨g, t⟩ := l
  cases t with
  | mark m => cases m <;> simp [Token.edges, Mark.char, hnone]
  | key form body gap =>
      cases form with
      | quoted q =>
          have hclosing : separate '"' '"' (q.char :: (gap ++ ':' :: textOf ls)) = none := by
            refine separate_of_head fun d hd => ?_
            have hcolon : ∀ c ∈ (':' :: textOf ls).head?, Text.isBlank c = false := by
              simp only [List.head?_cons, Option.mem_some_iff, forall_eq']
              decide
            rw [afterBlanks, dropWhile_append_of_head hl.2.1.isBlank hcolon] at hd
            rw [← Option.some.inj hd]
            decide
          simp [Token.edges, inQuotes, hopening q body _ hbody, hclosing, hnone]
      | bare => simp [Token.edges, hnone]
  | string s q body =>
      have hclosing : separate '"' '"' (q.char :: textOf ls) = none :=
        separate_of_head fun d hd hquote => by
          simpa [hquote] using head?_afterBlanks_behind_value h rfl d hd
      simp [Token.edges, inQuotes, hopening q body _ hbody, hclosing]
  | word cs => simp [Token.edges]

/-- No object stands on a line right after another. -/
theorem quiet_separate_objects {ls : List Lexeme} (h : WellPlaced ls)
    (hbreak : ∀ l ∈ ls, l.token.HasNoBreak) :
    Quiet (separate '\x7d' '\x7b') (textOf ls) [] := by
  refine quiet_textOf (P := fun ls => WellPlaced ls ∧ ∀ l ∈ ls, l.token.HasNoBreak) ?_ ls
    ⟨h, hbreak⟩
  rintro l ls ⟨h, hbreak⟩
  refine ⟨?_, h.tail, (List.forall_mem_cons.mp hbreak).2⟩
  refine (h.proper l List.mem_cons_self).quiet_of_mark (appliesAt_separate _ _) (by decide)
    ((hbreak l List.mem_cons_self).isQuietInside _ _) _ fun m hm => ?_
  by_cases hclose : m = .closeObject
  · subst hclose
    refine separate_of_head fun d hd hopen => ?_
    simpa [hopen] using head?_afterBlanks_behind_value h (by simp [Lexeme.role, hm, Token.role,
      Role.endsValue]) d hd
  · exact appliesAt_separate _ _ _ (by cases m <;> simp_all [Mark.char]) _

/-! ## Trimming -/

theorem trim_append {before core behind : List Char} (hbefore : IsGap before)
    (hbehind : IsGap behind) (hne : core ≠ [])
    (hhead : ∀ c ∈ core.head?, Text.isBlank c = false)
    (hlast : ∀ c ∈ core.getLast?, Text.isBlank c = false) :
    Text.trim (before ++ (core ++ behind)) = core := by
  have hhead' : ∀ c ∈ (core ++ behind).head?, Text.isBlank c = false := by
    rwa [List.head?_append_of_ne_nil _ hne]
  have hbehind' : ∀ c ∈ behind.reverse, Text.isBlank c = true :=
    fun c hc => hbehind.isBlank c (List.mem_reverse.mp hc)
  have hlast' : ∀ c ∈ core.reverse.head?, Text.isBlank c = false := by
    rwa [List.head?_reverse]
  rw [Text.trim, dropWhile_append_of_head hbefore.isBlank hhead', List.reverse_append,
    dropWhile_append_of_head hbehind' hlast', List.reverse_reverse]

theorem Token.IsProper.exists_ends {t : Token} (h : t.IsProper) :
    ∃ cs c, t.text = cs ++ [c] ∧ Text.isBlank c = false := by
  cases t with
  | mark m => exact ⟨[], _, rfl, m.isBlank_char⟩
  | key form body gap =>
      exact ⟨form.text body ++ gap, ':', (List.append_assoc ..).symm, by decide⟩
  | string s q body => exact ⟨q.char :: body, q.char, rfl, q.isBlank_char⟩
  | word cs =>
      refine ⟨cs.dropLast, cs.getLast h.1, (List.dropLast_append_getLast h.1).symm, ?_⟩
      exact isBlank_eq_false_of_isWordPart (h.2 _ (List.getLast_mem h.1))

/-- Lexemes without the white space before the first one. -/
def unindent : List Lexeme → List Lexeme
  | l :: ls => ⟨[], l.token⟩ :: ls
  | [] => []

theorem getLast?_textOf {ls : List Lexeme} (hls : ∀ l ∈ ls, l.token.IsProper) :
    ∀ c ∈ (textOf ls).getLast?, Text.isBlank c = false := by
  rcases List.eq_nil_or_concat ls with rfl | ⟨ls, l, rfl⟩
  · exact nofun
  · obtain ⟨cs, c, htext, hc⟩ := (hls l (by simp)).exists_ends
    simpa [Lexeme.text, htext] using hc

theorem trim_textOf {ls : List Lexeme} (hls : ∀ l ∈ ls, l.IsProper) (hne : ls ≠ [])
    {g : List Char} (hg : IsGap g) : Text.trim (textOf ls ++ g) = textOf (unindent ls) := by
  obtain ⟨l, ls, rfl⟩ := List.exists_cons_of_ne_nil hne
  have hl := hls l List.mem_cons_self
  obtain ⟨c, cs, htext, hc⟩ := hl.2.exists_begins
  have hsplit : textOf (l :: ls) ++ g = l.gap ++ (textOf (unindent (l :: ls)) ++ g) := by
    simp [unindent, Lexeme.text]
  rw [hsplit]
  refine trim_append hl.1 hg ?_ ?_ (getLast?_textOf ?_)
  · simp [unindent, Lexeme.text, htext]
  · simpa [unindent, Lexeme.text, htext] using hc.isBlank_eq_false
  · simpa [unindent] using ⟨hl.2, fun m hm => (hls m (List.mem_cons_of_mem l hm)).2⟩

theorem Writes.unindent {IsAtom : List Char → Value → Prop} {s : Setting} {v : Value}
    {IsBody : List Char → String → Prop} {ls : List Lexeme} (h : Writes IsAtom IsBody s v ls) :
    Writes IsAtom IsBody s v (unindent ls) := by
  have hnil : IsGap [] := nofun
  cases h with
  | word hg ha => exact .word hnil ha
  | string hg hb => exact .string hnil hb
  | emptyArray hg hg' => exact .emptyArray hnil hg'
  | array hg hv hvs => exact .array hnil hv hvs
  | emptyObject hg hg' => exact .emptyObject hnil hg'
  | object hg hg' hgap hform hk hv hfs => exact .object hnil hg' hgap hform hk hv hfs

/-! ## Lexemes that can be mended -/

/-- Well placed lexemes with clean quoted texts, those of an array or object. -/
structure IsMendable (ls : List Lexeme) : Prop extends WellPlaced ls where
  clean : ∀ l ∈ ls, l.token.IsClean
  opens : ∀ l ∈ ls.head?, ∃ m : Mark, l.token = .mark m

theorem IsMendable.readyFor {heads : List Char} {ls : List Lexeme} (h : IsMendable ls)
    (hrule : AppliesAt rule heads) (hheads : ∀ c ∈ heads, isCleanChar c = false) :
    ReadyFor rule ls where
  toWellPlaced := h.toWellPlaced
  inside l hl := (h.clean l hl).isQuietInside hrule hheads

theorem IsMendable.singlesAreClosed {ls : List Lexeme} (h : IsMendable ls) :
    SinglesAreClosed ls := by
  intro l hl s body hbody
  have hclean := h.clean l hl
  rw [hbody] at hclean
  exact hclean.not_mem (by decide)

theorem IsMendable.hasNoBreak {ls : List Lexeme} (h : IsMendable ls) :
    ∀ l ∈ ls, l.token.HasNoBreak := by
  intro l hl
  have hclean := h.clean l hl
  obtain ⟨g, t⟩ := l
  cases t with
  | key form body gap => exact hclean.not_mem (by decide)
  | string s q body => exact hclean.not_mem (by decide)
  | _ => trivial

/-- Lexemes of an array or object whose quotes are changed still are. -/
theorem IsMendable.map {f : Lexeme → Lexeme} {ls : List Lexeme} (h : IsMendable ls)
    (hrole : ∀ l, (f l).role = l.role) (hproper : ∀ l, l.IsProper → (f l).IsProper)
    (hclean : ∀ l, l.token.IsClean → (f l).token.IsClean) : IsMendable (ls.map f) where
  proper := List.forall_mem_map.mpr fun l hl => hproper l (h.proper l hl)
  chain := by
    rw [List.isChain_map]
    exact h.chain.imp fun l m hlm => by rwa [Lexeme.Precedes, hrole, hrole]
  clean := List.forall_mem_map.mpr fun l hl => hclean l (h.clean l hl)
  opens := by
    rw [List.head?_map]
    intro l hl
    obtain ⟨m, hm, rfl⟩ := Option.map_eq_some_iff.mp hl
    obtain ⟨k, hk⟩ := h.opens m hm
    have hrole := hrole m
    rw [Lexeme.role, Lexeme.role, hk] at hrole
    cases hfm : (f m).token with
    | mark k' => exact ⟨k', rfl⟩
    | _ => rw [hfm] at hrole; cases hrole

theorem mem_dropTrailing {l : Lexeme} {ls : List Lexeme} (h : l ∈ dropTrailing ls) :
    ∃ m ∈ ls, m.token = l.token := by
  induction ls using dropTrailing.induct with
  | case1 g m ls ih =>
      rw [dropTrailing, List.mem_cons] at h
      rcases h with rfl | h
      · exact ⟨m, by simp, rfl⟩
      · obtain ⟨k, hk, heq⟩ := ih h
        exact ⟨k, by simp [hk], heq⟩
  | case2 m ls hne ih =>
      rw [dropTrailing.eq_2 m ls hne, List.mem_cons] at h
      rcases h with rfl | h
      · exact ⟨l, by simp, rfl⟩
      · obtain ⟨k, hk, heq⟩ := ih h
        exact ⟨k, by simp [hk], heq⟩
  | case3 => cases h

theorem Role.precedes_of_isClose {r r' : Role} (h : r.precedes (.mark .trailingComma) = true)
    (hr' : r'.isClose = true) : r.precedes r' = true := by
  have hfollows : r'.followsValue = true := by
    cases r' with
    | mark m => cases m <;> first | rfl | cases hr'
    | _ => cases hr'
  cases r with
  | mark m => cases m <;> first | exact hfollows | cases h
  | key => cases h
  | _ => exact hfollows

/-- What may stand before lexemes may stand before them without their trailing commas. -/
theorem precedes_head?_dropTrailing {r : Role} {ls : List Lexeme} (h : WellPlaced ls)
    (hr : ∀ m ∈ ls.head?, r.precedes m.role = true) :
    ∀ m ∈ (dropTrailing ls).head?, r.precedes m.role = true := by
  fun_cases dropTrailing ls with
  | case1 g m ls =>
      have hclose : m.role.isClose = true := (List.isChain_cons_cons.mp h.chain).1
      simp only [List.head?_cons, Option.mem_some_iff, forall_eq']
      exact Role.precedes_of_isClose (hr _ rfl) hclose
  | case2 l ls hne => simpa using hr
  | case3 => exact nofun

theorem WellPlaced.dropTrailing {ls : List Lexeme} (h : WellPlaced ls) :
    WellPlaced (dropTrailing ls) := by
  induction ls using dropTrailing.induct with
  | case1 g m ls ih =>
      have hm := h.tail.proper m List.mem_cons_self
      have hgap : IsGap (g ++ m.gap) :=
        List.forall_mem_append.mpr ⟨(h.proper _ List.mem_cons_self).1, hm.1⟩
      refine (ih h.tail.tail).cons ⟨hgap, hm.2⟩ ?_
      exact precedes_head?_dropTrailing h.tail.tail (List.isChain_cons.mp h.tail.chain).1
  | case2 l ls hne ih =>
      rw [dropTrailing.eq_2 l ls hne]
      refine (ih h.tail).cons (h.proper l List.mem_cons_self) ?_
      exact precedes_head?_dropTrailing h.tail (List.isChain_cons.mp h.chain).1
  | case3 => exact h

theorem IsMendable.dropTrailing {ls : List Lexeme} (h : IsMendable ls) :
    IsMendable (dropTrailing ls) where
  toWellPlaced := h.toWellPlaced.dropTrailing
  clean l hl := by
    obtain ⟨m, hm, htoken⟩ := mem_dropTrailing hl
    exact htoken ▸ h.clean m hm
  opens := by
    have hopens := h.opens
    have hplaced := h.toWellPlaced
    fun_cases Json.dropTrailing ls with
    | case1 g m ls =>
        have hclose : m.role.isClose = true := (List.isChain_cons_cons.mp hplaced.chain).1
        obtain ⟨g', t⟩ := m
        cases t with
        | mark k => simp
        | _ => cases hclose
    | case2 l ls hne => simpa using hopens
    | case3 => exact nofun

/-- A lexeme as repair leaves it. -/
def Lexeme.mended : Lexeme → Lexeme
  | ⟨g, .key .bare body _⟩ => ⟨g, .key (.quoted .double) body []⟩
  | ⟨g, .key (.quoted _) body gap⟩ => ⟨g, .key (.quoted .double) body gap⟩
  | ⟨_, .string .field .single body⟩ => ⟨[' '], .string .field .double body⟩
  | ⟨g, .string s _ body⟩ => ⟨g, .string s .double body⟩
  | l => l

theorem Lexeme.mended_eq (l : Lexeme) :
    l.requoteKey.requoteValue.requoteElement.quoteBareKey = l.mended := by
  obtain ⟨g, t⟩ := l
  cases t with
  | mark m => rfl
  | key form body gap => rcases form with (_ | _) | _ <;> rfl
  | string s q body => cases s <;> cases q <;> rfl
  | word cs => rfl

def mended (ls : List Lexeme) : List Lexeme := (dropTrailing ls).map Lexeme.mended

theorem IsMendable.unindent {ls : List Lexeme} (h : IsMendable ls) : IsMendable (unindent ls) := by
  cases ls with
  | nil => exact h
  | cons l ls =>
      have hl := h.proper l List.mem_cons_self
      refine ⟨h.tail.cons ⟨nofun, hl.2⟩ (List.isChain_cons.mp h.chain).1, ?_, ?_⟩
      · simpa [Json.unindent] using h.clean
      · simpa [Json.unindent] using h.opens

section

variable {ls : List Lexeme} (h : IsMendable ls)

include h

theorem IsMendable.map_requoteKey : IsMendable (ls.map Lexeme.requoteKey) := by
  refine h.map ?_ ?_ ?_ <;> intro l <;> unfold Lexeme.requoteKey <;> split
  · rfl
  · rfl
  · exact fun hl => ⟨hl.1, hl.2.1, trivial⟩
  · exact id
  · exact id
  · exact id

theorem IsMendable.map_requoteValue : IsMendable (ls.map Lexeme.requoteValue) := by
  refine h.map ?_ ?_ ?_ <;> intro l <;> unfold Lexeme.requoteValue <;> split
  · rfl
  · rfl
  · exact fun _ => ⟨List.forall_mem_singleton.mpr rfl, trivial⟩
  · exact id
  · exact id
  · exact id

theorem IsMendable.map_requoteElement : IsMendable (ls.map Lexeme.requoteElement) := by
  refine h.map ?_ ?_ ?_ <;> intro l <;> unfold Lexeme.requoteElement <;> split
  · rfl
  · rfl
  · exact fun hl => ⟨hl.1, trivial⟩
  · exact id
  · exact id
  · exact id

theorem IsMendable.map_quoteBareKey : IsMendable (ls.map Lexeme.quoteBareKey) := by
  refine h.map ?_ ?_ ?_ <;> intro l <;> unfold Lexeme.quoteBareKey <;> split
  · rfl
  · rfl
  · exact fun hl => ⟨hl.1, nofun, trivial⟩
  · exact id
  · exact id
  · exact id

theorem IsMendable.head?_eq {f : Lexeme → Lexeme} (hf : ∀ g m, f ⟨g, .mark m⟩ = ⟨g, .mark m⟩) :
    ∀ l ∈ ls.head?, f l = l := by
  intro l hl
  obtain ⟨m, hm⟩ := h.opens l hl
  obtain ⟨g, t⟩ := l
  subst hm
  exact hf g m

end

theorem requoteKey_ne_single (l : Lexeme) (body gap : List Char) :
    l.requoteKey.requoteValue.token ≠ .key (.quoted .single) body gap := by
  obtain ⟨g, t⟩ := l
  cases t with
  | mark m => exact nofun
  | key form body gap => rcases form with (_ | _) | _ <;> exact nofun
  | string s q body => cases s <;> cases q <;> exact nofun
  | word cs => exact nofun

/-- Repair takes the white space around the text away and leaves double quotes and no trailing
comma. -/
theorem repair_textOf {ls : List Lexeme} (h : IsMendable ls) (hne : ls ≠ []) {g : List Char}
    (hg : IsGap g) : repair (textOf ls ++ g) = textOf (mended (unindent ls)) := by
  have h₀ := h.unindent
  have h₁ := h₀.dropTrailing
  have h₂ := h₁.map_requoteKey
  have h₃ := h₂.map_requoteValue
  have h₄ := h₃.map_requoteElement
  have h₅ := h₄.map_quoteBareKey
  have hkeys : ∀ l ∈ ((dropTrailing (unindent ls)).map Lexeme.requoteKey).map Lexeme.requoteValue,
      ∀ body gap, l.token ≠ .key (.quoted .single) body gap := by
    simp only [List.map_map, List.forall_mem_map]
    exact fun l _ => requoteKey_ne_single l
  have hmended : (((((dropTrailing (unindent ls)).map Lexeme.requoteKey).map
      Lexeme.requoteValue).map Lexeme.requoteElement).map Lexeme.quoteBareKey) =
      mended (unindent ls) := by
    simp only [List.map_map, mended]
    exact List.map_congr_left fun l _ => l.mended_eq
  simp only [repair, repairRules, List.foldl_cons, List.foldl_nil]
  rw [trim_textOf h.proper hne hg,
    replaceAll_dropTrailingComma (h₀.readyFor appliesAt_dropTrailingComma (by decide)),
    replaceAll_requoteKey h₁.toWellPlaced h₁.clean,
    replaceAll_requoteValue (h₂.readyFor appliesAt_requoteValue (by decide))
      h₂.singlesAreClosed (h₂.head?_eq fun _ _ => rfl),
    replaceAll_requoteElement (h₃.readyFor appliesAt_requoteElement (by decide)) hkeys
      h₃.singlesAreClosed (h₃.head?_eq fun _ _ => rfl),
    replaceAll_quoteBareKey (h₄.readyFor appliesAt_quoteBareKey (by decide))
      (h₄.head?_eq fun _ _ => rfl),
    replaceAll_separate_strings h₅.toWellPlaced h₅.hasNoBreak,
    replaceAll_of_quiet (quiet_separate_objects h₅.toWellPlaced h₅.hasNoBreak), hmended]

end TypeDraft.Json
