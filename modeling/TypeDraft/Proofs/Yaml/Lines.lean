import TypeDraft.Proofs.Yaml.Blocks

/-!
# Mappings line by line

A block mapping of scalars has one line for each of them, and the last of its entries may be such a
mapping itself, whose lines stand further in. The source gives the tokens of all of them.
-/

namespace TypeDraft.Yaml

/-- A key and what is written behind it on its line and those after it, with the scalar that this is
read as. -/
structure ScalarLine where
  key : String
  body : List Char
  text : String
  isPlain : Bool

namespace ScalarLine

def chars (column : Nat) (l : ScalarLine) : List Char :=
  List.replicate column ' ' ++ (l.key.toList ++ ':' :: ' ' :: (l.body ++ ['\n']))

def tokens (l : ScalarLine) : List Token :=
  [.key, .scalar l.key true, .value, .scalar l.text l.isPlain]

/-- Whether a line is read as it says where it stands at a column. -/
structure IsProper (column : Nat) (l : ScalarLine) : Prop where
  isKey : TokenSource.IsKey l.key.toList
  reads : TokenSource.ReadsAs column l.body l.text l.isPlain

end ScalarLine

/-- Whether a cursor stands behind the blanks at the head of a text. -/
structure StandsIn (c : Cursor) (text : List Char) : Prop where
  begins : BeginsLine c.rest
  text : text = List.replicate c.column ' ' ++ c.rest

section

variable {text r : List Char} {c : Cursor} {n : Nat}

theorem eq_of_replicate_append {m : Nat} {r' : List Char} (hr : BeginsLine r) (hr' : BeginsLine r')
    (h : List.replicate m ' ' ++ r = List.replicate n ' ' ++ r') : m = n ∧ r = r' := by
  induction m generalizing n with
  | zero =>
      cases n with
      | zero => exact ⟨rfl, h⟩
      | succ n =>
          refine absurd ?_ (hr.head?_ne (d := ' ') (by decide))
          rw [← List.nil_append r, ← List.replicate_zero (a := ' '), h]
          rfl
  | succ m ih =>
      cases n with
      | zero =>
          refine absurd ?_ (hr'.head?_ne (d := ' ') (by decide))
          rw [← List.nil_append r', ← List.replicate_zero (a := ' '), ← h]
          rfl
      | succ n =>
          rw [List.replicate_succ, List.replicate_succ, List.cons_append, List.cons_append] at h
          obtain ⟨rfl, hsame⟩ := ih (List.cons.inj h).2
          exact ⟨rfl, hsame⟩

theorem StandsIn.of_append (h : StandsIn c (List.replicate n ' ' ++ r)) (hr : BeginsLine r) :
    c.rest = r ∧ c.column = n := by
  obtain ⟨hcolumn, hrest⟩ := eq_of_replicate_append hr h.begins h.text
  exact ⟨hrest.symm, hcolumn.symm⟩

/-- Behind a line feed a cursor comes to stand in the next line. -/
theorem standsIn_of_lineFeed (hrest : c.rest = '\n' :: (List.replicate n ' ' ++ r))
    (hr : BeginsLine r) : StandsIn (c.advance (n + 1)) (List.replicate n ' ' ++ r) := by
  have hlater : (c.advance (n + 1)).rest = r := by
    rw [Cursor.rest_advance, hrest]
    simp
  refine ⟨hlater.symm ▸ hr, ?_⟩
  rw [hlater, Cursor.column_of_lineFeed hrest]

end

namespace TokenSource

variable {s : TokenSource} {c : Cursor} {indent : Int} {indents : List Int} {r tail : List Char}
  {n : Nat} {l : ScalarLine} {lines : List ScalarLine} {ts : List Token}

/-- The tokens of a line are given, in front of which a mapping is opened if it stands further
in. -/
theorem BeforeLine.gives_line (h : BeforeLine s c indent indents) (ts : List Token)
    (hcolumn : indent ≤ c.column)
    (hl : l.IsProper c.column)
    (hrest : c.rest =
      l.key.toList ++ ':' :: ' ' :: (l.body ++ '\n' :: (List.replicate n ' ' ++ r)))
    (hn : n ≤ c.column) (hr : BeginsLine r)
    (hlater : ∀ s' c', BeforeLine s' c' c.column
        (if indent < c.column then indent :: indents else indents) →
      StandsIn c' (List.replicate n ' ' ++ r) → Gives s' ts) :
    Gives s ((if indent < c.column then [.blockMappingStart] else []) ++ (l.tokens ++ ts)) := by
  have hbehind : (c.advance (l.key.toList.length + 1)).rest =
      ' ' :: (l.body ++ '\n' :: (List.replicate n ' ' ++ r)) := by
    rw [Cursor.rest_advance, hrest]
    simp
  have hplace : c.column ≤ (c.advance (l.key.toList.length + 1)).column := by
    have hkey : c.rest = (l.key.toList ++ [':']) ++
        ' ' :: (l.body ++ '\n' :: (List.replicate n ' ' ++ r)) := by simp [hrest]
    have hflat : ∀ d ∈ l.key.toList ++ [':'], isBreak d = false ∧ d ≠ '\ufeff' :=
      List.forall_mem_append.mpr ⟨hl.isKey.isFlat, by decide⟩
    have hadvance := Cursor.advance_of_flat hkey hflat
    rw [List.length_append, List.length_singleton] at hadvance
    rw [hadvance]
    exact Nat.le_add_right _ _
  have hgives := h.gives_key (.scalar l.text l.isPlain :: ts) hcolumn hl.isKey hrest rfl ?_
  · rwa [String.ofList_toList] at hgives
  · intro s' hs'
    apply hs'.gives_scalar hl.reads hplace hbehind hn hr
    intro s'' hs''
    apply hlater s'' _ hs''
    have hend : ((c.advance (l.key.toList.length + 1)).advance (l.body.length + 1)).rest =
        '\n' :: (List.replicate n ' ' ++ r) :=
      Cursor.rest_advance_append (l := ' ' :: l.body) hbehind
    have hlength : l.body.length + 1 + (n + 1) = l.body.length + 2 + n := by omega
    rw [← hlength, ← Cursor.advance_advance]
    exact standsIn_of_lineFeed hend hr

/-- What may follow the lines of a mapping at a column: the end, or a line that stands no further
in. -/
def Follows (column : Nat) (tail : List Char) : Prop :=
  ∃ n r, tail = List.replicate n ' ' ++ r ∧ n ≤ column ∧ BeginsLine r

theorem IsKey.beginsLine {key : List Char} (h : IsKey key) (r : List Char) :
    BeginsLine (key ++ r) := by
  obtain ⟨d, key, rfl, hd⟩ := h.head
  intro e he
  exact Option.some.inj he ▸ hd

theorem lines_cons (l : ScalarLine) (lines : List ScalarLine) (tail : List Char) :
    (l :: lines).flatMap (ScalarLine.chars n) ++ tail = List.replicate n ' ' ++
      (l.key.toList ++
        ':' :: ' ' :: (l.body ++ '\n' :: (lines.flatMap (ScalarLine.chars n) ++ tail))) := by
  simp [ScalarLine.chars]

theorem follows_lines (hlines : ∀ l ∈ lines, l.IsProper n) (htail : Follows n tail) :
    Follows n (lines.flatMap (ScalarLine.chars n) ++ tail) := by
  cases lines with
  | nil => exact htail
  | cons l lines =>
      rw [lines_cons]
      exact ⟨n, _, rfl, le_refl _, (hlines l List.mem_cons_self).isKey.beginsLine _⟩

/-- Where a cursor stands in lines, it stands at the key of the first one. -/
theorem rest_of_standsIn_lines (hl : l.IsProper n)
    (h : StandsIn c ((l :: lines).flatMap (ScalarLine.chars n) ++ tail)) :
    c.rest = l.key.toList ++
      ':' :: ' ' :: (l.body ++ '\n' :: (lines.flatMap (ScalarLine.chars n) ++ tail)) ∧
      c.column = n := by
  rw [lines_cons] at h
  exact h.of_append (hl.isKey.beginsLine _)

/-- The tokens of lines in a mapping that is open are given. -/
theorem BeforeLine.gives_lines (h : BeforeLine s c n indents) (hlines : ∀ l ∈ lines, l.IsProper n)
    (hstands : StandsIn c (lines.flatMap (ScalarLine.chars n) ++ tail)) (htail : Follows n tail)
    (hlater : ∀ s' c', BeforeLine s' c' n indents → StandsIn c' tail → Gives s' ts) :
    Gives s (lines.flatMap ScalarLine.tokens ++ ts) := by
  induction lines generalizing s c with
  | nil => exact hlater s c h hstands
  | cons l lines ih =>
      obtain ⟨hl, hlines⟩ := List.forall_mem_cons.mp hlines
      obtain ⟨hrest, hcolumn⟩ := rest_of_standsIn_lines hl hstands
      obtain ⟨m, r, hnext, hm, hr⟩ := follows_lines hlines htail
      rw [hnext] at hrest ih
      have hgives := h.gives_line (lines.flatMap ScalarLine.tokens ++ ts) (by omega)
        (hcolumn.symm ▸ hl) hrest (by omega) hr
      rw [hcolumn, if_neg (Int.lt_irrefl _), if_neg (Int.lt_irrefl _)] at hgives
      rw [List.flatMap_cons, List.append_assoc]
      exact hgives fun s' c' hs' hc' => ih hs' hlines hc'

/-- The tokens of a mapping are given with the one that opens it. -/
theorem BeforeLine.gives_mapping (h : BeforeLine s c indent indents) (hindent : indent < n)
    (hne : lines ≠ []) (hlines : ∀ l ∈ lines, l.IsProper n)
    (hstands : StandsIn c (lines.flatMap (ScalarLine.chars n) ++ tail)) (htail : Follows n tail)
    (hlater : ∀ s' c', BeforeLine s' c' n (indent :: indents) → StandsIn c' tail → Gives s' ts) :
    Gives s (.blockMappingStart :: (lines.flatMap ScalarLine.tokens ++ ts)) := by
  obtain ⟨l, lines, rfl⟩ := List.exists_cons_of_ne_nil hne
  obtain ⟨hl, hlines⟩ := List.forall_mem_cons.mp hlines
  obtain ⟨hrest, hcolumn⟩ := rest_of_standsIn_lines hl hstands
  obtain ⟨m, r, hnext, hm, hr⟩ := follows_lines hlines htail
  rw [hnext] at hrest
  have hgives := h.gives_line (lines.flatMap ScalarLine.tokens ++ ts) (by omega)
    (hcolumn.symm ▸ hl) hrest (by omega) hr
  rw [hcolumn, if_pos hindent, if_pos hindent] at hgives
  rw [List.flatMap_cons, List.append_assoc]
  exact hgives fun s' c' hs' hc' => hs'.gives_lines hlines (hnext ▸ hc') htail hlater

/-- The lines of a mapping, the last entry of which is a mapping with lines of its own. -/
def nestedChars (lines : List ScalarLine) (key : String) (inner : List ScalarLine) : List Char :=
  lines.flatMap (ScalarLine.chars 0) ++
    (key.toList ++ ':' :: '\n' :: inner.flatMap (ScalarLine.chars 2))

theorem isReadable_of_isPlain {d : Char} (h : Text.IsPlain d) : isReadable d = true := by
  rcases h with rfl | h
  · rfl
  · simp only [Text.IsPrintable] at h
    simp [isReadable, h]

/-- The source of a plain text that begins with a line stands before that. -/
theorem exists_ofText {text : List Char} (hplain : ∀ d ∈ text, Text.IsPlain d)
    (hbegins : BeginsLine text) :
    ∃ s c, ofText text = .ok s ∧ BeforeLine s c (-1) [] ∧ StandsIn c text := by
  have hreadable : text.all isReadable = true :=
    List.all_eq_true.mpr fun d hd => isReadable_of_isPlain (hplain d hd)
  have hmark : (text.head? == some '\ufeff') = false := by
    simpa using hbegins.head?_ne (d := '\ufeff') (by decide)
  refine ⟨{ cursor := { rest := text }, bound := text.length + 1 }, { rest := text }, ?_, ?_,
    hbegins, rfl⟩
  · simp [ofText, hreadable, Cursor.peek, hmark]
  · exact Rests.beforeLine ⟨rfl, rfl, rfl, rfl, rfl, rfl⟩ rfl hbegins (Nat.lt_succ_self _)

/-- The source of such a text gives the tokens of both mappings. -/
theorem exists_gives_nested {key : String} {inner : List ScalarLine}
    (hplain : ∀ d ∈ nestedChars lines key inner, Text.IsPlain d) (hne : lines ≠ [])
    (hlines : ∀ l ∈ lines, l.IsProper 0) (hkey : IsKey key.toList) (hinner : inner ≠ [])
    (hinners : ∀ l ∈ inner, l.IsProper 2) :
    ∃ s, ofText (nestedChars lines key inner) = .ok s ∧
      Gives s (.blockMappingStart :: (lines.flatMap ScalarLine.tokens ++
        .key :: .scalar key true :: .value :: .blockMappingStart ::
          (inner.flatMap ScalarLine.tokens ++ [.blockEnd, .blockEnd, .streamEnd]))) := by
  have hbegins : BeginsLine (nestedChars lines key inner) := by
    obtain ⟨l, lines, rfl⟩ := List.exists_cons_of_ne_nil hne
    rw [nestedChars, lines_cons]
    exact (hlines l List.mem_cons_self).isKey.beginsLine _
  obtain ⟨s, c, hs, hbefore, hstands⟩ := exists_ofText hplain hbegins
  refine ⟨s, hs, hbefore.gives_mapping (by decide) hne hlines hstands
    ⟨0, _, rfl, le_refl _, hkey.beginsLine _⟩ fun s c hbefore hstands => ?_⟩
  -- The key of the inner mapping stands in the outer one.
  obtain ⟨hrest, hcolumn⟩ := hstands.of_append (n := 0) (hkey.beginsLine _)
  have hgives := hbefore.gives_key (.blockMappingStart ::
    (inner.flatMap ScalarLine.tokens ++ [.blockEnd, .blockEnd, .streamEnd])) (by simp) hkey hrest
    rfl
  rw [hcolumn, String.ofList_toList] at hgives
  apply hgives
  intro s hbehind
  have hend : Follows 2 [] := ⟨0, [], rfl, by decide, nofun⟩
  obtain ⟨m, r, hnext, -, hr⟩ := follows_lines hinners hend
  have hline : s.cursor.rest = '\n' :: (List.replicate m ' ' ++ r) := by
    rw [hbehind.cursor, Cursor.rest_advance, hrest, ← hnext]
    simp
  have hinside := hbehind.toRests.beforeNextLine hline hr (by
    rw [hbehind.cursor]
    exact hbehind.short)
  have hstands := standsIn_of_lineFeed hline hr
  rw [← hnext] at hstands
  apply hinside.gives_mapping (by decide) hinner hinners hstands hend
  intro s c hbefore hstands
  obtain ⟨hrest, hcolumn⟩ := hstands.of_append (n := 0) nofun
  exact hbefore.gives_end (by decide) hrest hcolumn

end TokenSource

end TypeDraft.Yaml
