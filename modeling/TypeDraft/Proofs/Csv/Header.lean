import TypeDraft.Csv
import TypeDraft.Proofs.Json.Literals
import TypeDraft.Proofs.Json.Mending
import TypeDraft.Proofs.Json.Writing

/-!
# JSON read as a table

If a comma stands on the first line of a text of JSON, the text up to it becomes the name of the
first column. No such table is the value that the text stands for.
-/

namespace TypeDraft

/-- The first field keeps its place, whatever is set later. -/
theorem exists_collectFields_cons {α : Type} (f : String × α) (fields : List (String × α)) :
    ∃ value rest, collectFields (f :: fields) = (f.1, value) :: rest := by
  have hfold : ∀ (fields : List (String × α)) (acc : List (String × α)) (key : String) (value : α),
      ∃ value' rest, fields.foldl (fun fs f => putField f.1 f.2 fs) ((key, value) :: acc) =
        (key, value') :: rest := by
    intro fields
    induction fields with
    | nil => exact fun acc key value => ⟨value, acc, rfl⟩
    | cons g fields ih =>
        intro acc key value
        rw [List.foldl_cons, putField]
        split
        · exact ih acc key g.2
        · exact ih _ key value
  exact hfold fields [] f.1 f.2

namespace Csv

/-! ## The first cell of a row -/

def Reader.HasFirst (cell : String) (r : Reader) : Prop := r.cells.getLast? = some cell

def Row.HasFirst (cell : String) (row : Row) : Prop := row.cells.head? = some cell

def Step.HasFirst (cell : String) : Step → Prop
  | inside r => r.HasFirst cell
  | finished row _ => row.HasFirst cell

section

variable {cell : String} {r : Reader} {c : Char} {s : Step}

theorem Reader.HasFirst.saveCell (h : r.HasFirst cell) (stand : Stand) :
    (r.saveCell stand).HasFirst cell := by
  simp only [Reader.HasFirst] at h
  simp [Reader.HasFirst, Reader.saveCell, List.getLast?_cons, h]

theorem Reader.HasFirst.finish (h : r.HasFirst cell) : r.finish.HasFirst cell :=
  List.head?_reverse.trans h

theorem Reader.HasFirst.addChar (h : r.HasFirst cell) {stand : Stand}
    (hstep : r.addChar stand c = .ok s) : s.HasFirst cell := by
  unfold Reader.addChar at hstep
  split at hstep
  · cases hstep
  · cases hstep
    exact h

theorem Reader.HasFirst.startCell (h : r.HasFirst cell) (hstep : r.startCell c = .ok s) :
    s.HasFirst cell := by
  unfold Reader.startCell at hstep
  split at hstep
  · cases hstep
    exact (h.saveCell _).finish
  · cases hstep
    exact h.saveCell _
  · cases hstep
    exact h
  · cases hstep
    exact h.saveCell _
  · exact h.addChar hstep

/-- A row that has a first cell keeps it. -/
theorem Reader.HasFirst.step (h : r.HasFirst cell) (hstep : r.step c = .ok s) :
    s.HasFirst cell := by
  have hline : ({ r with line := r.line + 1 } : Reader).HasFirst cell := h
  unfold Reader.step at hstep
  split at hstep <;> try split at hstep
  all_goals first
    | exact h.startCell hstep
    | exact h.addChar hstep
    | exact hline.addChar hstep
    | cases hstep
  all_goals first
    | exact h
    | exact h.finish
    | exact h.saveCell _
    | exact (h.saveCell _).finish

theorem Reader.HasFirst.close (h : r.HasFirst cell) {last : List Row} (hclose : r.close = .ok last) :
    ∀ row ∈ last.head?, row.HasFirst cell := by
  unfold Reader.close at hclose
  split at hclose
  · cases hclose
    exact nofun
  · cases hclose
  · cases hclose
    simpa [Row.HasFirst, Reader.HasFirst] using h
  all_goals
    cases hclose
    simpa [Row.HasFirst, Reader.HasFirst] using h.saveCell .rowStart

theorem rows_readFrom (rows : List Row) (r : Reader) (cs : List Char) :
    (readFrom rows r cs).rows = rows.reverse ++ (readFrom [] r cs).rows := by
  induction cs generalizing rows r with
  | nil =>
      simp only [readFrom]
      cases r.close <;> simp
  | cons c cs ih =>
      simp only [readFrom]
      split
      · exact ih _ _
      · rw [ih, ih [_]]
        simp
      · simp

/-- A row that has a first cell comes out with it. -/
theorem Reader.HasFirst.readFrom (h : r.HasFirst cell) (cs : List Char) :
    ∀ row ∈ (Csv.readFrom [] r cs).rows.head?, row.HasFirst cell := by
  induction cs generalizing r with
  | nil =>
      unfold Csv.readFrom
      split
      · next hclose => simpa using h.close hclose
      · exact nofun
  | cons c cs ih =>
      unfold Csv.readFrom
      split
      · next hstep => exact ih (h.step hstep)
      · next row r' hstep =>
          have hrow : row.HasFirst cell := h.step hstep
          rw [rows_readFrom]
          simpa using hrow
      · exact nofun

end

/-! ## The first name of a header -/

theorem step_lineEnd {r : Reader} (hr : r.stand = .lineEnd) {c : Char} (hline : c ≠ '\n') :
    r.step c = if c = '\r' then .ok (.inside r) else .error .strayLineEnd := by
  unfold Reader.step
  simp only [hr]
  split <;> simp_all

theorem step_bare {r : Reader} (hr : r.stand = .bare) {c : Char} (hline : c ≠ '\n')
    (hreturn : c ≠ '\r') (hcomma : c ≠ ',') : r.step c = r.addChar .bare c := by
  unfold Reader.step
  simp only [hr]

theorem step_bare_return {r : Reader} (hr : r.stand = .bare) :
    r.step '\r' = .ok (.inside (r.saveCell .lineEnd)) := by
  unfold Reader.step
  simp only [hr]

theorem step_bare_comma {r : Reader} (hr : r.stand = .bare) :
    r.step ',' = .ok (.inside (r.saveCell .cellStart)) := by
  unfold Reader.step
  simp only [hr]

/-- Behind a carriage return nothing but the end of the line may come. -/
theorem readFrom_lineEnd {cs : List Char} (h : '\n' ∉ cs) (rest : List Char) (r : Reader)
    (hr : r.stand = .lineEnd) : (readFrom [] r (cs ++ ',' :: rest)).rows = [] := by
  induction cs generalizing r with
  | nil => simp [readFrom, step_lineEnd hr]
  | cons c cs ih =>
      rw [List.mem_cons, not_or] at h
      rw [List.cons_append, readFrom, step_lineEnd hr (Ne.symm h.1)]
      split_ifs
      · exact ih h.2 r hr
      · rfl

/-- A text before a comma is the first cell of its row, or else there is no row. -/
theorem readFrom_bare {cs : List Char} (hline : '\n' ∉ cs) (hcomma : ',' ∉ cs)
    (rest : List Char) (r : Reader) (hr : r.stand = .bare) (hcells : r.cells = []) :
    ∀ row ∈ (readFrom [] r (cs ++ ',' :: rest)).rows.head?,
      row.HasFirst (String.ofList (r.cell.reverse ++ cs)) := by
  induction cs generalizing r with
  | nil =>
      have hfirst : (r.saveCell .cellStart).HasFirst (String.ofList (r.cell.reverse ++ [])) := by
        simp [Reader.HasFirst, Reader.saveCell, hcells]
      rw [List.nil_append, readFrom, step_bare_comma hr]
      exact hfirst.readFrom rest
  | cons c cs ih =>
      rw [List.mem_cons, not_or] at hline hcomma
      rw [List.cons_append, readFrom]
      by_cases hreturn : c = '\r'
      · subst hreturn
        rw [step_bare_return hr]
        simp only [readFrom_lineEnd hline.2 rest (r.saveCell .lineEnd) rfl]
        exact nofun
      · rw [step_bare hr (Ne.symm hline.1) hreturn (Ne.symm hcomma.1), Reader.addChar]
        split_ifs
        · exact nofun
        · simpa using ih hline.2 hcomma.2 { r with
            stand := .bare, cell := c :: r.cell, size := r.size + 1 } rfl hcells

/-- A text that begins with a character of its own and a comma behind it begins its first row with
what stands before the comma. -/
theorem readRows_cons {c : Char} {cs : List Char} (hc : c ∉ ['\n', '\r', '"', ','])
    (hline : '\n' ∉ cs) (hcomma : ',' ∉ cs) (rest : List Char) :
    ∀ row ∈ (readRows (c :: (cs ++ ',' :: rest))).rows.head?,
      row.HasFirst (String.ofList (c :: cs)) := by
  simp only [List.mem_cons, not_or] at hc
  have hstep : ({} : Reader).step c = ({} : Reader).addChar .bare c := by
    unfold Reader.step Reader.startCell
    simp [hc]
  rw [readRows, readFrom, hstep, Reader.addChar]
  split_ifs
  · simp
  · exact readFrom_bare hline hcomma rest _ rfl rfl

theorem mem_recordsFrom {header : List String} {failure : Option CsvError} {rows : List Row}
    {rs : List (List (String × String))} (h : recordsFrom header failure rows = .ok rs) :
    ∀ r ∈ rs, ∃ cells, r = record header cells := by
  induction rows generalizing rs with
  | nil =>
      cases failure with
      | none =>
          cases h
          exact nofun
      | some e => cases h
  | cons row rows ih =>
      rw [recordsFrom] at h
      split_ifs at h
      · exact ih h
      · split at h
        · cases h
        · next records hrecords =>
            cases h
            split_ifs
            · exact ih hrecords
            · exact List.forall_mem_cons.mpr ⟨⟨row.cells, rfl⟩, ih hrecords⟩

theorem exists_record_cons (name : String) (header cells : List String) :
    ∃ value rest, record (name :: header) cells = (name, value) :: rest := by
  rw [record]
  cases cells with
  | nil =>
      simp only [List.length_cons, List.length_nil, Nat.sub_zero, List.nil_append,
        List.replicate_succ, List.zip_cons_cons]
      exact exists_collectFields_cons _ _
  | cons cell cells =>
      rw [List.cons_append, List.zip_cons_cons]
      exact exists_collectFields_cons _ _

/-- What a table with a column of some name first is read as: an array, whose items are objects
that begin with that name. -/
theorem exists_items_of_decode {c : Char} {cs rest : List Char} {text : List Char} {w : Value}
    (hc : c ∉ ['\n', '\r', '"', ',']) (hline : '\n' ∉ cs) (hcomma : ',' ∉ cs)
    (htrim : Text.trim text = c :: (cs ++ ',' :: rest)) (h : decode text = .ok w) :
    ∃ vs, w.normalize = .arr vs ∧
      ∀ v ∈ vs, ∃ u fs, v = .obj ((String.ofList (c :: cs), u) :: fs) := by
  have hfirst := readRows_cons hc hline hcomma rest
  rw [← htrim] at hfirst
  rw [decode, records] at h
  split at h
  · next header rows hrows =>
      rw [hrows] at hfirst
      have hname : header.cells.head? = some (String.ofList (c :: cs)) := hfirst header rfl
      obtain ⟨names, hnames⟩ := List.head?_eq_some_iff.mp hname
      rw [hnames] at h
      simp only [List.isEmpty_cons, Bool.false_eq_true, if_false] at h
      cases hrecords : recordsFrom (String.ofList (c :: cs) :: names) (readRows
          (Text.trim text)).failure rows with
      | error e => rw [hrecords] at h; cases h
      | ok rs =>
          rw [hrecords] at h
          cases h
          refine ⟨_, rfl, ?_⟩
          rw [Value.normalizeItems_eq_map, List.map_map]
          refine List.forall_mem_map.mpr fun r hr => ?_
          obtain ⟨cells, rfl⟩ := mem_recordsFrom hrecords r hr
          obtain ⟨value, fields, hrecord⟩ := exists_record_cons (String.ofList (c :: cs)) names cells
          obtain ⟨u, fs, hfields⟩ := exists_collectFields_cons (String.ofList (c :: cs), Value.str value)
            (Value.normalizeFields (fields.map fun f => (f.1, Value.str f.2)))
          refine ⟨u, fs, ?_⟩
          rw [Function.comp_apply, hrecord, List.map_cons, Value.normalize, Value.normalizeFields,
            Value.normalize, hfields]
  · cases h

/-! ## Texts of JSON -/

open Json (EscapesFrom Escapes IsAtom IsGap IsStrict Writes textOf unindent)

theorem length_pushCodeUnit_le (n : Nat) (out : List Char) :
    (Text.pushCodeUnit n out).length ≤ out.length + 1 := by
  unfold Text.pushCodeUnit
  split
  · simp
  · split
    · split <;> simp
    · simp

theorem comma_mem_pushCodeUnit {out : List Char} (h : ',' ∈ out) (n : Nat) :
    ',' ∈ Text.pushCodeUnit n out := by
  unfold Text.pushCodeUnit
  split
  · cases h
  · next c rest =>
      split
      · next high hlone =>
          split
          · rcases List.mem_cons.mp h with rfl | hmem
            · have hnone : Text.loneSurrogate? ',' = none := by decide
              cases hnone.symm.trans hlone
            · exact List.mem_cons_of_mem _ hmem
          · exact List.mem_cons_of_mem _ h
      · exact List.mem_cons_of_mem _ h

/-- What a quoted text stands for is no longer than it. -/
theorem length_le_of_escapesFrom {out body : List Char} {s : String} (h : EscapesFrom out body s) :
    s.toList.length ≤ out.length + body.length := by
  induction h with
  | done => simp
  | plain _ _ _ _ ih => simp only [List.length_cons] at ih ⊢; omega
  | simple _ _ ih => simp only [List.length_cons] at ih ⊢; omega
  | @unit out a b c d n cs s _ _ ih =>
      have hle := length_pushCodeUnit_le n out
      simp only [List.length_cons]
      omega

/-- A comma between quotes stands for itself. -/
theorem comma_mem_of_escapesFrom {out body : List Char} {s : String} (h : EscapesFrom out body s) :
    ',' ∈ out ++ body → ',' ∈ s.toList := by
  induction h with
  | done => simp
  | plain _ _ _ _ ih =>
      intro hmem
      refine ih ?_
      simp only [List.mem_append, List.mem_cons] at hmem ⊢
      tauto
  | simple hescape _ ih =>
      intro hmem
      have hc : ∀ c d, Json.simpleEscape? c = some d → ',' ≠ c := by
        rintro c d h rfl
        cases h
      simp only [List.mem_append, List.mem_cons, hc _ _ hescape, false_or] at hmem
      refine ih ?_
      simp only [List.mem_append, List.mem_cons]
      rcases hmem with hmem | hmem | hmem
      · exact .inl (.inr hmem)
      · exact absurd hmem (by decide)
      · exact .inr hmem
  | unit hunit _ ih =>
      intro hmem
      obtain ⟨ha, hb, hc, hd⟩ := Json.ne_of_codeUnit? hunit (x := ',') (by decide)
      have hslash : (',' : Char) ≠ '\\' := by decide
      have hu : (',' : Char) ≠ 'u' := by decide
      simp only [List.mem_append, List.mem_cons, hslash, hu, ha.symm, hb.symm, hc.symm, hd.symm,
        false_or] at hmem
      exact ih (List.mem_append.mpr (hmem.imp_left fun h => comma_mem_pushCodeUnit h _))

theorem isPrefix_of_append_eq {before behind first rest : List Char} {c : Char}
    (h : before ++ behind = first ++ c :: rest) (hc : c ∉ before) : before <+: first := by
  rcases List.append_eq_append_iff.mp h with ⟨more, rfl, -⟩ | ⟨more, rfl, hmore⟩
  · exact List.prefix_append before more
  · cases more with
    | nil => simp
    | cons d more =>
        obtain ⟨rfl, -⟩ := List.cons.inj hmore
        exact absurd (List.mem_append_right first List.mem_cons_self) hc

/-- The first field of what writes an object that begins with a name. -/
theorem exists_body_of_writes {s : Json.Setting} {v u : Value} {ls : List Json.Lexeme}
    {name : String} {fs : List (String × Value)} (h : Writes IsAtom Escapes s v ls)
    (hstrict : IsStrict ls) (hv : v.normalize = .obj ((name, u) :: fs)) :
    ∃ g g' body rest, IsGap g ∧ IsGap g' ∧ Escapes body name ∧
      textOf ls = g ++ '\x7b' :: (g' ++ '"' :: (body ++ rest)) := by
  cases h with
  | word hg ha =>
      rw [ha.normalize] at hv
      exact absurd (congrArg Value.kind hv) ha.kind_ne.2
  | string hg hb => cases hv
  | emptyArray hg hg' => cases hv
  | array hg hv' hvs => cases hv
  | emptyObject hg hg' => cases hv
  | @object _ g g' form body gap k v fs ls ms hg hg' hgap hform hk hv' hfs =>
      obtain ⟨u', fs', hfields⟩ := exists_collectFields_cons (k, v.normalize)
        (Value.normalizeFields fs)
      rw [Value.normalize, Value.normalizeFields, hfields] at hv
      obtain rfl : k = name := congrArg Prod.fst (List.cons.inj (Value.obj.inj hv)).1
      simp only [Json.isStrict_cons] at hstrict
      obtain rfl : form = .quoted .double := hstrict.2.1
      exact ⟨g, g', body, _, hg, hg', hk, by
        simp [Json.Lexeme.text, Json.Token.text, Json.Mark.char, Json.KeyForm.text, Json.inQuotes,
          Json.QuoteMark.char]; rfl⟩

/-- No object begins with a name longer than what stands before the first comma of its text. -/
theorem normalize_ne_of_writes {s : Json.Setting} {v : Value} {ls : List Json.Lexeme}
    {cs rest more : List Char} {c : Char} (h : Writes IsAtom Escapes s v ls) (hstrict : IsStrict ls)
    (hc : c ≠ ',') (hcomma : ',' ∉ cs) (htext : textOf ls ++ more = cs ++ ',' :: rest) (u : Value)
    (fs : List (String × Value)) : v.normalize ≠ .obj ((String.ofList (c :: cs), u) :: fs) := by
  intro hv
  obtain ⟨g, g', body, rest', hg, hg', hbody, hls⟩ := exists_body_of_writes h hstrict hv
  have hname : ',' ∉ (String.ofList (c :: cs)).toList := by simp [hc.symm, hcomma]
  have hbody' : ',' ∉ body := fun hmem => hname (comma_mem_of_escapesFrom hbody (by simpa using hmem))
  have hgap : ∀ g : List Char, IsGap g → ',' ∉ g := fun g hg hmem =>
    absurd (hg ',' hmem) (by decide)
  have hle : g ++ '\x7b' :: (g' ++ '"' :: body) <+: cs := by
    have heq : (g ++ '\x7b' :: (g' ++ '"' :: body)) ++ (rest' ++ more) = cs ++ ',' :: rest := by
      rw [← htext, hls]
      simp
    exact isPrefix_of_append_eq heq (by simp [hgap g hg, hgap g' hg', hbody'])
  have hlong := length_le_of_escapesFrom hbody
  have hshort := hle.length_le
  simp only [String.toList_ofList, List.length_append, List.length_cons, List.length_nil]
    at hlong hshort
  omega

/-- A table whose header has a comma on its first line is not the value that its text stands for
as JSON. -/
theorem normalize_ne_of_json {text before behind : List Char} {v w : Value}
    (hjson : Json.decode text = .ok v) (hcsv : decode text = .ok w)
    (htrim : Text.trim text = before ++ ',' :: behind) (hline : '\n' ∉ before) :
    w.normalize ≠ v := by
  rintro hv
  obtain ⟨u, ls, g, hls, hstrict, hg, rfl, rfl, -⟩ := Json.exists_writes_of_decode hjson
  have hrun := hls.isValueRun Json.atomsAreWords_isAtom
  have hindent := Json.trim_textOf hrun.proper hrun.nonempty hg
  obtain ⟨rs, rfl⟩ : ∃ rs, w = .arr rs := by
    rw [decode] at hcsv
    cases hrecords : records (textOf ls ++ g) with
    | error e => rw [hrecords] at hcsv; cases hcsv
    | ok rs => rw [hrecords] at hcsv; cases hcsv; exact ⟨_, rfl⟩
  cases hls with
  | word hg ha =>
      rw [ha.normalize] at hv
      exact absurd (congrArg Value.kind hv.symm) ha.kind_ne.1
  | string hg hb => cases hv
  | @emptyArray _ g₀ g₁ hg₀ hg₁ =>
      have hcomma : ',' ∈ textOf (unindent [⟨g₀, .mark .openArray⟩, ⟨g₁, .mark .closeArray⟩]) := by
        rw [← hindent, htrim]
        simp
      have hgap : ',' ∉ g₁ := fun hmem => absurd (hg₁ ',' hmem) (by decide)
      simp [unindent, Json.Lexeme.text, Json.Token.text, Json.Mark.char, hgap] at hcomma
  | @array _ g₀ u us ls ms hg₀ hu hus =>
      have hbracket : before ++ ',' :: behind = '[' :: (textOf ls ++ textOf ms) := by
        rw [← htrim, hindent]
        simp [unindent, Json.Lexeme.text, Json.Token.text, Json.Mark.char]
      have hcomma : ',' ∈ textOf ls ++ textOf ms := by
        have hmem : ',' ∈ '[' :: (textOf ls ++ textOf ms) := by simp [← hbracket]
        exact (List.mem_cons.mp hmem).resolve_left (by decide)
      obtain ⟨cs, rest, hfirst, hcs⟩ := List.eq_append_cons_of_mem hcomma
      have hle : '[' :: cs <+: before := by
        have heq : ('[' :: cs) ++ ',' :: rest = before ++ ',' :: behind := by
          rw [hbracket, hfirst, List.cons_append]
        exact isPrefix_of_append_eq heq (by simp [hcs])
      have hcs' : '\n' ∉ cs := fun hmem => hline (hle.subset (List.mem_cons_of_mem '[' hmem))
      obtain ⟨vs, hvs, hitems⟩ := exists_items_of_decode (c := '[') (by decide) hcs' hcs
        (htrim.trans (by rw [hbracket, hfirst])) hcsv
      have hstrict' := (Json.isStrict_append.mp (Json.isStrict_cons.mp hstrict).2).1
      rw [hv, Value.normalize, Value.normalizeItems] at hvs
      obtain ⟨u', fs, hobj⟩ := hitems u.normalize (Value.arr.inj hvs ▸ List.mem_cons_self)
      exact normalize_ne_of_writes hu hstrict' (by decide) hcs hfirst u' fs hobj
  | emptyObject hg hg' => cases hv
  | object hg hg' hgap hform hk hv' hfs => cases hv

end Csv

end TypeDraft
