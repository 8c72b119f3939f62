import TypeDraft.Proofs.Input.Clauses
import TypeDraft.Proofs.Text.Trim
import TypeDraft.Proofs.Value.Normal

/-!
# Tables in quotes

A table is written with every cell between double quotes, the quotes inside a cell doubled. Whatever
the cells hold, commas, quotes and line ends among it, reading gives the rows back.
-/

namespace TypeDraft.Csv

/-! ## Writing -/

/-- A character between quotes: a quote is doubled. -/
def quotedChar (c : Char) : List Char := if c = '"' then ['"', '"'] else [c]

def quoteCell (cell : String) : List Char := '"' :: (cell.toList.flatMap quotedChar ++ ['"'])

def writeRow (cells : List String) : List Char := [','].intercalate (cells.map quoteCell)

def writeTable (rows : List (List String)) : List Char := ['\n'].intercalate (rows.map writeRow)

theorem writeRow_cons_cons (cell next : String) (cells : List String) :
    writeRow (cell :: next :: cells) = quoteCell cell ++ ',' :: writeRow (next :: cells) := by
  simp [writeRow, List.intercalate_cons_cons]

theorem writeRow_singleton (cell : String) : writeRow [cell] = quoteCell cell := by
  simp [writeRow]

theorem writeTable_cons_cons (row next : List String) (rows : List (List String)) :
    writeTable (row :: next :: rows) = writeRow row ++ '\n' :: writeTable (next :: rows) := by
  simp [writeTable, List.intercalate_cons_cons]

theorem writeTable_singleton (row : List String) : writeTable [row] = writeRow row := by
  simp [writeTable]

/-! ## Steps -/

section

variable {r : Reader}

theorem step_quoted_quote (hr : r.stand = .quoted) :
    r.step '"' = .ok (.inside { r with stand := .afterQuote }) := by
  unfold Reader.step
  simp only [hr]

theorem step_quoted (hr : r.stand = .quoted) (hsize : r.size < maxCellLength) {c : Char}
    (hc : c ≠ '"') : r.step c = .ok (.inside { r with
      line := r.line + [c].count '\n', cell := c :: r.cell, size := r.size + 1 }) := by
  have hle : ¬ maxCellLength ≤ r.size := Nat.not_le.mpr hsize
  unfold Reader.step
  simp only [hr]
  split
  · exact absurd rfl hc
  · simp [Reader.addChar, hle]
  · next hline =>
      have hcount : [c].count '\n' = 0 := List.count_eq_zero.mpr (by simpa using Ne.symm hline)
      simp [Reader.addChar, hle, hcount]

theorem step_afterQuote_quote (hr : r.stand = .afterQuote) (hsize : r.size < maxCellLength) :
    r.step '"' = .ok (.inside { r with
      stand := .quoted, cell := '"' :: r.cell, size := r.size + 1 }) := by
  unfold Reader.step
  simp only [hr]
  simp [Reader.addChar, Nat.not_le.mpr hsize]

theorem step_afterQuote_comma (hr : r.stand = .afterQuote) :
    r.step ',' = .ok (.inside (r.saveCell .cellStart)) := by
  unfold Reader.step
  simp only [hr]

theorem step_afterQuote_line (hr : r.stand = .afterQuote) :
    r.step '\n' = .ok (r.saveCell .rowStart).finish := by
  unfold Reader.step
  simp only [hr]

end

/-! ## Reading a cell -/

section

variable {r : Reader} {rows : List Row}

/-- One character of a cell, as it is written, is read as that character. -/
theorem readFrom_quotedChar (hr : r.stand = .quoted) (hsize : r.size < maxCellLength) (c : Char)
    (rest : List Char) :
    readFrom rows r (quotedChar c ++ rest) = readFrom rows { r with
      line := r.line + (quotedChar c).count '\n', cell := c :: r.cell, size := r.size + 1 } rest := by
  by_cases hquote : c = '"'
  · subst hquote
    rw [quotedChar, if_pos rfl, List.cons_append, readFrom, step_quoted_quote hr]
    simp only
    rw [List.cons_append, readFrom,
      step_afterQuote_quote (r := { r with stand := .afterQuote }) rfl hsize]
    simp [hr]
  · rw [quotedChar, if_neg hquote, List.cons_append, List.nil_append, readFrom,
      step_quoted hr hsize hquote]

theorem readFrom_quotedChars (cs : List Char) (hr : r.stand = .quoted)
    (hsize : r.size + cs.length ≤ maxCellLength) (rest : List Char) :
    readFrom rows r (cs.flatMap quotedChar ++ rest) = readFrom rows { r with
      line := r.line + (cs.flatMap quotedChar).count '\n', cell := cs.reverse ++ r.cell,
      size := r.size + cs.length } rest := by
  induction cs generalizing r with
  | nil => rfl
  | cons c cs ih =>
      rw [List.length_cons] at hsize
      rw [List.flatMap_cons, List.append_assoc, readFrom_quotedChar hr (by omega) c,
        ih (by exact hr) (by simp only; omega)]
      simp [Nat.add_assoc, Nat.add_comm 1]

end

/-- The state behind the closing quote of a cell. -/
def Reader.behind (line : Nat) (cells : List String) (cell : String) : Reader where
  stand := .afterQuote
  line := line
  cell := cell.toList.reverse
  size := cell.length
  cells := cells

/-- The state in front of a cell. -/
def Reader.before (stand : Stand) (line : Nat) (cells : List String) : Reader where
  stand := stand
  line := line
  cells := cells

/-- Whether a cell may begin where the reader stands. -/
def Stand.opens (stand : Stand) : Prop := stand = .rowStart ∨ stand = .cellStart

section

variable {rows : List Row} {stand : Stand} {line : Nat} {cells : List String} {cell : String}

theorem readFrom_quoteCell (hstand : stand.opens) (hsize : cell.length ≤ maxCellLength)
    (rest : List Char) :
    readFrom rows (.before stand line cells) (quoteCell cell ++ rest) =
      readFrom rows (.behind (line + (quoteCell cell).count '\n') cells cell) rest := by
  have hopen : (Reader.before stand line cells).step '"' =
      .ok (.inside { Reader.before stand line cells with stand := .quoted }) := by
    rcases hstand with rfl | rfl <;> rfl
  have hlength : cell.toList.length = cell.length := String.length_toList
  rw [quoteCell, List.cons_append, List.append_assoc, readFrom, hopen]
  simp only
  rw [readFrom_quotedChars _ rfl (by simpa [Reader.before, hlength] using hsize), List.cons_append,
    readFrom, step_quoted_quote rfl]
  simp [Reader.before, Reader.behind, hlength]

end

/-! ## Reading rows -/

/-- What comes of the text behind a row: nothing, or a line end with further rows. -/
def readBehind (rows : List Row) (row : Row) : List Char → Rows
  | [] => ⟨(row :: rows).reverse, none⟩
  | _ :: rest => readFrom (row :: rows) (.before .rowStart (row.line + 1) []) rest

theorem readFrom_behind (rows : List Row) (line : Nat) (cells : List String) (cell : String)
    {rest : List Char} (hrest : ∀ c ∈ rest.head?, c = '\n') :
    readFrom rows (.behind line cells cell) rest =
      readBehind rows ⟨line, (cell :: cells).reverse⟩ rest := by
  cases rest with
  | nil => simp [readFrom, Reader.close, Reader.behind, Reader.saveCell, readBehind]
  | cons c rest =>
      obtain rfl := hrest c rfl
      rw [readFrom, step_afterQuote_line rfl]
      simp [Reader.behind, Reader.saveCell, Reader.finish, readBehind, Reader.before]

theorem readFrom_writeRow (rows : List Row) {stand : Stand} (hstand : stand.opens) (line : Nat)
    (done cells : List String) (hne : cells ≠ [])
    (hsize : ∀ cell ∈ cells, cell.length ≤ maxCellLength) {rest : List Char}
    (hrest : ∀ c ∈ rest.head?, c = '\n') :
    readFrom rows (.before stand line done) (writeRow cells ++ rest) =
      readBehind rows ⟨line + (writeRow cells).count '\n', done.reverse ++ cells⟩ rest := by
  induction cells generalizing stand line done with
  | nil => exact absurd rfl hne
  | cons cell cells ih =>
      rw [List.forall_mem_cons] at hsize
      cases cells with
      | nil =>
          rw [writeRow_singleton, readFrom_quoteCell hstand hsize.1, readFrom_behind _ _ _ _ hrest,
            List.reverse_cons]
      | cons next cells =>
          have hsave : ∀ line, (Reader.behind line done cell).saveCell .cellStart =
              .before .cellStart line (cell :: done) := by
            intro line
            simp [Reader.behind, Reader.saveCell, Reader.before]
          rw [writeRow_cons_cons, List.append_assoc, readFrom_quoteCell hstand hsize.1,
            List.cons_append, readFrom, step_afterQuote_comma rfl, hsave]
          simp only
          rw [ih (.inr rfl) _ _ (List.cons_ne_nil _ _) hsize.2]
          simp [Nat.add_assoc]

/-- Rows with the numbers of the lines that they end on, the first one beginning on a given line. -/
def numbered (line : Nat) : List (List String) → List Row
  | [] => []
  | cells :: rows =>
    let last := line + (writeRow cells).count '\n'
    ⟨last, cells⟩ :: numbered (last + 1) rows

theorem readFrom_writeTable (rows : List Row) (line : Nat) (row : List String)
    (more : List (List String)) (hne : ∀ cells ∈ row :: more, cells ≠ [])
    (hsize : ∀ cells ∈ row :: more, ∀ cell ∈ cells, cell.length ≤ maxCellLength) :
    readFrom rows (.before .rowStart line []) (writeTable (row :: more)) =
      ⟨rows.reverse ++ numbered line (row :: more), none⟩ := by
  induction more generalizing rows line row with
  | nil =>
      have hend : ∀ c ∈ ([] : List Char).head?, c = '\n' := nofun
      rw [writeTable_singleton, ← List.append_nil (writeRow row),
        readFrom_writeRow rows (.inl rfl) line [] row (hne row List.mem_cons_self)
          (hsize row List.mem_cons_self) hend]
      simp [readBehind, numbered]
  | cons next more ih =>
      rw [List.forall_mem_cons] at hne hsize
      rw [writeTable_cons_cons, readFrom_writeRow rows (.inl rfl) line [] row hne.1 hsize.1 (by simp),
        readBehind, ih _ _ _ hne.2 hsize.2, numbered.eq_def line]
      simp

/-- A table begins and ends with a quote. -/
theorem exists_writeTable (row : List String) (more : List (List String))
    (hne : ∀ cells ∈ row :: more, cells ≠ []) :
    (writeTable (row :: more)).head? = some '"' ∧ (writeTable (row :: more)).getLast? = some '"' := by
  have hrow : ∀ cells : List String, cells ≠ [] →
      (writeRow cells).head? = some '"' ∧ (writeRow cells).getLast? = some '"' := by
    intro cells hcells
    induction cells with
    | nil => exact absurd rfl hcells
    | cons cell cells ih =>
        cases cells with
        | nil => simp [writeRow_singleton, quoteCell, List.getLast?_cons]
        | cons next cells =>
            have hlast := (ih (List.cons_ne_nil _ _)).2
            rw [writeRow_cons_cons]
            exact ⟨rfl, by simp [List.getLast?_append, List.getLast?_cons, hlast]⟩
  induction more generalizing row with
  | nil => exact writeTable_singleton row ▸ hrow row (hne row List.mem_cons_self)
  | cons next more ih =>
      rw [List.forall_mem_cons] at hne
      have hlast := (ih next hne.2).2
      rw [writeTable_cons_cons]
      exact ⟨by simp [hrow row hne.1], by simp [List.getLast?_append, List.getLast?_cons, hlast]⟩

theorem readRows_writeTable (row : List String) (more : List (List String))
    (hne : ∀ cells ∈ row :: more, cells ≠ [])
    (hsize : ∀ cells ∈ row :: more, ∀ cell ∈ cells, cell.length ≤ maxCellLength) :
    readRows (Text.trim (writeTable (row :: more))) = ⟨numbered 1 (row :: more), none⟩ := by
  obtain ⟨hhead, hlast⟩ := exists_writeTable row more hne
  have hquote : Text.isBlank '"' = false := by decide
  rw [Text.trim_eq_self (by simp [hhead, hquote]) (by simp [hlast, hquote])]
  exact readFrom_writeTable [] 1 row more hne hsize

/-! ## Records -/

/-- Whether some cell of a row holds more than blanks. -/
def hasInk (cells : List String) : Bool := cells.any fun cell => !cell.toList.all Text.isBlank

/-- What a row says under each name of the header; where the row is too short it says nothing. -/
def fieldsOf (header cells : List String) : List (String × String) :=
  header.zipIdx.map fun (name, i) => (name, cells.getD i "")

/-- The object that a row stands for. -/
def objectOf (header cells : List String) : Value :=
  .obj (header.zipIdx.map fun (name, i) => (name, .str (cells.getD i "")))

section

variable {header cells : List String}

theorem zip_padded (hfit : cells.length ≤ header.length) :
    header.zip (cells ++ List.replicate (header.length - cells.length) "") =
      fieldsOf header cells := by
  refine List.ext_getElem (by simp [fieldsOf, hfit]) fun i hi hi' => ?_
  by_cases hcell : i < cells.length
  · simp [fieldsOf, List.getElem_append_left hcell, hcell]
  · simp [fieldsOf, List.getElem_append_right (Nat.not_lt.mp hcell), hcell]

theorem record_eq (hnodup : header.Nodup) (hfit : cells.length ≤ header.length) :
    record header cells = fieldsOf header cells := by
  rw [record, zip_padded hfit]
  refine collectFields_of_nodup ?_
  rwa [fieldsOf, List.map_map, Function.comp_def, List.zipIdx_map_fst]

theorem isBlankRecord_fieldsOf (hfit : cells.length ≤ header.length) :
    isBlankRecord (fieldsOf header cells) = !hasInk cells := by
  have hpad : (header.zip (cells ++ List.replicate (header.length - cells.length) "")).map Prod.snd =
      cells ++ List.replicate (header.length - cells.length) "" :=
    List.map_snd_zip (by simp [hfit])
  rw [← zip_padded hfit, isBlankRecord]
  have hall := congrArg (List.all · fun cell : String => cell.toList.all Text.isBlank) hpad
  simp only [List.all_map, Function.comp_def] at hall
  simp only [Text.isEmpty_trim]
  rw [hall]
  simp [hasInk, List.not_any_eq_all_not]

theorem objectOf_eq : objectOf header cells =
    .obj ((fieldsOf header cells).map fun f => (f.1, .str f.2)) := by
  rw [objectOf, fieldsOf, List.map_map]
  rfl

theorem isNormal_objectOf (hnodup : header.Nodup) : (objectOf header cells).isNormal = true := by
  rw [objectOf, Value.isNormal, Bool.and_eq_true, Value.areNormalFields_iff]
  refine ⟨decide_eq_true ?_, List.forall_mem_map.mpr fun _ _ => rfl⟩
  rwa [List.map_map, Function.comp_def, List.zipIdx_map_fst]

theorem levels_objectOf_le : (objectOf header cells).levels ≤ 1 := by
  rw [objectOf, Value.levels, Nat.add_le_add_iff_right, Value.fieldLevels_le_iff]
  exact List.forall_mem_map.mpr fun _ _ => Nat.le_refl _

end

theorem recordsFrom_of_fit {header : List String} (hnodup : header.Nodup) {rows : List Row}
    (hrows : ∀ row ∈ rows, row.cells ≠ [] ∧ row.cells.length ≤ header.length) :
    recordsFrom header none rows =
      .ok (((rows.map Row.cells).filter hasInk).map (fieldsOf header)) := by
  induction rows with
  | nil => rfl
  | cons row rows ih =>
      rw [List.forall_mem_cons] at hrows
      obtain ⟨⟨hne, hfit⟩, hrows⟩ := hrows
      rw [recordsFrom, if_neg (by simpa using hne), if_neg (Nat.not_lt.mpr hfit), ih hrows]
      simp only [record_eq hnodup hfit, isBlankRecord_fieldsOf hfit, List.map_cons,
        List.filter_cons]
      cases hasInk row.cells <;> rfl

/-- The first row that is too wide is named, whatever follows it. -/
theorem recordsFrom_of_wide {header : List String} {failure : Option CsvError} {before after : List Row}
    {row : Row} (hbefore : ∀ r ∈ before, r.cells.length ≤ header.length)
    (hrow : header.length < row.cells.length) :
    recordsFrom header failure (before ++ row :: after) = .error (.extraCells row.line) := by
  induction before with
  | nil =>
      have hne : row.cells ≠ [] := fun h => by simp [h] at hrow
      rw [List.nil_append, recordsFrom, if_neg (by simpa using hne), if_pos hrow]
  | cons r before ih =>
      rw [List.forall_mem_cons] at hbefore
      rw [List.cons_append, recordsFrom, if_neg (Nat.not_lt.mpr hbefore.1), ih hbefore.2]
      split_ifs <;> rfl

theorem map_cells_numbered (line : Nat) (rows : List (List String)) :
    (numbered line rows).map Row.cells = rows := by
  induction rows generalizing line with
  | nil => rfl
  | cons cells rows ih => simp [numbered, ih]

theorem numbered_append (line : Nat) (before : List (List String)) (cells : List String)
    (after : List (List String)) :
    ∃ later, numbered line (before ++ cells :: after) = numbered line before ++
      ⟨line + (writeTable (before ++ [cells])).count '\n', cells⟩ :: later := by
  induction before generalizing line with
  | nil => exact ⟨_, by simp [numbered, writeTable_singleton]; rfl⟩
  | cons row before ih =>
      obtain ⟨later, hlater⟩ := ih (line + (writeRow row).count '\n' + 1)
      obtain ⟨next, more, hnext⟩ : ∃ next more, before ++ [cells] = next :: more := by
        cases before <;> simp
      refine ⟨later, ?_⟩
      rw [List.cons_append, numbered, hlater, List.cons_append, hnext, writeTable_cons_cons, ← hnext,
        List.count_append, List.count_cons_self, numbered]
      simp [Nat.add_assoc, Nat.add_comm 1]

/-! ## Tables -/

section

variable {header : List String} {rows : List (List String)}

theorem records_writeTable (hne : ∀ cells ∈ header :: rows, cells ≠ [])
    (hsize : ∀ cells ∈ header :: rows, ∀ cell ∈ cells, cell.length ≤ maxCellLength) {first : Row}
    {later : List Row} (hrows : numbered 1 (header :: rows) = first :: later) :
    records (writeTable (header :: rows)) = recordsFrom header none later := by
  obtain rfl : first.cells = header := by
    rw [← (List.cons.inj hrows).1]
  have hheader : first.cells ≠ [] := hne first.cells List.mem_cons_self
  simp only [records, readRows_writeTable first.cells rows hne hsize, hrows]
  rw [if_neg (by simpa using hheader)]

theorem records_of_fit (hnodup : header.Nodup) (hne : ∀ cells ∈ header :: rows, cells ≠ [])
    (hsize : ∀ cells ∈ header :: rows, ∀ cell ∈ cells, cell.length ≤ maxCellLength)
    (hfit : ∀ cells ∈ rows, cells.length ≤ header.length) :
    records (writeTable (header :: rows)) = .ok ((rows.filter hasInk).map (fieldsOf header)) := by
  have hcells := map_cells_numbered (1 + (writeRow header).count '\n' + 1) rows
  rw [records_writeTable hne hsize rfl, recordsFrom_of_fit hnodup, hcells]
  intro row hrow
  have hmem : row.cells ∈ rows := hcells ▸ List.mem_map_of_mem hrow
  exact ⟨hne _ (List.mem_cons_of_mem _ hmem), hfit _ hmem⟩

theorem records_of_wide {before after : List (List String)} {cells : List String}
    (hne : ∀ row ∈ header :: (before ++ cells :: after), row ≠ [])
    (hsize : ∀ row ∈ header :: (before ++ cells :: after), ∀ cell ∈ row,
      cell.length ≤ maxCellLength)
    (hbefore : ∀ row ∈ before, row.length ≤ header.length) (hcells : header.length < cells.length) :
    records (writeTable (header :: (before ++ cells :: after))) =
      .error (.extraCells (1 + (writeTable (header :: (before ++ [cells]))).count '\n')) := by
  obtain ⟨later, hlater⟩ := numbered_append 1 (header :: before) cells after
  have hfirst : numbered 1 (header :: before) =
      ⟨_, header⟩ :: numbered (1 + (writeRow header).count '\n' + 1) before := rfl
  rw [hfirst, List.cons_append, List.cons_append, List.cons_append] at hlater
  rw [records_writeTable hne hsize hlater]
  refine recordsFrom_of_wide (fun row hrow => hbefore _ ?_) hcells
  exact map_cells_numbered _ before ▸ List.mem_map_of_mem hrow

/-- A table with a row that is too wide has a first one. -/
theorem exists_first_wide (h : ∃ cells ∈ rows, header.length < cells.length) :
    ∃ before cells after, rows = before ++ cells :: after ∧
      (∀ row ∈ before, row.length ≤ header.length) ∧ header.length < cells.length := by
  obtain ⟨wide, hmem, hwide⟩ := h
  have hsome : (rows.find? fun cells => header.length < cells.length).isSome = true :=
    List.find?_isSome.mpr ⟨wide, hmem, decide_eq_true hwide⟩
  obtain ⟨cells, hcells⟩ := Option.isSome_iff_exists.mp hsome
  obtain ⟨hlt, before, after, hrows, hbefore⟩ := List.find?_eq_some_iff_append.mp hcells
  exact ⟨before, cells, after, hrows, by simpa using hbefore, of_decide_eq_true hlt⟩

end

theorem parseStrict_csv_of_decode {text : String} {v : Value} (h : decode text.toList = .ok v)
    (hnormal : v.isNormal = true) (hlevels : v.levels ≤ Value.normalLimit) :
    parseStrict .csv text = .ok { data := v, format := .csv, text } := by
  have hraw : rawValue .csv text.toList = .ok v := mapError_eq_ok.mpr h
  exact (parseOwn_of_normal hraw hnormal).trans (if_pos hlevels)

theorem parseStrict_csv_of_error {text : String} {e : CsvError} (h : decode text.toList = .error e) :
    parseStrict .csv text = .error (.parse { format := .csv, cause := .csv e }) := by
  have hraw : rawValue .csv text.toList = .error (.csv e) := by
    rw [rawValue, h]
    rfl
  exact parseOwn_of_raw_error hraw

/-- Reading undoes the writing of a table in quotes: the rows that hold more than blanks come back
in order, each cell under its name as it was, and missing cells are empty. If a row has more cells
than the header, reading fails and names the line that the first such row ends on. -/
theorem reading_undoes_quoting (header : List String) (rows : List (List String))
    (hheader : header ≠ []) (hnodup : header.Nodup) (hrows : ∀ cells ∈ rows, cells ≠ [])
    (hsize : ∀ cells ∈ header :: rows, ∀ cell ∈ cells, cell.length ≤ maxCellLength) :
    let text := String.ofList (writeTable (header :: rows))
    ((∀ cells ∈ rows, cells.length ≤ header.length) →
      parseStrict .csv text = .ok {
        data := .arr ((rows.filter hasInk).map (objectOf header))
        format := .csv
        text
        repaired := false }) ∧
    ((∃ cells ∈ rows, header.length < cells.length) →
      ∃ before cells after, rows = before ++ cells :: after ∧
        (∀ row ∈ before, row.length ≤ header.length) ∧ header.length < cells.length ∧
        parseStrict .csv text = .error (.parse {
          format := .csv
          cause := .csv
            (.extraCells (1 + (writeTable (header :: (before ++ [cells]))).count '\n')) })) := by
  intro text
  have hne : ∀ cells ∈ header :: rows, cells ≠ [] := List.forall_mem_cons.mpr ⟨hheader, hrows⟩
  refine ⟨fun hfit => ?_, fun hwide => ?_⟩
  · have hdecode : decode (writeTable (header :: rows)) =
        .ok (.arr ((rows.filter hasInk).map (objectOf header))) := by
      rw [decode, records_of_fit hnodup hne hsize hfit]
      simp [Except.map, objectOf_eq]
    have hnormal : (Value.arr ((rows.filter hasInk).map (objectOf header))).isNormal = true :=
      Value.areNormal_iff.mpr (List.forall_mem_map.mpr fun _ _ => isNormal_objectOf hnodup)
    have hlevels : (Value.arr ((rows.filter hasInk).map (objectOf header))).levels ≤ 2 :=
      Nat.succ_le_succ
        (Value.itemLevels_le_iff.mpr (List.forall_mem_map.mpr fun _ _ => levels_objectOf_le))
    exact parseStrict_csv_of_decode (by rw [String.toList_ofList, hdecode]) hnormal
      (Nat.le_trans hlevels (by decide))
  · obtain ⟨before, cells, after, rfl, hbefore, hcells⟩ := exists_first_wide hwide
    refine ⟨before, cells, after, rfl, hbefore, hcells, ?_⟩
    have hdecode : decode (writeTable (header :: (before ++ cells :: after))) = .error
        (.extraCells (1 + (writeTable (header :: (before ++ [cells]))).count '\n')) := by
      rw [decode, records_of_wide hne hsize hbefore hcells]
      rfl
    exact parseStrict_csv_of_error (by rw [String.toList_ofList, hdecode])

/-- A cell with a comma, quotes and a line end, a row of blanks, a row that is too short, and the
same table with a row that is too wide below them. -/
theorem reading_undoes_quoting_ragged :
    parseStrict .csv
        (String.ofList (writeTable [["id", "note"], ["1", "a, \"b\"\n"], [" "], ["2"]])) = .ok {
      data := .arr [.obj [("id", .str "1"), ("note", .str "a, \"b\"\n")],
        .obj [("id", .str "2"), ("note", .str "")]]
      format := .csv
      text := String.ofList (writeTable [["id", "note"], ["1", "a, \"b\"\n"], [" "], ["2"]])
      repaired := false } ∧
    ∃ before cells after, [["1", "\n"], ["2", "", "3"]] = before ++ cells :: after ∧
      (∀ row ∈ before, row.length ≤ 2) ∧ 2 < cells.length ∧
      parseStrict .csv
          (String.ofList (writeTable [["id", "note"], ["1", "\n"], ["2", "", "3"]])) = .error (.parse {
        format := .csv
        cause := .csv (.extraCells
          (1 + (writeTable (["id", "note"] :: (before ++ [cells]))).count '\n')) }) :=
  ⟨(reading_undoes_quoting ["id", "note"] [["1", "a, \"b\"\n"], [" "], ["2"]] (by decide)
      (by decide) (by decide) (by decide)).1 (by decide),
    (reading_undoes_quoting ["id", "note"] [["1", "\n"], ["2", "", "3"]] (by decide) (by decide)
      (by decide) (by decide)).2 (by decide)⟩

end TypeDraft.Csv
