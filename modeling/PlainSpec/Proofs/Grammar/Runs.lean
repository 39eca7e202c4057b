import PlainSpec.Proofs.Grammar.WellFormed
import PlainSpec.Proofs.Source.Spans

/-!
# The run of rows ahead

Where rows stand, a block of data is made of them, of all of them, and of nothing else: there is no
text block, and every reading is tried on the rows up to the first line that is neither blank nor a
row.  The dialects try the readings in different orders, but what one of them makes of a run is what
some reading makes of it.

So what is read from a run is told here by the cells alone.  A map is written by keys and values,
and it could lose a cell when two keys are equal.  Names of columns and first cells of rows are
checked to be distinct before, and only key-value pairs let a later row replace an earlier one.

## Main definitions

* `Cursor.run`: the rows ahead of a place, up to the first line that is neither blank nor a row.
* `StoredRow`: a row whose cells stand at the names of their columns.
* `Data.Stores`: data in which every cell of a run is found where it was written.

## Main results

* `Grammar.tableRows_eq_ok_iff`: the rows that are read are those of the run.
* `Grammar.reading_of_data`: data that are read where rows stand come from a reading of the run.
* `Grammar.stores_of_data`: they store every cell where it was written.
-/

namespace PlainSpec

open PlainSpec.Parser Grammar Grammar.ReqsML

/-- The rows ahead of a place, up to the first line that is neither blank nor a row. -/
def Cursor.run (c : Cursor) : List TableRow := (c.rest.takeWhile Line.inRun).filterMap Line.row?

@[simp] theorem Cursor.run_skipBlank (c : Cursor) : c.skipBlank.run = c.run := by
  rw [run, rest_skipBlank, (run_dropWhile c.rest).1, run]

/-- The rows of a run stand on lines ahead. -/
theorem Cursor.sublist_run (c : Cursor) :
    (c.run.map TableRow.line).Sublist (c.rest.map Line.number) := by
  have hline (ls : List Line) : ((ls.filterMap Line.row?).map TableRow.line).Sublist
      (ls.map Line.number) := by
    induction ls with
    | nil => exact List.Sublist.slnil
    | cons l ls ih =>
      cases hrow : l.row? with
      | none =>
        rw [List.filterMap_cons_none hrow, List.map_cons]
        exact ih.cons _
      | some row =>
        obtain ⟨cells, -, hcells⟩ := Except.map_eq_ok.1 (row?_eq_some.1 hrow)
        rw [List.filterMap_cons_some hrow, List.map_cons, List.map_cons, ← hcells]
        exact ih.cons_cons _
  exact (hline _).trans ((List.takeWhile_sublist _).map _)

/-- Rows of a run stand on greater and greater lines. -/
theorem Cursor.Sound.ordered_run {c : Cursor} (h : c.Sound) :
    (c.run.map TableRow.line).Pairwise (· < ·) :=
  h.ordered.sublist c.sublist_run

namespace Grammar

variable {dialect : Dialect} {rows : Several TableRow} {d : Data} {c n : Cursor}

/-! ## The rows that are read -/

/-- **The rows that are read are those of the run.** -/
theorem tableRows_eq_ok_iff : (∃ n, tableRows c = .ok rows n) ↔ c.run = rows.toList := by
  constructor
  · rintro ⟨n, h⟩
    rw [← c.run_skipBlank]
    exact (rows_of_run (several_eq_ok.1 h)).1.symm
  · intro h
    obtain ⟨found, n, hrun⟩ := exists_run_line
      (fun l => (splitCells l.trimmed).map fun cells => (⟨l.number, cells⟩ : TableRow)) c.skipBlank
    obtain rfl : found = rows.toList := by
      rw [(rows_of_run hrun).1, ← h, ← c.run_skipBlank, Cursor.run]
    exact ⟨n, several_eq_ok.2 hrun⟩

/-- The line ahead of a run is its first row. -/
theorem exists_ahead_of_tableRows (h : tableRows c = .ok rows n) :
    ∃ l, c.ahead? = some l ∧ rows.head.line = l.number ∧
      splitCells l.trimmed = .ok rows.head.cells := by
  obtain ⟨m, hrow⟩ := (several_eq_ok.1 h).exists_head
  obtain ⟨l, hl, hread, -⟩ := line_eq_ok.1 hrow
  obtain ⟨cells, hcells, hhead⟩ := Except.map_eq_ok.1 hread
  rw [Cursor.ahead?_skipBlank] at hl
  exact ⟨l, hl, by rw [← hhead], by rw [← hhead]; exact hcells⟩

/-- Where rows stand there is no text block. -/
theorem textBlock_of_tableRows (h : tableRows c = .ok rows n) :
    textBlock dialect c =
      .fail ⟨rows.head.line, .unrecognised, .textNotOpened dialect.textDelimiter⟩ c := by
  obtain ⟨l, hl, hline, hcells⟩ := exists_ahead_of_tableRows h
  have hdelimiter : l.trimmed ≠ dialect.textDelimiter := by
    intro htrimmed
    rw [htrimmed] at hcells
    cases dialect <;> cases hcells
  have hopening : opening dialect c =
      .fail ⟨rows.head.line, .unrecognised, .textNotOpened dialect.textDelimiter⟩ c := by
    rw [Cursor.ahead?] at hl
    simp only [opening, line, hl, hdelimiter, if_false, hline]
  simp only [textBlock, Parser.bind, hopening]

theorem refuses_textBlock_of_tableRows (h : tableRows c = .ok rows n) :
    Refuses (textBlock dialect) c :=
  refuses_iff.2 ⟨_, _, textBlock_of_tableRows h⟩

/-- Where rows stand there are data. -/
theorem startsData_of_tableRows (h : tableRows c = .ok rows n) :
    c.ahead?.any (startsData dialect) = true := by
  obtain ⟨l, hl, -, hcells⟩ := exists_ahead_of_tableRows h
  simp [hl, startsData, isRow, hcells]

theorem tableRows_skipBlank : tableRows c.skipBlank = .ok rows n ↔ tableRows c = .ok rows n := by
  rw [tableRows, severalWhile, several_eq_ok, several_eq_ok, Cursor.skipBlank_skipBlank]

/-- What one of the readings makes of a run of rows. -/
inductive Reading (dialect : Dialect) (rows : Several TableRow) (d : Data) : Prop where
  | matrix (h : readMatrix dialect rows = .ok d)
  | table (h : readTable dialect rows = .ok d)
  | keyValues (h : readKeyValues rows = .ok d)
  | list (h : readList rows = .ok d)

/-- **Data that are read where rows stand come from a reading of these rows.** -/
theorem reading_of_data (h : data dialect c = .ok d n) (hrun : c.run = rows.toList) :
    Reading dialect rows d := by
  obtain ⟨m, hrows⟩ := tableRows_eq_ok_iff.2 hrun
  rw [← tableRows_skipBlank] at hrows
  -- whichever reading gave the data was given these rows
  have hread {read : Several TableRow → Except Invalid Data}
      (hcheck : check tableRows read c.skipBlank = .ok d n) : read rows = .ok d := by
    obtain ⟨found, hfound, hok⟩ := check_eq_ok.1 hcheck
    rw [hrows] at hfound
    cases hfound
    exact hok
  have htext : textBlock dialect c.skipBlank ≠ .ok d n := refuses_textBlock_of_tableRows hrows d n
  cases dialect <;> simp only [data, orElse_eq_ok, Cursor.skipBlank_skipBlank] at h
  · rcases h with (((htext' | ⟨-, h⟩) | ⟨-, h⟩) | ⟨-, h⟩) | ⟨-, h⟩
    · exact absurd htext' htext
    · exact .matrix (hread h)
    · exact .keyValues (hread h)
    · exact .list (hread h)
    · exact .table (hread h)
  · rcases h with (((htext' | ⟨-, h⟩) | ⟨-, h⟩) | ⟨-, h⟩) | ⟨-, h⟩
    · exact absurd htext' htext
    · exact .matrix (hread h)
    · exact .table (hread h)
    · exact .keyValues (hread h)
    · exact .list (hread h)

end Grammar

/-! ## Cells where they were written -/

/-- A row that is stored by column: the keys are the columns, and each column has the cell below
it. -/
structure StoredRow (columns cells : List Text) (stored : OrderedMap Text Text) : Prop where
  length_eq : cells.length = columns.length
  keys_eq : stored.keys = columns
  values_eq : stored.values = cells
  get?_eq : ∀ (j : Nat) (column cell : Text), columns[j]? = some column → cells[j]? = some cell →
    stored.get? column = some cell

theorem storedRow_byColumn {columns cells : List Text} (hnodup : columns.Nodup)
    (hlength : cells.length = columns.length) :
    StoredRow columns cells (byColumn columns cells) := by
  refine ⟨hlength, OrderedMap.keys_byColumn hnodup hlength,
    OrderedMap.values_byColumn hnodup hlength, ?_⟩
  intro j column cell hcolumn hcell
  refine OrderedMap.get?_of_mem _ ?_
  rw [OrderedMap.entries_byColumn hnodup hlength]
  exact List.mem_of_getElem? (List.getElem?_zip_eq_some.2 ⟨hcolumn, hcell⟩)

/-- A row of a matrix that is stored by its first cell: the other cells stand below the columns. -/
structure StoredUnder (m : OrderedMap Text (OrderedMap Text Text)) (columns : List Text)
    (row : TableRow) (entry : Text × OrderedMap Text Text) : Prop where
  get?_eq : m.get? entry.1 = some entry.2
  cells : ∃ cells, row.cells = entry.1 :: cells ∧ StoredRow columns cells entry.2

/-- Data in which the cells of a run of rows are stored where they were written.

* A table has one entry for each row below those of the header, stored by the header.
* A matrix has one entry for each row below those of the header, stored under the first cell of the
  row by the other cells of the header.
* A list has the single cells of the rows.
* Key-value pairs have the keys in the order of their first rows, each with the value of its last
  row. -/
def Data.Stores (dialect : Dialect) (rows : Several TableRow) : Data → Prop
  | .text _ => False
  | .list items => rows.toList.map TableRow.cells = items.map ([·])
  | .keyValues pairs =>
    ∃ (cells : List Text) (found : List (Text × Text)),
      rows.toList.map TableRow.cells = cells.map ([·]) ∧ cells.map keyValue? = found.map some ∧
        pairs.keys = firstOccurrences (found.map Prod.fst) ∧
        ∀ key value, pairs.get? key = some value ↔
          ∃ before after, found = before ++ (key, value) :: after ∧ key ∉ after.map Prod.fst
  | .table stored =>
    List.Forall₂ (fun row => StoredRow rows.head.cells row.cells)
      (rows.toList.drop dialect.headerRows) stored
  | .matrix stored =>
    ∃ corner columns, rows.head.cells = corner :: columns ∧
      List.Forall₂ (StoredUnder stored columns) (rows.toList.drop dialect.headerRows) stored.entries

namespace Grammar

variable {dialect : Dialect} {rows : Several TableRow} {d : Data}

theorem stores_readTable (h : readTable dialect rows = .ok d) : d.Stores dialect rows := by
  obtain ⟨rfl, ht⟩ := columnRows_of_readTable h
  rw [Data.Stores, ← valueRows, List.forall₂_map_right_iff, List.forall₂_same]
  exact fun row hrow =>
    storedRow_byColumn ht.distinct (ht.length_eq row (mem_of_mem_valueRows hrow))

theorem stores_readMatrix (h : readMatrix dialect rows = .ok d) : d.Stores dialect rows := by
  obtain ⟨m, rfl, hm⟩ := matrixRows_of_readMatrix h
  obtain ⟨columns, hheader⟩ := List.head?_eq_some_iff.1 hm.corner
  have hcolumns : rows.head.cells.tail = columns := by rw [hheader, List.tail_cons]
  refine ⟨[], columns, hheader, ?_⟩
  have hentries := hm.entries_eq
  rw [hcolumns] at hentries
  rw [hentries, ← valueRows, List.forall₂_map_right_iff, List.forall₂_same]
  intro row hrow
  have hlength := hm.length_eq row (mem_of_mem_valueRows hrow)
  rw [hheader, List.length_cons] at hlength
  obtain ⟨key, cells, hcells⟩ := List.exists_cons_of_length_eq_add_one hlength
  rw [hcells, List.length_cons, Nat.add_right_cancel_iff] at hlength
  have hentry : matrixEntry columns row = (key, byColumn columns cells) := by
    simp [matrixEntry, hcells]
  refine ⟨m.get?_of_mem ?_, cells, ?_, ?_⟩
  · rw [hentries]
    exact List.mem_map_of_mem hrow
  · rw [hentry, hcells]
  · rw [hentry]
    exact storedRow_byColumn (hcolumns ▸ hm.distinct) hlength

theorem stores_readList (h : readList rows = .ok d) : d.Stores dialect rows := by
  obtain ⟨items, rfl, hitems⟩ := readList_eq_ok.1 h
  exact hitems

theorem stores_readKeyValues (h : readKeyValues rows = .ok d) : d.Stores dialect rows := by
  obtain ⟨cells, found, rfl, hcells, hfound⟩ := readKeyValues_eq_ok.1 h
  exact ⟨cells, found, hcells, hfound, OrderedMap.keys_ofList found,
    fun _ _ => OrderedMap.get?_ofList_eq_some⟩

/-- Rows of one cell each have no second one. -/
theorem length_of_singles {cells : List Text} (h : rows.toList.map TableRow.cells = cells.map ([·]))
    {row : TableRow} (hrow : row ∈ rows.toList) : row.cells.length = 1 := by
  have hmem : row.cells ∈ cells.map ([·]) := h ▸ List.mem_map_of_mem hrow
  obtain ⟨cell, -, hcell⟩ := List.mem_map.1 hmem
  rw [← hcell, List.length_singleton]

/-- **Data store every cell of a run where it was written.**  If some row has two cells or more,
they are a table or a matrix. -/
theorem stores_of_data {c n : Cursor} (h : data dialect c = .ok d n) (hrun : c.run = rows.toList) :
    ((∃ row ∈ rows.toList, 2 ≤ row.cells.length) →
      (∃ stored, d = .table stored) ∨ ∃ stored, d = .matrix stored) ∧
    d.Stores dialect rows := by
  have hstores : d.Stores dialect rows := by
    cases reading_of_data h hrun with
    | matrix h => exact stores_readMatrix h
    | table h => exact stores_readTable h
    | keyValues h => exact stores_readKeyValues h
    | list h => exact stores_readList h
  refine ⟨?_, hstores⟩
  rintro ⟨row, hrow, htwo⟩
  -- lists and pairs account for every row with a single cell
  cases d with
  | text content => exact hstores.elim
  | list items =>
    have := length_of_singles hstores hrow
    omega
  | keyValues pairs =>
    obtain ⟨cells, -, hcells, -⟩ := hstores
    have := length_of_singles hcells hrow
    omega
  | table stored => exact .inl ⟨stored, rfl⟩
  | matrix stored => exact .inr ⟨stored, rfl⟩

/-- A matrix whose rows stand on two sides of a blank line. -/
theorem stores_of_data_matrix :
    ∃ c rows d n, data .gherkin c = .ok d n ∧ c.run = rows.toList ∧
      rows.toList.map TableRow.cells =
        [["".toList, "x".toList], ["r".toList, "1".toList], ["s".toList, "2".toList]] ∧
      d = .matrix (.ofList [("r".toList, .ofList [("x".toList, "1".toList)]),
        ("s".toList, .ofList [("x".toList, "2".toList)])]) ∧
      ((∃ stored, d = .table stored) ∨ ∃ stored, d = .matrix stored) ∧ d.Stores .gherkin rows := by
  let c := Cursor.ofText "||x|\n|r|1|\n\n|s|2|\ntext".toList
  let rows : Several TableRow :=
    ⟨⟨1, ["".toList, "x".toList]⟩, [⟨2, ["r".toList, "1".toList]⟩, ⟨4, ["s".toList, "2".toList]⟩]⟩
  let d : Data := .matrix (.ofList
    [("r".toList, .ofList [("x".toList, "1".toList)]),
      ("s".toList, .ofList [("x".toList, "2".toList)])])
  have h : data .gherkin c = .ok d ⟨(c.rest.take 4).reverse, c.rest.drop 4⟩ := by
    with_unfolding_all rfl
  have hrun : c.run = rows.toList := by with_unfolding_all rfl
  obtain ⟨hkind, hstores⟩ := stores_of_data h hrun
  exact ⟨c, rows, d, _, h, hrun, rfl, rfl,
    hkind ⟨rows.head, List.mem_cons_self, Nat.le_refl 2⟩, hstores⟩

end Grammar

end PlainSpec
