import PlainSpec.Proofs.Grammar.Rows

/-!
# Well-formed data and statements

Whoever works with a document relies on the shape of its data: rows have the same columns, lists
have no empty items, a text does not hold its own delimiter.  Nothing checks this again once a
source is read, so it is shown here of everything that either dialect reads.

The dialects try the readings of a run of rows in different orders, and a table has another number
of rows above its values.  Each reading is well formed on its own, so the order does not matter.

## Main definitions

* `Uniform`: rows that have the same columns.
* `Data.WellFormed`, `Statement.WellFormed`: blocks of data and statements.

## Main results

* `Grammar.wellFormed_data`: blocks of data of either dialect are well formed.
* `Grammar.ReqsML.wellFormed_statements`, `Grammar.Gherkin.wellFormed_statements`: so are
  statements, and an example has at least one.
-/

namespace PlainSpec

open PlainSpec.Parser Grammar

/-- There are rows, and all of them have the given columns, which are distinct. -/
structure Uniform (columns : List Text) (rows : List (OrderedMap Text Text)) : Prop where
  rows_ne : rows ≠ []
  columns_ne : columns ≠ []
  distinct : columns.Nodup
  keys_eq : ∀ row ∈ rows, row.keys = columns

/-- Values entered by column are uniform. -/
theorem uniform_byColumn {columns : List Text} {rows : List (List Text)} (hrows : rows ≠ [])
    (hcolumns : columns ≠ []) (hnodup : columns.Nodup)
    (hlength : ∀ cells ∈ rows, cells.length = columns.length) :
    Uniform columns (rows.map (byColumn columns)) := by
  refine ⟨by simpa using hrows, hcolumns, hnodup, fun row hrow => ?_⟩
  obtain ⟨cells, hcells, rfl⟩ := List.mem_map.1 hrow
  exact OrderedMap.keys_byColumn hnodup (hlength cells hcells)

/-! ## Data -/

/-- The shape of a block of data. -/
def Data.WellFormed (dialect : Dialect) : Data → Prop
  | .text content =>
    (∃ line ∈ content.splitOn '\n', Text.trim line ≠ []) ∧
      ∀ line ∈ content.splitOn '\n', Text.trim line = line ∧ line ≠ dialect.textDelimiter
  | .list items => items ≠ [] ∧ [] ∉ items
  | .keyValues pairs => pairs.entries ≠ []
  | .table rows => ∃ columns, Uniform columns rows ∧ [] ∉ columns
  | .matrix rows => ∃ columns, Uniform columns rows.values

/-- Lines between delimiters are found again in the text that they are joined to. -/
theorem Data.wellFormed_text {dialect : Dialect} {body : List Text} (hneat : ∀ t ∈ body, t.Neat)
    (hdelimiter : ∀ t ∈ body, t ≠ dialect.textDelimiter) (hfilled : ∃ t ∈ body, t ≠ []) :
    (Data.text (Text.join ['\n'] body)).WellFormed dialect := by
  obtain ⟨filled, hmem, hne⟩ := hfilled
  have hlines : (Text.join ['\n'] body).splitOn '\n' = body :=
    List.splitOn_intercalate '\n' (fun t ht => (hneat t ht).oneLine) (List.ne_nil_of_mem hmem)
  simp only [Data.WellFormed, hlines]
  refine ⟨⟨filled, hmem, ?_⟩, fun line hline => ⟨(hneat line hline).trim_eq, hdelimiter line hline⟩⟩
  rwa [(hneat filled hmem).trim_eq]

namespace Grammar

variable {dialect : Dialect} {rows : Several TableRow} {d : Data}

theorem wellFormed_textBlock (dialect : Dialect) :
    Yields (textBlock dialect) (Data.WellFormed dialect) := by
  refine (yields_body dialect).mono ?_
  rintro _ ⟨body, rfl, hneat, hdelimiter, hfilled⟩
  exact Data.wellFormed_text hneat hdelimiter hfilled

/-! ## Readings of a run of rows -/

theorem mem_of_mem_valueRows {row : TableRow} (h : row ∈ valueRows dialect rows) :
    row ∈ rows.toList :=
  List.mem_of_mem_drop h

theorem valueRows_ne_nil (h : dialect.headerRows < rows.toList.length) :
    valueRows dialect rows ≠ [] := by
  intro hnil
  exact absurd (List.drop_eq_nil_iff.1 hnil) (by omega)

/-- All rows are as long as the first one. -/
theorem length_eq_of_columnsFault? {block : Block} (h : columnsFault? block rows = none)
    {row : TableRow} (hrow : row ∈ rows.toList) : row.cells.length = rows.head.cells.length := by
  rcases List.mem_cons.1 hrow with rfl | hrow
  · rfl
  · exact columnsFault?_eq_none.1 h row hrow

theorem nodup_of_repeatFault? {block : Block} {line : Nat} {names : List Text}
    (h : repeatFault? block line names = none) : names.Nodup := by
  rwa [repeatFault?, Option.map_eq_none_iff, Text.firstRepeat?_eq_none] at h

/-- Rows that are read as a matrix: columns behind an empty corner, and rows of as many cells. -/
structure MatrixRows (dialect : Dialect) (rows : Several TableRow)
    (m : OrderedMap Text (OrderedMap Text Text)) : Prop where
  corner : rows.head.cells.head? = some []
  columns_ne : rows.head.cells.tail ≠ []
  distinct : rows.head.cells.tail.Nodup
  values_ne : valueRows dialect rows ≠ []
  length_eq : ∀ row ∈ rows.toList, row.cells.length = rows.head.cells.length
  entries_eq : m.entries = (valueRows dialect rows).map (matrixEntry rows.head.cells.tail)

theorem matrixRows_of_readMatrix (h : readMatrix dialect rows = .ok d) :
    ∃ m, d = .matrix m ∧ MatrixRows dialect rows m := by
  unfold readMatrix at h
  split at h
  · cases h
  · rename_i hfault
    obtain ⟨m, hentered, rfl⟩ := Except.map_eq_ok.1 h
    unfold matrixFault? at hfault
    split at hfault
    · cases hfault
    · rename_i hsize
      simp only [Option.or_eq_none_iff] at hfault
      obtain ⟨-, hcolumns, hcorner⟩ := hfault
      split at hcorner
      · cases hcorner
      · rename_i hhead
        have hlength {row : TableRow} (hrow : row ∈ rows.toList) :
            row.cells.length = rows.head.cells.length := length_eq_of_columnsFault? hcolumns hrow
        have hcells : ∀ row ∈ valueRows dialect rows, row.cells ≠ [] := by
          intro row hrow hnil
          have := hlength (mem_of_mem_valueRows hrow)
          rw [hnil, List.length_nil] at this
          omega
        have hrows : dialect.headerRows < rows.toList.length := by
          cases dialect <;> simp only [Dialect.headerRows] <;> omega
        refine ⟨m, rfl, by simpa using hhead, ?_, nodup_of_repeatFault? hcorner,
          valueRows_ne_nil hrows, fun row => hlength, ?_⟩
        · rw [ne_eq, ← List.length_eq_zero_iff, List.length_tail]
          omega
        · have hentries := (enterRows_eq_ok hcells).1 hentered
          simpa [OrderedMap.empty] using hentries

/-- **What is read as a matrix**, by either dialect. -/
theorem wellFormed_readMatrix (h : readMatrix dialect rows = .ok d) : d.WellFormed dialect := by
  obtain ⟨m, rfl, hm⟩ := matrixRows_of_readMatrix h
  have hvalues : m.values =
      ((valueRows dialect rows).map fun row => row.cells.tail).map
        (byColumn rows.head.cells.tail) := by
    simp [OrderedMap.values, hm.entries_eq, matrixEntry, Function.comp_def]
  refine ⟨rows.head.cells.tail, ?_⟩
  rw [hvalues]
  refine uniform_byColumn (by simpa using hm.values_ne) hm.columns_ne hm.distinct ?_
  intro cells hmem
  obtain ⟨row, hrow, rfl⟩ := List.mem_map.1 hmem
  simp only [List.length_tail, hm.length_eq row (mem_of_mem_valueRows hrow)]

/-- Rows that are read as a table: distinct names of columns, and rows of as many cells. -/
structure ColumnRows (dialect : Dialect) (rows : Several TableRow) : Prop where
  filled : [] ∉ rows.head.cells
  distinct : rows.head.cells.Nodup
  values_ne : valueRows dialect rows ≠ []
  length_eq : ∀ row ∈ rows.toList, row.cells.length = rows.head.cells.length

theorem columnRows_of_readTable (h : readTable dialect rows = .ok d) :
    d = .table ((valueRows dialect rows).map fun row => byColumn rows.head.cells row.cells) ∧
      ColumnRows dialect rows := by
  unfold readTable at h
  split at h
  · cases h
  · rename_i hfault
    cases h
    unfold tableFault? at hfault
    split at hfault
    · cases hfault
    · rename_i hsize
      split at hfault
      · cases hfault
      · rename_i hfilled
        simp only [Option.or_eq_none_iff] at hfault
        obtain ⟨-, hcolumns, hrepeat⟩ := hfault
        exact ⟨rfl, by simpa using hfilled, nodup_of_repeatFault? hrepeat,
          valueRows_ne_nil (by omega), fun row => length_eq_of_columnsFault? hcolumns⟩

/-- **What is read as a table**, by either dialect. -/
theorem wellFormed_readTable (hcells : ∀ row ∈ rows.toList, LegibleCells row.cells)
    (h : readTable dialect rows = .ok d) : d.WellFormed dialect := by
  obtain ⟨rfl, ht⟩ := columnRows_of_readTable h
  have hvalues : (valueRows dialect rows).map (fun row => byColumn rows.head.cells row.cells) =
      ((valueRows dialect rows).map TableRow.cells).map (byColumn rows.head.cells) := by
    rw [List.map_map]
    rfl
  refine ⟨rows.head.cells, ?_, ht.filled⟩
  rw [hvalues]
  refine uniform_byColumn (by simpa using ht.values_ne)
    (hcells rows.head List.mem_cons_self).nonempty
    ht.distinct ?_
  intro cells hmem
  obtain ⟨row, hrow, rfl⟩ := List.mem_map.1 hmem
  exact ht.length_eq row (mem_of_mem_valueRows hrow)

/-- Rows of one cell each, as a list of these cells, are at least one. -/
theorem ne_nil_of_singleCells {cells : List Text}
    (h : rows.toList.map TableRow.cells = cells.map ([·])) : cells ≠ [] := by
  rintro rfl
  simp [Several.toList] at h

/-- **What is read as key-value pairs.** -/
theorem wellFormed_readKeyValues (h : readKeyValues rows = .ok d) : d.WellFormed dialect := by
  obtain ⟨cells, pairs, rfl, hcells, hpairs⟩ := readKeyValues_eq_ok.1 h
  refine OrderedMap.entries_ofList_ne_nil ?_
  rintro rfl
  exact ne_nil_of_singleCells hcells (by simpa using hpairs)

/-- **What is read as a list.**  A row of a single empty cell is no row, so no item is empty. -/
theorem wellFormed_readList (hcells : ∀ row ∈ rows.toList, LegibleCells row.cells)
    (h : readList rows = .ok d) : d.WellFormed dialect := by
  obtain ⟨items, rfl, hitems⟩ := readList_eq_ok.1 h
  refine ⟨ne_nil_of_singleCells hitems, fun hmem => ?_⟩
  have hsingle : [([] : Text)] ∈ rows.toList.map TableRow.cells := by
    rw [hitems]
    exact List.mem_map_of_mem hmem
  obtain ⟨row, hrow, hempty⟩ := List.mem_map.1 hsingle
  exact (hcells row hrow).content hempty

end Grammar

open Grammar in
/-- **Legible data are well formed**: whatever reading a run of rows has, the reading is. -/
theorem Data.Legible.wellFormed {d : Data} (h : d.Legible) : d.WellFormed .reqsml := by
  cases h with
  | text body hneat hdelimiter hfilled => exact Data.wellFormed_text hneat hdelimiter hfilled
  | rows rows hcells hread =>
    rcases readRows_eq_ok.1 hread with hmatrix | ⟨-, htable | ⟨-, hpairs | ⟨-, hlist⟩⟩⟩
    · exact wellFormed_readMatrix hmatrix
    · exact wellFormed_readTable hcells htable
    · exact wellFormed_readKeyValues hpairs
    · exact wellFormed_readList hcells hlist

namespace Grammar

/-- **Blocks of data of either dialect are well formed.** -/
theorem wellFormed_data (dialect : Dialect) : Yields (data dialect) (Data.WellFormed dialect) := by
  cases dialect with
  | reqsml => exact yields_data.mono fun _ => Data.Legible.wellFormed
  | gherkin =>
    have hrows {read : Several TableRow → Except Invalid Data}
        (h : ∀ rows d, (∀ row ∈ rows.toList, LegibleCells row.cells) → read rows = .ok d →
          d.WellFormed .gherkin) : Yields (check tableRows read) (Data.WellFormed .gherkin) :=
      yields_tableRows.check h
    exact ((((wellFormed_textBlock .gherkin).orElse
      (hrows fun _ _ _ => wellFormed_readMatrix)).orElse
      (hrows fun _ _ _ => wellFormed_readKeyValues)).orElse
      (hrows fun _ _ => wellFormed_readList)).orElse
      (hrows fun _ _ => wellFormed_readTable)

end Grammar

/-! ## Statements -/

/-- The shape of a statement: it says something, without blanks at the ends, and its data are well
formed. -/
structure Statement.WellFormed (dialect : Dialect) (s : Statement) : Prop where
  nonempty : s.description ≠ []
  trimmed : s.description.trim = s.description
  data : ∀ d, s.data = some d → d.WellFormed dialect

theorem Statement.Legible.wellFormed {s : Statement} (h : s.Legible) : s.WellFormed .reqsml :=
  ⟨h.nonempty, h.description.trim_eq, fun d hd => (h.data d hd).wellFormed⟩

namespace Grammar

/-- A statement is well formed if its heading has a text. -/
theorem wellFormed_statementWith {dialect : Dialect} {mark : Text} {heading : Parser Heading}
    (hd : Disciplined heading)
    (h : Yields heading fun h => h.description.Neat ∧ h.description ≠ []) :
    Yields (statementWith dialect mark heading) (Statement.WellFormed dialect) := by
  have hfront := (Yields.any (comments mark)).both (disciplined_comments mark) h
  refine (hfront.both ((disciplined_comments mark).both hd)
    (wellFormed_data dialect).whenAhead).map ?_
  rintro ⟨⟨comments, heading⟩, data⟩ ⟨⟨-, hneat, hne⟩, hdata⟩
  exact ⟨hne, hneat.trim_eq, hdata⟩

namespace Gherkin

theorem mem_of_mem_splitWord {text : Text} {c : Char} (h : c ∈ (splitWord text).2) : c ∈ text := by
  unfold splitWord at h
  cases hsplit : Text.splitFirst? isBlank text with
  | none => simp [hsplit] at h
  | some parts =>
    rw [hsplit, Option.getD_some] at h
    exact Text.mem_of_splitFirst? hsplit h

theorem mem_of_afterContinuation? {text rest : Text} {c : Char}
    (h : afterContinuation? text = some rest) (hc : c ∈ rest) : c ∈ text := by
  unfold afterContinuation? at h
  split at h
  · cases h
    exact List.mem_cons_of_mem _ hc
  · split at h
    · rename_i hsplit
      split at h
      · cases h
        exact Text.mem_of_splitFirst? hsplit hc
      · cases h
    · cases h

theorem neat_readStep {text t : Text} {kind : StatementKind} (h : readStep text = .ok (kind, t))
    (htext : text.Neat) : t.Neat ∧ t ≠ [] := by
  unfold readStep at h
  dsimp only at h
  split at h
  · cases h
  · split at h
    · cases h
    · rename_i hne
      cases h
      exact ⟨.trim fun hmem => htext.oneLine (mem_of_mem_splitWord hmem), by simpa using hne⟩

theorem neat_readContinuation {text t : Text} (h : readContinuation text = .ok t)
    (htext : text.Neat) : t.Neat ∧ t ≠ [] := by
  unfold readContinuation at h
  split at h
  · cases h
  · rename_i rest hrest
    split at h
    · cases h
    · rename_i hne
      cases h
      exact ⟨.trim fun hmem =>
        htext.oneLine (mem_of_afterContinuation? hrest hmem), by simpa using hne⟩

/-- **The statements of a scenario** have what every statement with a text has, and there is at
least one. -/
theorem yields_statements {P : Statement → Prop}
    (h : ∀ heading : Parser Heading, Disciplined heading →
      Yields heading (fun h => h.description.Neat ∧ h.description ≠ []) →
      Yields (statementWith .gherkin commentMark heading) P) :
    Yields statements fun ss => ss ≠ [] ∧ ∀ s ∈ ss, P s := by
  have hstep : Yields (statementWith .gherkin commentMark stepLine) P := by
    refine h _ disciplined_stepLine (.line fun l h hl hh => ?_)
    obtain ⟨⟨kind, text⟩, hr, rfl⟩ := Except.map_eq_ok.1 hh
    exact neat_readStep hr hl
  have hcontinuation (kind : StatementKind) :
      Yields (statementWith .gherkin commentMark (continuationLine kind)) P := by
    refine h _ (disciplined_continuationLine kind) (.line fun l h hl hh => ?_)
    obtain ⟨text, hr, rfl⟩ := Except.map_eq_ok.1 hh
    exact neat_readContinuation hr hl
  have hgroup : Yields statementGroup fun ss => ss ≠ [] ∧ ∀ s ∈ ss, P s :=
    hstep.bind disciplined_step fun first hfirst =>
      ((hcontinuation first.kind).many (disciplined_continuation first.kind)).map fun rest hrest =>
        ⟨List.cons_ne_nil _ _, List.forall_mem_cons.2 ⟨hfirst, hrest⟩⟩
  exact hgroup.flatten disciplined_statementGroup

/-- **Statements of the narrative dialect are well formed, and there is at least one.** -/
theorem wellFormed_statements :
    Yields statements fun ss => ss ≠ [] ∧ ∀ s ∈ ss, s.WellFormed .gherkin :=
  yields_statements fun _ => wellFormed_statementWith

end Gherkin

end Grammar

end PlainSpec
