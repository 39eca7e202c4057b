import PlainSpec.Proofs.Canonical.Statements
import PlainSpec.Proofs.Grammar.Blocks
import PlainSpec.Proofs.Template.Columns

/-!
# Tables of examples are read back

The examples of a template are folded back into the table that they were made from.  Every line of
the table is padded anew, and a column for metadata or descriptions is left out if no row needs it.
Read again, the lines give rows with the same comments, metadata and cells, and so the same
examples.

## Main definitions

* `Canonical.ReadsAs`: a line that is read as a given row.
* `Canonical.PrintsTable`: the lines of a table of examples with the rows that they are read as.

## Main results

* `Canonical.exists_printsTable`: every table of examples has such lines.
* `Canonical.reads_exampleRows`: they are read back.
-/

namespace PlainSpec

open PlainSpec.Parser Grammar Grammar.ReqsML

/-- The row without its place. -/
def TemplateRow.bare (row : TemplateRow) : TemplateRow := row.relabel fun _ => 0

/-- The template without its place. -/
def ExampleSet.bare (set : ExampleSet) : ExampleSet := set.relabel fun _ => 0

/-- The example without its place. -/
def Example.bare (e : Example) : Example := e.relabel fun _ => 0

namespace Canonical

/-! ## Lines of a table -/

/-- The line is read as the row. -/
structure ReadsAs (line : Text) (row : TemplateRow) : Prop where
  read : readExampleRow line.trim = .ok (⟨row.identifier, row.labels⟩, row.cells)
  nonempty : line.trim ≠ []
  noComment : line.trim.startsWith commentMark = false
  oneLine : '\n' ∉ line

theorem not_mem_metadata? {m : Metadata} {c : Char} (h : m.Avoids c) (hc : c ∉ "#(), ".toList)
    {t : Text} (ht : metadata? m.identifier m.labels = some t) : c ∉ t := by
  obtain ⟨identifier, labels⟩ := m
  have hchars : c ≠ '#' ∧ c ≠ '(' ∧ c ≠ ')' ∧ c ≠ ',' ∧ c ≠ ' ' := by
    refine ⟨?_, ?_, ?_, ?_, ?_⟩ <;> rintro rfl <;> exact hc (by decide)
  have hlabels {ls : List Text} (hls : ∀ l ∈ ls, c ∉ l) : c ∉ labelList ls :=
    not_mem_labelList (by simp [hchars]) hls
  match identifier, labels, ht with
  | some i, none, ht =>
    cases ht
    simp [hchars.1, h.identifier i rfl]
  | none, some ls, ht =>
    cases ht
    simp [hchars.1, hlabels (h.labels ls rfl)]
  | some i, some ls, ht =>
    cases ht
    simp [hchars.1, hchars.2.2.2.2, h.identifier i rfl, hlabels (h.labels ls rfl)]

/-- A line without metadata. -/
theorem readsAs_cells {row : TemplateRow} {cells : Text} (hidentifier : row.identifier = none)
    (hlabels : row.labels = none) (h : Cuts cells row.cells) (n : Nat) :
    ReadsAs (List.replicate n ' ' ++ cells) row := by
  have htrim : Text.trim (List.replicate n ' ' ++ cells) = cells := by
    rw [Text.trim_append_of_blank (Text.allBlank_replicate n), h.trim_eq]
  obtain ⟨rest, hcells⟩ := h.exists_cons
  have hcut : Text.cutAt (· == '|') ([] ++ cells) = ([], cells) := by
    refine Text.cutAt_of_forall (by simp) fun c hc => ?_
    rw [hcells] at hc
    cases hc
    rfl
  rw [List.nil_append] at hcut
  constructor
  · rw [htrim, hidentifier, hlabels]
    simp [readExampleRow, hcut, h.split, Except.map, noMetadata]
  · rw [htrim, hcells]
    exact List.cons_ne_nil _ _
  · rw [htrim, hcells]
    exact Text.startsWith_cons (by decide) _ _
  · simp [h.oneLine]

/-- **A line of a table is read as its row**, labels with commas apart: metadata, blanks up to the
cells, and the cells. -/
theorem readsAs_line {row : TemplateRow} {cells : Text}
    (hwritable : (Metadata.mk row.identifier row.labels).Writable)
    (havoids : (Metadata.mk row.identifier row.labels).Avoids '|')
    (h : Cuts cells row.cells) (n : Nat) :
    ReadsAs
      ((metadata? row.identifier row.labels).getD [] ++ List.replicate n ' ' ++ cells) row.cut := by
  cases ht : metadata? row.identifier row.labels with
  | none =>
    have hnone : row.identifier = none ∧ row.labels = none := by
      cases hi : row.identifier <;> cases hl : row.labels <;> simp_all [metadata?]
    have hlabels : row.cut.labels = none := by
      rw [TemplateRow.cut, hnone.2, Labels.cut, Option.map_none]
    exact @readsAs_cells row.cut cells hnone.1 hlabels h n
  | some t =>
    have hpipe : '|' ∉ t := not_mem_metadata? havoids (by decide) ht
    have hread := readMetadata_metadata? hwritable ht
    obtain ⟨hneat, rest, rfl⟩ := neat_metadata? hwritable ht
    obtain ⟨after, hcells⟩ := h.exists_cons
    have hline : Option.getD (some ('#' :: rest)) [] ++ List.replicate n ' ' ++ cells =
        '#' :: (rest ++ List.replicate n ' ') ++ cells := rfl
    have hlast : ∀ c, cells.getLast? = some c → isBlank c = false :=
      (Text.trim_eq_self_iff.1 h.trim_eq).2
    have htrim : Text.trim ('#' :: (rest ++ List.replicate n ' ') ++ cells) =
        '#' :: (rest ++ List.replicate n ' ') ++ cells := by
      rw [Text.trim_eq_self_iff]
      refine ⟨by rintro c ⟨⟩; rfl, fun c hc => hlast c ?_⟩
      rw [List.getLast?_append, hcells] at hc
      rw [hcells]
      simpa using hc
    have hfront : Text.trim ('#' :: (rest ++ List.replicate n ' ')) = '#' :: rest := by
      rw [← List.cons_append, Text.trim_append_blank (Text.allBlank_replicate n), hneat.trim_eq]
    have hmark := @readExampleRow_mark (rest ++ List.replicate n ' ') cells (by
      simp only [List.mem_cons, not_or] at hpipe
      simp [hpipe.2]) (by rw [hcells]; rintro c ⟨⟩; rfl)
    rw [hfront, hread] at hmark
    rw [hline]
    constructor
    · rw [htrim, hmark, h.split]
      rfl
    · rw [htrim]
      exact List.cons_ne_nil _ _
    · rw [htrim]
      exact Text.startsWith_cons (by decide) _ _
    · have hone := hneat.oneLine
      simp only [List.mem_cons, not_or] at hone
      simp [hone.2, h.oneLine]

/-! ## The layout of a table -/

/-- The cell of the description column, if there is one. -/
def TableLayout.front (layout : TableLayout) (value : Text) : List (Text × Nat) :=
  layout.descriptionWidth.toList.map fun width => (value, width)

theorem TableLayout.descriptionCell_eq (layout : TableLayout) (value : Text) :
    layout.descriptionCell (Aligned.cell · value) = alignedCells (layout.front value) := by
  unfold descriptionCell front
  cases layout.descriptionWidth <;> simp [alignedCells]

theorem TableLayout.descriptionCell_separator (layout : TableLayout) :
    layout.descriptionCell Aligned.separator = Aligned.separatorCells (layout.front []) := by
  unfold descriptionCell front
  cases layout.descriptionWidth <;> simp [Aligned.separatorCells]

/-- A line is made of metadata, blanks up to the cells, and the cells. -/
theorem TableLayout.exists_line (layout : TableLayout) {front : Text} (description cells : Text)
    (h : layout.metadataWidth = none → front = []) :
    ∃ n, layout.line front description cells =
      front ++ List.replicate n ' ' ++ (description ++ cells ++ ['|']) := by
  unfold line
  cases hw : layout.metadataWidth with
  | none => exact ⟨0, by simp [h hw]⟩
  | some width =>
    refine ⟨width - front.length + 1, ?_⟩
    simp [Aligned.padTo, List.replicate_succ']

theorem isSome_widest? (texts : List Text) : (widest? texts).isSome = !texts.isEmpty := by
  unfold widest?
  cases texts <;> rfl

theorem isSome_descriptionWidth {specs : List Specification} {b : Bool} (hne : specs ≠ [])
    (h : ∀ s ∈ specs, s.description.isSome = b) :
    (TableLayout.of specs).descriptionWidth.isSome = b := by
  obtain ⟨s, rest, rfl⟩ := List.exists_cons_of_ne_nil hne
  simp only [TableLayout.of, Option.isSome_map, isSome_widest?]
  cases b with
  | true =>
    obtain ⟨t, ht⟩ := Option.isSome_iff_exists.1 (h s List.mem_cons_self)
    rw [List.filterMap_cons_some ht]
    rfl
  | false =>
    have hnone : (s :: rest).filterMap Specification.description = [] := by
      rw [List.filterMap_eq_nil_iff]
      intro s' hs'
      simpa using h s' hs'
    rw [hnone]
    rfl

theorem rowMetadata?_eq_none {specs : List Specification}
    (h : (TableLayout.of specs).metadataWidth = none) {s : Specification} (hs : s ∈ specs) :
    rowMetadata? s = none := by
  have hwidth : (widest? (specs.filterMap rowMetadata?)).isSome = false := by
    rw [Option.isSome_eq_false_iff, Option.isNone_iff_eq_none]
    exact h
  rw [isSome_widest?, Bool.not_eq_false', List.isEmpty_iff, List.filterMap_eq_nil_iff] at hwidth
  exact hwidth s hs

/-- The columns of a table are wide enough for hyphens. -/
theorem minimumWidth_le {specs : List Specification} {value : Text} {column : Text × Nat}
    (h : column ∈ (TableLayout.of specs).front value ++ (TableLayout.of specs).columns) :
    3 ≤ column.2 := by
  rcases List.mem_append.1 h with h | h
  · obtain ⟨width, hwidth, rfl⟩ := List.mem_map.1 h
    rw [Option.mem_toList] at hwidth
    obtain ⟨w, -, rfl⟩ := Option.map_eq_some_iff.1 hwidth
    exact Nat.le_max_left 3 w
  · exact Aligned.width_columns h

/-! ## The table of a template -/

/-- The table row that the example of a row keeps. -/
def specification (header row : TemplateRow) : Specification where
  comments := row.comments
  identifier := row.identifier
  labels := row.labels
  description := Template.rowDescription header row
  values := Template.values header row

/-- The rows of a line of a table. -/
def tableRows (line : Text × TemplateRow) : List Row :=
  Canonical.comments line.2.comments ++ [.text line.1]

/-- The lines of a table of examples with the rows that they are read as.  From such rows the same
examples are made, up to labels with commas. -/
structure PrintsTable (set : ExampleSet) (es : List Example) (lines : List (Text × TemplateRow)) :
    Prop where
  rows_eq : examplesTable es = lines.flatMap tableRows
  nonempty : lines ≠ []
  readsAs : ∀ line ∈ lines, ReadsAs line.1 line.2
  comments : ∀ line ∈ lines, LegibleComments line.2.comments
  expand : ∀ (set' : ExampleSet) (rows : List TemplateRow), set'.bare = set.cut.bare →
    rows.map TemplateRow.bare = lines.map (fun line => line.2.bare) →
    ∃ es', expandRows set' rows = .ok es' ∧
      es'.map Example.bare = es.map fun e => e.cut.bare

/-- The examples of a table depend on the rows alone, not on their lines. -/
theorem expandRows_of_bare {set set' : ExampleSet} {rows rows' : List TemplateRow}
    {es : List Example} (h : expandRows set rows = .ok es) (hset : set'.bare = set.bare)
    (hrows : rows'.map TemplateRow.bare = rows.map TemplateRow.bare) :
    ∃ es', expandRows set' rows' = .ok es' ∧ es'.map Example.bare = es.map Example.bare := by
  have hleft := expandRows_relabel (fun _ => 0) set' rows'
  have hright := expandRows_relabel (fun _ => 0) set rows
  have heq : expandRows (set'.relabel fun _ => 0) (rows'.map (TemplateRow.relabel fun _ => 0)) =
      expandRows (set.relabel fun _ => 0) (rows.map (TemplateRow.relabel fun _ => 0)) :=
    congr (congrArg expandRows hset) hrows
  rw [hleft, hright, h] at heq
  exact Except.map_eq_ok.1 (Except.mapError_eq_ok.1 heq)

/-- The line of a header. -/
def TableLayout.headerLine (layout : TableLayout) : Text :=
  layout.line [] (layout.descriptionCell (Aligned.cell · [])) (Aligned.headerCells layout.columns)

/-- The line of hyphens below a header. -/
def TableLayout.separatorLine (layout : TableLayout) : Text :=
  layout.line [] (layout.descriptionCell Aligned.separator) (Aligned.separatorCells layout.columns)

/-- The line of a row of values. -/
def TableLayout.rowLine (layout : TableLayout) (s : Specification) : Text :=
  layout.line ((rowMetadata? s).getD [])
    (layout.descriptionCell (Aligned.cell · (s.description.getD [])))
    (Aligned.valueCells layout.columns s.values)

/-- The layout has the columns of the header. -/
structure TableLayout.Fits (layout : TableLayout) (header : TemplateRow) : Prop where
  columns : layout.columns.map Prod.fst = Template.columns header
  front : ∀ value, (layout.front value).map Prod.fst =
    if Template.hasDescription header then [value] else []
  width : ∀ column ∈ layout.front [] ++ layout.columns, 3 ≤ column.2

namespace TableLayout.Fits

variable {layout : TableLayout} {header : TemplateRow}

theorem map_fst (h : layout.Fits header) :
    (layout.front [] ++ layout.columns).map Prod.fst = header.cells := by
  rw [List.map_append, h.front, h.columns, ← Template.cells_header]

theorem readsAs_header (h : layout.Fits header) (hlegible : LegibleCells header.cells)
    (hidentifier : header.identifier = none) (hlabels : header.labels = none) :
    ReadsAs layout.headerLine header := by
  have hcuts := cuts_headerCells (layout.front [] ++ layout.columns) (by rwa [h.map_fst])
  rw [h.map_fst, Aligned.headerCells, List.flatMap_append] at hcuts
  obtain ⟨n, hline⟩ := layout.exists_line (layout.descriptionCell (Aligned.cell · []))
    (Aligned.headerCells layout.columns) fun _ => rfl
  rw [headerLine, hline, layout.descriptionCell_eq]
  exact readsAs_cells hidentifier hlabels hcuts n

theorem readsAs_separator (h : layout.Fits header) (hne : header.cells ≠ []) :
    ReadsAs layout.separatorLine
      ⟨0, none, none, none, hyphens (layout.front [] ++ layout.columns)⟩ := by
  have hfilled : layout.front [] ++ layout.columns ≠ [] := by
    intro hnil
    have hcells := h.map_fst
    rw [hnil] at hcells
    exact hne hcells.symm
  have hcuts := cuts_separatorCells hfilled h.width
  rw [Aligned.separatorCells, List.flatMap_append] at hcuts
  obtain ⟨n, hline⟩ := layout.exists_line (layout.descriptionCell Aligned.separator)
    (Aligned.separatorCells layout.columns) fun _ => rfl
  rw [separatorLine, hline, layout.descriptionCell_separator]
  exact readsAs_cells rfl rfl hcuts n

theorem readsAs_row (h : layout.Fits header) {row : TemplateRow} (hlegible : row.Legible)
    (hheads : Template.Heads header) (hlength : row.cells.length = header.cells.length)
    (hwidth : layout.metadataWidth = none → rowMetadata? (specification header row) = none) :
    ReadsAs (layout.rowLine (specification header row)) row.cut := by
  obtain ⟨hkeys, hcells, hdescription⟩ := Template.cells_row hheads hlength
  have hfront : (layout.front ((Template.rowDescription header row).getD [])).map Prod.fst =
      (Template.rowDescription header row).toList := by
    rw [h.front, ← hdescription]
    cases Template.rowDescription header row <;> rfl
  have hcuts := cuts_valueCells (layout.front ((Template.rowDescription header row).getD []))
    (hkeys.trans h.columns.symm) (by rw [hfront, ← hcells]; exact hlegible.cells)
  rw [hfront, ← hcells] at hcuts
  have hnone : layout.metadataWidth = none →
      (rowMetadata? (specification header row)).getD [] = [] := by
    intro hnone
    rw [hwidth hnone]
    rfl
  obtain ⟨n, hline⟩ := layout.exists_line
    (layout.descriptionCell (Aligned.cell · ((Template.rowDescription header row).getD [])))
    (Aligned.valueCells layout.columns (Template.values header row)) hnone
  have hrow : layout.rowLine (specification header row) = _ := hline
  rw [hrow, layout.descriptionCell_eq]
  exact readsAs_line hlegible.metadata hlegible.avoids hcuts n

end TableLayout.Fits

/-- The layout of the rows below a header fits it. -/
theorem fits_of {header : TemplateRow} {rows : List TemplateRow} (hne : rows ≠ [])
    (hheads : Template.Heads header)
    (hlength : ∀ row ∈ rows, row.cells.length = header.cells.length) :
    (TableLayout.of (rows.map (specification header))).Fits header := by
  refine ⟨?_, fun value => ?_, fun _ => minimumWidth_le⟩
  · refine Aligned.map_fst_columns (by simpa using hne) fun values hvalues => ?_
    rw [List.map_map] at hvalues
    obtain ⟨row, hrow, rfl⟩ := List.mem_map.1 hvalues
    exact (Template.cells_row hheads (hlength row hrow)).1
  · have hsome : (TableLayout.of (rows.map (specification header))).descriptionWidth.isSome =
        Template.hasDescription header := by
      refine isSome_descriptionWidth (by simpa using hne) fun s hs => ?_
      obtain ⟨row, hrow, rfl⟩ := List.mem_map.1 hs
      exact (Template.cells_row hheads (hlength row hrow)).2.2
    rw [TableLayout.front, ← hsome]
    cases (TableLayout.of (rows.map (specification header))).descriptionWidth <;> rfl

/-- No check of a table looks at labels. -/
theorem fault?_cut (set : ExampleSet) (header : TemplateRow) (rows : List TemplateRow) :
    Template.fault? set.cut header (rows.map TemplateRow.cut) =
      Template.fault? set header rows := by
  unfold Template.fault?
  rw [List.findSome?_map]
  rfl

/-- **Every table of examples is written as lines that are read as its rows.** -/
theorem exists_printsTable {set : ExampleSet} {es : List Example} (h : FromTable set es) :
    ∃ lines, PrintsTable set es lines := by
  obtain ⟨header, rows, hheader, hrows, hne, hfault, rfl⟩ := h
  obtain ⟨-, hheads, hbelow, -⟩ := Template.fault?_eq_none.1 hfault
  have hlength : ∀ row ∈ rows, row.cells.length = header.cells.length := fun row hrow =>
    (hbelow row hrow).length_eq
  have hfits := fits_of hne hheads hlength
  have hspecs : (rows.map (Template.expandRow set header)).filterMap Example.specification =
      rows.map (specification header) := by
    rw [List.filterMap_map, ← List.filterMap_eq_map]
    rfl
  -- from here on only what the layout fits counts, not how wide it is
  generalize hlayout : TableLayout.of (rows.map (specification header)) = layout at hfits
  have hwidth : ∀ row ∈ rows, layout.metadataWidth = none →
      rowMetadata? (specification header row) = none := by
    intro row hrow hnone
    exact rowMetadata?_eq_none (hlayout ▸ hnone) (List.mem_map_of_mem hrow)
  -- the line of hyphens is a row like the others until the rows are expanded
  let separator : TemplateRow := ⟨0, none, none, none, hyphens (layout.front [] ++ layout.columns)⟩
  refine ⟨(layout.headerLine, header) :: (layout.separatorLine, separator) ::
    rows.map fun row => (layout.rowLine (specification header row), row.cut),
      ?_, by simp, ?_, ?_, ?_⟩
  · have hrow : ∀ row, layout.row (specification header row) =
        tableRows (layout.rowLine (specification header row), row.cut) := fun _ => rfl
    simp only [examplesTable, hspecs, hlayout, List.flatMap_cons, List.flatMap_map, hrow]
    simp [TableLayout.header, tableRows, hheads.comments, Canonical.comments,
      TableLayout.headerLine, TableLayout.separatorLine, separator]
  · simp only [List.forall_mem_cons, List.forall_mem_map]
    exact ⟨hfits.readsAs_header hheader.cells hheads.identifier hheads.labels,
      hfits.readsAs_separator hheads.nonempty,
      fun row hrow => hfits.readsAs_row (hrows row hrow) hheads (hlength row hrow)
        (hwidth row hrow)⟩
  · simp only [List.forall_mem_cons, List.forall_mem_map]
    exact ⟨hheader.comments, .none, fun row hrow => (hrows row hrow).comments⟩
  · intro set' rows' hset hrows'
    have hexpand : expandRows set.cut (header :: separator :: rows.map TemplateRow.cut) =
        .ok ((rows.map TemplateRow.cut).map (Template.expandRow set.cut header)) :=
      expandRows_eq_ok.2 ⟨header, separator, rows.map TemplateRow.cut, rfl, by simpa using hne,
        all_hyphens hfits.width, by rw [fault?_cut, hfault], rfl⟩
    have hlines : rows'.map TemplateRow.bare =
        (header :: separator :: rows.map TemplateRow.cut).map TemplateRow.bare := by
      simpa [Function.comp_def] using hrows'
    obtain ⟨es', hok, hes⟩ := expandRows_of_bare hexpand hset hlines
    refine ⟨es', hok, hes.trans ?_⟩
    rw [List.map_map, List.map_map, List.map_map]
    rfl

/-! ## Reading a table -/

/-- Lines of a table start with comments or a row. -/
theorem solid_lines {lines : List (Text × TemplateRow)}
    (hread : ∀ line ∈ lines, ReadsAs line.1 line.2)
    (hcomments : ∀ line ∈ lines, LegibleComments line.2.comments) {tail : List Row}
    (hs : Row.Solid tail) : Row.Solid (lines.flatMap tableRows ++ tail) := by
  cases lines with
  | nil => exact hs
  | cons line next =>
    rw [List.flatMap_cons, tableRows, List.append_assoc, List.append_assoc]
    exact solid_comments (hcomments line List.mem_cons_self)
      (Row.solid_text.2 (hread line List.mem_cons_self).nonempty)

/-- **Tables of examples are read back.** -/
theorem reads_exampleRows {set : ExampleSet} {es : List Example} {lines : List (Text × TemplateRow)}
    (h : PrintsTable set es lines) {tail : List Row} (hs : Row.Solid tail)
    (hend : Bars exampleRow tail) :
    Reads exampleRows (examplesTable es) tail
      fun rows => rows.map TemplateRow.bare = lines.map (fun line => line.2.bare) := by
  have hsolid {next : List (Text × TemplateRow)} (hsuffix : next <:+ lines) :
      Row.Solid (next.flatMap tableRows ++ tail) :=
    solid_lines (fun line hline => h.readsAs line (hsuffix.subset hline))
      (fun line hline => h.comments line (hsuffix.subset hline)) hs
  have helement : ∀ line next, line :: next <:+ lines →
      Reads exampleRow (tableRows line) (next.flatMap tableRows ++ tail)
        (TemplateRow.bare · = (fun line : Text × TemplateRow => line.2.bare) line) := by
    intro line next hsuffix
    have hmem := hsuffix.subset List.mem_cons_self
    have hread := h.readsAs line hmem
    refine ((reads_comments (h.comments line hmem)
      (Row.next_text.2 ⟨hread.nonempty, hread.noComment⟩)).both
        (Reads.line (Q := fun v => v.2 = (⟨line.2.identifier, line.2.labels⟩, line.2.cells))
          (fun l hl => ⟨(l.number, _), ?_, rfl⟩)
          (hsolid ((List.suffix_cons _ _).trans hsuffix)))).map ?_
    · rw [hl, hread.read]
      rfl
    · rintro ⟨comments, number, metadata, cells⟩ ⟨hcomments, hv⟩
      dsimp only at hcomments hv
      cases hv
      rw [hcomments]
      rfl
  rw [h.rows_eq]
  exact (Reads.severalWhile consuming_exampleRow helement
    (fun line next hsuffix => (helement line next hsuffix).starts) hend _ h.nonempty).map
      fun rows hrows => hrows

end Canonical

end PlainSpec
