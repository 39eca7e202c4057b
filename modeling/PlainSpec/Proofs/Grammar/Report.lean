import PlainSpec.Proofs.Grammar.Discipline
import PlainSpec.Proofs.Parser.Report

/-!
# The lines that the rules report

A rule takes the line of a fault from what it has read: the row of a table, a keyword or a bullet,
the row of a table of examples.  Each of these remembers the line that it was read from, which is
not blank.  Where nothing is left to read, and where a text block is never closed, it is the last
line of the source.

## Main results

* `Grammar.reports_data`: blocks of data, with the faults of each reading of a run of rows.
* `Grammar.ReqsML.reports_statements`, `Grammar.Gherkin.reports_statements`: statements remember
  their lines.
* `Template.reportable_expand`: the faults of a table of examples.
* `Grammar.ReqsML.reports_requirements`, `Grammar.Gherkin.reports_feature`: everything that is read.
-/

namespace PlainSpec

open PlainSpec.Parser

variable {lines : List Line}

namespace Grammar

/-! ## Keywords, comments and rows -/

theorem reports_titled (keywords : List Text) : Reports lines (titled keywords) fun _ => True :=
  .line_any _

theorem reports_alone (keywords : List Text) : Reports lines (alone keywords) fun _ => True :=
  .line_any _

theorem reports_comments (mark : Text) : Reports lines (comments mark) fun _ => True :=
  (Reports.line_any _).many.map fun _ _ => trivial

/-- A line that must be well formed once it is there.  Its fault is one of the line as a whole. -/
theorem reports_optionalLine {α : Type} {test : Line → Bool} {read : Text → Except Fault α} :
    Reports lines (whenAhead test (check (line fun l => .ok l.trimmed) fun text =>
      (read text).mapError Invalid.whole)) fun _ => True := by
  have hcheck : Reports lines (check (line fun l => .ok l.trimmed) fun text =>
      (read text).mapError Invalid.whole) fun _ => True := by
    refine (Reports.line_any _).check (fun _ _ _ _ => trivial) fun text invalid _ h => ?_
    cases hread : read text with
    | ok value => rw [hread] at h; cases h
    | error fault =>
      rw [hread] at h
      cases h
      exact Invalid.reportable_whole
  exact hcheck.whenAhead.any

theorem reports_tableRow : Reports lines tableRow fun row => Line.Reportable lines row.line := by
  refine .line fun l row hl hrow => ?_
  obtain ⟨cells, -, rfl⟩ := Except.map_eq_ok.1 hrow
  exact hl

theorem reports_tableRows :
    Reports lines tableRows fun rows => ∀ row ∈ rows.toList, Line.Reportable lines row.line :=
  reports_tableRow.several

/-! ## Readings of a run of rows -/

section Rows

variable {dialect : Dialect} {block : Block} {rows : Several TableRow} {invalid : Invalid}
  (hrows : ∀ row ∈ rows.toList, Line.Reportable lines row.line)

include hrows

theorem reportable_columnsFault? (h : columnsFault? block rows = some invalid) :
    invalid.Reportable lines := by
  obtain ⟨row, hrow, rfl⟩ := Option.map_eq_some_iff.1 h
  exact Invalid.reportable_onLine
    (hrows row (List.mem_cons_of_mem _ (List.mem_of_find?_eq_some hrow)))

theorem reportable_separatorFault? (h : separatorFault? dialect block rows = some invalid) :
    invalid.Reportable lines := by
  unfold separatorFault? at h
  split at h
  · cases h
  · cases h
    exact Invalid.reportable_whole
  · rename_i row values htail
    split at h
    · cases h
    · cases h
      exact Invalid.reportable_onLine (hrows row (by simp [Several.toList, htail]))

theorem reportable_repeatFault? {names : List Text}
    (h : repeatFault? block rows.head.line names = some invalid) : invalid.Reportable lines := by
  obtain ⟨name, -, rfl⟩ := Option.map_eq_some_iff.1 h
  exact Invalid.reportable_onLine (hrows rows.head List.mem_cons_self)

theorem reportable_matrixFault? (h : matrixFault? dialect rows = some invalid) :
    invalid.Reportable lines := by
  unfold matrixFault? at h
  split at h
  · cases h
    exact Invalid.reportable_whole
  · apply Invalid.reportable_of_or h (reportable_separatorFault? hrows)
    intro h
    apply Invalid.reportable_of_or h (reportable_columnsFault? hrows)
    intro h
    split at h
    · cases h
      exact Invalid.reportable_whole
    · exact reportable_repeatFault? hrows h

theorem reportable_tableFault? (h : tableFault? dialect rows = some invalid) :
    invalid.Reportable lines := by
  unfold tableFault? at h
  split at h
  · cases h
    exact Invalid.reportable_whole
  · split at h
    · cases h
      exact Invalid.reportable_onLine (hrows rows.head List.mem_cons_self)
    · apply Invalid.reportable_of_or h (reportable_separatorFault? hrows)
      intro h
      exact Invalid.reportable_of_or h (reportable_columnsFault? hrows)
        (reportable_repeatFault? hrows)

omit hrows in
/-- A repeated row is reported where it stands. -/
theorem reportable_enterRows {columns : List Text} {found : List TableRow}
    {entered : OrderedMap Text (OrderedMap Text Text)}
    (hfound : ∀ row ∈ found, Line.Reportable lines row.line)
    (h : enterRows columns found entered = .error invalid) : invalid.Reportable lines := by
  induction found generalizing entered with
  | nil => cases h
  | cons row found ih =>
    obtain ⟨hrow, hfound⟩ := List.forall_mem_cons.1 hfound
    unfold enterRows at h
    split at h
    · exact ih hfound h
    · split at h
      · cases h
        exact Invalid.reportable_onLine hrow
      · exact ih hfound h

theorem reportable_readMatrix (h : readMatrix dialect rows = .error invalid) :
    invalid.Reportable lines := by
  unfold readMatrix at h
  split at h
  · rename_i hfault
    cases h
    exact reportable_matrixFault? hrows hfault
  · cases hentered : enterRows rows.head.cells.tail (valueRows dialect rows) .empty with
    | ok m => rw [hentered] at h; cases h
    | error found =>
      rw [hentered] at h
      cases h
      exact reportable_enterRows (fun row hrow => hrows row (List.mem_of_mem_drop hrow)) hentered

theorem reportable_readTable (h : readTable dialect rows = .error invalid) :
    invalid.Reportable lines := by
  unfold readTable at h
  split at h
  · rename_i hfault
    cases h
    exact reportable_tableFault? hrows hfault
  · cases h

omit hrows in
/-- A loop that reads every member of a list is refused where it refuses a member. -/
theorem exists_of_mapM_eq_error {ε α β : Type} {f : α → Except ε β} {as : List α} {e : ε}
    (h : as.mapM f = .error e) : ∃ a ∈ as, f a = .error e := by
  induction as with
  | nil => cases h
  | cons a as ih =>
    rw [List.mapM_cons] at h
    cases ha : f a with
    | error found =>
      rw [ha] at h
      cases h
      exact ⟨a, List.mem_cons_self, ha⟩
    | ok b =>
      rw [ha] at h
      cases has : as.mapM f with
      | error found =>
        rw [has] at h
        cases h
        obtain ⟨x, hx, hfx⟩ := ih has
        exact ⟨x, List.mem_cons_of_mem _ hx, hfx⟩
      | ok bs =>
        rw [has] at h
        cases h

theorem reportable_singleCells (h : rows.toList.mapM (singleCell block) = .error invalid) :
    invalid.Reportable lines := by
  obtain ⟨row, hrow, hcell⟩ := exists_of_mapM_eq_error h
  unfold singleCell at hcell
  split at hcell
  · cases hcell
  · cases hcell
    exact Invalid.reportable_onLine (hrows row hrow)

theorem reportable_readKeyValues (h : readKeyValues rows = .error invalid) :
    invalid.Reportable lines := by
  unfold readKeyValues at h
  split at h
  · rename_i hcells
    cases h
    exact reportable_singleCells hrows hcells
  · rename_i cells hcells
    cases hpairs : (rows.toList.zip cells).mapM fun (row, cell) => keyValueOf row cell with
    | ok pairs => rw [hpairs] at h; cases h
    | error found =>
      rw [hpairs] at h
      cases h
      obtain ⟨⟨row, cell⟩, hmem, hpair⟩ := exists_of_mapM_eq_error hpairs
      dsimp only at hpair
      unfold keyValueOf at hpair
      split at hpair
      · cases hpair
      · cases hpair
        exact Invalid.reportable_onLine (hrows row (List.of_mem_zip hmem).1)

theorem reportable_readList (h : readList rows = .error invalid) : invalid.Reportable lines := by
  unfold readList at h
  cases hcells : rows.toList.mapM (singleCell .list) with
  | ok items => rw [hcells] at h; cases h
  | error found =>
    rw [hcells] at h
    cases h
    exact reportable_singleCells hrows hcells

end Rows

/-! ## Blocks of data -/

/-- A text block that is not closed is reported at the end of the source, and an empty one where its
text starts. -/
theorem reports_textBlock (dialect : Dialect) :
    Reports lines (textBlock dialect) fun _ => True := by
  refine (Reports.line_any _).bind fun _ _ c hc => ?_
  unfold textBody
  split
  · exact hc.last
  · rename_i hbody
    split
    · exact hc.lineNumber
    · exact ⟨trivial, hc.of_reaches (reaches_bodyUntil hbody)⟩

/-- **Blocks of data report lines of their rows.** -/
theorem reports_data (dialect : Dialect) : Reports lines (data dialect) fun _ => True := by
  have hrows (read : Several TableRow → Except Invalid Data)
      (h : ∀ rows invalid, (∀ row ∈ rows.toList, Line.Reportable lines row.line) →
        read rows = .error invalid → invalid.Reportable lines) :
      Reports lines (check tableRows read) fun _ => True :=
    reports_tableRows.check (fun _ _ _ _ => trivial) h
  have htext : Reports lines (textBlock dialect) fun _ => True := reports_textBlock dialect
  have hmatrix := hrows (readMatrix dialect) fun _ _ h => reportable_readMatrix h
  have htable := hrows (readTable dialect) fun _ _ h => reportable_readTable h
  have hpairs := hrows readKeyValues fun _ _ h => reportable_readKeyValues h
  have hlist := hrows readList fun _ _ h => reportable_readList h
  cases dialect with
  | gherkin => exact (((htext.orElse hmatrix).orElse hpairs).orElse hlist).orElse htable
  | reqsml => exact (((htext.orElse hmatrix).orElse htable).orElse hpairs).orElse hlist

/-! ## Statements -/

/-- A line of a statement that is told by its text. -/
theorem reports_heading {α : Type} {read : Line → Except Fault α} {make : Line → α → Heading}
    (hmake : ∀ l v, (make l v).line = l.number) :
    Reports lines (line fun l => (read l).map (make l)) fun h => Line.Reportable lines h.line := by
  refine .line fun l h hl hh => ?_
  obtain ⟨found, -, rfl⟩ := Except.map_eq_ok.1 hh
  rwa [hmake]

/-- A statement remembers the line of its heading. -/
theorem reports_statementWith {dialect : Dialect} {mark : Text} {heading : Parser Heading}
    (h : Reports lines heading fun h => Line.Reportable lines h.line) :
    Reports lines (statementWith dialect mark heading) fun s =>
      Line.Reportable lines (s.line.getD 0) :=
  (((reports_comments mark).both h).both (reports_data dialect).whenAhead).map fun _ h => h.1.2

/-- A statement with a token where none can stand is reported on its own line. -/
theorem reportable_tokenFault? {dialect : Dialect} {ss : List Statement} {invalid : Invalid}
    (hss : ∀ s ∈ ss, Line.Reportable lines (s.line.getD 0))
    (h : tokenFault? dialect ss = some invalid) : invalid.Reportable lines := by
  obtain ⟨s, hs, rfl⟩ := Option.map_eq_some_iff.1 h
  exact Invalid.reportable_onLine (hss s (List.mem_of_find?_eq_some hs))

/-- An example that is refused for its tokens only is reported where a statement of it stands. -/
theorem reports_tokenChecked {α : Type} (dialect : Dialect) {front : Parser α}
    {statements : Parser (List Statement)} {make : α × List Statement → Except Invalid Example}
    (hfront : Reports lines front fun _ => True)
    (hstatements : Reports lines statements fun ss =>
      ∀ s ∈ ss, Line.Reportable lines (s.line.getD 0))
    (hmake : ∀ v invalid, make v = .error invalid → tokenFault? dialect v.2 = some invalid) :
    Reports lines (check (both front statements) make) fun _ => True :=
  (hfront.both hstatements).check (fun _ _ _ _ => trivial) fun v invalid hv h =>
    reportable_tokenFault? hv.2 (hmake v invalid h)

end Grammar

/-! ## Tables of examples -/

namespace Template

variable {set : ExampleSet} {header : TemplateRow} {rows : List TemplateRow} {invalid : Invalid}

theorem reportable_headerFault? (hheader : Line.Reportable lines header.line)
    (h : headerFault? header = some invalid) : invalid.Reportable lines := by
  have honLine {fault : Fault} : (Invalid.onLine header.line fault).Reportable lines :=
    Invalid.reportable_onLine hheader
  unfold headerFault? at h
  split at h
  · cases h
    exact honLine
  · split at h
    · cases h
      exact honLine
    · split at h
      · cases h
        exact honLine
      · split at h
        · cases h
          exact honLine
        · obtain ⟨name, -, rfl⟩ := Option.map_eq_some_iff.1 h
          exact honLine

theorem reportable_rowFault? {row : TemplateRow} (hrow : Line.Reportable lines row.line)
    (h : rowFault? header row = some invalid) : invalid.Reportable lines := by
  unfold rowFault? at h
  split at h
  · cases h
    exact Invalid.reportable_onLine hrow
  · split at h
    · cases h
      exact Invalid.reportable_onLine hrow
    · cases h

theorem reportable_matchFault? (hheader : Line.Reportable lines header.line)
    (h : matchFault? set header = some invalid) : invalid.Reportable lines := by
  unfold matchFault? at h
  dsimp only at h
  split at h
  · cases h
  · cases h
    exact Invalid.reportable_onLine hheader

/-- **The faults of a table of examples** are on its header or on one of its rows. -/
theorem reportable_expand (hheader : Line.Reportable lines header.line)
    (hrows : ∀ row ∈ rows, Line.Reportable lines row.line)
    (h : expand set header rows = .error invalid) : invalid.Reportable lines := by
  unfold expand at h
  split at h
  · rename_i hfault
    cases h
    unfold fault? at hfault
    split at hfault
    · cases hfault
      exact Invalid.reportable_whole
    · apply Invalid.reportable_of_or hfault (reportable_headerFault? hheader)
      intro hfault
      apply Invalid.reportable_of_or hfault
      · intro hrow
        obtain ⟨row, hmem, hrow⟩ := List.exists_of_findSome?_eq_some hrow
        exact reportable_rowFault? (hrows row hmem) hrow
      · exact reportable_matchFault? hheader
  · cases h

end Template

namespace Grammar

/-! ## The tabular dialect -/

namespace ReqsML

theorem reports_header : Reports lines header fun _ => True := by
  have hmetadata : Reports lines optionalMetadata fun _ => True := reports_optionalLine
  exact ((reports_comments commentMark).both hmetadata).map fun _ _ => trivial

theorem reports_statement :
    Reports lines statement fun s => Line.Reportable lines (s.line.getD 0) :=
  reports_statementWith (reports_heading fun _ _ => rfl)

theorem reports_bullets (kind : StatementKind) :
    Reports lines (bullets kind) fun items => ∀ s ∈ items, Line.Reportable lines (s.line.getD 0) :=
  (reports_statementWith (reports_heading fun _ _ => rfl)).many

/-- A list of statements is reported where its keyword stands. -/
theorem reports_statementGroup :
    Reports lines statementGroup fun ss => ∀ s ∈ ss, Line.Reportable lines (s.line.getD 0) := by
  refine Reports.orElse (reports_statement.check ?_ ?_) (Reports.check (P := fun v =>
    Line.Reportable lines (v.1.line.getD 0) ∧ ∀ s ∈ v.2, Line.Reportable lines (s.line.getD 0))
    (reports_statement.bind fun keyword hkeyword =>
      (reports_bullets keyword.kind).map fun items hitems => ⟨hkeyword, hitems⟩) ?_ ?_)
  · intro s ss hs h
    split at h
    · cases h
    · cases h
      simpa using hs
  · intro s invalid _ h
    split at h
    · cases h
      exact Invalid.reportable_whole
    · cases h
  · rintro ⟨keyword, items⟩ ss ⟨-, hitems⟩ h
    dsimp only at h
    split at h
    · cases h
    · cases h
      exact hitems
  · rintro ⟨keyword, items⟩ invalid ⟨hkeyword, -⟩ h
    dsimp only at h
    split at h
    · cases h
      exact Invalid.reportable_onLine hkeyword
    · cases h

theorem reports_statements :
    Reports lines statements fun ss => ∀ s ∈ ss, Line.Reportable lines (s.line.getD 0) :=
  reports_statementGroup.flatten

/-- The header is only looked at, and a fault of it is reported where it starts. -/
theorem reports_inlineStatements :
    Reports lines inlineStatements fun ss => ∀ s ∈ ss, Line.Reportable lines (s.line.getD 0) := by
  intro c hc
  have hheader := reports_header c hc
  unfold inlineStatements
  split
  · rename_i error n hfail
    rwa [hfail] at hheader
  · split
    · exact hc.lineNumber
    · exact reports_statements c hc

theorem reports_exampleRows :
    Reports lines exampleRows fun rows => ∀ row ∈ rows, Line.Reportable lines row.line := by
  have hrow : Reports lines exampleRow fun row => Line.Reportable lines row.line := by
    refine ((reports_comments commentMark).both (Reports.line
      (P := fun v : Nat × Metadata × List Text => Line.Reportable lines v.1)
        fun l v hl hv => ?_)).map
      fun _ h => h.2
    obtain ⟨found, -, rfl⟩ := Except.map_eq_ok.1 hv
    exact hl
  exact hrow.several.map fun _ h => h

theorem reportable_expandRows {set : ExampleSet} {rows : List TemplateRow} {invalid : Invalid}
    (hrows : ∀ row ∈ rows, Line.Reportable lines row.line)
    (h : expandRows set rows = .error invalid) : invalid.Reportable lines := by
  unfold expandRows at h
  split at h
  · rename_i header separator value values
    split at h
    · refine Template.reportable_expand (hrows header (by simp)) (fun row hrow => hrows row ?_) h
      exact List.mem_cons_of_mem _ (List.mem_cons_of_mem _ hrow)
    · cases h
      exact Invalid.reportable_onLine (hrows separator (by simp))
  · cases h
    exact Invalid.reportable_whole

theorem reports_singleExample : Reports lines singleExample fun _ => True := by
  refine reports_tokenChecked .reqsml
    (reports_header.both (reports_titled _)).any reports_statements
    fun v invalid h => ?_
  dsimp only at h
  split at h <;> simp_all

theorem reports_exampleSet : Reports lines exampleSet fun _ => True := by
  -- the check depends on the place where the template starts
  intro c hc
  refine ((((reports_header.both (reports_titled _)).both reports_statements).first
    (reports_alone _)).both reports_exampleRows).check (fun _ _ _ _ => trivial) ?_ c hc
  rintro ⟨⟨⟨front, title⟩, statements⟩, rows⟩ invalid ⟨-, hrows⟩ h
  dsimp only at h
  split at h
  · cases h
    exact Invalid.reportable_whole
  · exact reportable_expandRows hrows h

theorem reports_examples : Reports lines examples fun _ => True :=
  (reports_exampleSet.orElse (reports_singleExample.map fun _ _ => trivial)).several.map
    fun _ _ => trivial

theorem reports_inlineExamples : Reports lines inlineExamples fun _ => True := by
  intro c hc
  have hoptional : Reports lines optionalRows fun rows =>
      ∀ found, rows = some found → ∀ row ∈ found, Line.Reportable lines row.line :=
    ((reports_alone examplesKeyword).second reports_exampleRows).whenAhead
  refine (reports_inlineStatements.both hoptional).check (fun _ _ _ _ => trivial) ?_ c hc
  rintro ⟨statements, rows⟩ invalid ⟨-, hrows⟩ h
  cases rows with
  | none =>
    dsimp only at h
    split at h
    · cases h
      exact Invalid.reportable_whole
    · cases h
  | some rows => exact reportable_expandRows (hrows rows rfl) h

/-- **Everything that the tabular dialect reads.** -/
theorem reports_requirements : Reports lines requirements fun _ => True :=
  (((reports_header.both (reports_titled _)).both
    (reports_inlineExamples.orElse reports_examples)).map (Q := fun _ => True)
    fun _ _ => trivial).several.any

end ReqsML

/-! ## The narrative dialect -/

namespace Gherkin

theorem reports_header : Reports lines header fun _ => True := by
  have htags : Reports lines optionalTags fun _ => True := reports_optionalLine
  exact (((reports_comments commentMark).both htags).both (reports_comments commentMark)).map
    fun _ _ => trivial

/-- The title of a construct and the free text below it. -/
theorem reports_headed (keywords : List Text) :
    Reports lines (first (both header (titled keywords)) freeText) fun _ => True :=
  (reports_header.both (reports_titled keywords)).any.first
    ((Reports.line_any _).many.map (Q := fun _ => True) fun _ _ => trivial)

theorem reports_statementGroup :
    Reports lines statementGroup fun ss => ∀ s ∈ ss, Line.Reportable lines (s.line.getD 0) := by
  have hstep : Reports lines (statementWith .gherkin commentMark stepLine) fun s =>
      Line.Reportable lines (s.line.getD 0) :=
        reports_statementWith (reports_heading fun _ _ => rfl)
  have hcontinuations (kind : StatementKind) : Reports lines (continuations kind) fun rest =>
      ∀ s ∈ rest, Line.Reportable lines (s.line.getD 0) :=
    (reports_statementWith (reports_heading fun _ _ => rfl)).many
  exact hstep.bind fun first hfirst =>
    (hcontinuations first.kind).map fun rest hrest => List.forall_mem_cons.2 ⟨hfirst, hrest⟩

theorem reports_statements :
    Reports lines statements fun ss => ∀ s ∈ ss, Line.Reportable lines (s.line.getD 0) :=
  reports_statementGroup.flatten

theorem reports_scenario : Reports lines scenario fun _ => True := by
  refine reports_tokenChecked .gherkin (reports_headed _) reports_statements fun v invalid h => ?_
  dsimp only at h
  split at h <;> simp_all

theorem reports_exampleRow : Reports lines exampleRow fun row => Line.Reportable lines row.line :=
  (reports_header.both reports_tableRow).map fun _ h => h.2

theorem reports_outline : Reports lines outline fun _ => True := by
  intro c hc
  refine ((((reports_headed _).both reports_statements).first (reports_alone _)).both
    reports_exampleRow.several).check (fun _ _ _ _ => trivial) ?_ c hc
  rintro ⟨⟨⟨front, title⟩, statements⟩, rows⟩ invalid ⟨-, hrows⟩ h
  dsimp only at h
  split at h
  · cases h
    exact Invalid.reportable_whole
  · exact Template.reportable_expand (hrows rows.head List.mem_cons_self)
      (fun row hrow => hrows row (List.mem_cons_of_mem _ hrow)) h

theorem reports_examples : Reports lines examples fun _ => True :=
  (reports_outline.orElse (reports_scenario.map fun _ _ => trivial)).several.map fun _ _ => trivial

/-- **Everything that the narrative dialect reads.** -/
theorem reports_feature : Reports lines feature fun _ => True := by
  have hrule : Reports lines rule fun _ => True :=
    ((reports_headed _).both reports_examples).map fun _ _ => trivial
  have hbody : Reports lines body fun _ => True :=
    (hrule.several.map fun _ _ => trivial).orElse
      ((reports_examples.first .finish).map fun _ _ => trivial)
  exact ((reports_headed _).both hbody).any

end Gherkin

end Grammar

end PlainSpec
