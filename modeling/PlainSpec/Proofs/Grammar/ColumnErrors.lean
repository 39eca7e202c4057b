import PlainSpec.Proofs.Grammar.Runs
import PlainSpec.Proofs.Parser.Alternation

/-!
# Rows of another length

A row with more or fewer cells than the header is refused by every reading, but the readings do not
agree on where: a text block is refused at the first row, so is a matrix that is too small, and what
should be single cells is refused at the first row that is none.  Of all refusals the deepest is
reported.  No reading looks further than the first row that differs from the header, and a table is
refused just there.

In the tabular dialect the single cells are tried behind the table.  Below a header of one cell they
are refused at the same row, and of two refusals on one line the later is reported: the line is the
same, the fault is another.

## Main definitions

* `Parser.FailsBy`: how far a parser got that refuses.
* `Grammar.Headed`: enough rows for a table.
* `Grammar.columnsReport`: the fault that is reported.

## Main results

* `Parser.FailsBy.orElse_fails`: an alternative that gets further is reported.
* `Grammar.fails_of_unequal`: a column count is refused at the first row that differs from the
  header.
-/

namespace PlainSpec

open PlainSpec.Parser

/-! ## The deeper of two refusals -/

namespace ParseError

variable {a b : ParseError}

theorem deepest_of_le (h : a.line ≤ b.line) (hb : b.kind = .invalid) : a.deepest b = b := by
  have houtranks : a.outranks b = false := by
    simp [outranks, hb]
    omega
  simp [deepest, houtranks]

theorem deepest_of_lt (h : b.line < a.line) : a.deepest b = a := by
  simp [deepest, outranks, h]

theorem line_deepest_le {line : Nat} (ha : a.line ≤ line) (hb : b.line ≤ line) :
    (a.deepest b).line ≤ line := by
  unfold deepest
  split
  · exact ha
  · exact hb

end ParseError

namespace Parser

variable {α β : Type} {p q : Parser α} {c : Cursor} {a b e : ParseError} {line : Nat}

/-- Behind blank lines the parser refuses, and got no further than a line. -/
def FailsBy (p : Parser α) (c : Cursor) (line : Nat) : Prop := ∃ e, Fails p c e ∧ e.line ≤ line

theorem Fails.failsBy (h : Fails p c e) (hline : e.line ≤ line) : FailsBy p c line := ⟨e, h, hline⟩

theorem FailsBy.orElse (hp : FailsBy p c line) (hq : FailsBy q c line) :
    FailsBy (Parser.orElse p q) c line := by
  obtain ⟨a, hp, ha⟩ := hp
  obtain ⟨b, hq, hb⟩ := hq
  exact ⟨_, hp.orElse hq, ParseError.line_deepest_le ha hb⟩

/-- **The later alternative is reported** if the earlier one got no further. -/
theorem FailsBy.orElse_fails (hp : FailsBy p c e.line) (hq : Fails q c e) (he : e.kind = .invalid) :
    Fails (Parser.orElse p q) c e := by
  obtain ⟨a, hp, ha⟩ := hp
  have h := hp.orElse hq
  rwa [ParseError.deepest_of_le ha he] at h

/-- **The earlier alternative is reported** if it got further. -/
theorem Fails.orElse_of_lt (hp : Fails p c e) (hq : Fails q c b) (hb : b.line < e.line) :
    Fails (Parser.orElse p q) c e := by
  have h := hp.orElse hq
  rwa [ParseError.deepest_of_lt hb] at h

/-- A value that is found invalid is refused on the line of the fault. -/
theorem fails_check {f : α → Except Invalid β} {v : α} {n : Cursor} {invalid : Invalid}
    (h : p c.skipBlank = .ok v n) (hf : f v = .error invalid) :
    Fails (check p f) c ⟨invalid.line?.getD c.lineNumber, .invalid, invalid.fault⟩ := by
  simp only [Fails, check, h, hf, Reply.result, lineNumber_skipBlank]

theorem result_whenAhead {test : Line → Bool} (htest : c.ahead?.any test = true)
    (h : (p c).result = .error e) : (whenAhead test p c).result = .error e := by
  obtain ⟨n, h⟩ := result_eq_error.1 h
  rw [whenAhead, if_pos htest, h]
  rfl

end Parser

namespace Grammar

/-! ## The readings of unequal rows -/

/-- Enough rows for a table: a header and a row of values, and in the tabular dialect a row of
hyphens between them. -/
def Headed : Dialect → Several TableRow → Prop
  | .reqsml, rows =>
    3 ≤ rows.toList.length ∧ ∃ separator ∈ rows.tail.head?, separator.cells.all isSeparator = true
  | .gherkin, rows => 2 ≤ rows.toList.length

/-- The fault that is reported of a row that differs from the header. -/
def columnsReport (dialect : Dialect) (rows : Several TableRow) (row : TableRow) : Fault :=
  if dialect = .reqsml ∧ rows.head.cells.length = 1 then .notSingleColumn .list
  else .unequalColumns .table rows.head.cells.length row.cells.length

section Unequal

variable {dialect : Dialect} {rows : Several TableRow} {row : TableRow} {c : Cursor} {block : Block}

theorem Headed.separatorFault?_eq_none (h : Headed dialect rows) :
    separatorFault? dialect block rows = none := by
  cases dialect with
  | gherkin => rfl
  | reqsml =>
    obtain ⟨-, separator, hseparator, hall⟩ := h
    obtain ⟨values, htail⟩ := List.head?_eq_some_iff.1 hseparator
    simp [separatorFault?, htail, hall]

theorem Headed.length_le (h : Headed dialect rows) :
    dialect.headerRows + 1 ≤ rows.toList.length := by
  cases dialect with
  | gherkin => exact h
  | reqsml => exact h.1

/-- The first row that is not a single cell is the one at which single cells are refused. -/
theorem mapM_singleCell {rows : List TableRow}
    (h : rows.find? (fun row => row.cells.length ≠ 1) = some row) :
    rows.mapM (singleCell block) = .error (.onLine row.line (.notSingleColumn block)) := by
  induction rows with
  | nil => cases h
  | cons first rest ih =>
    rw [List.mapM_cons]
    by_cases hfirst : first.cells.length = 1
    · obtain ⟨cell, hcell⟩ := List.length_eq_one_iff.1 hfirst
      rw [List.find?_cons_of_neg (by simpa using hfirst)] at h
      rw [singleCell_eq_ok.2 hcell, ih h]
      rfl
    · rw [List.find?_cons_of_pos (by simpa using hfirst), Option.some.injEq] at h
      subst h
      have hcell : singleCell block first =
          .error (.onLine first.line (.notSingleColumn block)) := by
        unfold singleCell
        split
        · rename_i cell hcells
          simp [hcells] at hfirst
        · rfl
      rw [hcell]
      rfl

variable (hrun : c.run = rows.toList)
  (hrow : rows.tail.find? (fun row => row.cells.length ≠ rows.head.cells.length) = some row)

include hrow

theorem columnsFault?_of_find? :
    columnsFault? block rows =
      some (.onLine row.line (.unequalColumns block rows.head.cells.length row.cells.length)) := by
  rw [columnsFault?, hrow, Option.map_some]

/-- Single cells are refused at the header, or below a header of one cell at the row that
differs. -/
theorem mapM_singleCell_of_find? :
    rows.toList.mapM (singleCell block) =
      .error (.onLine (if rows.head.cells.length = 1 then row.line else rows.head.line)
        (.notSingleColumn block)) := by
  by_cases hone : rows.head.cells.length = 1
  · rw [if_pos hone]
    refine mapM_singleCell ?_
    rw [Several.toList, List.find?_cons_of_neg (by simpa using hone)]
    simpa [hone] using hrow
  · rw [if_neg hone]
    refine mapM_singleCell ?_
    rw [Several.toList, List.find?_cons_of_pos (by simpa using hone)]

include hrun

theorem fails_single {read : Several TableRow → Except Invalid Data}
    (hread : ∀ invalid, rows.toList.mapM (singleCell block) = .error invalid →
      read rows = .error invalid) :
    Fails (check tableRows read) c
      ⟨if rows.head.cells.length = 1 then row.line else rows.head.line, .invalid,
        .notSingleColumn block⟩ := by
  obtain ⟨n, hrows⟩ := tableRows_eq_ok_iff.2 hrun
  exact fails_check (tableRows_skipBlank.2 hrows) (hread _ (mapM_singleCell_of_find? hrow))

theorem fails_keyValues :
    Fails (check tableRows readKeyValues) c
      ⟨if rows.head.cells.length = 1 then row.line else rows.head.line, .invalid,
        .notSingleColumn .keyValues⟩ :=
  fails_single hrun hrow fun invalid h => by rw [readKeyValues, h]

theorem fails_list :
    Fails (check tableRows readList) c
      ⟨if rows.head.cells.length = 1 then row.line else rows.head.line, .invalid,
        .notSingleColumn .list⟩ :=
  fails_single hrun hrow fun invalid h => by rw [readList, h]; rfl

theorem fails_table (hheaded : Headed dialect rows) (hfilled : [] ∉ rows.head.cells) :
    Fails (check tableRows (readTable dialect)) c
      ⟨row.line, .invalid, .unequalColumns .table rows.head.cells.length row.cells.length⟩ := by
  obtain ⟨n, hrows⟩ := tableRows_eq_ok_iff.2 hrun
  have hfault : tableFault? dialect rows =
      some (.onLine row.line (.unequalColumns .table rows.head.cells.length row.cells.length)) := by
    have hany : ¬ rows.head.cells.any List.isEmpty = true := by simpa using hfilled
    rw [tableFault?, if_neg (Nat.not_lt.2 hheaded.length_le), if_neg hany,
      hheaded.separatorFault?_eq_none, columnsFault?_of_find? hrow]
    rfl
  have hread : readTable dialect rows =
      .error (.onLine row.line
        (.unequalColumns .table rows.head.cells.length row.cells.length)) := by
    unfold readTable
    rw [hfault]
  exact fails_check (tableRows_skipBlank.2 hrows) hread

theorem failsBy_matrix (hheaded : Headed dialect rows) (hline : rows.head.line ≤ row.line) :
    FailsBy (check tableRows (readMatrix dialect)) c row.line := by
  obtain ⟨n, hrows⟩ := tableRows_eq_ok_iff.2 hrun
  have hwhole : c.lineNumber = rows.head.line := by
    obtain ⟨l, hl, hhead, -⟩ := exists_ahead_of_tableRows hrows
    simp [Cursor.lineNumber, hl, hhead]
  have hfails {invalid : Invalid} (hfault : matrixFault? dialect rows = some invalid) :
      Fails (check tableRows (readMatrix dialect)) c
        ⟨invalid.line?.getD c.lineNumber, .invalid, invalid.fault⟩ := by
    refine fails_check (tableRows_skipBlank.2 hrows) ?_
    unfold readMatrix
    rw [hfault]
  -- too small a matrix is refused at the first row, and any other at the row that differs
  by_cases hsmall : rows.head.cells.length < 2 ∨ rows.toList.length < 3
  · have hfault : matrixFault? dialect rows = some (.whole .smallMatrix) := by
      rw [matrixFault?, if_pos hsmall]
    exact (hfails hfault).failsBy (hwhole ▸ hline)
  · have hfault : matrixFault? dialect rows =
        some (.onLine row.line
          (.unequalColumns .matrix rows.head.cells.length row.cells.length)) := by
      rw [matrixFault?, if_neg hsmall, hheaded.separatorFault?_eq_none, columnsFault?_of_find? hrow]
      rfl
    exact (hfails hfault).failsBy (Nat.le_refl _)

end Unequal

/-! ## The reported line -/

theorem result_data_skipBlank (dialect : Dialect) (c : Cursor) :
    (data dialect c.skipBlank).result = (data dialect c).result := by
  cases dialect <;> exact result_orElse_skipBlank

variable {dialect : Dialect} {rows : Several TableRow} {row : TableRow} {c : Cursor}

/-- **A column count is refused at the first row that differs from the header**, by a block of data
and by one that may be absent.  The header has no empty cell, and there are enough rows for a
table. -/
theorem fails_of_unequal (hc : c.Sound) (hrun : c.run = rows.toList) (hheaded : Headed dialect rows)
    (hfilled : [] ∉ rows.head.cells)
    (hrow : rows.tail.find? (fun row => row.cells.length ≠ rows.head.cells.length) = some row) :
    (data dialect c).result = .error ⟨row.line, .invalid, columnsReport dialect rows row⟩ ∧
      (optionalData dialect c).result =
        .error ⟨row.line, .invalid, columnsReport dialect rows row⟩ := by
  obtain ⟨n, hrows⟩ := tableRows_eq_ok_iff.2 hrun
  have hlt : rows.head.line < row.line := by
    have hordered := hc.ordered_run
    rw [hrun, Several.toList, List.map_cons, List.pairwise_cons] at hordered
    exact hordered.1 _ (List.mem_map_of_mem (List.mem_of_find?_eq_some hrow))
  -- the text block and the matrix get no further than the row that differs
  have htext : FailsBy (textBlock dialect) c row.line :=
    ⟨_, by rw [Fails, textBlock_of_tableRows (tableRows_skipBlank.2 hrows)]; rfl, Nat.le_of_lt hlt⟩
  have hmatrix := failsBy_matrix hrun hrow hheaded (Nat.le_of_lt hlt)
  have htable := fails_table hrun hrow hheaded hfilled
  have hkeys := fails_keyValues hrun hrow
  have hlist := fails_list hrun hrow
  have hsingle : (if rows.head.cells.length = 1 then row.line else rows.head.line) ≤ row.line := by
    split <;> omega
  suffices hdata : Fails (data dialect) c ⟨row.line, .invalid, columnsReport dialect rows row⟩ by
    rw [Fails, result_data_skipBlank] at hdata
    exact ⟨hdata, result_whenAhead (startsData_of_tableRows hrows) hdata⟩
  cases dialect with
  | gherkin =>
    have hreport : columnsReport .gherkin rows row =
        .unequalColumns .table rows.head.cells.length row.cells.length := by simp [columnsReport]
    have hbefore :=
      ((htext.orElse hmatrix).orElse (hkeys.failsBy hsingle)).orElse (hlist.failsBy hsingle)
    rw [hreport]
    exact hbefore.orElse_fails htable rfl
  | reqsml =>
    have hfirst := (htext.orElse hmatrix).orElse_fails htable rfl
    by_cases hone : rows.head.cells.length = 1
    · -- single cells are refused at the same row, and tried later
      have hreport : columnsReport .reqsml rows row = .notSingleColumn .list := by
        simp [columnsReport, hone]
      rw [if_pos hone] at hkeys hlist
      have hbefore :=
        (hfirst.failsBy (Nat.le_refl row.line)).orElse (hkeys.failsBy (Nat.le_refl row.line))
      rw [hreport]
      exact hbefore.orElse_fails hlist rfl
    · have hreport : columnsReport .reqsml rows row =
          .unequalColumns .table rows.head.cells.length row.cells.length := by
        simp [columnsReport, hone]
      rw [if_neg hone] at hkeys hlist
      rw [hreport]
      exact (hfirst.orElse_of_lt hkeys hlt).orElse_of_lt hlist hlt

/-- A row of values with one cell too few. -/
theorem fails_of_unequal_short :
    ∃ c rows row, c.Sound ∧ c.run = rows.toList ∧ Headed .reqsml rows ∧ [] ∉ rows.head.cells ∧
      rows.tail.find? (fun row => row.cells.length ≠ rows.head.cells.length) = some row ∧
      (data .reqsml c).result = .error ⟨5, .invalid, .unequalColumns .table 2 1⟩ ∧
      (optionalData .reqsml c).result = .error ⟨5, .invalid, .unequalColumns .table 2 1⟩ := by
  let text := "|a|b|\n|---|---|\n|1|2|\n\n|3|\n|4|5|6|".toList
  let rows : Several TableRow :=
    ⟨⟨1, ["a".toList, "b".toList]⟩,
      [⟨2, ["---".toList, "---".toList]⟩, ⟨3, ["1".toList, "2".toList]⟩,
      ⟨5, ["3".toList]⟩, ⟨6, ["4".toList, "5".toList, "6".toList]⟩]⟩
  have hrun : (Cursor.ofText text).run = rows.toList := by with_unfolding_all rfl
  have hheaded : Headed .reqsml rows := ⟨by decide, _, rfl, by decide⟩
  have hfilled : [] ∉ rows.head.cells := by decide
  have hrow : rows.tail.find? (fun row => row.cells.length ≠ rows.head.cells.length) =
      some ⟨5, ["3".toList]⟩ := by decide
  obtain ⟨hdata, hoptional⟩ := fails_of_unequal (Cursor.sound_ofText text) hrun hheaded hfilled hrow
  exact ⟨_, rows, _, Cursor.sound_ofText text, hrun, hheaded, hfilled, hrow, hdata, hoptional⟩

end Grammar

end PlainSpec
