import PlainSpec.Canonical.Export
import PlainSpec.Proofs.Canonical.ExamplesTable

/-!
# Tables stand in columns

The pipes of a table stand below each other because a column is as wide as the widest text in it,
and a text that is shorter is filled up.  Nothing is known about the rows: some may lack a column
that others have, keys may be empty, and a text may be longer than every name of a column.  So a
width must be a bound on whatever a row finds under the name, and under a name that it lacks it
finds nothing.

How long a line is says nothing about how it is written if blank lines are dropped around it, or
blanks at its end.  The main result therefore tells the lines of the text that is written.

## Main definitions

* `Row.WrittenAs`: the lines as which rows are written wherever they stand.
* `Aligned.Flush`: lines with the same number of characters.
* `Aligned.IsRule`: a line of hyphens below the names of columns.
* `Data.strings`, `Specification.strings`: the texts in a block of data and in a row of a table.

## Main results

* `Aligned.flush_rows`, `TableLayout.flush`: the lines of one table are flush.
* `Canonical.tables_flush`: they are written so, with hyphens below the names.
-/

namespace PlainSpec

/-! ## Rows among others -/

namespace Row

/-- The text of some lines, each ended by a line end. -/
def unlines (lines : List Text) : Text := lines.flatMap (· ++ ['\n'])

/-- The rows are written as these lines, whatever stands before and after them. -/
structure WrittenAs (rows : List Row) (lines : List Text) : Prop where
  oneLine : ∀ l ∈ lines, '\n' ∉ l
  written : ∀ before after : List Row, ∃ front back : List Row,
    render (consolidate (before ++ rows ++ after)) = render front ++ unlines lines ++ render back

theorem render_append (rows rows' : List Row) :
    render (rows ++ rows') = render rows ++ render rows' := List.flatMap_append

theorem render_eq_unlines (rows : List Row) : render rows = unlines (rows.map line) := by
  rw [render, unlines, List.flatMap_map]

/-- No blank line of the rows is dropped behind a line of text. -/
def Tight (rows : List Row) : Prop :=
  ∀ rest, consolidateFrom false (rows ++ rest) = rows ++ consolidateFrom false rest

theorem Tight.append {rows rows' : List Row} (h : Tight rows) (h' : Tight rows') :
    Tight (rows ++ rows') := by
  intro rest
  rw [List.append_assoc, h, h', List.append_assoc]

theorem tight_texts (texts : List Text) : Tight (texts.map .text) := by
  intro rest
  induction texts with
  | nil => rfl
  | cons t texts ih => exact congrArg _ ih

theorem Tight.flatMap {α : Type} {rows : α → List Row} {as : List α}
    (h : ∀ a ∈ as, Tight (rows a)) :
    Tight (as.flatMap rows) := by
  induction as with
  | nil => exact fun _ => rfl
  | cons a as ih =>
    obtain ⟨ha, has⟩ := List.forall_mem_cons.1 h
    rw [List.flatMap_cons]
    exact ha.append (ih has)

/-- A blank line is kept if texts follow. -/
theorem tight_blank {texts : List Text} (hne : texts ≠ []) : Tight (.blank :: texts.map .text) := by
  obtain ⟨t, texts, rfl⟩ := List.exists_cons_of_ne_nil hne
  intro rest
  have htexts : consolidateFrom false (texts.map .text ++ rest) =
      texts.map .text ++ consolidateFrom false rest := tight_texts texts rest
  simp [consolidateFrom, htexts]

/-- What stands in front of a line of text has no part in what stands behind it. -/
theorem exists_consolidateFrom_append (afterBlank : Bool) (before : List Row) (t : Text)
    (after : List Row) : ∃ front, consolidateFrom afterBlank (before ++ .text t :: after) =
      front ++ .text t :: consolidateFrom false after := by
  induction before generalizing afterBlank with
  | nil => exact ⟨[], rfl⟩
  | cons row before ih =>
    cases row with
    | text content =>
      obtain ⟨front, hfront⟩ := ih false
      refine ⟨.text content :: front, ?_⟩
      rw [List.cons_append, consolidateFrom, hfront, List.cons_append]
    | blank =>
      obtain ⟨front, hfront⟩ := ih true
      cases afterBlank with
      | true => exact ⟨front, hfront⟩
      | false =>
        refine ⟨.blank :: front, ?_⟩
        rw [List.cons_append, consolidateFrom, if_neg (by simp), hfront]
        cases front <;> rfl

/-- Rows without blank lines to drop are written as their lines. -/
theorem Tight.writtenAs {t : Text} {rows : List Row} (htight : Tight rows)
    (hone : OneLine (.text t :: rows)) (behind : List Row) :
    WrittenAs (.text t :: rows ++ behind) ((Row.text t :: rows).map line) := by
  refine ⟨List.forall_mem_map.2 fun row hrow => hone.not_mem_line hrow, fun before after => ?_⟩
  obtain ⟨front, hfront⟩ :=
    exists_consolidateFrom_append true before t (rows ++ (behind ++ after))
  refine ⟨front, consolidateFrom false (behind ++ after), ?_⟩
  have hrows : before ++ (.text t :: rows ++ behind) ++ after =
      before ++ .text t :: (rows ++ (behind ++ after)) := by simp
  rw [hrows, consolidate, hfront, htight, ← List.cons_append, render_append, render_append,
    render_eq_unlines (.text t :: rows), List.append_assoc]

/-- A blank line alone is not written as any line. -/
theorem writtenAs_blank : WrittenAs [.blank] [] := by
  refine ⟨by simp, fun before after => ⟨consolidate (before ++ [.blank] ++ after), [], ?_⟩⟩
  simp [unlines, render]

/-! ### Levels -/

theorem iterate_indent_append (level : Nat) (rows rows' : List Row) :
    indent^[level] (rows ++ rows') = indent^[level] rows ++ indent^[level] rows' := by
  induction level with
  | zero => rfl
  | succ level ih =>
    rw [Function.iterate_succ_apply', ih, indent_append, Function.iterate_succ_apply',
      Function.iterate_succ_apply']

theorem iterate_indent_nil (level : Nat) : indent^[level] [] = [] :=
  Function.iterate_fixed rfl level

theorem iterate_indent_blank (level : Nat) (rows : List Row) :
    indent^[level] (.blank :: rows) = .blank :: indent^[level] rows := by
  have hblank : indent^[level] [.blank] = [.blank] := Function.iterate_fixed rfl level
  rw [← List.singleton_append, iterate_indent_append, hblank]
  rfl

theorem iterate_indent_text {t : Text} (ht : t ≠ []) (level : Nat) :
    indent^[level] [.text t] = [.text (shift level t)] := by
  induction level with
  | zero => rfl
  | succ level ih =>
    have hne : shift level t ≠ [] := by simp [shift, ht]
    rw [Function.iterate_succ_apply', ih, indent_text hne, shift_shift, Nat.add_comm]
    rfl

theorem iterate_indent_texts {texts : List Text} (h : ∀ t ∈ texts, t ≠ []) (level : Nat) :
    indent^[level] (texts.map .text) = (texts.map (shift level)).map .text := by
  induction texts with
  | nil => exact iterate_indent_nil level
  | cons t texts ih =>
    obtain ⟨ht, htexts⟩ := List.forall_mem_cons.1 h
    rw [List.map_cons, ← List.singleton_append, iterate_indent_append, iterate_indent_text ht,
      ih htexts]
    rfl

theorem iterate_indent_flatMap {α : Type} (level : Nat) (rows : α → List Row) (as : List α) :
    indent^[level] (as.flatMap rows) = as.flatMap fun a => indent^[level] (rows a) := by
  induction as with
  | nil => exact iterate_indent_nil level
  | cons a as ih => rw [List.flatMap_cons, iterate_indent_append, ih, List.flatMap_cons]

theorem OneLine.iterate_indent {rows : List Row} (h : OneLine rows) (level : Nat) :
    OneLine (Row.indent^[level] rows) := by
  induction level with
  | zero => exact h
  | succ level ih =>
    rw [Function.iterate_succ_apply']
    exact ih.indent

/-- A line with a pipe at its end loses nothing there. -/
theorem line_shift_pipe (level : Nat) (t : Text) :
    (Row.text (shift level (t ++ ['|']))).line = shift level (t ++ ['|']) := by
  rw [line, shift, ← List.append_assoc]
  exact Text.trimEnd_concat (by decide) _

end Row

/-! ## Texts -/

/-- The texts in a map. -/
def OrderedMap.strings (m : OrderedMap Text Text) : List Text := m.keys ++ m.values

/-- The texts in a block of data. -/
def Data.strings : Data → List Text
  | text content => [content]
  | list items => items
  | keyValues pairs => pairs.strings
  | table rows => rows.flatMap OrderedMap.strings
  | matrix rows => rows.keys ++ rows.values.flatMap OrderedMap.strings

/-- The texts in a row of a table of examples. -/
def Specification.strings (s : Specification) : List Text :=
  s.comments.getD [] ++ s.identifier.toList ++ s.labels.getD [] ++ s.description.toList ++
    s.values.strings

/-! ## Lines of cells -/

namespace Aligned

open Grammar (alignedCells)

/-- All lines have the same number of characters. -/
def Flush (lines : List Text) : Prop := ∀ a ∈ lines, ∀ b ∈ lines, a.length = b.length

/-- Blanks, and then cells of three hyphens or more. -/
def IsRule (line : Text) : Prop :=
  ∃ (margin : Nat) (widths : List Nat), (∀ width ∈ widths, 3 ≤ width) ∧
    line = List.replicate margin ' ' ++
      widths.flatMap (fun width => ['|', ' '] ++ List.replicate width '-' ++ [' ']) ++ ['|']

theorem flush_of_length {lines : List Text} {n : Nat}
    (h : ∀ l ∈ lines, l.length = n) : Flush lines :=
  fun a ha b hb => (h a ha).trans (h b hb).symm

theorem Flush.shift {lines : List Text} (h : Flush lines) (level : Nat) :
    Flush (lines.map (Row.shift level)) := by
  refine List.forall_mem_map.2 fun a ha => List.forall_mem_map.2 fun b hb => ?_
  rw [Row.length_shift, Row.length_shift, h a ha b hb]

theorem IsRule.shift {line : Text} (h : IsRule line) (level : Nat) :
    IsRule (Row.shift level line) := by
  obtain ⟨margin, widths, hwidths, rfl⟩ := h
  exact ⟨2 * level + margin, widths, hwidths, by simp [Row.shift, ← List.append_assoc]⟩

/-- Cells of hyphens make a rule. -/
theorem isRule_separatorCells {columns : List (Text × Nat)} (h : ∀ column ∈ columns, 3 ≤ column.2)
    (margin : Nat) : IsRule (List.replicate margin ' ' ++ separatorCells columns ++ ['|']) := by
  refine ⟨margin, columns.map Prod.snd, List.forall_mem_map.2 h, ?_⟩
  rw [separatorCells, List.flatMap_map]
  simp [separator, cell, padTo]

/-! ### Widths -/

theorem le_foldl_max {α : Type} (f : α → Nat) (as : List α) (n : Nat) :
    n ≤ as.foldl (fun n a => max n (f a)) n ∧
      ∀ a ∈ as, f a ≤ as.foldl (fun n a => max n (f a)) n := by
  induction as generalizing n with
  | nil => simp
  | cons a as ih =>
    obtain ⟨hfirst, hrest⟩ := ih (max n (f a))
    rw [List.foldl_cons, List.forall_mem_cons]
    exact ⟨by omega, by omega, hrest⟩

theorem length_le_longest {texts : List Text} {t : Text} (h : t ∈ texts) :
    t.length ≤ longest texts :=
  (le_foldl_max List.length texts 0).2 t h

/-- **A pair fits**, so a value has room for a blank and itself behind its key. -/
theorem length_pair_le {pairs : OrderedMap Text Text} {pair : Text × Text}
    (h : pair ∈ pairs.entries) :
    pair.1.length + pair.2.length ≤ longestPair pairs :=
  (le_foldl_max (fun pair : Text × Text => pair.1.length + pair.2.length) pairs.entries 0).2 pair h

theorem length_le_columnWidth (rows : List (OrderedMap Text Text)) (name : Text) :
    name.length ≤ columnWidth rows name := by
  unfold columnWidth
  omega

/-- A column has room for whatever a row has in it. -/
theorem length_get?_le {rows : List (OrderedMap Text Text)} {row : OrderedMap Text Text}
    (h : row ∈ rows) (name : Text) : ((row.get? name).getD []).length ≤ columnWidth rows name := by
  cases hvalue : row.get? name with
  | none => exact Nat.zero_le _
  | some value =>
    have hmem : value ∈ rows.filterMap (·.get? name) := List.mem_filterMap.2 ⟨row, h, hvalue⟩
    have hlongest := length_le_longest hmem
    show value.length ≤ columnWidth rows name
    unfold columnWidth
    omega

/-! ### Lengths -/

/-- The number of characters in the cells of a line. -/
def totalWidth : List Nat → Nat
  | [] => 0
  | width :: widths => width + 3 + totalWidth widths

theorem length_cell {width : Nat} {value : Text} (h : value.length ≤ width) :
    (cell width value).length = width + 3 := by
  simp [cell]
  omega

theorem length_alignedCells {cells : List (Text × Nat)} (h : ∀ c ∈ cells, c.1.length ≤ c.2) :
    (alignedCells cells).length = totalWidth (cells.map Prod.snd) := by
  induction cells with
  | nil => rfl
  | cons c cells ih =>
    obtain ⟨hc, hcells⟩ := List.forall_mem_cons.1 h
    have hlength : (alignedCells (c :: cells)).length =
        (cell c.2 c.1).length + (alignedCells cells).length := by
      simp [alignedCells]
    rw [hlength, length_cell hc, ih hcells]
    simp [totalWidth]

theorem length_separatorCells (columns : List (Text × Nat)) :
    (separatorCells columns).length = totalWidth (columns.map Prod.snd) := by
  rw [Grammar.separatorCells_eq, length_alignedCells]
  · rw [List.map_map]
    rfl
  · exact List.forall_mem_map.2 fun _ _ => by simp

theorem length_headerCells (rows : List (OrderedMap Text Text)) :
    (headerCells (columns rows)).length = totalWidth ((columns rows).map Prod.snd) := by
  refine length_alignedCells (List.forall_mem_map.2 fun name _ => ?_)
  exact length_le_columnWidth rows name

theorem length_valueCells {rows : List (OrderedMap Text Text)} {row : OrderedMap Text Text}
    (h : row ∈ rows) :
    (valueCells (columns rows) row).length = totalWidth ((columns rows).map Prod.snd) := by
  rw [Grammar.valueCells_eq, length_alignedCells]
  · rw [List.map_map]
    rfl
  · rw [columns, List.map_map]
    exact List.forall_mem_map.2 fun name _ => length_get?_le h name

/-! ### Line ends -/

section OneLine

variable {c : Char} (hc : c ∉ "| ".toList)
include hc

theorem not_mem_alignedCells {cells : List (Text × Nat)} (h : ∀ cell ∈ cells, c ∉ cell.1) :
    c ∉ alignedCells cells := by
  intro hmem
  obtain ⟨cell, hcell, hin⟩ := List.mem_flatMap.1 hmem
  have hnot := h cell hcell
  simp_all [Aligned.cell, padTo]

theorem not_mem_headerCells {rows : List (OrderedMap Text Text)}
    (h : ∀ row ∈ rows, ∀ t ∈ row.strings, c ∉ t) : c ∉ headerCells (columns rows) := by
  refine not_mem_alignedCells hc (List.forall_mem_map.2 fun name hname => ?_)
  obtain ⟨row, hrow, hkey⟩ := List.mem_flatMap.1 (List.mem_eraseDups.1 hname)
  exact h row hrow name (List.mem_append_left _ hkey)

theorem not_mem_valueCells {rows : List (OrderedMap Text Text)} {row : OrderedMap Text Text}
    (h : ∀ t ∈ row.strings, c ∉ t) : c ∉ valueCells (columns rows) row := by
  rw [Grammar.valueCells_eq]
  refine not_mem_alignedCells hc (List.forall_mem_map.2 fun column _ => ?_)
  show c ∉ (row.get? column.1).getD []
  cases hvalue : row.get? column.1 with
  | none => exact List.not_mem_nil
  | some value =>
    have hmem : value ∈ row.values :=
      List.mem_map_of_mem (f := Prod.snd) (OrderedMap.mem_of_get? hvalue)
    exact h value (List.mem_append_right _ hmem)

theorem not_mem_separatorCells (columns : List (Text × Nat)) (hhyphen : c ≠ '-') :
    c ∉ separatorCells columns := by
  rw [Grammar.separatorCells_eq]
  refine not_mem_alignedCells hc (List.forall_mem_map.2 fun column _ hmem => ?_)
  exact hhyphen (List.mem_replicate.1 hmem).2

end OneLine

/-! ### Blocks of data -/

theorem flush_table (rows : List (OrderedMap Text Text)) : Flush (table rows) := by
  refine @flush_of_length _ (totalWidth ((columns rows).map Prod.snd) + 1) ?_
  simp only [table, List.forall_mem_cons, List.forall_mem_map, List.length_append,
    List.length_singleton]
  exact ⟨by rw [length_headerCells], by rw [length_separatorCells], fun row hrow => by
    rw [length_valueCells hrow]⟩

theorem flush_matrix (rows : OrderedMap Text (OrderedMap Text Text)) : Flush (matrix rows) := by
  obtain ⟨width, hwidth⟩ : ∃ width, max (longest rows.keys) minimumWidth = width := ⟨_, rfl⟩
  have hnames : ∀ entry ∈ rows.entries, entry.1.length ≤ width := fun entry hentry => by
    have hkey := length_le_longest (List.mem_map_of_mem (f := Prod.fst) hentry)
    have : longest rows.keys ≤ width := by omega
    exact hkey.trans this
  refine @flush_of_length _ (width + 3 + totalWidth ((columns rows.values).map Prod.snd) + 1) ?_
  simp only [matrix, hwidth, List.forall_mem_cons, List.forall_mem_map, List.length_append,
    List.length_singleton]
  refine ⟨?_, ?_, fun entry hentry => ?_⟩
  · rw [length_headerCells, length_cell (Nat.zero_le _)]
  · rw [length_separatorCells, separator, length_cell (by simp)]
  · have hrow : entry.2 ∈ rows.values := List.mem_map_of_mem hentry
    rw [length_valueCells hrow, length_cell (hnames entry hentry)]

theorem flush_list (items : List Text) : Flush (list items) := by
  refine @flush_of_length _ (longest items + 4) (List.forall_mem_map.2 fun item hitem => ?_)
  rw [List.length_append, length_cell (length_le_longest hitem)]
  rfl

theorem flush_keyValues (pairs : OrderedMap Text Text) : Flush (keyValues pairs) := by
  refine @flush_of_length _ (longestPair pairs + 6) (List.forall_mem_map.2 fun pair hpair => ?_)
  have hfits := length_pair_le hpair
  simp only [List.length_append, List.length_cons, List.length_nil, length_padTo]
  omega

/-- **The lines of a block of data are flush**, unless it is a text. -/
theorem flush_rows {d : Data} (h : d.text? = none) : Flush d.rows := by
  cases d with
  | text content => cases h
  | list items => exact flush_list items
  | keyValues pairs => exact flush_keyValues pairs
  | table rows => exact flush_table rows
  | matrix rows => exact flush_matrix rows

/-- The lines of a block of data end with a pipe, unless it is a text. -/
theorem exists_pipe {d : Data} (h : d.text? = none) {l : Text} (hl : l ∈ d.rows) :
    ∃ t, l = t ++ ['|'] := by
  cases d with
  | text content => cases h
  | list items | keyValues pairs =>
    obtain ⟨_, -, rfl⟩ := List.mem_map.1 hl
    exact ⟨_, rfl⟩
  | table rows | matrix rows =>
    rcases List.mem_cons.1 hl with rfl | hl
    · exact ⟨_, rfl⟩
    rcases List.mem_cons.1 hl with rfl | hl
    · exact ⟨_, rfl⟩
    obtain ⟨_, -, rfl⟩ := List.mem_map.1 hl
    exact ⟨_, rfl⟩

/-- No line of a block of data holds a line end if no text in it does. -/
theorem oneLine_rows {d : Data} (h : d.text? = none) (hone : ∀ t ∈ d.strings, '\n' ∉ t) :
    ∀ l ∈ d.rows, '\n' ∉ l := by
  have hcells {cells : List (Text × Nat)} := @not_mem_alignedCells '\n' (by decide) cells
  have hheader {rows} := @not_mem_headerCells '\n' (by decide) rows
  have hvalues {rows row} := @not_mem_valueCells '\n' (by decide) rows row
  have hseparator (columns) := @not_mem_separatorCells '\n' (by decide) columns (by decide)
  have hfront {width : Nat} {t : Text} (ht : '\n' ∉ t) : '\n' ∉ cell width t := by
    simpa [alignedCells] using @hcells [(t, width)] (by simpa using ht)
  cases d with
  | text content => cases h
  | list items =>
    exact List.forall_mem_map.2 fun item hitem => by simp [hfront (hone item hitem)]
  | keyValues pairs =>
    refine List.forall_mem_map.2 fun pair hpair => ?_
    have hkey := hone pair.1 (List.mem_append_left _ (List.mem_map_of_mem hpair))
    have hvalue := hone pair.2 (List.mem_append_right _ (List.mem_map_of_mem hpair))
    simp [padTo, hkey, hvalue]
  | table rows =>
    have hrow : ∀ row ∈ rows, ∀ t ∈ row.strings, '\n' ∉ t := fun row hrow t ht =>
      hone t (List.mem_flatMap.2 ⟨row, hrow, ht⟩)
    simp only [Data.rows, table, List.forall_mem_cons, List.forall_mem_map]
    exact ⟨by simp [hheader hrow], by simp [hseparator], fun row hmem => by
      simp [hvalues (hrow row hmem)]⟩
  | matrix rows =>
    have hrow : ∀ row ∈ rows.values, ∀ t ∈ row.strings, '\n' ∉ t := fun row hrow t ht =>
      hone t (List.mem_append_right _ (List.mem_flatMap.2 ⟨row, hrow, ht⟩))
    have hkey : ∀ entry ∈ rows.entries, '\n' ∉ entry.1 := fun entry hentry =>
      hone entry.1 (List.mem_append_left _ (List.mem_map_of_mem hentry))
    simp only [Data.rows, matrix, List.forall_mem_cons, List.forall_mem_map]
    refine ⟨by simp [hheader hrow, hfront], ?_, fun entry hentry => ?_⟩
    · have hwidth {width : Nat} : '\n' ∉ separator width := hfront (by simp)
      simp [hseparator, hwidth]
    · simp [hvalues (hrow entry.2 (List.mem_map_of_mem hentry)), hfront (hkey entry hentry)]

end Aligned

/-! ## Tables of examples -/

namespace Canonical

open Aligned Grammar

theorem length_le_widest {texts : List Text} {t : Text} (h : t ∈ texts) {width : Nat}
    (hwidth : widest? texts = some width) : t.length ≤ width := by
  unfold widest? at hwidth
  split at hwidth
  · cases hwidth
  · cases hwidth
    exact length_le_longest h

namespace TableLayout

variable (layout : TableLayout)

/-- The number of characters of a line. -/
def lineLength : Nat :=
  layout.metadataWidth.elim 0 (· + 1) + totalWidth layout.descriptionWidth.toList +
    totalWidth (layout.columns.map Prod.snd) + 1

variable {layout}

theorem length_descriptionCell {value : Text}
    (h : ∀ width, layout.descriptionWidth = some width → value.length ≤ width) :
    (layout.descriptionCell (cell · value)).length = totalWidth layout.descriptionWidth.toList := by
  unfold descriptionCell
  cases hwidth : layout.descriptionWidth with
  | none => rfl
  | some width => simp [length_cell (h width hwidth), totalWidth]

theorem length_line {front description cells : Text}
    (hfront : ∀ width, layout.metadataWidth = some width → front.length ≤ width)
    (hdescription : description.length = totalWidth layout.descriptionWidth.toList)
    (hcells : cells.length = totalWidth (layout.columns.map Prod.snd)) :
    (layout.line front description cells).length = layout.lineLength := by
  unfold line lineLength
  cases hwidth : layout.metadataWidth with
  | none =>
    simp [hdescription, hcells]
    omega
  | some width =>
    have hmax : max width front.length = width := Nat.max_eq_left (hfront width hwidth)
    simp [hdescription, hcells, hmax]
    omega

/-- **The lines of one table of examples are flush**, whatever stands in front of its cells. -/
theorem flush (specs : List Specification) :
    Flush ((TableLayout.of specs).headerLine :: (TableLayout.of specs).separatorLine ::
      specs.map (TableLayout.of specs).rowLine) := by
  refine @flush_of_length _ (TableLayout.of specs).lineLength ?_
  rw [List.forall_mem_cons, List.forall_mem_cons, List.forall_mem_map]
  refine ⟨length_line (by simp) (length_descriptionCell (by simp)) (length_headerCells _),
    length_line (by simp) ?_ (length_separatorCells _), fun s hs => length_line ?_ ?_ ?_⟩
  · rw [TableLayout.descriptionCell_separator, length_separatorCells, front, List.map_map]
    exact congrArg totalWidth (List.map_id _)
  · intro width hwidth
    cases ht : rowMetadata? s with
    | none => exact Nat.zero_le _
    | some t => exact length_le_widest (List.mem_filterMap.2 ⟨s, hs, ht⟩) hwidth
  · refine length_descriptionCell fun width hwidth => ?_
    cases ht : s.description with
    | none => exact Nat.zero_le _
    | some t =>
      obtain ⟨longest, hlongest, rfl⟩ := Option.map_eq_some_iff.1 hwidth
      exact (length_le_widest (List.mem_filterMap.2 ⟨s, hs, ht⟩) hlongest).trans
        (Nat.le_max_right _ _)
  · exact length_valueCells (List.mem_map_of_mem hs)

/-- The second line of a table is one of hyphens. -/
theorem isRule_separatorLine (specs : List Specification) :
    IsRule (TableLayout.of specs).separatorLine := by
  obtain ⟨margin, hline⟩ := @TableLayout.exists_line (TableLayout.of specs) []
    ((TableLayout.of specs).descriptionCell separator)
    (separatorCells (TableLayout.of specs).columns) fun _ => rfl
  have hcells := isRule_separatorCells (fun _ => @minimumWidth_le specs [] _) margin
  rw [separatorLine, hline, TableLayout.descriptionCell_separator]
  simpa [separatorCells] using hcells

/-! ### Line ends -/

theorem not_mem_line {front description cells : Text} (hfront : '\n' ∉ front)
    (hdescription : '\n' ∉ description) (hcells : '\n' ∉ cells) :
    '\n' ∉ layout.line front description cells := by
  unfold line
  cases layout.metadataWidth <;> simp [padTo, hfront, hdescription, hcells]

theorem not_mem_descriptionCell {value : Text} (h : '\n' ∉ value) :
    '\n' ∉ layout.descriptionCell (cell · value) := by
  rw [TableLayout.descriptionCell_eq]
  refine not_mem_alignedCells (by decide) fun cell hcell => ?_
  obtain ⟨width, -, rfl⟩ := List.mem_map.1 hcell
  exact h

end TableLayout

variable {s : Specification}

theorem not_mem_rowMetadata? (h : ∀ t ∈ s.strings, '\n' ∉ t) : '\n' ∉ (rowMetadata? s).getD [] := by
  cases ht : rowMetadata? s with
  | none => exact List.not_mem_nil
  | some t =>
    refine @not_mem_metadata? ⟨s.identifier, s.labels⟩ '\n' ⟨?_, ?_⟩ (by decide) t ht
    · intro i hi
      have hi : s.identifier = some i := hi
      exact h i (by simp [Specification.strings, hi])
    · intro ls hls l hl
      have hls : s.labels = some ls := hls
      exact h l (by simp [Specification.strings, hls, hl])

theorem oneLine_rowComments (h : ∀ t ∈ s.strings, '\n' ∉ t) :
    Row.OneLine (comments s.comments) := by
  cases hcs : s.comments with
  | none => exact Row.oneLine_nil
  | some cs =>
    refine Row.oneLine_blank.2 fun content hcontent => ?_
    obtain ⟨c, hc, heq⟩ := List.mem_map.1 hcontent
    cases heq
    have hmem := h c (by simp [Specification.strings, hcs, hc])
    simp [hmem]

/-- No line of a table of examples holds a line end if no text in its rows does. -/
theorem oneLine_examplesTable {es : List Example}
    (h : ∀ s ∈ es.filterMap Example.specification, ∀ t ∈ s.strings, '\n' ∉ t) :
    Row.OneLine (examplesTable es) := by
  have hvalues : ∀ s ∈ es.filterMap Example.specification, ∀ t ∈ s.values.strings, '\n' ∉ t :=
    fun s hs t ht => h s hs t (by simp [Specification.strings, ht])
  have hrows : ∀ row ∈ (es.filterMap Example.specification).map Specification.values,
      ∀ t ∈ row.strings, '\n' ∉ t := List.forall_mem_map.2 hvalues
  have hseparator (columns) := @not_mem_separatorCells '\n' (by decide) columns (by decide)
  simp only [examplesTable, TableLayout.header, Row.oneLine_append, Row.oneLine_text,
    Row.oneLine_nil, Row.oneLine_flatMap, and_true]
  refine ⟨⟨?_, ?_⟩, fun s hs => ?_⟩
  · exact TableLayout.not_mem_line (by simp) (TableLayout.not_mem_descriptionCell (by simp))
      (not_mem_headerCells (by decide) hrows)
  · rw [TableLayout.descriptionCell_separator]
    exact TableLayout.not_mem_line (by simp) (hseparator _) (hseparator _)
  · rw [TableLayout.row, Row.oneLine_append, Row.oneLine_text]
    refine ⟨oneLine_rowComments (h s hs), TableLayout.not_mem_line (not_mem_rowMetadata? (h s hs))
      (TableLayout.not_mem_descriptionCell ?_) (not_mem_valueCells (by decide) (hvalues s hs)),
      Row.oneLine_nil⟩
    cases ht : s.description with
    | none => exact List.not_mem_nil
    | some t => exact h s hs t (by simp [Specification.strings, ht])

/-! ## Written tables -/

/-- **Blocks of data are written line by line**, wherever they stand. -/
theorem writtenAs_data {d : Data} (h : d.text? = none) (hone : ∀ t ∈ d.strings, '\n' ∉ t)
    (level : Nat) :
    Row.WrittenAs (Row.indent^[level] (data (some d))) (d.rows.map (Row.shift (level + 1))) := by
  have hpipe : ∀ l ∈ d.rows, (Row.text (Row.shift (level + 1) l)).line =
      Row.shift (level + 1) l := by
    intro l hl
    obtain ⟨t, rfl⟩ := exists_pipe h hl
    exact Row.line_shift_pipe _ t
  have hfilled : ∀ l ∈ d.rows, l ≠ [] := by
    intro l hl
    obtain ⟨t, rfl⟩ := exists_pipe h hl
    simp
  have hrows : Row.indent^[level] (data (some d)) =
      (d.rows.map (Row.shift (level + 1))).map .text ++ [.blank] := by
    rw [data, Row.iterate_indent_append, Row.iterate_indent_blank, Row.iterate_indent_nil,
      ← Function.iterate_succ_apply, Row.iterate_indent_texts hfilled]
  rw [hrows]
  cases hlines : d.rows with
  | nil => exact Row.writtenAs_blank
  | cons l ls =>
    rw [hlines] at hpipe
    have htexts : Row.OneLine ((d.rows.map (Row.shift (level + 1))).map .text) :=
      Row.oneLine_map_text.2 (List.forall_mem_map.2 fun t ht => by
        simpa using oneLine_rows h hone t ht)
    rw [hlines] at htexts
    have hwritten := (Row.tight_texts (ls.map (Row.shift (level + 1)))).writtenAs htexts [.blank]
    have hmap : (((l :: ls).map (Row.shift (level + 1))).map Row.text).map Row.line =
        (l :: ls).map (Row.shift (level + 1)) := by
      rw [List.map_map, List.map_map]
      exact List.map_congr_left hpipe
    rw [← List.map_cons, ← List.map_cons, hmap] at hwritten
    exact hwritten

/-- The lines of the comments above a row. -/
def commentLines (level : Nat) (s : Specification) : List Text :=
  (Row.indent^[level] (comments s.comments)).map Row.line

/-- The rows of the comments above a row, at a level. -/
theorem exists_indent_comments (level : Nat) (cs : Comments) :
    ∃ texts : List Text, Row.indent^[level] (comments cs) =
      if cs.isSome then .blank :: texts.map .text else [] := by
  cases cs with
  | none => exact ⟨[], Row.iterate_indent_nil level⟩
  | some cs =>
    refine ⟨(cs.map ("// ".toList ++ ·)).map (Row.shift level), ?_⟩
    rw [← Row.iterate_indent_texts (List.forall_mem_map.2 fun c _ => by simp), List.map_map]
    exact Row.iterate_indent_blank level _

/-- Comments and the row below them are kept as they are. -/
theorem tight_commented (level : Nat) (cs : Comments) (row : Text) :
    Row.Tight (Row.indent^[level] (comments cs) ++ [.text row]) := by
  obtain ⟨texts, htexts⟩ := exists_indent_comments level cs
  have hrow : texts.map Row.text ++ [.text row] = (texts ++ [row]).map .text := by simp
  rw [htexts]
  cases cs with
  | none => exact Row.tight_texts [row]
  | some cs =>
    rw [Option.isSome_some, if_pos rfl, List.cons_append, hrow]
    exact Row.tight_blank (by simp)

/-- **Tables of examples are written line by line**, with the comments above their rows. -/
theorem writtenAs_examplesTable {es : List Example}
    (h : ∀ s ∈ es.filterMap Example.specification, ∀ t ∈ s.strings, '\n' ∉ t) (level : Nat) :
    Row.WrittenAs (Row.indent^[level] (examplesTable es))
      (let specs := es.filterMap Example.specification
       let layout := TableLayout.of specs
       Row.shift level layout.headerLine :: Row.shift level layout.separatorLine ::
        specs.flatMap fun s => commentLines level s ++ [Row.shift level (layout.rowLine s)]) := by
  have hone : Row.OneLine (Row.indent^[level] (examplesTable es)) :=
    Row.OneLine.iterate_indent (oneLine_examplesTable h) level
  obtain ⟨specs, hspecs⟩ : ∃ specs, es.filterMap Example.specification = specs := ⟨_, rfl⟩
  obtain ⟨layout, hlayout⟩ : ∃ layout, TableLayout.of specs = layout := ⟨_, rfl⟩
  have hline (front description cells : Text) :
      Row.indent^[level] [.text (layout.line front description cells)] =
        [.text (Row.shift level (layout.line front description cells))] :=
    Row.iterate_indent_text (by simp [TableLayout.line]) level
  have hpipe (front description cells : Text) :
      (Row.text (Row.shift level (layout.line front description cells))).line =
        Row.shift level (layout.line front description cells) :=
    Row.line_shift_pipe level _
  have hrows : Row.indent^[level] (examplesTable es) =
      .text (Row.shift level layout.headerLine) ::
        ([.text (Row.shift level layout.separatorLine)] ++
        specs.flatMap fun s => Row.indent^[level] (comments s.comments) ++
          [.text (Row.shift level (layout.rowLine s))]) := by
    rw [examplesTable, hspecs, hlayout, TableLayout.header, Row.iterate_indent_append,
      ← List.singleton_append, Row.iterate_indent_append, hline, hline, Row.iterate_indent_flatMap]
    simp only [TableLayout.row, Row.iterate_indent_append, hline]
    rfl
  rw [hrows] at hone ⊢
  have htight := (Row.tight_texts [Row.shift level layout.separatorLine]).append
    (Row.Tight.flatMap fun s (_ : s ∈ specs) =>
      tight_commented level s.comments (Row.shift level (layout.rowLine s)))
  have hwritten := htight.writtenAs hone []
  rw [List.append_nil] at hwritten
  simp only [hspecs, hlayout]
  simpa [commentLines, List.map_flatMap, hpipe, TableLayout.headerLine, TableLayout.separatorLine,
    TableLayout.rowLine] using hwritten

/-- **Tables stand in columns.**  Wherever a block of data that is no text, or a table of examples,
is written and however far to the right, its rows have the same number of characters, with the
margin for identifiers and labels in front of them.  Every cell of the row below the names has three
hyphens or more, and no key is too long for the room that a pair has. -/
theorem tables_flush :
    (∀ d : Data, d.text? = none → (∀ t ∈ d.strings, '\n' ∉ t) → ∀ level,
      let lines := d.rows.map (Row.shift (level + 1))
      Row.WrittenAs (Row.indent^[level] (data (some d))) lines ∧ Flush lines ∧
        (d.table?.isSome ∨ d.matrix?.isSome → ∃ rule, lines[1]? = some rule ∧ IsRule rule)) ∧
    (∀ es : List Example,
      (∀ s ∈ es.filterMap Example.specification, ∀ t ∈ s.strings, '\n' ∉ t) → ∀ level,
      let specs := es.filterMap Example.specification
      let layout := TableLayout.of specs
      let header := Row.shift level layout.headerLine
      let rule := Row.shift level layout.separatorLine
      let row := fun s => Row.shift level (layout.rowLine s)
      Row.WrittenAs (Row.indent^[level] (examplesTable es))
          (header :: rule :: specs.flatMap fun s => commentLines level s ++ [row s]) ∧
        Flush (header :: rule :: specs.map row) ∧ IsRule rule) ∧
    ∀ pairs : OrderedMap Text Text, ∀ pair ∈ pairs.entries,
      pair.1.length ≤ longestPair pairs + 1 := by
  refine ⟨fun d htext hone level =>
    ⟨writtenAs_data htext hone level, (flush_rows htext).shift _, ?_⟩,
    fun es hone level => ⟨writtenAs_examplesTable hone level, ?_,
      (TableLayout.isRule_separatorLine _).shift level⟩, fun pairs pair hpair => ?_⟩
  · rintro hkind
    have hrule : ∃ rule, d.rows[1]? = some rule ∧ IsRule rule := by
      cases d with
      | table rows =>
        exact ⟨_, rfl, isRule_separatorCells (fun _ => width_columns) 0⟩
      | matrix rows =>
        obtain ⟨width, hwidth⟩ : ∃ width, max (longest rows.keys) minimumWidth = width := ⟨_, rfl⟩
        have hmin : 3 ≤ width := hwidth ▸ Nat.le_max_right _ _
        have hcolumns : ∀ column ∈ ([], width) :: columns rows.values, 3 ≤ column.2 :=
          List.forall_mem_cons.2 ⟨hmin, fun _ => width_columns⟩
        refine ⟨_, rfl, ?_⟩
        rw [hwidth]
        exact isRule_separatorCells hcolumns 0
      | text _ | list _ | keyValues _ => simp [Data.table?, Data.matrix?] at hkind
    obtain ⟨rule, hsecond, hrule⟩ := hrule
    exact ⟨Row.shift (level + 1) rule, by simp [hsecond], hrule.shift _⟩
  · have hflush := (TableLayout.flush (es.filterMap Example.specification)).shift level
    simpa [Function.comp_def] using hflush
  · have := length_pair_le hpair
    omega

/-- A matrix whose second row lacks a column, and a table of examples whose first row has an
identifier and a comment and whose second row has a description. -/
theorem tables_flush_ragged :
    ∃ (d : Data) (es : List Example),
      d.text? = none ∧ (∀ t ∈ d.strings, '\n' ∉ t) ∧
      (∀ s ∈ es.filterMap Example.specification, ∀ t ∈ s.strings, '\n' ∉ t) ∧
      Row.render (data (some d)) = ("  |       | amount |\n  | ----- | ------ |\n".toList ++
        "  | first | 2      |\n  | b     |        |\n\n".toList) ∧
      Flush (d.rows.map (Row.shift 1)) ∧
      Row.render (examplesTable es) = ("     |      | a   |\n     | ---- | --- |\n\n".toList ++
        "// note\n#one |      | 1   |\n     | last | 10  |\n".toList) ∧
      IsRule (Row.shift 0 (TableLayout.of (es.filterMap Example.specification)).separatorLine) := by
  let value (t : String) : OrderedMap Text Text := .ofList [("a".toList, t.toList)]
  let row (s : Specification) : Example := ⟨none, none, none, none, none, [], none, some s⟩
  obtain ⟨d, hd⟩ : ∃ d : Data, d = .matrix (.ofList
    [("first".toList, .ofList [("amount".toList, "2".toList)]), ("b".toList, .empty)]) := ⟨_, rfl⟩
  obtain ⟨es, hes⟩ : ∃ es, es =
    [row ⟨some ["note".toList], some "one".toList, none, none, value "1"⟩,
      row ⟨none, none, none, some "last".toList, value "10"⟩] := ⟨_, rfl⟩
  have htext : d.text? = none := by rw [hd]; rfl
  have hdata : ∀ t ∈ d.strings, '\n' ∉ t := by rw [hd]; decide
  have hrows : ∀ s ∈ es.filterMap Example.specification, ∀ t ∈ s.strings, '\n' ∉ t := by
    rw [hes]; decide
  refine ⟨d, es, htext, hdata, hrows, ?_, (tables_flush.1 d htext hdata 0).2.1, ?_,
    (tables_flush.2.1 es hrows 0).2.2⟩
  · rw [hd]
    decide +kernel
  · rw [hes]
    decide +kernel

end Canonical

end PlainSpec
