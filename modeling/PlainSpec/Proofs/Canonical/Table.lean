import PlainSpec.Canonical.Table
import PlainSpec.Proofs.Grammar.Rows

/-!
# Aligned tables are read back

The lines of a table are cut into the cells that were written, whatever their widths, and the cells
are read as the data that they were written for.

## Main definitions

* `Data.Filled`: no key and no value of key-value pairs is empty.
* `Data.PrintsAs`: the cells of the lines of a block of data.

## Main results

* `Grammar.splitCells_frames`, `Grammar.cuts_alignedCells`: lines are cut into their cells.
* `Data.exists_printsAs`: the cells of data that were read from rows are read as these data.
-/

namespace PlainSpec

/-! ## Lines of cells -/

namespace Grammar

theorem flatMap_pipe {frames : List Text} (hne : frames ≠ []) :
    frames.flatMap ('|' :: ·) = '|' :: Text.join ['|'] frames := by
  induction frames with
  | nil => exact absurd rfl hne
  | cons frame frames ih =>
    cases frames with
    | nil => simp [Text.join]
    | cons next frames =>
      rw [List.flatMap_cons, ih (by simp), Text.join, Text.join, List.intercalate_cons_cons]
      simp

/-- **A line of frames between pipes is cut into what is framed.** -/
theorem splitCells_frames {frames : List Text} (hne : frames ≠ []) (hpipe : ∀ f ∈ frames, '|' ∉ f)
    (hcontent : frames.map Text.trim ≠ [[]]) :
    splitCells (frames.flatMap ('|' :: ·) ++ ['|']) = .ok (frames.map Text.trim) := by
  have hfilled : (Text.join ['|'] frames).trim ≠ [] := by
    rw [ne_eq, Text.trim_eq_nil]
    intro hblank
    match frames, hne with
    | [frame], _ =>
      rw [Text.join, List.intercalate_singleton, ← Text.trim_eq_nil] at hblank
      exact hcontent (by simp [hblank])
    | frame :: next :: frames, _ =>
      rw [Text.join, List.intercalate_cons_cons, Text.allBlank_append, Text.allBlank_append,
        Text.allBlank_cons] at hblank
      exact absurd hblank.1.2.1 (by decide)
  refine splitCells_eq_ok.2 ⟨Text.join ['|'] frames, by rw [flatMap_pipe hne], hfilled, ?_⟩
  rw [Text.join, List.splitOn_intercalate '|' hpipe hne]

/-- What stands between two pipes. -/
def framed (width : Nat) (value : Text) : Text := ' ' :: Aligned.padTo width value ++ [' ']

theorem trim_framed {value : Text} (h : value.Neat) (width : Nat) :
    (framed width value).trim = value := by
  have hblank : Text.AllBlank (List.replicate (width - value.length) ' ' ++ [' ']) :=
    Text.allBlank_append.2 ⟨Text.allBlank_replicate _, Text.allBlank_space⟩
  have := h.trim_between Text.allBlank_space hblank
  simpa [framed, Aligned.padTo] using this

theorem not_mem_framed {value : Text} {c : Char} (h : c ∉ value) (hc : c ≠ ' ') (width : Nat) :
    c ∉ framed width value := by
  simp [framed, Aligned.padTo, h, hc]

/-- Aligned cells, each a value and its width. -/
def alignedCells (cells : List (Text × Nat)) : Text :=
  cells.flatMap fun (value, width) => Aligned.cell width value

/-- The line is cut into these cells. -/
structure Cuts (line : Text) (cells : List Text) : Prop where
  split : splitCells line = .ok cells
  oneLine : '\n' ∉ line

/-- **A line of aligned cells is cut into its values.** -/
theorem cuts_alignedCells {cells : List (Text × Nat)} (h : LegibleCells (cells.map Prod.fst)) :
    Cuts (alignedCells cells ++ ['|']) (cells.map Prod.fst) := by
  -- every cell is a pipe and a frame, so the line is cut at the pipes
  have hframes : alignedCells cells =
      (cells.map fun (value, width) => framed width value).flatMap ('|' :: ·) := by
    rw [List.flatMap_map]
    rfl
  have htrim : (cells.map fun (value, width) => framed width value).map Text.trim =
      cells.map Prod.fst := by
    rw [List.map_map]
    refine List.map_congr_left fun cell hcell => ?_
    exact trim_framed (h.cell _ (List.mem_map_of_mem hcell)).1 _
  rw [hframes]
  constructor
  · rw [splitCells_frames, htrim]
    · simpa using h.nonempty
    · intro f hf
      obtain ⟨cell, hcell, rfl⟩ := List.mem_map.1 hf
      exact not_mem_framed (h.cell _ (List.mem_map_of_mem hcell)).2 (by decide) _
    · rw [htrim]
      exact h.content
  · simp only [List.mem_append, List.mem_flatMap, List.mem_map, List.mem_singleton]
    rintro (⟨f, ⟨cell, hcell, rfl⟩, hmem⟩ | hmem)
    · rcases List.mem_cons.1 hmem with heq | hmem
      · cases heq
      · exact not_mem_framed (h.cell _ (List.mem_map_of_mem hcell)).1.oneLine (by decide) _ hmem
    · cases hmem

theorem separatorCells_eq (columns : List (Text × Nat)) :
    Aligned.separatorCells columns =
      alignedCells (columns.map fun (_, width) => (List.replicate width '-', width)) := by
  rw [alignedCells, List.flatMap_map]
  rfl

theorem valueCells_eq (columns : List (Text × Nat)) (row : OrderedMap Text Text) :
    Aligned.valueCells columns row =
      alignedCells (columns.map fun (name, width) => ((row.get? name).getD [], width)) := by
  rw [alignedCells, List.flatMap_map]
  rfl

theorem Cuts.exists_cons {line : Text} {cells : List Text} (h : Cuts line cells) :
    ∃ rest : Text, line = '|' :: rest := by
  obtain ⟨inner, rfl, -⟩ := splitCells_eq_ok.1 h.split
  exact ⟨_, rfl⟩

/-- What is cut into cells has no blanks around it. -/
theorem Cuts.trim_eq {line : Text} {cells : List Text} (h : Cuts line cells) :
    line.trim = line := by
  obtain ⟨inner, rfl, -⟩ := splitCells_eq_ok.1 h.split
  rw [Text.trim_eq_self_iff]
  constructor
  · rintro c ⟨⟩
    rfl
  · intro c hc
    rw [List.getLast?_concat] at hc
    cases hc
    rfl

theorem Cuts.trim_ne_nil {line : Text} {cells : List Text} (h : Cuts line cells) :
    line.trim ≠ [] := by
  obtain ⟨rest, hline⟩ := h.exists_cons
  rw [h.trim_eq, hline]
  exact List.cons_ne_nil _ _

end Grammar

/-! ## Columns -/

namespace Aligned

theorem eraseDups_of_nodup {texts : List Text} (h : texts.Nodup) : texts.eraseDups = texts := by
  induction texts with
  | nil => rfl
  | cons t texts ih =>
    obtain ⟨hmem, hnodup⟩ := List.nodup_cons.1 h
    have hfilter : texts.filter (fun u => !u == t) = texts := by
      rw [List.filter_eq_self]
      intro u hu
      simpa using fun heq : u = t => hmem (heq ▸ hu)
    rw [List.eraseDups_cons, hfilter, ih hnodup]

/-- **Rows with the same columns have these columns.** -/
theorem columnNames_eq {rows : List (OrderedMap Text Text)} {columns : List Text} (hne : rows ≠ [])
    (hkeys : ∀ row ∈ rows, row.keys = columns) : columnNames rows = columns := by
  match rows, hne with
  | row :: rows, _ =>
    obtain ⟨hrow, hrows⟩ := List.forall_mem_cons.1 hkeys
    have hnodup : columns.Nodup := hrow ▸ row.nodup
    have hnone : (rows.flatMap OrderedMap.keys).removeAll columns = [] := by
      rw [List.removeAll, List.filter_eq_nil_iff]
      intro name hname
      obtain ⟨other, hother, hmem⟩ := List.mem_flatMap.1 hname
      rw [hrows other hother] at hmem
      simpa using hmem
    rw [columnNames, List.flatMap_cons, hrow, List.eraseDups_append, hnone,
      eraseDups_of_nodup hnodup]
    simp

theorem isSeparator_replicate {n : Nat} (h : 3 ≤ n) :
    Grammar.isSeparator (List.replicate n '-') = true := by
  simp [Grammar.isSeparator, h]

theorem neat_replicate (n : Nat) :
    Text.Neat (List.replicate n '-') ∧ '|' ∉ List.replicate n '-' := by
  have hmem {c : Char} (h : c ∈ List.replicate n '-') : c = '-' := (List.mem_replicate.1 h).2
  refine ⟨⟨?_, fun h => absurd (hmem h) (by decide)⟩, fun h => absurd (hmem h) (by decide)⟩
  rw [Text.trim_eq_self_iff]
  constructor
  · intro c hc
    rw [hmem (List.mem_of_mem_head? hc)]
    rfl
  · intro c hc
    rw [hmem (List.mem_of_mem_getLast? hc)]
    rfl

theorem minimumWidth_le_columnWidth (rows : List (OrderedMap Text Text)) (name : Text) :
    3 ≤ columnWidth rows name := by
  have : minimumWidth = 3 := rfl
  unfold columnWidth
  omega

/-- The columns of rows with the same columns. -/
theorem map_fst_columns {rows : List (OrderedMap Text Text)} {columns : List Text} (hne : rows ≠ [])
    (hkeys : ∀ row ∈ rows, row.keys = columns) : (Aligned.columns rows).map Prod.fst = columns := by
  rw [Aligned.columns, columnNames_eq hne hkeys, List.map_map]
  exact List.map_id _

theorem width_columns {rows : List (OrderedMap Text Text)} {column : Text × Nat}
    (h : column ∈ Aligned.columns rows) : 3 ≤ column.2 := by
  obtain ⟨name, -, rfl⟩ := List.mem_map.1 h
  exact minimumWidth_le_columnWidth rows name

end Aligned

/-! ## Data -/

/-- No key and no value of key-value pairs is empty. -/
def Data.Filled (d : Data) : Prop :=
  ∀ pairs, d = .keyValues pairs → ∀ entry ∈ pairs.entries, entry.1 ≠ [] ∧ entry.2 ≠ []

/-- The lines of the data with the cells that they are cut into.  Rows with these cells are read as
the data. -/
structure Data.PrintsAs (d : Data) (lines : List (Text × List Text)) : Prop where
  rows_eq : d.rows = lines.map Prod.fst
  nonempty : lines ≠ []
  cuts : ∀ line ∈ lines, Grammar.Cuts line.1 line.2
  read : ∀ rows : Several TableRow, rows.toList.map TableRow.cells = lines.map Prod.snd →
    Grammar.readRows rows = .ok d

namespace Grammar

/-- Rows with the cells of a table are a table. -/
theorem tabular_of_cells {rows : Several TableRow} {header separators : List Text}
    {values : List (List Text)}
    (h : rows.toList.map TableRow.cells = header :: separators :: values)
    (hseparators : separators.all isSeparator = true) (hlength : separators.length = header.length)
    (hne : values ≠ []) (hlengths : ∀ v ∈ values, v.length = header.length) :
    ∃ rest, Tabular rows header rest ∧ rest.map TableRow.cells = values := by
  obtain ⟨head, tail⟩ := rows
  simp only [Several.toList, List.map_cons, List.cons.injEq] at h
  obtain ⟨rfl, h⟩ := h
  obtain ⟨separator, rest, rfl, rfl, rfl⟩ := List.map_eq_cons_iff.1 h
  refine ⟨rest, ⟨rfl, ⟨separator, rfl, hseparators, hlength⟩, by simpa using hne, ?_⟩, rfl⟩
  intro row hrow
  exact hlengths row.cells (List.mem_map_of_mem hrow)

/-- The cells of hyphens below some columns. -/
def hyphens (columns : List (Text × Nat)) : List Text :=
  columns.map fun (_, width) => List.replicate width '-'

theorem all_hyphens {columns : List (Text × Nat)} (h : ∀ column ∈ columns, 3 ≤ column.2) :
    (hyphens columns).all isSeparator = true := by
  rw [hyphens, List.all_map, List.all_eq_true]
  intro column hcolumn
  exact Aligned.isSeparator_replicate (h column hcolumn)

theorem legibleCells_hyphens {columns : List (Text × Nat)} (hne : columns ≠ [])
    (h : ∀ column ∈ columns, 3 ≤ column.2) : LegibleCells (hyphens columns) := by
  refine ⟨by simpa [hyphens] using hne, fun hsingle => ?_, fun t ht => ?_⟩
  · have hall := all_hyphens h
    rw [hsingle] at hall
    exact absurd hall (by decide)
  · obtain ⟨column, -, rfl⟩ := List.mem_map.1 ht
    exact Aligned.neat_replicate _

theorem cuts_headerCells (columns : List (Text × Nat)) (h : LegibleCells (columns.map Prod.fst)) :
    Cuts (Aligned.headerCells columns ++ ['|']) (columns.map Prod.fst) :=
  cuts_alignedCells h

theorem cuts_separatorCells {columns : List (Text × Nat)} (hne : columns ≠ [])
    (h : ∀ column ∈ columns, 3 ≤ column.2) :
    Cuts (Aligned.separatorCells columns ++ ['|']) (hyphens columns) := by
  have hfst : (columns.map fun (_, width) => (List.replicate width '-', width)).map Prod.fst =
      hyphens columns := by
    rw [List.map_map]
    rfl
  rw [separatorCells_eq, ← hfst]
  refine cuts_alignedCells ?_
  rw [hfst]
  exact legibleCells_hyphens hne h

/-- The cells of a row in front of which there may be further cells. -/
theorem cuts_valueCells (front : List (Text × Nat)) {columns : List (Text × Nat)}
    {row : OrderedMap Text Text} (hkeys : row.keys = columns.map Prod.fst)
    (h : LegibleCells (front.map Prod.fst ++ row.values)) :
    Cuts (alignedCells front ++ Aligned.valueCells columns row ++ ['|'])
      (front.map Prod.fst ++ row.values) := by
  have hfst : (columns.map fun (name, width) => ((row.get? name).getD [], width)).map Prod.fst =
      row.values := by
    rw [← row.map_get?_keys, hkeys, List.map_map, List.map_map]
    rfl
  have hcells : alignedCells front ++ Aligned.valueCells columns row =
      alignedCells
        (front ++ columns.map fun (name, width) => ((row.get? name).getD [], width)) := by
    rw [valueCells_eq, alignedCells, alignedCells, alignedCells, List.flatMap_append]
  rw [hcells, ← hfst, ← List.map_append]
  refine cuts_alignedCells ?_
  rw [List.map_append, hfst]
  exact h

end Grammar

open Grammar in
/-- **Tables are read back.** -/
theorem Data.printsAs_table {rows : List (OrderedMap Text Text)} {columns : List Text}
    (hne : rows ≠ []) (hkeys : ∀ row ∈ rows, row.keys = columns) (hfilled : [] ∉ columns)
    (hheader : LegibleCells columns) (hvalues : ∀ row ∈ rows, LegibleCells row.values) :
    ∃ lines, (Data.table rows).PrintsAs lines := by
  have hfst := Aligned.map_fst_columns hne hkeys
  have hwidth : ∀ column ∈ Aligned.columns rows, 3 ≤ column.2 := fun _ => Aligned.width_columns
  have hnil : Aligned.columns rows ≠ [] := by
    intro h
    rw [h] at hfst
    exact hheader.nonempty hfst.symm
  refine ⟨(Aligned.headerCells (Aligned.columns rows) ++ ['|'], columns) ::
    (Aligned.separatorCells (Aligned.columns rows) ++ ['|'], hyphens (Aligned.columns rows)) ::
    rows.map fun row => (Aligned.valueCells (Aligned.columns rows) row ++ ['|'], row.values),
    ?_, by simp, ?_, fun found hfound => ?_⟩
  · simp [Data.rows, Aligned.table]
  · refine List.forall_mem_cons.2 ⟨?_, List.forall_mem_cons.2 ⟨?_, ?_⟩⟩
    · have hcuts := cuts_headerCells (Aligned.columns rows) (by rwa [hfst])
      rwa [hfst] at hcuts
    · exact cuts_separatorCells hnil hwidth
    · intro line hline
      obtain ⟨row, hrow, rfl⟩ := List.mem_map.1 hline
      exact cuts_valueCells [] ((hkeys row hrow).trans hfst.symm) (hvalues row hrow)
  · have hnodup : columns.Nodup := by
      obtain ⟨row, hrow⟩ := List.exists_mem_of_ne_nil rows hne
      exact hkeys row hrow ▸ row.nodup
    simp only [List.map_cons, List.map_map] at hfound
    obtain ⟨rest, htabular, hrest⟩ := tabular_of_cells hfound (all_hyphens hwidth)
      (by simp [hyphens, ← hfst]) (by simpa using hne) (by
        intro v hv
        obtain ⟨row, hrow, rfl⟩ := List.mem_map.1 hv
        simp [← hkeys row hrow, OrderedMap.keys, OrderedMap.values])
    refine readRows_eq_ok.2 (.inr ⟨fun d hd => ?_, .inl (readTable_eq_ok.2
      ⟨columns, rest, htabular, hfilled, hnodup, ?_⟩)⟩)
    · obtain ⟨columns', values', m, htabular', -⟩ := readMatrix_eq_ok.1 hd
      rw [← htabular.header_eq, htabular'.header_eq] at hfilled
      exact hfilled List.mem_cons_self
    · have hcells : rest.map (fun row => byColumn columns row.cells) =
          (rest.map TableRow.cells).map (byColumn columns) := by
        rw [List.map_map]
        rfl
      rw [hcells, hrest, List.map_map]
      refine congrArg _ (List.map_id _ |>.symm.trans (List.map_congr_left fun row hrow => ?_))
      simp only [id, Function.comp_apply]
      rw [← hkeys row hrow, OrderedMap.byColumn_values]

open Grammar in
/-- **Matrices are read back.** -/
theorem Data.printsAs_matrix {m : OrderedMap Text (OrderedMap Text Text)} {columns : List Text}
    (hne : m.entries ≠ []) (hcolumns : columns ≠ []) (hkeys : ∀ row ∈ m.values, row.keys = columns)
    (hheader : LegibleCells ([] :: columns))
    (hvalues : ∀ entry ∈ m.entries, LegibleCells (entry.1 :: entry.2.values)) :
    ∃ lines, (Data.matrix m).PrintsAs lines := by
  have hne' : m.values ≠ [] := by simpa [OrderedMap.values] using hne
  have hfst := Aligned.map_fst_columns hne' hkeys
  obtain ⟨width, hwide⟩ : ∃ width,
      max (Aligned.longest m.keys) Aligned.minimumWidth = width := ⟨_, rfl⟩
  have hwidth : ∀ column ∈ ([], width) :: Aligned.columns m.values, 3 ≤ column.2 := by
    refine List.forall_mem_cons.2 ⟨?_, fun _ => Aligned.width_columns⟩
    have : Aligned.minimumWidth = 3 := rfl
    simp only
    omega
  have hrowkeys : ∀ entry ∈ m.entries, entry.2.keys = columns := fun entry hentry =>
    hkeys entry.2 (List.mem_map_of_mem hentry)
  refine ⟨(Aligned.cell width [] ++ Aligned.headerCells (Aligned.columns m.values) ++ ['|'],
      [] :: columns) ::
    (Aligned.separator width ++ Aligned.separatorCells (Aligned.columns m.values) ++ ['|'],
      hyphens (([], width) :: Aligned.columns m.values)) ::
    m.entries.map fun entry => (Aligned.cell width entry.1 ++
      Aligned.valueCells (Aligned.columns m.values) entry.2 ++ ['|'], entry.1 :: entry.2.values),
    ?_, by simp, ?_, fun found hfound => ?_⟩
  · simp [Data.rows, Aligned.matrix, hwide]
  · refine List.forall_mem_cons.2 ⟨?_, List.forall_mem_cons.2 ⟨?_, ?_⟩⟩
    · have hcuts := cuts_headerCells (([], width) :: Aligned.columns m.values)
        (by rw [List.map_cons, hfst]; exact hheader)
      rwa [List.map_cons, hfst] at hcuts
    · exact cuts_separatorCells (List.cons_ne_nil ([], width) _) hwidth
    · intro line hline
      obtain ⟨entry, hentry, rfl⟩ := List.mem_map.1 hline
      have hcuts := cuts_valueCells [(entry.1, width)]
        ((hrowkeys entry hentry).trans hfst.symm) (hvalues entry hentry)
      simpa [alignedCells] using hcuts
  · have hnodup : columns.Nodup := by
      obtain ⟨row, hrow⟩ := List.exists_mem_of_ne_nil m.values hne'
      exact hkeys row hrow ▸ row.nodup
    simp only [List.map_cons, List.map_map] at hfound
    obtain ⟨rest, htabular, hrest⟩ := tabular_of_cells hfound (all_hyphens hwidth)
      (by simp [hyphens, ← hfst]) (by simpa using hne) (by
        intro v hv
        obtain ⟨entry, hentry, rfl⟩ := List.mem_map.1 hv
        simp [← hrowkeys entry hentry, OrderedMap.keys, OrderedMap.values])
    refine readRows_eq_ok.2 (.inl (readMatrix_eq_ok.2
      ⟨columns, rest, m, htabular, hcolumns, hnodup, rfl, ?_⟩))
    have hcells : rest.map (matrixEntry columns) =
        (rest.map TableRow.cells).map fun cells =>
          (cells.head?.getD [], byColumn columns cells.tail) := by
      rw [List.map_map]
      rfl
    rw [hcells, hrest, List.map_map]
    refine List.map_id _ |>.symm.trans (List.map_congr_left fun entry hentry => ?_)
    simp only [id, Function.comp_apply, List.head?_cons, Option.getD_some, List.tail_cons]
    rw [← hrowkeys entry hentry, OrderedMap.byColumn_values]

open Grammar in
/-- **Lists are read back.** -/
theorem Data.printsAs_list {rows : Several TableRow} {items : List Text}
    (hcells : rows.toList.map TableRow.cells = items.map ([·]))
    (hlegible : ∀ row ∈ rows.toList, LegibleCells row.cells)
    (hread : readRows rows = .ok (.list items)) : ∃ lines, (Data.list items).PrintsAs lines := by
  refine ⟨items.map fun item =>
    (Aligned.cell (Aligned.longest items) item ++ ['|'], [item]), ?_, ?_, ?_,
    fun found hfound => ?_⟩
  · simp [Data.rows, Aligned.list]
  · rintro hnil
    simp [Several.toList, List.map_eq_nil_iff.1 hnil] at hcells
  · intro line hline
    obtain ⟨item, hitem, rfl⟩ := List.mem_map.1 hline
    have hmem : [item] ∈ rows.toList.map TableRow.cells := hcells ▸ List.mem_map_of_mem hitem
    obtain ⟨row, hrow, heq⟩ := List.mem_map.1 hmem
    have hcell : LegibleCells [item] := heq ▸ hlegible row hrow
    have hcuts := cuts_headerCells [(item, Aligned.longest items)] hcell
    simpa [Aligned.headerCells] using hcuts
  · refine (readRows_congr (hcells.trans ?_)).1 hread
    rw [hfound, List.map_map]
    rfl

/-! ## Key-value pairs -/

namespace Grammar

/-- The parts of a key-value pair come from its cell. -/
theorem keyValue?_parts {cell : Text} {pair : Text × Text} (h : keyValue? cell = some pair)
    (hcell : cell.Neat ∧ '|' ∉ cell) :
    (pair.1.Neat ∧ '|' ∉ pair.1 ∧ ':' ∉ pair.1) ∧ pair.2.Neat ∧ '|' ∉ pair.2 ∧ ':' ∉ pair.2 := by
  have hpart : ∀ t ∈ ((cell.splitOn ':').filter (!·.isEmpty)).map Text.trim,
      t.Neat ∧ '|' ∉ t ∧ ':' ∉ t := by
    intro t ht
    obtain ⟨part, hpart, rfl⟩ := List.mem_map.1 ht
    have hsplit := (List.mem_filter.1 hpart).1
    refine ⟨.trim fun hc => hcell.1.oneLine (Text.mem_of_mem_splitOn hsplit hc), fun hc => ?_,
      fun hc => ?_⟩
    · exact hcell.2 (Text.mem_of_mem_splitOn hsplit (Text.mem_of_mem_trim hc))
    · exact Text.not_mem_of_mem_splitOn hsplit (Text.mem_of_mem_trim hc)
  unfold keyValue? at h
  split at h
  · rename_i key value hparts
    cases h
    rw [hparts] at hpart
    exact ⟨hpart key (by simp), hpart value (by simp)⟩
  · cases h

/-- The cell of a key-value pair. -/
def pairCell (pair : Text × Text) : Text := pair.1 ++ [':', ' '] ++ pair.2

theorem keyValue?_pairCell {pair : Text × Text} (hkey : pair.1.Neat ∧ ':' ∉ pair.1)
    (hvalue : pair.2.Neat ∧ ':' ∉ pair.2) (hne : pair.1 ≠ []) :
    keyValue? (pairCell pair) = some pair := by
  -- an empty key would leave one piece only, since empty pieces are not counted
  have hsplit : (pairCell pair).splitOn ':' = [pair.1, ' ' :: pair.2] := by
    have hcell : pairCell pair = pair.1 ++ ':' :: ' ' :: pair.2 := by simp [pairCell]
    rw [hcell, List.splitOn_append_cons_self_of_not_mem hkey.2, List.splitOn_eq_singleton]
    simp [hvalue.2]
  unfold keyValue?
  rw [hsplit]
  simp [hne, hkey.1.trim_eq, hvalue.1.trim_space]

/-- The line of a pair is cut into its cell. -/
theorem cuts_pairLine {pair : Text × Text} (hkey : '\n' ∉ pair.1 ∧ '|' ∉ pair.1)
    (hvalue : '\n' ∉ pair.2 ∧ '|' ∉ pair.2) (width : Nat) :
    Cuts (['|', ' '] ++ pair.1 ++ [':', ' '] ++ Aligned.padTo width pair.2 ++ ['|'])
      [(pairCell pair).trim] := by
  have htrim : Text.trim (' ' :: pair.1 ++ [':', ' '] ++ Aligned.padTo width pair.2) =
      (pairCell pair).trim := by
    have hblank := Text.trim_append_blank (Text.allBlank_replicate (width - pair.2.length))
      (' ' :: pairCell pair)
    rw [Text.trim_space] at hblank
    simpa [pairCell, Aligned.padTo] using hblank
  have hcolon : (pairCell pair).trim ≠ [] := by
    rw [ne_eq, Text.trim_eq_nil]
    intro hblank
    exact absurd (hblank ':' (by simp [pairCell])) (by decide)
  have hframes := splitCells_frames
    (List.cons_ne_nil (' ' :: pair.1 ++ [':', ' '] ++ Aligned.padTo width pair.2) [])
    (by simp [Aligned.padTo, hkey.2, hvalue.2])
    (by rw [List.map_singleton, htrim]; simpa using hcolon)
  rw [List.map_singleton, htrim] at hframes
  exact ⟨by simpa using hframes, by simp [Aligned.padTo, hkey.1, hvalue.1]⟩

/-- A pair without empty parts is its cell, blanks and all. -/
theorem trim_pairCell {pair : Text × Text} (hkey : pair.1.Neat) (hvalue : pair.2.Neat)
    (hfilled : pair.1 ≠ [] ∧ pair.2 ≠ []) : (pairCell pair).trim = pairCell pair := by
  obtain ⟨c, rest, hc⟩ := List.exists_cons_of_ne_nil hfilled.1
  exact hvalue.trim_append hfilled.2 (by rw [hc]; rfl) (hkey.head (by rw [hc]; rfl))

end Grammar

open Grammar in
/-- **Key-value pairs are read back**, unless a key or a value is empty. -/
theorem Data.printsAs_keyValues {pairs : OrderedMap Text Text} (hne : pairs.entries ≠ [])
    (hkey : ∀ pair ∈ pairs.entries, pair.1.Neat ∧ '|' ∉ pair.1 ∧ ':' ∉ pair.1)
    (hvalue : ∀ pair ∈ pairs.entries, pair.2.Neat ∧ '|' ∉ pair.2 ∧ ':' ∉ pair.2)
    (hfilled : (Data.keyValues pairs).Filled) : ∃ lines, (Data.keyValues pairs).PrintsAs lines := by
  have hfilled' := hfilled pairs rfl
  refine ⟨pairs.entries.map fun pair => (['|', ' '] ++ pair.1 ++ [':', ' '] ++
      Aligned.padTo (Aligned.longestPair pairs + 1 - pair.1.length) pair.2 ++ ['|'],
      [pairCell pair]), ?_, by simpa using hne, ?_, fun found hfound => ?_⟩
  · simp [Data.rows, Aligned.keyValues]
  · intro line hline
    obtain ⟨pair, hpair, rfl⟩ := List.mem_map.1 hline
    obtain ⟨hkeyNeat, hkeyPipe, -⟩ := hkey pair hpair
    obtain ⟨hvalueNeat, hvaluePipe, -⟩ := hvalue pair hpair
    rw [← trim_pairCell hkeyNeat hvalueNeat (hfilled' pair hpair)]
    exact cuts_pairLine ⟨hkeyNeat.oneLine, hkeyPipe⟩ ⟨hvalueNeat.oneLine, hvaluePipe⟩ _
  · have hcells : found.toList.map TableRow.cells = (pairs.entries.map pairCell).map ([·]) := by
      rw [hfound, List.map_map, List.map_map]
      rfl
    refine readRows_eq_ok.2 (.inr ⟨readMatrix_of_singles hcells, .inr ⟨fun d hd => ?_, .inl
      (readKeyValues_eq_ok.2 ⟨pairs.entries.map pairCell, pairs.entries, ?_, hcells, ?_⟩)⟩⟩)
    · obtain ⟨first, second, third, rest, hparts, hhyphens⟩ := separator_of_readTable hcells hd
      have hmem : second ∈ pairs.entries.map pairCell := by simp [hparts]
      obtain ⟨pair, -, rfl⟩ := List.mem_map.1 hmem
      simp [isSeparator, pairCell] at hhyphens
    · congr 1
      apply OrderedMap.ext
      rw [OrderedMap.entries_ofList pairs.nodup]
    · rw [List.map_map]
      refine List.map_congr_left fun pair hpair => ?_
      exact keyValue?_pairCell ⟨(hkey pair hpair).1, (hkey pair hpair).2.2⟩
        ⟨(hvalue pair hpair).1, (hvalue pair hpair).2.2⟩ (hfilled' pair hpair).1

/-! ## Data that were read -/

namespace Grammar

theorem Tabular.legible {rows : Several TableRow} {header : List Text} {values : List TableRow}
    (h : Tabular rows header values) (hcells : ∀ row ∈ rows.toList, LegibleCells row.cells) :
    LegibleCells header ∧ ∀ row ∈ values, LegibleCells row.cells := by
  obtain ⟨separator, htail, -⟩ := h.separator
  refine ⟨h.header_eq ▸ hcells rows.head (by simp [Several.toList]), fun row hrow => ?_⟩
  exact hcells row (by simp [Several.toList, htail, hrow])

/-- There are pairs, and each of them comes from the only cell of a row. -/
theorem pair_parts {rows : Several TableRow} {pairs : OrderedMap Text Text}
    (hcells : ∀ row ∈ rows.toList, LegibleCells row.cells)
    (hread : readKeyValues rows = .ok (.keyValues pairs)) :
    pairs.entries ≠ [] ∧ ∀ pair ∈ pairs.entries,
      (pair.1.Neat ∧ '|' ∉ pair.1 ∧ ':' ∉ pair.1) ∧ pair.2.Neat ∧ '|' ∉ pair.2 ∧ ':' ∉ pair.2 := by
  obtain ⟨cells, found, heq, hsingle, hfound⟩ := readKeyValues_eq_ok.1 hread
  cases heq
  constructor
  · refine OrderedMap.entries_ofList_ne_nil ?_
    rintro rfl
    simp [Several.toList, List.map_eq_nil_iff.1 hfound] at hsingle
  · intro pair hpair
    have hmem : some pair ∈ cells.map keyValue? :=
      hfound ▸ List.mem_map_of_mem (OrderedMap.mem_of_mem_ofList hpair)
    obtain ⟨cell, hcell, hkeyValue⟩ := List.mem_map.1 hmem
    have hmem' : [cell] ∈ rows.toList.map TableRow.cells := hsingle ▸ List.mem_map_of_mem hcell
    obtain ⟨row, hrow, hrowCells⟩ := List.mem_map.1 hmem'
    exact keyValue?_parts hkeyValue ((hcells row hrow).cell cell (by simp [hrowCells]))

end Grammar

open Grammar in
/-- **Data that were read from rows are read back.** -/
theorem Data.exists_printsAs {rows : Several TableRow} {d : Data}
    (hcells : ∀ row ∈ rows.toList, LegibleCells row.cells) (hread : readRows rows = .ok d)
    (hfilled : d.Filled) : ∃ lines, d.PrintsAs lines := by
  rcases readRows_eq_ok.1 hread with hd | ⟨-, hd | ⟨-, hd | ⟨-, hd⟩⟩⟩
  · obtain ⟨columns, values, m, htabular, hne, hnodup, rfl, hentries⟩ := readMatrix_eq_ok.1 hd
    obtain ⟨hheader, hvalues⟩ := htabular.legible hcells
    have hrow : ∀ entry ∈ m.entries, entry.2.keys = columns ∧
        LegibleCells (entry.1 :: entry.2.values) := by
      intro entry hentry
      rw [hentries] at hentry
      obtain ⟨row, hrow, rfl⟩ := List.mem_map.1 hentry
      obtain ⟨key, cells, heq⟩ := List.exists_cons_of_ne_nil (hvalues row hrow).nonempty
      have hlength : cells.length = columns.length := by
        simpa [heq] using htabular.length_eq row hrow
      simp only [matrixEntry, heq, List.head?_cons, Option.getD_some, List.tail_cons]
      rw [OrderedMap.keys_byColumn hnodup hlength, OrderedMap.values_byColumn hnodup hlength, ← heq]
      exact ⟨rfl, hvalues row hrow⟩
    refine printsAs_matrix ?_ hne ?_ hheader fun entry hentry => (hrow entry hentry).2
    · simpa [hentries] using htabular.nonempty
    · intro row hmem
      obtain ⟨entry, hentry, rfl⟩ := List.mem_map.1 hmem
      exact (hrow entry hentry).1
  · obtain ⟨columns, values, htabular, hnames, hnodup, rfl⟩ := readTable_eq_ok.1 hd
    obtain ⟨hheader, hvalues⟩ := htabular.legible hcells
    refine printsAs_table (by simpa using htabular.nonempty) ?_ hnames hheader ?_
    · intro row hmem
      obtain ⟨row, hrow, rfl⟩ := List.mem_map.1 hmem
      exact OrderedMap.keys_byColumn hnodup (htabular.length_eq row hrow)
    · intro row hmem
      obtain ⟨row, hrow, rfl⟩ := List.mem_map.1 hmem
      rw [OrderedMap.values_byColumn hnodup (htabular.length_eq row hrow)]
      exact hvalues row hrow
  · obtain ⟨cells, pairs, rfl, -⟩ := readKeyValues_eq_ok.1 hd
    obtain ⟨hne, hparts⟩ := pair_parts hcells hd
    exact printsAs_keyValues hne (fun pair hpair => (hparts pair hpair).1)
      (fun pair hpair => (hparts pair hpair).2) hfilled
  · obtain ⟨items, rfl, hsingle⟩ := readList_eq_ok.1 hd
    exact printsAs_list hsingle hcells hread

end PlainSpec
