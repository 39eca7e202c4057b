import PlainSpec.Proofs.Document.Placement
import PlainSpec.Proofs.Grammar.Legible

/-!
# The readings of a run of rows

A run of rows is read by its cells alone.  For every reading, the rows that it accepts and the data
it makes of them are told by an equivalence.

## Main results

* `OrderedMap.entries_byColumn`, `OrderedMap.byColumn_values`: rows of values by column.
* `Grammar.readMatrix_eq_ok`, `Grammar.readTable_eq_ok`, `Grammar.readKeyValues_eq_ok`,
  `Grammar.readList_eq_ok`: what each reading accepts.
* `Grammar.readRows_congr`: rows with the same cells have the same reading.
-/

namespace PlainSpec

/-! ## Rows of values and repetitions -/

namespace OrderedMap

/-- A row of values by column has the columns as keys, and the values as they are listed. -/
theorem entries_byColumn {columns cells : List Text} (hnodup : columns.Nodup)
    (hlength : cells.length = columns.length) :
    (Grammar.byColumn columns cells).entries = columns.zip cells := by
  refine entries_ofList ?_
  rw [List.map_fst_zip (by omega)]
  exact hnodup

theorem keys_byColumn {columns cells : List Text} (hnodup : columns.Nodup)
    (hlength : cells.length = columns.length) :
    (Grammar.byColumn columns cells).keys = columns := by
  rw [keys, entries_byColumn hnodup hlength, List.map_fst_zip (by omega)]

theorem values_byColumn {columns cells : List Text} (hnodup : columns.Nodup)
    (hlength : cells.length = columns.length) :
    (Grammar.byColumn columns cells).values = cells := by
  rw [values, entries_byColumn hnodup hlength, List.map_snd_zip (by omega)]

theorem map_get?_keys (m : OrderedMap Text Text) :
    m.keys.map (fun key => (m.get? key).getD []) = m.values := by
  rw [keys, values, List.map_map]
  refine List.map_congr_left fun entry hentry => ?_
  simp [m.get?_of_mem hentry]

/-- **A row is the values of its columns.** -/
theorem byColumn_values (m : OrderedMap Text Text) : Grammar.byColumn m.keys m.values = m := by
  apply OrderedMap.ext
  have hnodup : m.keys.Nodup := m.nodup
  rw [entries_byColumn hnodup (by simp [keys, values])]
  simp [keys, values, List.zip_map']

end OrderedMap

namespace Text

theorem firstRepeat?_go_eq_none {seen texts : List Text} :
    firstRepeat?.go seen texts = none ↔ (∀ t ∈ texts, t ∉ seen) ∧ texts.Nodup := by
  induction texts generalizing seen with
  | nil => simp [firstRepeat?.go]
  | cons t texts ih =>
    rw [firstRepeat?.go]
    by_cases ht : t ∈ seen
    · simp [ht]
    · simp only [ht, if_false, ih, List.nodup_cons, List.mem_cons, not_or, forall_eq_or_imp,
        not_false_eq_true, true_and]
      constructor
      · rintro ⟨hseen, hnodup⟩
        exact ⟨fun u hu => (hseen u hu).2, fun hmem => (hseen t hmem).1 rfl, hnodup⟩
      · rintro ⟨hseen, hmem, hnodup⟩
        exact ⟨fun u hu => ⟨fun heq => hmem (heq ▸ hu), hseen u hu⟩, hnodup⟩

/-- **Nothing is repeated exactly when all are different.** -/
theorem firstRepeat?_eq_none {texts : List Text} : firstRepeat? texts = none ↔ texts.Nodup := by
  simp [firstRepeat?, firstRepeat?_go_eq_none]

end Text

namespace Grammar

variable {rows : Several TableRow} {d : Data}

/-! ## Faults -/

theorem columnsFault?_eq_none {block : Block} :
    columnsFault? block rows = none ↔
      ∀ row ∈ rows.tail, row.cells.length = rows.head.cells.length := by
  simp [columnsFault?]

theorem separatorFault?_eq_none {block : Block} :
    separatorFault? .reqsml block rows = none ↔
      ∃ separator values, rows.tail = separator :: values ∧
        separator.cells.all isSeparator = true := by
  obtain ⟨head, tail⟩ := rows
  cases tail with
  | nil => simp [separatorFault?]
  | cons separator values => simp [separatorFault?]

/-- The shape of a table with a header: a header, a row of hyphens, at least one row of values, and
everywhere the same number of cells. -/
structure Tabular (rows : Several TableRow) (header : List Text)
    (values : List TableRow) : Prop where
  header_eq : rows.head.cells = header
  /-- There is a row of hyphens. -/
  separator : ∃ separator, rows.tail = separator :: values ∧
    separator.cells.all isSeparator = true ∧ separator.cells.length = header.length
  nonempty : values ≠ []
  length_eq : ∀ row ∈ values, row.cells.length = header.length

theorem tabular_iff :
    (∃ header values, Tabular rows header values) ↔
      3 ≤ rows.toList.length ∧ (∃ separator values, rows.tail = separator :: values ∧
          separator.cells.all isSeparator = true) ∧
        ∀ row ∈ rows.tail, row.cells.length = rows.head.cells.length := by
  constructor
  · rintro ⟨header, values, h⟩
    obtain ⟨separator, htail, hall, hlength⟩ := h.separator
    have hvalues := List.length_pos_iff.2 h.nonempty
    refine ⟨?_, ⟨separator, values, htail, hall⟩, ?_⟩
    · simp only [Several.toList, htail, List.length_cons]
      omega
    · rw [htail, h.header_eq]
      exact List.forall_mem_cons.2 ⟨hlength, h.length_eq⟩
  · rintro ⟨hcount, ⟨separator, values, htail, hall⟩, hlengths⟩
    rw [htail] at hlengths
    obtain ⟨hlength, hvalues⟩ := List.forall_mem_cons.1 hlengths
    refine ⟨rows.head.cells, values, rfl, ⟨separator, htail, hall, hlength⟩, ?_, hvalues⟩
    rintro rfl
    simp [Several.toList, htail] at hcount

theorem Tabular.valueRows_eq {header : List Text} {values : List TableRow}
    (h : Tabular rows header values) : valueRows .reqsml rows = values := by
  obtain ⟨separator, htail, -⟩ := h.separator
  simp [valueRows, Several.toList, htail, Dialect.headerRows]

/-! ## Matrices -/

/-- The entry of a matrix row. -/
def matrixEntry (columns : List Text) (row : TableRow) : Text × OrderedMap Text Text :=
  (row.cells.head?.getD [], byColumn columns row.cells.tail)

theorem enterRows_eq_ok {columns : List Text} {rows : List TableRow}
    {entered m : OrderedMap Text (OrderedMap Text Text)} (hne : ∀ row ∈ rows, row.cells ≠ []) :
    enterRows columns rows entered = .ok m ↔
      m.entries = entered.entries ++ rows.map (matrixEntry columns) := by
  induction rows generalizing entered with
  | nil =>
    simp only [enterRows, Except.ok.injEq, List.map_nil, List.append_nil]
    exact ⟨fun h => h ▸ rfl, fun h => OrderedMap.ext h.symm⟩
  | cons row rows ih =>
    obtain ⟨hrow, hrows⟩ := List.forall_mem_cons.1 hne
    -- the first cell of a row is its key, and the row is entered behind those before it
    obtain ⟨key, cells, hcells⟩ := List.exists_cons_of_ne_nil hrow
    have hentry : matrixEntry columns row = (key, byColumn columns cells) := by
      simp [matrixEntry, hcells]
    rw [enterRows, hcells, List.map_cons, hentry]
    dsimp only
    split
    · rename_i hsome
      simp only [reduceCtorEq, false_iff]
      intro hm
      have hkey : key ∈ entered.keys := by
        rw [← Decidable.not_not (p := key ∈ entered.keys), ← OrderedMap.get?_eq_none_iff]
        intro hnone
        simp [hnone] at hsome
      have hnodup := m.nodup
      rw [hm, List.map_append, List.map_cons, List.nodup_append] at hnodup
      exact hnodup.2.2 key hkey key List.mem_cons_self rfl
    · rename_i hnone
      have hkey : key ∉ entered.keys := by
        rw [← OrderedMap.get?_eq_none_iff]
        simpa using hnone
      have hinsert : (entered.insert key (byColumn columns cells)).entries =
          entered.entries ++ [(key, byColumn columns cells)] := OrderedMap.put_of_not_mem hkey
      rw [ih hrows, hinsert, List.append_assoc, List.singleton_append]

theorem matrixFault?_eq_none :
    matrixFault? .reqsml rows = none ↔
      ∃ columns values, Tabular rows ([] :: columns) values ∧ columns ≠ [] ∧ columns.Nodup := by
  constructor
  · intro h
    unfold matrixFault? at h
    split at h
    · cases h
    · rename_i hsize
      simp only [Option.or_eq_none_iff, separatorFault?_eq_none, columnsFault?_eq_none] at h
      obtain ⟨hseparator, hlengths, hcorner⟩ := h
      obtain ⟨header, values, ht⟩ := tabular_iff.2 ⟨by omega, hseparator, hlengths⟩
      split at hcorner
      · cases hcorner
      · rename_i hhead
        rw [repeatFault?, Option.map_eq_none_iff, Text.firstRepeat?_eq_none] at hcorner
        simp only [ne_eq, Decidable.not_not] at hhead
        obtain ⟨columns, hcolumns⟩ := List.head?_eq_some_iff.1 hhead
        have hheader := ht.header_eq
        rw [hcolumns] at hheader
        subst hheader
        refine ⟨columns, values, ht, ?_, by simpa [hcolumns] using hcorner⟩
        rintro rfl
        simp [hcolumns] at hsize
  · rintro ⟨columns, values, ht, hne, hnodup⟩
    obtain ⟨hcount, hseparator, hlengths⟩ := tabular_iff.1 ⟨_, _, ht⟩
    have hcolumns := List.length_pos_iff.2 hne
    unfold matrixFault?
    rw [if_neg (by rw [ht.header_eq, List.length_cons]; omega)]
    simp only [Option.or_eq_none_iff, separatorFault?_eq_none, columnsFault?_eq_none]
    refine ⟨hseparator, hlengths, ?_⟩
    simp [ht.header_eq, repeatFault?, Text.firstRepeat?_eq_none, hnodup]

/-- **What is read as a matrix.** -/
theorem readMatrix_eq_ok :
    readMatrix .reqsml rows = .ok d ↔
      ∃ columns values m, Tabular rows ([] :: columns) values ∧ columns ≠ [] ∧ columns.Nodup ∧
        d = .matrix m ∧ m.entries = values.map (matrixEntry columns) := by
  have hentries {columns : List Text} {values : List TableRow}
      (ht : Tabular rows ([] :: columns) values) (m : OrderedMap Text (OrderedMap Text Text)) :
      enterRows rows.head.cells.tail (valueRows .reqsml rows) .empty = .ok m ↔
        m.entries = values.map (matrixEntry columns) := by
    rw [ht.valueRows_eq, ht.header_eq, enterRows_eq_ok]
    · simp [OrderedMap.empty]
    · intro row hrow hnil
      have := ht.length_eq row hrow
      simp [hnil] at this
  unfold readMatrix
  cases hf : matrixFault? .reqsml rows with
  | some invalid =>
    simp only [reduceCtorEq, false_iff]
    rintro ⟨columns, values, m, ht, hne, hnodup, -⟩
    rw [matrixFault?_eq_none.2 ⟨columns, values, ht, hne, hnodup⟩] at hf
    cases hf
  | none =>
    obtain ⟨columns, values, ht, hne, hnodup⟩ := matrixFault?_eq_none.1 hf
    constructor
    · intro h
      obtain ⟨m, he, rfl⟩ := Except.map_eq_ok.1 h
      exact ⟨columns, values, m, ht, hne, hnodup, rfl, (hentries ht m).1 he⟩
    · rintro ⟨columns', values', m, ht', -, -, rfl, hm⟩
      rw [(hentries ht' m).2 hm]
      rfl

/-! ## Tables -/

theorem tableFault?_eq_none :
    tableFault? .reqsml rows = none ↔
      ∃ columns values, Tabular rows columns values ∧ [] ∉ columns ∧ columns.Nodup := by
  constructor
  · intro h
    unfold tableFault? at h
    split at h
    · cases h
    · rename_i hsize
      split at h
      · cases h
      · rename_i hfilled
        simp only [Option.or_eq_none_iff, separatorFault?_eq_none, columnsFault?_eq_none,
          repeatFault?, Option.map_eq_none_iff, Text.firstRepeat?_eq_none] at h
        obtain ⟨hseparator, hlengths, hnodup⟩ := h
        simp only [Dialect.headerRows] at hsize
        obtain ⟨header, values, ht⟩ := tabular_iff.2 ⟨by omega, hseparator, hlengths⟩
        refine ⟨header, values, ht, fun hmem => hfilled ?_, ht.header_eq ▸ hnodup⟩
        rw [ht.header_eq]
        exact List.any_eq_true.2 ⟨[], hmem, rfl⟩
  · rintro ⟨columns, values, ht, hfilled, hnodup⟩
    obtain ⟨hcount, hseparator, hlengths⟩ := tabular_iff.1 ⟨_, _, ht⟩
    unfold tableFault?
    rw [if_neg (by simp only [Dialect.headerRows]; omega), if_neg, ht.header_eq]
    · simp only [Option.or_eq_none_iff, separatorFault?_eq_none, columnsFault?_eq_none,
        repeatFault?, Option.map_eq_none_iff, Text.firstRepeat?_eq_none]
      exact ⟨hseparator, hlengths, hnodup⟩
    · rw [ht.header_eq]
      intro hany
      obtain ⟨t, hmem, ht⟩ := List.any_eq_true.1 hany
      rw [List.isEmpty_iff.1 ht] at hmem
      exact hfilled hmem

/-- **What is read as a table.** -/
theorem readTable_eq_ok :
    readTable .reqsml rows = .ok d ↔
      ∃ columns values, Tabular rows columns values ∧ [] ∉ columns ∧ columns.Nodup ∧
        d = .table (values.map fun row => byColumn columns row.cells) := by
  have hvalues {columns : List Text} {values : List TableRow} (ht : Tabular rows columns values) :
      (valueRows .reqsml rows).map (fun row => byColumn rows.head.cells row.cells) =
        values.map fun row => byColumn columns row.cells := by
    rw [ht.valueRows_eq, ht.header_eq]
  unfold readTable
  cases hf : tableFault? .reqsml rows with
  | some invalid =>
    simp only [reduceCtorEq, false_iff]
    rintro ⟨columns, values, ht, hfilled, hnodup, -⟩
    rw [tableFault?_eq_none.2 ⟨columns, values, ht, hfilled, hnodup⟩] at hf
    cases hf
  | none =>
    obtain ⟨columns, values, ht, hfilled, hnodup⟩ := tableFault?_eq_none.1 hf
    constructor
    · intro h
      cases h
      exact ⟨columns, values, ht, hfilled, hnodup, by rw [hvalues ht]⟩
    · rintro ⟨columns', values', ht', -, -, rfl⟩
      simp only [hvalues ht']

/-! ## Lists and key-value pairs -/

theorem singleCell_eq_ok {block : Block} {row : TableRow} {cell : Text} :
    singleCell block row = .ok cell ↔ row.cells = [cell] := by
  unfold singleCell
  split
  · rename_i found hcells
    simp [hcells]
  · rename_i hcells
    simp only [reduceCtorEq, false_iff]
    exact hcells cell

theorem map_singleCell_eq {block : Block} {rows : List TableRow} {cells : List Text} :
    rows.map (singleCell block) = cells.map .ok ↔ rows.map TableRow.cells = cells.map ([·]) := by
  induction rows generalizing cells with
  | nil => cases cells <;> simp
  | cons row rows ih => cases cells <;> simp [ih, singleCell_eq_ok]

/-- **What is read as a list.** -/
theorem readList_eq_ok :
    readList rows = .ok d ↔
      ∃ items : List Text, d = .list items ∧ rows.toList.map TableRow.cells = items.map ([·]) := by
  unfold readList
  constructor
  · intro h
    obtain ⟨items, hm, rfl⟩ := Except.map_eq_ok.1 h
    exact ⟨items, rfl, map_singleCell_eq.1 (Except.mapM_eq_ok.1 hm)⟩
  · rintro ⟨items, rfl, hcells⟩
    rw [Except.mapM_eq_ok.2 (map_singleCell_eq.2 hcells)]
    rfl

theorem map_keyValueOf_eq {rows : List TableRow} {cells : List Text} {pairs : List (Text × Text)}
    (hlength : rows.length = cells.length) :
    (rows.zip cells).map (fun (row, cell) => keyValueOf row cell) = pairs.map .ok ↔
      cells.map keyValue? = pairs.map some := by
  induction rows generalizing cells pairs with
  | nil =>
    obtain rfl : cells = [] := by simpa using hlength.symm
    cases pairs <;> simp
  | cons row rows ih =>
    match cells, pairs, hlength with
    | cell :: cells, [], _ => simp
    | cell :: cells, pair :: pairs, hlength =>
      have hpair : keyValueOf row cell = .ok pair ↔ keyValue? cell = some pair := by
        unfold keyValueOf
        cases keyValue? cell <;> simp
      simp [hpair, ih (Nat.succ.inj hlength)]

/-- **What is read as key-value pairs.** -/
theorem readKeyValues_eq_ok :
    readKeyValues rows = .ok d ↔
      ∃ (cells : List Text) (pairs : List (Text × Text)), d = .keyValues (.ofList pairs) ∧
        rows.toList.map TableRow.cells = cells.map ([·]) ∧
          cells.map keyValue? = pairs.map some := by
  unfold readKeyValues
  constructor
  · intro h
    cases hm : rows.toList.mapM (singleCell .keyValues) with
    | error e => simp [hm] at h
    | ok cells =>
      have hcells := map_singleCell_eq.1 (Except.mapM_eq_ok.1 hm)
      have hlength : rows.toList.length = cells.length := by
        simpa using congrArg List.length hcells
      simp only [hm] at h
      obtain ⟨pairs, hk, rfl⟩ := Except.map_eq_ok.1 h
      exact ⟨cells, pairs, rfl, hcells, (map_keyValueOf_eq hlength).1 (Except.mapM_eq_ok.1 hk)⟩
  · rintro ⟨cells, pairs, rfl, hcells, hpairs⟩
    have hlength : rows.toList.length = cells.length := by
      simpa using congrArg List.length hcells
    rw [Except.mapM_eq_ok.2 (map_singleCell_eq.2 hcells)]
    dsimp only
    rw [Except.mapM_eq_ok.2 ((map_keyValueOf_eq hlength).2 hpairs)]
    rfl

/-- Rows of one cell are no matrix. -/
theorem readMatrix_of_singles {cells : List Text}
    (h : rows.toList.map TableRow.cells = cells.map ([·]))
    (d : Data) : readMatrix .reqsml rows ≠ .ok d := by
  intro hread
  obtain ⟨columns, values, m, ht, hne, -⟩ := readMatrix_eq_ok.1 hread
  have hmem : rows.head.cells ∈ cells.map ([·]) := by
    rw [← h]
    exact List.mem_cons_self
  obtain ⟨cell, -, hcell⟩ := List.mem_map.1 hmem
  rw [ht.header_eq] at hcell
  exact hne (List.cons.inj hcell).2.symm

/-- Rows of one cell are a table only if there are hyphens in the second of at least three. -/
theorem separator_of_readTable {cells : List Text}
    (h : rows.toList.map TableRow.cells = cells.map ([·]))
    (hread : readTable .reqsml rows = .ok d) :
    ∃ first second third rest, cells = first :: second :: third :: rest ∧
      isSeparator second = true := by
  obtain ⟨columns, values, ht, -⟩ := readTable_eq_ok.1 hread
  obtain ⟨separator, htail, hall, -⟩ := ht.separator
  obtain ⟨value, rest, rfl⟩ := List.exists_cons_of_ne_nil ht.nonempty
  rw [Several.toList, htail] at h
  obtain ⟨first, cells, rfl, -, h⟩ := List.map_eq_cons_iff.1 h.symm
  obtain ⟨second, cells, rfl, hsecond, h⟩ := List.map_eq_cons_iff.1 h
  obtain ⟨third, rest, rfl, -, -⟩ := List.map_eq_cons_iff.1 h
  rw [← hsecond] at hall
  exact ⟨first, second, third, rest, rfl, by simpa using hall⟩

/-! ## All readings -/

/-- **Rows with the same cells have the same reading.** -/
theorem readRows_congr {rows' : Several TableRow}
    (h : rows.toList.map TableRow.cells = rows'.toList.map TableRow.cells) :
    readRows rows = .ok d ↔ readRows rows' = .ok d := by
  have hrelabel : rows.map (TableRow.relabel fun _ => 0) =
      rows'.map (TableRow.relabel fun _ => 0) := by
    rw [← Several.toList_inj, Several.toList_map, Several.toList_map]
    have hrow : TableRow.relabel (fun _ => 0) = (fun cells => ⟨0, cells⟩) ∘ TableRow.cells := rfl
    rw [hrow, ← List.map_map, h, List.map_map]
  have hcongr {read : Several TableRow → Except Invalid Data}
      (hread : ∀ rows, read (rows.map (TableRow.relabel fun _ => 0)) =
        (read rows).mapError (Invalid.relabel fun _ => 0)) (d : Data) :
      read rows = .ok d ↔ read rows' = .ok d := by
    rw [← Except.mapError_eq_ok (r := read rows), ← hread, hrelabel, hread, Except.mapError_eq_ok]
  rw [readRows_eq_ok, readRows_eq_ok]
  simp only [ne_eq, hcongr (readMatrix_relabel _ _), hcongr (readTable_relabel _ _),
    hcongr (readKeyValues_relabel _), hcongr (readList_relabel _)]

end Grammar

end PlainSpec
