import Mathlib.Data.List.Sort
import PlainSpec.Proofs.Grammar.Rows
import PlainSpec.Template.Expand

/-!
# Tokens and columns

A table of examples is accepted exactly when it fits its template: the header can stand there, every
row has the shape of the header, and the columns are the tokens of the template, no more and no
fewer.  The checks run in a fixed order, but each of them only looks at its own part, so what they
accept is a conjunction.

A column for descriptions shifts the columns behind it by one.  What an example records is therefore
told by the places of the header: a column has the value that stands at the same place of the row.

## Main definitions

* `Template.Heads`, `Template.StandsBelow`: the rows that a table is made of.
* `Template.Fits`: a template and a table that fit.
* `Specification.Records`, `Example.MadeFrom`: what an example keeps of its row.

## Main results

* `Text.sortedSet_eq_iff`: sorted sets are equal exactly when they have the same members.
* `Template.fault?_eq_none`: a table has no fault exactly when it fits.
* `Template.get?_values`: a column has the value at the same place of the row.
* `Template.expand_eq_ok`: what a table is expanded to.
-/

namespace PlainSpec

/-! ## Sorted sets -/

namespace Text

theorem pairwise_insertSorted {t : Text} {us : List Text} (h : us.Pairwise (· < ·)) :
    (insertSorted t us).Pairwise (· < ·) := by
  induction us with
  | nil => exact List.pairwise_singleton _ _
  | cons u us ih =>
    obtain ⟨hu, hus⟩ := List.pairwise_cons.1 h
    rw [insertSorted]
    split
    · rename_i hlt
      refine List.pairwise_cons.2 ⟨fun v hv => ?_, h⟩
      rcases List.mem_cons.1 hv with rfl | hv
      · exact hlt
      · exact List.lt_trans hlt (hu v hv)
    · split
      · exact h
      · rename_i hle hne
        have horder : t < u ∨ t = u ∨ u < t := Std.Trichotomous.rel_or_eq_or_rel_swap
        refine List.pairwise_cons.2 ⟨fun v hv => ?_, ih hus⟩
        rcases mem_insertSorted.1 hv with rfl | hv
        · exact (horder.resolve_left hle).resolve_left hne
        · exact hu v hv

theorem pairwise_sortedSet (ts : List Text) : (sortedSet ts).Pairwise (· < ·) := by
  induction ts with
  | nil => exact .nil
  | cons t ts ih => exact pairwise_insertSorted ih

/-- **Sorted sets are equal exactly when they have the same members.** -/
theorem sortedSet_eq_iff {ts us : List Text} :
    sortedSet ts = sortedSet us ↔ ∀ t, t ∈ ts ↔ t ∈ us := by
  constructor
  · intro h t
    rw [← mem_sortedSet, h, mem_sortedSet]
  · intro h
    refine (pairwise_sortedSet ts).eq_of_mem_iff (pairwise_sortedSet us) fun t => ?_
    rw [mem_sortedSet, mem_sortedSet, h]

end Text

namespace Template

/-! ## Tables that fit their template -/

/-- A row that can stand at the top of a table of examples: only its first cell may be empty, and
not if it is the only one; nothing is written in front of it; and its columns are distinct. -/
structure Heads (header : TemplateRow) : Prop where
  nonempty : header.cells ≠ []
  notUnnamed : header.cells ≠ [[]]
  named : [] ∉ header.cells.tail
  comments : header.comments = none
  identifier : header.identifier = none
  labels : header.labels = none
  distinct : (columns header).Nodup

/-- A row that can stand below a header: it has as many cells, and below an empty cell there is a
description. -/
structure StandsBelow (header row : TemplateRow) : Prop where
  length_eq : row.cells.length = header.cells.length
  described : header.cells.head? = some [] → row.cells.head? ≠ some []

/-- A template and a table that fit: the template has tokens, and these are the columns of the
table. -/
structure Fits (set : ExampleSet) (header : TemplateRow) (rows : List TemplateRow) : Prop where
  template : set.tokens ≠ []
  top : Heads header
  rows : ∀ row ∈ rows, StandsBelow header row
  bound : ∀ token, token ∈ columns header ↔ token ∈ set.tokens

theorem hasDescription_iff {header : TemplateRow} :
    hasDescription header = true ↔ header.cells.head? = some [] := decide_eq_true_iff

/-- The cells of a header: the one above the descriptions, if there is one, and the columns. -/
theorem cells_header (header : TemplateRow) :
    header.cells = (if hasDescription header then [[]] else []) ++ columns header := by
  unfold columns
  split
  · rename_i hfirst
    obtain ⟨rest, hrest⟩ := List.head?_eq_some_iff.1 (hasDescription_iff.1 hfirst)
    simp [hrest]
  · rfl

theorem headerFault?_eq_none {header : TemplateRow} :
    headerFault? header = none ↔ Heads header := by
  unfold headerFault?
  split
  · rename_i hcells
    simp only [reduceCtorEq, false_iff]
    exact fun h => h.nonempty hcells
  · rename_i first rest hcells
    have hfirst : rest.isEmpty && first.isEmpty ↔ header.cells = [[]] := by
      simp [hcells, and_comm]
    have hnamed : rest.any List.isEmpty ↔ [] ∈ header.cells.tail := by
      simp [hcells]
    have hbare : header.hasMetadata = false ↔
        header.comments = none ∧ header.identifier = none ∧ header.labels = none := by
      simp [TemplateRow.hasMetadata, and_assoc]
    constructor
    · intro h
      split at h
      · cases h
      · rename_i hunnamed
        split at h
        · cases h
        · rename_i hempty
          split at h
          · cases h
          · rename_i hmetadata
            rw [Option.map_eq_none_iff, Text.firstRepeat?_eq_none] at h
            obtain ⟨hcomments, hidentifier, hlabels⟩ := hbare.1 (Bool.eq_false_iff.2 hmetadata)
            exact ⟨by simp [hcells], fun heq => hunnamed (hfirst.2 heq),
              fun hmem => hempty (hnamed.2 hmem), hcomments, hidentifier, hlabels, h⟩
    · intro h
      rw [if_neg fun heq => h.notUnnamed (hfirst.1 heq), if_neg fun hmem => h.named (hnamed.1 hmem),
        if_neg (by simp [hbare.2 ⟨h.comments, h.identifier, h.labels⟩]), Option.map_eq_none_iff,
        Text.firstRepeat?_eq_none]
      exact h.distinct

theorem rowFault?_eq_none {header row : TemplateRow} :
    rowFault? header row = none ↔ StandsBelow header row := by
  unfold rowFault?
  split
  · rename_i hlength
    simp only [reduceCtorEq, false_iff]
    exact fun h => hlength h.length_eq
  · rename_i hlength
    rw [ne_eq, Decidable.not_not] at hlength
    split
    · rename_i hempty
      simp only [Bool.and_eq_true, hasDescription_iff, decide_eq_true_eq] at hempty
      simp only [reduceCtorEq, false_iff]
      exact fun h => h.described hempty.1 hempty.2
    · rename_i hfilled
      simp only [Bool.and_eq_true, hasDescription_iff, decide_eq_true_eq, not_and] at hfilled
      exact iff_of_true rfl ⟨hlength, hfilled⟩

theorem matchFault?_eq_none {set : ExampleSet} {header : TemplateRow} :
    matchFault? set header = none ↔ ∀ token, token ∈ columns header ↔ token ∈ set.tokens := by
  have htokens : Text.sortedSet (columns header) = set.tokens ↔
      ∀ token, token ∈ columns header ↔ token ∈ set.tokens := by
    simp only [ExampleSet.tokens, tokensOf, Text.sortedSet_eq_iff, Text.mem_sortedSet]
  rw [← htokens]
  unfold matchFault?
  dsimp only
  split
  · rename_i heq
    exact iff_of_true rfl heq
  · rename_i hne
    simp [hne]

/-- **A table has no fault exactly when it fits its template.** -/
theorem fault?_eq_none {set : ExampleSet} {header : TemplateRow} {rows : List TemplateRow} :
    fault? set header rows = none ↔ Fits set header rows := by
  unfold fault?
  split
  · rename_i hempty
    simp only [reduceCtorEq, false_iff]
    exact fun h => h.template (List.isEmpty_iff.1 hempty)
  · rename_i htokens
    rw [List.isEmpty_iff] at htokens
    rw [Option.or_eq_none_iff, Option.or_eq_none_iff, List.findSome?_eq_none_iff,
      headerFault?_eq_none, matchFault?_eq_none]
    simp only [rowFault?_eq_none]
    exact ⟨fun ⟨hheader, hrows, hbound⟩ => ⟨htokens, hheader, hrows, hbound⟩,
      fun h => ⟨h.top, h.rows, h.bound⟩⟩

/-! ## What a row is made into -/

/-- The cells of a row: its description, if there is one, and its values. -/
theorem cells_row {header row : TemplateRow} (hheads : Heads header)
    (hlength : row.cells.length = header.cells.length) :
    (values header row).keys = columns header ∧
      row.cells = (rowDescription header row).toList ++ (values header row).values ∧
      ((rowDescription header row).isSome = hasDescription header) := by
  have hcells := congrArg List.length (cells_header header)
  have hfilled : row.cells ≠ [] := by
    intro hnil
    rw [hnil] at hlength
    exact hheads.nonempty (List.length_eq_zero_iff.1 hlength.symm)
  obtain ⟨first, rest, hrow⟩ := List.exists_cons_of_ne_nil hfilled
  have hvalues : values header row = Grammar.byColumn (columns header)
      (if hasDescription header then row.cells.tail else row.cells) := rfl
  -- with a column for descriptions the values start at the second cell
  by_cases hd : hasDescription header = true
  · simp only [hd, if_true] at hvalues hcells
    have hl : row.cells.tail.length = (columns header).length := by
      simp only [List.singleton_append, List.length_cons] at hcells
      simp only [List.length_tail]
      omega
    rw [hvalues, OrderedMap.keys_byColumn hheads.distinct hl,
      OrderedMap.values_byColumn hheads.distinct hl]
    simp [rowDescription, hd, hrow]
  · simp only [hd, Bool.false_eq_true, if_false, List.nil_append] at hvalues hcells
    have hl : row.cells.length = (columns header).length := by omega
    rw [hvalues, OrderedMap.keys_byColumn hheads.distinct hl,
      OrderedMap.values_byColumn hheads.distinct hl]
    simp [rowDescription, hd, hrow]

/-- **A column has the value at the same place of the row**, whether or not there is a column for
descriptions in front of it. -/
theorem get?_values {header row : TemplateRow} (hheads : Heads header)
    (hlength : row.cells.length = header.cells.length) {i : Nat} {column : Text}
    (hi : header.cells[i]? = some column) (hne : column ≠ []) :
    (values header row).get? column = row.cells[i]? := by
  obtain ⟨hkeys, hcells, hdescription⟩ := cells_row hheads hlength
  have hheader := cells_header header
  -- the place of the column among the columns, and of its value among the values
  obtain ⟨j, hcolumn, hvalue⟩ : ∃ j, (columns header)[j]? = some column ∧
      row.cells[i]? = (values header row).values[j]? := by
    by_cases hd : hasDescription header = true
    · obtain ⟨description, hsome⟩ := Option.isSome_iff_exists.1 (hdescription.trans hd)
      rw [if_pos hd, List.singleton_append] at hheader
      rw [hsome, Option.toList_some, List.singleton_append] at hcells
      cases i with
      | zero =>
        rw [hheader] at hi
        cases hi
        exact absurd rfl hne
      | succ j =>
        rw [hheader, List.getElem?_cons_succ] at hi
        exact ⟨j, hi, by rw [hcells, List.getElem?_cons_succ]⟩
    · rw [if_neg hd, List.nil_append] at hheader
      have hnone : rowDescription header row = none := if_neg hd
      rw [hnone, Option.toList_none, List.nil_append] at hcells
      exact ⟨i, hheader ▸ hi, by rw [← hcells]⟩
  rw [hvalue]
  rw [← hkeys, OrderedMap.keys, List.getElem?_map, Option.map_eq_some_iff] at hcolumn
  obtain ⟨entry, hentry, rfl⟩ := hcolumn
  rw [(values header row).get?_of_mem (List.mem_of_getElem? hentry), OrderedMap.values,
    List.getElem?_map, hentry, Option.map_some]

end Template

/-- What an example records of the row that it was made from: each column with the value at the same
place of the row, and what is written in front of the row. -/
structure Specification.Records (s : Specification) (header row : TemplateRow) : Prop where
  comments : s.comments = row.comments
  identifier : s.identifier = row.identifier
  labels : s.labels = row.labels
  description : s.description = if header.cells.head? = some [] then row.cells.head? else none
  keys : s.values.keys = Template.columns header
  values : ∀ (i : Nat) (column : Text), header.cells[i]? = some column → column ≠ [] →
    s.values.get? column = row.cells[i]?

/-- An example that was made from a row. -/
structure Example.MadeFrom (e : Example) (set : ExampleSet) (header row : TemplateRow) : Prop where
  exampleSet : e.exampleSet = some set
  comments : e.comments = row.comments
  identifier : e.identifier = row.identifier
  explicitLabels : e.explicitLabels = row.labels
  labels : e.labels = Labels.merge set.labels row.labels
  specification : ∃ s, e.specification = some s ∧ s.Records header row

namespace Template

/-- **An example keeps what its row says.** -/
theorem madeFrom_expandRow (set : ExampleSet) {header row : TemplateRow} (hheads : Heads header)
    (hrow : StandsBelow header row) : (expandRow set header row).MadeFrom set header row := by
  refine ⟨rfl, rfl, rfl, rfl, rfl, _, rfl, rfl, rfl, rfl, ?_,
    (cells_row hheads hrow.length_eq).1, ?_⟩
  · simp only [rowDescription, hasDescription_iff]
  · exact fun i column hi hne => get?_values hheads hrow.length_eq hi hne

/-- **What a table is expanded to**: if it fits, one example for each row, and nothing otherwise. -/
theorem expand_eq_ok {set : ExampleSet} {header : TemplateRow} {rows : List TemplateRow}
    {examples : List Example} :
    expand set header rows = .ok examples ↔
      Fits set header rows ∧ examples = rows.map (expandRow set header) := by
  unfold expand
  rw [← fault?_eq_none]
  cases fault? set header rows with
  | some invalid => simp
  | none => simp [eq_comm]

end Template

end PlainSpec
