import PlainSpec.Document.Model

/-!
# Aligned tables

Cells are padded so that the pipes of a table stand below each other.  Widths are counted in
characters.

## Main definitions

* `Aligned.cell`, `Aligned.separator`: a cell, and a cell of hyphens, of a given width.
* `Aligned.columns`: the columns of some rows with their widths.
* `Aligned.rows`: the lines of a table.
* `Data.rows`: the lines of a block of data.

## Main results

* `Aligned.length_padTo`: what a text is padded to.
-/

namespace PlainSpec

namespace Aligned

/-- The least width of a column, so that its hyphens make a separator. -/
def minimumWidth : Nat := 3

/-- Fills a text with spaces up to a width. -/
def padTo (width : Nat) (t : Text) : Text := t ++ List.replicate (width - t.length) ' '

@[simp] theorem length_padTo (width : Nat) (t : Text) :
    (padTo width t).length = max width t.length := by
  simp [padTo]
  omega

/-- A cell of a given width, with the pipe before it. -/
def cell (width : Nat) (value : Text) : Text := ['|', ' '] ++ padTo width value ++ [' ']

/-- A cell of hyphens of a given width. -/
def separator (width : Nat) : Text := cell width (List.replicate width '-')

/-- The greatest of the lengths of some texts. -/
def longest (texts : List Text) : Nat := texts.foldl (fun n t => max n t.length) 0

/-- The names of the columns of some rows, in the order in which they first occur. -/
def columnNames (rows : List (OrderedMap Text Text)) : List Text :=
  (rows.flatMap OrderedMap.keys).eraseDups

/-- The width of a column: that of its name, of its widest value, or the least width. -/
def columnWidth (rows : List (OrderedMap Text Text)) (name : Text) : Nat :=
  max (max name.length minimumWidth) (longest (rows.filterMap (·.get? name)))

/-- The columns of some rows with their widths. -/
def columns (rows : List (OrderedMap Text Text)) : List (Text × Nat) :=
  (columnNames rows).map fun name => (name, columnWidth rows name)

/-- The cells of the column names. -/
def headerCells (columns : List (Text × Nat)) : Text :=
  columns.flatMap fun (name, width) => cell width name

/-- The cells of hyphens below the column names. -/
def separatorCells (columns : List (Text × Nat)) : Text :=
  columns.flatMap fun (_, width) => separator width

/-- The cells of a row.  A missing value leaves its cell empty. -/
def valueCells (columns : List (Text × Nat)) (row : OrderedMap Text Text) : Text :=
  columns.flatMap fun (name, width) => cell width ((row.get? name).getD [])

/-- The lines of a table. -/
def table (rows : List (OrderedMap Text Text)) : List Text :=
  let columns := columns rows
  (headerCells columns ++ ['|']) :: (separatorCells columns ++ ['|']) ::
    rows.map fun row => valueCells columns row ++ ['|']

/-- The lines of a matrix. -/
def matrix (rows : OrderedMap Text (OrderedMap Text Text)) : List Text :=
  let columns := columns rows.values
  let width := max (longest rows.keys) minimumWidth
  (cell width [] ++ headerCells columns ++ ['|']) ::
    (separator width ++ separatorCells columns ++ ['|']) ::
    rows.entries.map fun (key, row) => cell width key ++ valueCells columns row ++ ['|']

/-- The lines of a list. -/
def list (items : List Text) : List Text :=
  items.map fun item => cell (longest items) item ++ ['|']

/-- The greatest length of a key and its value together. -/
def longestPair (pairs : OrderedMap Text Text) : Nat :=
  pairs.entries.foldl (fun n (key, value) => max n (key.length + value.length)) 0

/-- The lines of key-value pairs. -/
def keyValues (pairs : OrderedMap Text Text) : List Text :=
  pairs.entries.map fun (key, value) =>
    ['|', ' '] ++ key ++ [':', ' '] ++ padTo (longestPair pairs + 1 - key.length) value ++ ['|']

end Aligned

/-- The lines of a block of data in the tabular dialect. -/
def Data.rows : Data → List Text
  | text content =>
    Dialect.reqsml.textDelimiter :: content.splitOn '\n' ++ [Dialect.reqsml.textDelimiter]
  | list items => Aligned.list items
  | keyValues pairs => Aligned.keyValues pairs
  | table rows => Aligned.table rows
  | matrix rows => Aligned.matrix rows

end PlainSpec
