import PlainSpec.Document.Model
import PlainSpec.Parser.Repeat

/-!
# Blocks of data below a statement

A block is a text between two delimiter lines or a run of table rows.  A run of rows is read as a
matrix, a table, key-value pairs or a list, whichever fits first in the order of the dialect.

## Main definitions

* `TableRow`, `Grammar.splitCells`: a row of cells between pipes.
* `Grammar.textBlock`: lines of text between delimiters.
* `Grammar.readMatrix`, `Grammar.readTable`, `Grammar.readKeyValues`, `Grammar.readList`: the
  readings of a run of rows.
* `Grammar.data`, `Grammar.optionalData`: a block, and a block if one starts on the next line.
-/

namespace PlainSpec

/-- A row of a table. -/
structure TableRow where
  /-- The line of the row. -/
  line : Nat
  /-- Its cells, without the blanks around them. -/
  cells : List Text
deriving DecidableEq

namespace Grammar

open PlainSpec.Parser

/-! ## Rows -/

/-- The cells of a row `| a | b |`.  One pipe is taken from each end, so that empty cells stay. -/
def splitCells (text : Text) : Except Fault (List Text) :=
  match Text.inside? '|' '|' text with
  | none => .error .rowWithoutPipes
  | some inner =>
    if inner.trim.isEmpty then .error .rowWithoutContent
    else .ok ((inner.splitOn '|').map Text.trim)

/-- Whether a text is a row of a table. -/
def isRow (text : Text) : Bool :=
  match splitCells text with
  | .ok _ => true
  | .error _ => false

/-- A row of a table. -/
def tableRow : Parser TableRow :=
  line fun l => (splitCells l.trimmed).map fun cells => ⟨l.number, cells⟩

/-- A run of table rows. -/
def tableRows : Parser (Several TableRow) := severalWhile "table row" tableRow tableRow

/-- Whether a cell is a run of at least three hyphens. -/
def isSeparator (cell : Text) : Bool := 3 ≤ cell.length && cell.all (· == '-')

/-! ## Text -/

/-- The lines up to the next delimiter line, without the blanks around them, and the place after
it. -/
def bodyUntil (delimiter : Text) : List Line → List Line → Option (List Text × Cursor)
  | _, [] => none
  | passed, line :: rest =>
    if line.trimmed = delimiter then some ([], ⟨line :: passed, rest⟩)
    else
      (bodyUntil delimiter (line :: passed) rest).map fun (body, next) =>
        (line.trimmed :: body, next)

/-- The line that opens a text block. -/
def opening (dialect : Dialect) : Parser Unit := line fun l =>
  if l.trimmed = dialect.textDelimiter then .ok ()
  else .error (.textNotOpened dialect.textDelimiter)

/-- The rest of a text block after its opening line. -/
def textBody (dialect : Dialect) : Parser Data := fun c =>
  match bodyUntil dialect.textDelimiter c.passed c.rest with
  | none =>
    let last := (c.lines.getLast?.map Line.number).getD 0
    .fail ⟨last, .unrecognised, .textNotClosed dialect.textDelimiter⟩ c
  | some (body, next) =>
    if body.all List.isEmpty then .fail ⟨c.lineNumber, .invalid, .emptyText⟩ c
    else .ok (.text (Text.join ['\n'] body)) next

/-- A text between two delimiter lines. -/
def textBlock (dialect : Dialect) : Parser Data := bind (opening dialect) fun _ => textBody dialect

/-! ## Checks of a run of rows -/

/-- What is wrong if some row has another number of cells than the first one. -/
def columnsFault? (block : Block) (rows : Several TableRow) : Option Invalid :=
  (rows.tail.find? fun row => row.cells.length ≠ rows.head.cells.length).map fun row =>
    .onLine row.line (.unequalColumns block rows.head.cells.length row.cells.length)

/-- What is wrong if the tabular dialect's row of hyphens is missing. -/
def separatorFault? (dialect : Dialect) (block : Block) (rows : Several TableRow) :
    Option Invalid :=
  match dialect, rows.tail with
  | .gherkin, _ => none
  | .reqsml, [] => some (.whole (.noHeader block))
  | .reqsml, row :: _ =>
    if row.cells.all isSeparator then none else some (.onLine row.line (.noSeparator block))

/-- What is wrong if a column name occurs twice. -/
def repeatFault? (block : Block) (line : Nat) (names : List Text) : Option Invalid :=
  (Text.firstRepeat? names).map fun name => .onLine line (.repeatedHeader block name)

/-- The rows below the header. -/
def valueRows (dialect : Dialect) (rows : Several TableRow) : List TableRow :=
  rows.toList.drop dialect.headerRows

/-- The cells of a row by the names of their columns. -/
def byColumn (columns cells : List Text) : OrderedMap Text Text := .ofList (columns.zip cells)

/-! ## Readings of a run of rows -/

/-- Enters rows by their first cell, which must not occur twice. -/
def enterRows (columns : List Text) :
    List TableRow → OrderedMap Text (OrderedMap Text Text) →
      Except Invalid (OrderedMap Text (OrderedMap Text Text))
  | [], entered => .ok entered
  | row :: rows, entered =>
    match row.cells with
    | [] => enterRows columns rows entered
    | key :: cells =>
      if (entered.get? key).isSome then .error (.onLine row.line (.repeatedRow key))
      else enterRows columns rows (entered.insert key (byColumn columns cells))

/-- What is wrong with rows that should be a matrix, apart from repeated rows. -/
def matrixFault? (dialect : Dialect) (rows : Several TableRow) : Option Invalid :=
  if rows.head.cells.length < 2 ∨ rows.toList.length < 3 then some (.whole .smallMatrix)
  else
    (separatorFault? dialect .matrix rows).or <|
      (columnsFault? .matrix rows).or <|
        if rows.head.cells.head? ≠ some [] then some (.whole .filledCorner)
        else repeatFault? .matrix rows.head.line rows.head.cells.tail

/-- Reads rows as a matrix: column names after an empty corner, and a name at the start of each
row. -/
def readMatrix (dialect : Dialect) (rows : Several TableRow) : Except Invalid Data :=
  match matrixFault? dialect rows with
  | some invalid => .error invalid
  | none =>
    (enterRows rows.head.cells.tail (valueRows dialect rows) .empty).map .matrix

/-- What is wrong with rows that should be a table. -/
def tableFault? (dialect : Dialect) (rows : Several TableRow) : Option Invalid :=
  if rows.toList.length < dialect.headerRows + 1 then
    some (.whole (.smallTable (dialect.headerRows + 1)))
  else if rows.head.cells.any List.isEmpty then some (.onLine rows.head.line .emptyHeader)
  else
    (separatorFault? dialect .table rows).or <|
      (columnsFault? .table rows).or (repeatFault? .table rows.head.line rows.head.cells)

/-- Reads rows as a table: column names, and rows of values below them. -/
def readTable (dialect : Dialect) (rows : Several TableRow) : Except Invalid Data :=
  match tableFault? dialect rows with
  | some invalid => .error invalid
  | none =>
    .ok (.table ((valueRows dialect rows).map fun row => byColumn rows.head.cells row.cells))

/-- The one cell of a row. -/
def singleCell (block : Block) (row : TableRow) : Except Invalid Text :=
  match row.cells with
  | [cell] => .ok cell
  | _ => .error (.onLine row.line (.notSingleColumn block))

/-- The key and the value of a cell `key: value`.  Empty stretches between colons do not count. -/
def keyValue? (cell : Text) : Option (Text × Text) :=
  match ((cell.splitOn ':').filter (!·.isEmpty)).map Text.trim with
  | [key, value] => some (key, value)
  | _ => none

/-- The key and the value of a row of one cell. -/
def keyValueOf (row : TableRow) (cell : Text) : Except Invalid (Text × Text) :=
  match keyValue? cell with
  | some pair => .ok pair
  | none => .error (.onLine row.line .notKeyValue)

/-- Reads rows of one cell as key-value pairs.  A repeated key keeps the last value. -/
def readKeyValues (rows : Several TableRow) : Except Invalid Data :=
  match rows.toList.mapM (singleCell .keyValues) with
  | .error invalid => .error invalid
  | .ok cells =>
    ((rows.toList.zip cells).mapM fun (row, cell) => keyValueOf row cell).map fun pairs =>
      .keyValues (.ofList pairs)

/-- Reads rows of one cell as a list. -/
def readList (rows : Several TableRow) : Except Invalid Data :=
  (rows.toList.mapM (singleCell .list)).map .list

/-! ## Blocks -/

/-- A block of data, by the first reading that fits in the order of the dialect. -/
def data : Dialect → Parser Data
  | .gherkin =>
    orElse (orElse (orElse (orElse (textBlock .gherkin)
      (check tableRows (readMatrix .gherkin)))
      (check tableRows readKeyValues))
      (check tableRows readList))
      (check tableRows (readTable .gherkin))
  | .reqsml =>
    orElse (orElse (orElse (orElse (textBlock .reqsml)
      (check tableRows (readMatrix .reqsml)))
      (check tableRows (readTable .reqsml)))
      (check tableRows readKeyValues))
      (check tableRows readList)

/-- Whether a line starts a block of data. -/
def startsData (dialect : Dialect) (line : Line) : Bool :=
  line.trimmed = dialect.textDelimiter || isRow line.trimmed

/-- A block of data if the next line starts one.  From there on the block must be well formed. -/
def optionalData (dialect : Dialect) : Parser (Option Data) :=
  whenAhead (startsData dialect) (data dialect)

end Grammar

end PlainSpec
