import PlainSpec.ParseError
import PlainSpec.Template.Token

/-!
# Examples from a table

A table of examples binds each token of a template to a column.  Every row of the table makes one
example, in which the tokens are replaced by the values of the row.

## Main definitions

* `TemplateRow`: a row of the table, as it was written.
* `Template.fault?`: what is wrong with a table.
* `Template.expand`: the examples of a table.
-/

namespace PlainSpec

/-- A row of a table of examples, as it was written. -/
structure TemplateRow where
  /-- The line of the row. -/
  line : Nat
  /-- Comments in front of it. -/
  comments : Comments
  /-- Its identifier. -/
  identifier : Option Text
  /-- The labels written on it. -/
  labels : Labels
  /-- Its cells. -/
  cells : List Text
deriving DecidableEq

/-- Whether anything but cells was written. -/
def TemplateRow.hasMetadata (row : TemplateRow) : Bool :=
  row.comments.isSome || row.identifier.isSome || row.labels.isSome

namespace Template

/-- The text with a token replaced. -/
def replace (name value text : Text) : Text := Text.replaceAll ('<' :: name ++ ['>']) value text

/-- The statement with a token replaced. -/
def replaceInStatement (name value : Text) (s : Statement) : Statement :=
  { s with
    description := replace name value s.description
    data := s.data.map (Data.mapTexts (replace name value)) }

/-- Whether the first column of a header is for descriptions: it has no name. -/
def hasDescription (header : TemplateRow) : Bool := header.cells.head? = some []

/-- The columns that stand for tokens. -/
def columns (header : TemplateRow) : List Text :=
  if hasDescription header then header.cells.tail else header.cells

/-- What is wrong with a row below a header. -/
def rowFault? (header row : TemplateRow) : Option Invalid :=
  if row.cells.length ≠ header.cells.length then
    some (.onLine row.line (.unequalExampleRow header.cells.length row.cells.length))
  else if hasDescription header && row.cells.head? = some [] then
    some (.onLine row.line .noRowDescription)
  else none

/-- What is wrong with the header of a table, whatever is below it. -/
def headerFault? (header : TemplateRow) : Option Invalid :=
  match header.cells with
  | [] => some (.onLine header.line .noExamplesHeader)
  | first :: rest =>
    if rest.isEmpty && first.isEmpty then some (.onLine header.line .singleUnnamedColumn)
    else if rest.any List.isEmpty then some (.onLine header.line .unnamedColumn)
    else if header.hasMetadata then some (.onLine header.line .headerMetadata)
    else (Text.firstRepeat? (columns header)).map fun name =>
      .onLine header.line (.repeatedColumn name)

/-- What is wrong with the match between tokens and columns. -/
def matchFault? (set : ExampleSet) (header : TemplateRow) : Option Invalid :=
  let names := Text.sortedSet (columns header)
  if names = set.tokens then none
  else
    some (.onLine header.line
      (.tokenMismatch (set.tokens.filter (· ∉ names)) (names.filter (· ∉ set.tokens))))

/-- What is wrong with a table of examples: the first fault found in the template, then in the
header, then in a row, then in the match between tokens and columns. -/
def fault? (set : ExampleSet) (header : TemplateRow) (rows : List TemplateRow) : Option Invalid :=
  if set.tokens.isEmpty then some (.whole .templateWithoutTokens)
  else
    (headerFault? header).or <|
      (rows.findSome? (rowFault? header)).or (matchFault? set header)

/-- The values of a row by token. -/
def values (header row : TemplateRow) : OrderedMap Text Text :=
  let cells := if hasDescription header then row.cells.tail else row.cells
  .ofList ((columns header).zip cells)

/-- The description of a row, if the table has a column for it. -/
def rowDescription (header row : TemplateRow) : Option Text :=
  if hasDescription header then row.cells.head? else none

/-- The example of a row.  Tokens are replaced column by column. -/
def expandRow (set : ExampleSet) (header row : TemplateRow) : Example :=
  let values := values header row
  let rowDescription := rowDescription header row
  { comments := row.comments
    identifier := row.identifier
    labels := Labels.merge set.labels row.labels
    explicitLabels := row.labels
    description :=
      values.entries.foldl (fun text (name, value) => text.map (replace name value))
        (rowDescription.or set.description)
    statements :=
      values.entries.foldl (fun statements (name, value) =>
        statements.map (replaceInStatement name value)) set.statements
    exampleSet := some set
    specification :=
      some
        { comments := row.comments
          identifier := row.identifier
          labels := row.labels
          description := rowDescription
          values := values } }

/-- The examples of a table, one for each row. -/
def expand (set : ExampleSet) (header : TemplateRow) (rows : List TemplateRow) :
    Except Invalid (List Example) :=
  match fault? set header rows with
  | some invalid => .error invalid
  | none => .ok (rows.map (expandRow set header))

end Template

end PlainSpec
