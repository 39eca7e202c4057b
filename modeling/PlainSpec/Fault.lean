import PlainSpec.Document.Kind

/-!
# What can be wrong with a source

Every reason for refusing a source is a `Fault`.  `Fault.message` is the only place that words them.

## Main definitions

* `Block`: the shapes that a run of table rows can be read as.
* `Fault`: the reasons for refusing a source.
* `Fault.message`: the text of a reason.
-/

namespace PlainSpec

/-- The shapes that a run of table rows can be read as. -/
inductive Block where
  | matrix
  | table
  | keyValues
  | list
deriving DecidableEq

/-- The name of the shape in messages. -/
def Block.name : Block → String
  | matrix => "matrix"
  | table => "table"
  | keyValues => "key value"
  | list => "list"

/-- A reason for refusing a source. -/
inductive Fault where
  /-- A line is needed and none is left. -/
  | endOfInput
  /-- The source goes on where it should end. -/
  | linesRemain
  /-- A line that must not stand here. -/
  | unexpectedLine
  /-- A repetition without any element. -/
  | noneFound (element : String)
  /-- A reason that a rule words itself. -/
  | note (message : Text)
  /-- The line starts with none of the keywords that take a title. -/
  | noTitleKeyword (keywords : List Text)
  /-- A keyword without the title it needs. -/
  | emptyTitle (keyword : Text)
  /-- The line starts with none of the keywords that stand alone. -/
  | noLoneKeyword (keywords : List Text)
  /-- Text after a keyword that stands alone. -/
  | notAlone (keyword : Text)
  /-- The line does not start with the comment mark. -/
  | notComment (mark : Text)
  /-- A table row without its outer pipes. -/
  | rowWithoutPipes
  /-- A table row with nothing between its pipes. -/
  | rowWithoutContent
  /-- A text block that does not start with its delimiter. -/
  | textNotOpened (delimiter : Text)
  /-- A text block that never ends. -/
  | textNotClosed (delimiter : Text)
  /-- A text block of blank lines. -/
  | emptyText
  /-- A row with another number of cells than the header. -/
  | unequalColumns (block : Block) (expected found : Nat)
  /-- A header that is not followed by a row of hyphens. -/
  | noSeparator (block : Block)
  /-- A table of one row where a header and a row of hyphens are needed. -/
  | noHeader (block : Block)
  /-- Too few rows or columns for a matrix. -/
  | smallMatrix
  /-- A matrix whose corner cell is filled. -/
  | filledCorner
  /-- Two matrix rows of one name. -/
  | repeatedRow (name : Text)
  /-- Too few rows for a table. -/
  | smallTable (minimum : Nat)
  /-- A table column without a header. -/
  | emptyHeader
  /-- Two columns of one name. -/
  | repeatedHeader (block : Block) (name : Text)
  /-- A row of several cells where one is allowed. -/
  | notSingleColumn (block : Block)
  /-- A cell that is not a key and a value. -/
  | notKeyValue
  /-- A metadata line without its mark. -/
  | noMetadataMark
  /-- A metadata mark with nothing after it. -/
  | emptyMetadata
  /-- Labels without their closing parenthesis. -/
  | unclosedLabels
  /-- An empty label between commas. -/
  | emptyLabel
  /-- A word of a tag line that is not a tag. -/
  | notTag (word : Text)
  /-- The line starts with no statement keyword of the dialect. -/
  | noStatementKeyword (dialect : Dialect)
  /-- A narrative statement without text after its keyword. -/
  | emptyStep (keyword : Text)
  /-- The line continues no statement. -/
  | notContinuation
  /-- A continuation without text after its keyword. -/
  | emptyContinuation
  /-- The line is no bullet. -/
  | notBullet
  /-- A bullet without text. -/
  | emptyBullet
  /-- A statement without text. -/
  | emptyStatement (kind : StatementKind)
  /-- A statement with neither text nor bullets. -/
  | neitherTextNorList (kind : StatementKind)
  /-- A comment above the keyword of a bullet list. -/
  | commentAboveList
  /-- A statement with both text and bullets. -/
  | textAndList (kind : StatementKind)
  /-- Metadata in front of an example without a title. -/
  | inlineMetadata
  /-- Template tokens in an example that is no template. -/
  | tokensInExample (dialect : Dialect)
  /-- Template tokens in an example without a title and without a table. -/
  | tokensInInline
  /-- A template whose statements have no tokens. -/
  | setWithoutTokens
  /-- Text other than metadata in front of a row of examples. -/
  | textBeforeRow
  /-- Too few rows of examples. -/
  | fewExampleRows (dialect : Dialect)
  /-- A header of examples that is not followed by a row of hyphens. -/
  | noExamplesSeparator
  /-- A template without tokens. -/
  | templateWithoutTokens
  /-- A table of examples without a header cell. -/
  | noExamplesHeader
  /-- A table of examples with one column that has no name. -/
  | singleUnnamedColumn
  /-- A column without a name after the first one. -/
  | unnamedColumn
  /-- Comments, identifier or labels on the header of examples. -/
  | headerMetadata
  /-- Two columns of examples of one name. -/
  | repeatedColumn (name : Text)
  /-- A row of examples with another number of cells than the header. -/
  | unequalExampleRow (expected found : Nat)
  /-- A row without a description where there is a column for it. -/
  | noRowDescription
  /-- Tokens and columns that do not match. -/
  | tokenMismatch (unbound unused : List Text)
deriving DecidableEq

namespace Fault

/-- Keywords in quotation marks, with `or` between them. -/
def quoted (keywords : List Text) : String :=
  " or ".intercalate (keywords.map fun keyword => "\"" ++ keyword.toString ++ "\"")

/-- Names with commas between them. -/
def listed (names : List Text) : String := ", ".intercalate (names.map Text.toString)

/-- How the statement keyword of a kind is named in messages. -/
def named (kind : StatementKind) : String := kind.keyword.toString

/-- The wording of a reason. -/
def message : Fault → String
  | endOfInput => "unexpected end of input"
  | linesRemain => "expected end of file but there are still lines remaining"
  | unexpectedLine => "did not expect this line here"
  | noneFound element => "expected at least one " ++ element
  | note text => text.toString
  | noTitleKeyword keywords => "line doesn't begin with " ++ quoted keywords
  | emptyTitle keyword =>
    "there must be a non-empty description after the \"" ++ keyword.toString ++ "\" keyword"
  | noLoneKeyword keywords => "no " ++ quoted keywords ++ " keyword found"
  | notAlone keyword =>
    "the \"" ++ keyword.toString ++
      "\" keyword should be on a line by itself with nothing after it"
  | notComment mark =>
    "can't parse comment because the line doesn't start with " ++ mark.toString
  | rowWithoutPipes => "table rows must be contained inside pipe | characters"
  | rowWithoutContent =>
    "line is not a table row because it has no content between the | characters"
  | textNotOpened delimiter =>
    "text data must start and end with the " ++ delimiter.toString ++
      " delimiter on a line of its own"
  | textNotClosed delimiter =>
    "text data is missing its closing " ++ delimiter.toString ++ " delimiter"
  | emptyText => "text data can't be empty"
  | unequalColumns block expected found =>
    "all rows of " ++ block.name ++ " data must have the same number of columns (expected " ++
      s!"{expected}, found {found})"
  | noSeparator block =>
    block.name ++ " data must start with a header row, followed by a row with '---' " ++
      "(three or more hyphens) for each column"
  | noHeader block => block.name ++ " data needs a header row"
  | smallMatrix => "matrix data must have at least two columns and at least three rows"
  | filledCorner => "the first column header of matrix data must be empty"
  | repeatedRow name => "matrix data has more than one row named '" ++ name.toString ++ "'"
  | smallTable minimum =>
    s!"table data must have at least one column and at least {minimum} rows"
  | emptyHeader => "every column header of table data must be non-empty"
  | repeatedHeader block name =>
    "duplicate " ++ block.name ++ " column '" ++ name.toString ++ "'"
  | notSingleColumn block => block.name ++ " data must be formatted as a single column table"
  | notKeyValue => "each row of key value data must have the format '| key: value |'"
  | noMetadataMark => "an identifier or labels must be preceded by #"
  | emptyMetadata => "a # must be followed by an identifier, labels in parentheses, or both"
  | unclosedLabels => "missing closing parenthesis on labels"
  | emptyLabel => "labels inside parentheses must be non-empty and separated by commas"
  | notTag word => "tags must all be prefixed with @, found '" ++ word.toString ++ "'"
  | noStatementKeyword .reqsml => "no If:, When: or Expect: keyword found"
  | noStatementKeyword .gherkin => "no Given, When or Then keyword found"
  | emptyStep keyword =>
    "a statement must have a description after the " ++ keyword.toString ++ " keyword"
  | notContinuation => "not a statement that starts with And, But or *"
  | emptyContinuation => "a statement must have a description after the And, But or * keyword"
  | notBullet => "not a list item because the line doesn't start with -, * or •"
  | emptyBullet => "a list item must have a description and cannot be empty"
  | emptyStatement kind =>
    "a statement must have a description following the " ++ named kind ++ ": keyword"
  | neitherTextNorList kind =>
    "a statement must have a description following the " ++ named kind ++
      ": keyword, or a list of items below it"
  | commentAboveList =>
    "comments for a statement list must be placed above each list item, " ++
      "not above the statement keyword"
  | textAndList kind =>
    "a statement can't have both a description and a list; remove the text after the " ++
      named kind ++ ": keyword"
  | inlineMetadata =>
    "when a requirement has a single in-line example that example can't have its own " ++
      "identifier or labels"
  | tokensInExample .reqsml =>
    "an Example can't have template tokens; use an Example Set with an Examples: table"
  | tokensInExample .gherkin =>
    "a Scenario can't have template tokens; use a Scenario Outline with an Examples: table"
  | tokensInInline =>
    "a single example requirement can't have template tokens without an Examples: table"
  | setWithoutTokens => "there are no template tokens in the example set's statements"
  | textBeforeRow =>
    "examples rows can only have an identifier and/or labels before the table, " ++
      "e.g. '#identifier (label) | value | value |'"
  | fewExampleRows .reqsml =>
    "examples should be a table containing at least 3 rows: a header row, a separator row, " ++
      "and at least one row of values"
  | fewExampleRows .gherkin =>
    "examples should be a table containing at least 2 rows: a header row and " ++
      "at least one row of values"
  | noExamplesSeparator =>
    "examples must start with a header row, followed by a row with '---' " ++
      "(three or more hyphens) for each column"
  | templateWithoutTokens => "there are no template tokens in the example template"
  | noExamplesHeader => "the examples table has no header"
  | singleUnnamedColumn => "an examples table can't have a single column with no header"
  | unnamedColumn =>
    "only the first column of an examples table can have an empty header, " ++
      "which marks it as the description column"
  | headerMetadata => "the examples header row can't have comments, identifiers or labels"
  | repeatedColumn name =>
    "the examples table has more than one column named '" ++ name.toString ++ "'"
  | unequalExampleRow expected found =>
    "every row in the examples table must have the same number of columns as the header " ++
      s!"(expected {expected}, found {found})"
  | noRowDescription =>
    "when the examples table has a description column, every row must provide a description"
  | tokenMismatch unbound unused =>
    "every unique token must have exactly one matching column in the examples table " ++
      "(tokens without a column: [" ++ listed unbound ++ "]; columns without a token: [" ++
      listed unused ++ "])"

end Fault

end PlainSpec
