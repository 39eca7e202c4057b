import PlainSpec.Grammar.Statement
import PlainSpec.Template.Expand

/-!
# The tabular dialect

```text
// comment
#identifier (label, label)
Requirement: description
  Example: description
    If: condition
    When: action
    Expect:
      - outcome
      - another outcome
```

A requirement holds one example without a title, or titled examples and example sets, or a template
without a title and a table of examples.

## Main definitions

* `Metadata`, `ReqsML.readMetadata`: an identifier and labels.
* `ReqsML.statements`: the statements of an example.
* `ReqsML.exampleSet`, `ReqsML.inlineExamples`: examples from a table.
* `ReqsML.requirement`, `ReqsML.document`: a requirement, and all requirements of a source.
-/

namespace PlainSpec

/-- An identifier and labels. -/
structure Metadata where
  /-- The identifier. -/
  identifier : Option Text
  /-- The labels. -/
  labels : Labels
deriving DecidableEq

/-- What may stand in front of a construct of the tabular dialect. -/
structure Header where
  /-- Comments. -/
  comments : Comments
  /-- Identifier and labels. -/
  metadata : Metadata
deriving DecidableEq

namespace Grammar.ReqsML

open PlainSpec.Parser

/-! ## Metadata -/

/-- The mark of a comment line. -/
def commentMark : Text := "//".toList

/-- No identifier and no labels. -/
def noMetadata : Metadata := ⟨none, none⟩

/-- The labels between parentheses. -/
def readLabels (text : Text) : Except Fault (List Text) :=
  match Text.inside? '(' ')' text with
  | none => .error .unclosedLabels
  | some inner =>
    let labels := (inner.splitOn ',').map Text.trim
    if labels.any List.isEmpty then .error .emptyLabel else .ok labels

/-- `#identifier (label, label)`, of which either part may be missing. -/
def readMetadata (text : Text) : Except Fault Metadata :=
  match Text.after? ['#'] text with
  | none => .error .noMetadataMark
  | some rest =>
    let identifier := Text.trim (Text.cutAt (· == '(') rest).1
    let labels := Text.trim (Text.cutAt (· == '(') rest).2
    if identifier.isEmpty && labels.isEmpty then .error .emptyMetadata
    else if labels.isEmpty then .ok ⟨some identifier, none⟩
    else
      (readLabels labels).map fun labels =>
        ⟨if identifier.isEmpty then none else some identifier, some labels⟩

/-- Whether a line is a metadata line. -/
def isMetadata (line : Line) : Bool := line.trimmed.startsWith ['#']

/-- A metadata line if the next line is one.  Such a line must be well formed. -/
def optionalMetadata : Parser (Option Metadata) :=
  whenAhead isMetadata <|
    check (line fun l => .ok l.trimmed) fun text => (readMetadata text).mapError Invalid.whole

/-- Comments and metadata in front of a construct. -/
def header : Parser Header :=
  map (both (comments commentMark) optionalMetadata) fun (comments, metadata) =>
    ⟨comments, metadata.getD noMetadata⟩

/-! ## Statements -/

/-- The kind and the text of a line `Keyword: text`. -/
def readKeyword (text : Text) : Except Fault (StatementKind × Text) :=
  match Text.splitFirst? (· == ':') text with
  | none => .error (.noStatementKeyword .reqsml)
  | some (word, rest) =>
    match StatementKind.ofKeyword? word with
    | none => .error (.noStatementKeyword .reqsml)
    | some kind => .ok (kind, rest.trim)

/-- A line `Keyword: text`. -/
def keywordLine : Parser Heading := line fun l =>
  (readKeyword l.trimmed).map fun (kind, text) => ⟨kind, text, l.number⟩

/-- A statement with its text after the keyword, or with none. -/
def statement : Parser Statement := statementWith .reqsml commentMark keywordLine

/-- The characters that start a bullet. -/
def bulletMarks : List Char := ['-', '*', '•']

/-- The text of a bullet. -/
def readBullet : Text → Except Fault Text
  | [] => .error .notBullet
  | c :: rest =>
    if c ∉ bulletMarks then .error .notBullet
    else if (Text.trim rest).isEmpty then .error .emptyBullet
    else .ok (Text.trim rest)

/-- A bullet, as a statement of the given kind. -/
def bulletLine (kind : StatementKind) : Parser Heading := line fun l =>
  (readBullet l.trimmed).map fun text => ⟨kind, text, l.number⟩

/-- The bullets below a keyword. -/
def bullets (kind : StatementKind) : Parser (List Statement) :=
  manyWhile (statementWith .reqsml commentMark (bulletLine kind))
    (statementStart commentMark (bulletLine kind))

/-- A statement that must have a text. -/
def singleStatement : Parser (List Statement) :=
  check statement fun statement =>
    if statement.description.isEmpty then .error (.whole (.emptyStatement statement.kind))
    else .ok [statement]

/-- What is wrong with a keyword and the bullets below it. -/
def listFault? (keyword : Statement) (items : List Statement) : Option Fault :=
  if items.isEmpty then some (.neitherTextNorList keyword.kind)
  else if keyword.comments.isSome then some .commentAboveList
  else if !keyword.description.isEmpty then some (.textAndList keyword.kind)
  else none

/-- A keyword without text and a list of bullets below it. -/
def statementList : Parser (List Statement) :=
  check (bind statement fun keyword => map (bullets keyword.kind) fun items => (keyword, items))
    fun (keyword, items) =>
      match listFault? keyword items with
      | some fault => .error (.onLine (keyword.line.getD 0) fault)
      | none => .ok items

/-- A statement, or a list of statements under one keyword. -/
def statementGroup : Parser (List Statement) := orElse singleStatement statementList

/-- The statements of an example. -/
def statements : Parser (List Statement) :=
  map (severalWhile "statement" statementGroup (statementStart commentMark keywordLine))
    fun groups => groups.toList.flatten

/-- The statements of an example without a title, which can have no metadata of its own. -/
def inlineStatements : Parser (List Statement) := fun c =>
  match header c with
  | .fail error _ => .fail error c
  | .ok found _ =>
    if found.metadata.identifier.isSome || found.metadata.labels.isSome then
      .fail ⟨c.lineNumber, .invalid, .inlineMetadata⟩ c
    else statements c

/-! ## Tables of examples -/

/-- The keyword above a table of examples. -/
def examplesKeyword : List Text := ["Examples:".toList]

/-- The cells of a row and the metadata in front of it. -/
def readExampleRow (text : Text) : Except Fault (Metadata × List Text) :=
  let front := Text.trim (Text.cutAt (· == '|') text).1
  let row := (Text.cutAt (· == '|') text).2
  if front.isEmpty then (splitCells row).map fun cells => (noMetadata, cells)
  else if front.startsWith ['#'] then
    match readMetadata front with
    | .error fault => .error fault
    | .ok metadata => (splitCells row).map fun cells => (metadata, cells)
  else .error .textBeforeRow

/-- A row of examples, perhaps with comments above it. -/
def exampleRow : Parser TemplateRow :=
  map
    (both (comments commentMark) (line fun l =>
      (readExampleRow l.trimmed).map fun (metadata, cells) => (l.number, metadata, cells)))
    fun (comments, number, metadata, cells) =>
      ⟨number, comments, metadata.identifier, metadata.labels, cells⟩

/-- The rows of a table of examples. -/
def exampleRows : Parser (List TemplateRow) :=
  map (severalWhile "examples row" exampleRow exampleRow) Several.toList

/-- The examples of a template and the rows of its table: a header, a row of hyphens, and values. -/
def expandRows (set : ExampleSet) : List TemplateRow → Except Invalid (List Example)
  | header :: separator :: value :: values =>
    if separator.cells.all isSeparator then Template.expand set header (value :: values)
    else .error (.onLine separator.line .noExamplesSeparator)
  | _ => .error (.whole (.fewExampleRows .reqsml))

/-! ## Examples -/

/-- A titled example. -/
def singleExample : Parser Example :=
  check (both (both header (titled ["Example:".toList])) statements)
    fun ((header, description), statements) =>
      match tokenFault? .reqsml statements with
      | some invalid => .error invalid
      | none =>
        .ok
          { comments := header.comments
            identifier := header.metadata.identifier
            labels := header.metadata.labels
            explicitLabels := header.metadata.labels
            description := some description
            statements
            exampleSet := none
            specification := none }

/-- The keywords of a titled template. -/
def setKeywords : List Text := ["Example Set:".toList, "ExampleSet:".toList]

/-- A titled template and its table, as the examples made from them. -/
def exampleSet : Parser (List Example) := fun c =>
  check
    (both (first (both (both header (titled setKeywords)) statements) (alone examplesKeyword))
      exampleRows)
    (fun (((header, description), statements), rows) =>
      let set : ExampleSet :=
        { comments := header.comments
          identifier := header.metadata.identifier
          labels := header.metadata.labels
          description := some description
          statements
          line := some c.lineNumber }
      if (templated? statements).isNone then .error (.whole .setWithoutTokens)
      else expandRows set rows)
    c

/-- The start of a titled example or template, for lookahead. -/
def exampleStart : Parser Unit :=
  map (both header (titled ("Example:".toList :: setKeywords))) fun _ => ()

/-- Titled examples and templates. -/
def examples : Parser (List Example) :=
  map
    (severalWhile "example" (orElse exampleSet (map singleExample fun e => [e])) exampleStart)
    fun blocks => blocks.toList.flatten

/-- Whether a line is the keyword above a table of examples. -/
def startsExamples (line : Line) : Bool := line.trimmed.startsWith "Examples:".toList

/-- A table of examples if one follows. -/
def optionalRows : Parser (Option (List TemplateRow)) :=
  whenAhead startsExamples (second (alone examplesKeyword) exampleRows)

/-- The examples of a requirement without titles: one example, or a template and its table. -/
def inlineExamples : Parser (List Example) := fun c =>
  check (both inlineStatements optionalRows)
    (fun
      | (statements, none) =>
        if (templated? statements).isSome then .error (.whole .tokensInInline)
        else
          .ok
            [{ comments := none
               identifier := none
               labels := none
               explicitLabels := none
               description := none
               statements
               exampleSet := none
               specification := none }]
      | (statements, some rows) =>
        expandRows
          { comments := none
            identifier := none
            labels := none
            description := none
            statements
            line := some c.lineNumber }
          rows)
    c

/-! ## Requirements -/

/-- The example with the labels that it inherits from its requirement. -/
def inherit (labels : Labels) (e : Example) : Example :=
  { e with labels := Labels.merge labels e.labels }

/-- A requirement and its examples. -/
def requirement : Parser Requirement :=
  map (both (both header (titled ["Requirement:".toList])) (orElse inlineExamples examples))
    fun ((header, description), examples) =>
      { comments := header.comments
        identifier := header.metadata.identifier
        labels := header.metadata.labels
        explicitLabels := header.metadata.labels
        description
        examples := examples.map (inherit header.metadata.labels) }

/-- All requirements of a source. -/
def requirements : Parser (Several Requirement) := several "requirement" requirement finish

/-- The document of a source in the tabular dialect. -/
def document (source : Path) (text : Text) : Except ParseError Document :=
  (requirements (Cursor.ofText text)).result.map fun requirements =>
    { source
      comments := none
      labels := none
      description := none
      dialect := .reqsml
      requirements := requirements.toList }

end Grammar.ReqsML

end PlainSpec
