import PlainSpec.Grammar.Statement
import PlainSpec.Template.Expand

/-!
# The narrative dialect

A feature holds rules, each of which becomes a requirement, or scenarios, which become one
requirement named after the feature.  Tags on a feature or a rule are inherited by everything below
it.

## Main definitions

* `TagHeader`, `Gherkin.header`: comments and tags in front of a construct.
* `Gherkin.statements`: the statements of a scenario.
* `Gherkin.scenario`, `Gherkin.outline`: an example, and examples from a table.
* `Gherkin.rule`, `Gherkin.document`: a requirement, and the document of a source.
-/

namespace PlainSpec

/-- What may stand in front of a construct of the narrative dialect. -/
structure TagHeader where
  /-- Comments. -/
  comments : Comments
  /-- Tags. -/
  tags : Labels
deriving DecidableEq

namespace Grammar.Gherkin

open PlainSpec.Parser

/-! ## Comments and tags -/

/-- The mark of a comment line. -/
def commentMark : Text := "#".toList

/-- The tags of a line, without their marks. -/
def readTags (text : Text) : Except Fault (List Text) :=
  text.words.mapM fun word =>
    match word with
    | '@' :: c :: name => .ok (c :: name)
    | _ => .error (.notTag word)

/-- Whether a line is a tag line. -/
def isTagLine (line : Line) : Bool := line.trimmed.startsWith ['@']

/-- A tag line if the next line is one.  Such a line must be well formed. -/
def optionalTags : Parser Labels :=
  whenAhead isTagLine <|
    check (line fun l => .ok l.trimmed) fun text => (readTags text).mapError Invalid.whole

/-- The comments before and after a tag line, taken together. -/
def joinComments : Comments → Comments → Comments
  | some before, some after => some (before ++ after)
  | before, after => before.or after

/-- Comments and tags in front of a construct. -/
def header : Parser TagHeader :=
  map (both (both (comments commentMark) optionalTags) (comments commentMark))
    fun ((before, tags), after) => ⟨joinComments before after, tags⟩

/-! ## Free text -/

/-- The keywords of an example. -/
def scenarioKeywords : List Text := ["Example:".toList, "Scenario:".toList]

/-- The keywords of a template. -/
def outlineKeywords : List Text := ["Scenario Outline:".toList, "Scenario Template:".toList]

/-- Whether a line starts an example or a template. -/
def startsScenario (text : Text) : Bool :=
  (outlineKeywords ++ scenarioKeywords).any text.startsWith

/-- Whether a line starts a construct, so that it is not free text. -/
def startsConstruct (text : Text) : Bool :=
  text.startsWith "Rule:".toList || startsScenario text ||
    (text.words.head?.bind StatementKind.ofStepKeyword?).isSome ||
    text.startsWith ['#'] || text.startsWith ['@']

/-- A line that passes a test, for lookahead. -/
def aheadIs (test : Text → Bool) : Parser Unit := peek fun l =>
  if test l.trimmed then .ok () else .error .unexpectedLine

/-- Free text below a title, which is read and dropped. -/
def freeText : Parser Unit :=
  map (many (line fun _ => .ok ()) (orElse finish (aheadIs startsConstruct))) fun _ => ()

/-! ## Statements -/

/-- The first word of a text and what follows the blank after it. -/
def splitWord (text : Text) : Text × Text := (Text.splitFirst? isBlank text).getD (text, [])

/-- The kind and the text of a line `Keyword text`. -/
def readStep (text : Text) : Except Fault (StatementKind × Text) :=
  let (word, rest) := splitWord text
  match StatementKind.ofStepKeyword? word with
  | none => .error (.noStatementKeyword .gherkin)
  | some kind => if rest.trim.isEmpty then .error (.emptyStep word) else .ok (kind, rest.trim)

/-- A line `Keyword text`. -/
def stepLine : Parser Heading := line fun l =>
  (readStep l.trimmed).map fun (kind, text) => ⟨kind, text, l.number⟩

/-- What follows `*`, `And` or `But`. -/
def afterContinuation? (text : Text) : Option Text :=
  match text with
  | '*' :: rest => some rest
  | _ =>
    match Text.splitFirst? isBlank text with
    | some (word, rest) => if word = "And".toList ∨ word = "But".toList then some rest else none
    | none => none

/-- The text of a line that goes on with the statement before it. -/
def readContinuation (text : Text) : Except Fault Text :=
  match afterContinuation? text with
  | none => .error .notContinuation
  | some rest => if rest.trim.isEmpty then .error .emptyContinuation else .ok rest.trim

/-- A line that goes on with a statement of the given kind. -/
def continuationLine (kind : StatementKind) : Parser Heading := line fun l =>
  (readContinuation l.trimmed).map fun text => ⟨kind, text, l.number⟩

/-- The statements that go on with a statement of the given kind. -/
def continuations (kind : StatementKind) : Parser (List Statement) :=
  manyWhile (statementWith .gherkin commentMark (continuationLine kind))
    (statementStart commentMark (continuationLine kind))

/-- A statement and those that go on with it. -/
def statementGroup : Parser (List Statement) :=
  bind (statementWith .gherkin commentMark stepLine) fun first =>
    map (continuations first.kind) fun rest => first :: rest

/-- The statements of a scenario. -/
def statements : Parser (List Statement) :=
  map (severalWhile "statement" statementGroup (statementStart commentMark stepLine)) fun groups =>
    groups.toList.flatten

/-! ## Examples -/

/-- An example. -/
def scenario : Parser Example :=
  check (both (first (both header (titled scenarioKeywords)) freeText) statements)
    fun ((header, description), statements) =>
      match tokenFault? .gherkin statements with
      | some invalid => .error invalid
      | none =>
        .ok
          { comments := header.comments
            identifier := none
            labels := header.tags
            explicitLabels := header.tags
            description := some description
            statements
            exampleSet := none
            specification := none }

/-- A row of examples, perhaps with comments and tags above it. -/
def exampleRow : Parser TemplateRow :=
  map (both header tableRow) fun (header, row) =>
    ⟨row.line, header.comments, none, header.tags, row.cells⟩

/-- The keywords above a table of examples. -/
def examplesKeywords : List Text := ["Examples:".toList, "Scenarios:".toList]

/-- A template and its table, as the examples made from them. -/
def outline : Parser (List Example) := fun c =>
  check
    (both
      (first (both (first (both header (titled outlineKeywords)) freeText) statements)
        (alone examplesKeywords))
      (severalWhile "examples row" exampleRow exampleRow))
    (fun (((header, description), statements), rows) =>
      let set : ExampleSet :=
        { comments := header.comments
          identifier := none
          labels := header.tags
          description := some description
          statements
          line := some c.lineNumber }
      if rows.tail.isEmpty then .error (.whole (.fewExampleRows .gherkin))
      else Template.expand set rows.head rows.tail)
    c

/-- The start of an example or a template, for lookahead. -/
def exampleStart : Parser Unit := map (both header (aheadIs startsScenario)) fun _ => ()

/-- Examples and templates. -/
def examples : Parser (List Example) :=
  map (severalWhile "scenario" (orElse outline (map scenario fun e => [e])) exampleStart)
    fun blocks => blocks.toList.flatten

/-! ## Features -/

/-- A rule and its examples. -/
def rule : Parser Requirement :=
  map (both (first (both header (titled ["Rule:".toList])) freeText) examples)
    fun ((header, description), examples) =>
      { comments := header.comments
        identifier := none
        labels := header.tags
        explicitLabels := header.tags
        description
        examples }

/-- The requirement with the labels that it and its examples inherit. -/
def inherit (inherited : Labels) (r : Requirement) : Requirement :=
  let labels := Labels.merge inherited r.explicitLabels
  { r with
    labels
    examples := r.examples.map fun e => { e with labels := Labels.merge labels e.labels } }

/-- What a feature holds. -/
inductive Body where
  /-- Rules. -/
  | rules (rules : List Requirement)
  /-- Scenarios without rules. -/
  | scenarios (examples : List Example)

/-- The rules of a feature, or its scenarios. -/
def body : Parser Body :=
  orElse (map (several "rule" rule finish) fun rules => .rules rules.toList)
    (map (first examples finish) .scenarios)

/-- The requirements of a feature: its rules, or one requirement that is named after it. -/
def Body.requirements (title : Text) : Body → List Requirement
  | .rules found => found
  | .scenarios examples =>
    [{ comments := none
       identifier := none
       labels := none
       explicitLabels := none
       description := title
       examples }]

/-- A feature: comments and tags, its title, and what it holds. -/
def feature : Parser ((TagHeader × Text) × Body) :=
  both (first (both header (titled ["Feature:".toList])) freeText) body

/-- The document of a source in the narrative dialect. -/
def document (source : Path) (text : Text) : Except ParseError Document :=
  (feature (Cursor.ofText text)).result.map fun ((header, title), body) =>
    { source
      comments := header.comments
      labels := header.tags
      description := some title
      dialect := .gherkin
      requirements := (body.requirements title).map (inherit header.tags) }

end Grammar.Gherkin

end PlainSpec
