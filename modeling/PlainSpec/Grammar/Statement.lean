import PlainSpec.Grammar.DataBlock
import PlainSpec.Grammar.Keyword
import PlainSpec.Template.Token

/-!
# Statements of either dialect

Every statement is some comments, a line that says what it is, and perhaps a block of data.  The two
dialects differ in the line.

## Main definitions

* `Heading`: what the line of a statement says.
* `Grammar.statementWith`: a statement with a given kind of line.
* `Grammar.templated?`: the first statement with a token.
-/

namespace PlainSpec

/-- What the line of a statement says. -/
structure Heading where
  /-- The kind of the statement. -/
  kind : StatementKind
  /-- Its text. -/
  description : Text
  /-- The number of the line. -/
  line : Nat
deriving DecidableEq

namespace Grammar

open PlainSpec.Parser

/-- Comments, the line of a statement, and a block of data if one follows. -/
def statementWith (dialect : Dialect) (mark : Text) (heading : Parser Heading) : Parser Statement :=
  map (both (both (comments mark) heading) (optionalData dialect))
    fun ((comments, heading), data) =>
    { comments
      kind := heading.kind
      description := heading.description
      data
      line := some heading.line }

/-- Comments and the line of a statement, for lookahead. -/
def statementStart (mark : Text) (heading : Parser Heading) : Parser Unit :=
  map (both (comments mark) heading) fun _ => ()

/-- The first statement with a token in it. -/
def templated? (statements : List Statement) : Option Statement :=
  statements.find? fun statement => !statement.tokens.isEmpty

/-- The fault of an example that has a token but is no template. -/
def tokenFault? (dialect : Dialect) (statements : List Statement) : Option Invalid :=
  (templated? statements).map fun statement =>
    .onLine (statement.line.getD 0) (.tokensInExample dialect)

end Grammar

end PlainSpec
