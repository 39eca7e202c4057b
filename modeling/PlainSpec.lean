import PlainSpec.Canonical.Export
import PlainSpec.Canonical.Layout
import PlainSpec.Canonical.Table
import PlainSpec.Case
import PlainSpec.Command.Arguments
import PlainSpec.Command.Report
import PlainSpec.Command.Run
import PlainSpec.Command.Style
import PlainSpec.Config.Basic
import PlainSpec.Config.Toml
import PlainSpec.Cursor
import PlainSpec.Document.Kind
import PlainSpec.Document.Model
import PlainSpec.Document.Parse
import PlainSpec.Document.Same
import PlainSpec.Expression.Basic
import PlainSpec.Expression.Parse
import PlainSpec.Fault
import PlainSpec.Grammar.DataBlock
import PlainSpec.Grammar.Gherkin
import PlainSpec.Grammar.Keyword
import PlainSpec.Grammar.ReqsML
import PlainSpec.Grammar.Statement
import PlainSpec.Labels
import PlainSpec.Line
import PlainSpec.Main
import PlainSpec.OrderedMap
import PlainSpec.ParseError
import PlainSpec.Parser.Basic
import PlainSpec.Parser.Repeat
import PlainSpec.Path
import PlainSpec.Pattern.Basic
import PlainSpec.Pattern.Bracket
import PlainSpec.Pattern.Escape
import PlainSpec.Pattern.Read
import PlainSpec.Proofs.Canonical.Blocks
import PlainSpec.Proofs.Canonical.Conversion
import PlainSpec.Proofs.Canonical.DataBlocks
import PlainSpec.Proofs.Canonical.Examples
import PlainSpec.Proofs.Canonical.ExamplesTable
import PlainSpec.Proofs.Canonical.Layout
import PlainSpec.Proofs.Canonical.Lines
import PlainSpec.Proofs.Canonical.Parts
import PlainSpec.Proofs.Canonical.Reading
import PlainSpec.Proofs.Canonical.Requirements
import PlainSpec.Proofs.Canonical.Roundtrip
import PlainSpec.Proofs.Canonical.Statements
import PlainSpec.Proofs.Canonical.Table
import PlainSpec.Proofs.Document.ErrorLine
import PlainSpec.Proofs.Document.Inheritance
import PlainSpec.Proofs.Document.Kept
import PlainSpec.Proofs.Document.LayoutBlind
import PlainSpec.Proofs.Document.Placement
import PlainSpec.Proofs.Document.Statements
import PlainSpec.Proofs.Document.Tables
import PlainSpec.Proofs.Document.WellFormed
import PlainSpec.Proofs.Expression.Acceptance
import PlainSpec.Proofs.Expression.Display
import PlainSpec.Proofs.Expression.Grammar
import PlainSpec.Proofs.Grammar.Blocks
import PlainSpec.Proofs.Grammar.ColumnErrors
import PlainSpec.Proofs.Grammar.Discipline
import PlainSpec.Proofs.Grammar.Legible
import PlainSpec.Proofs.Grammar.Likeness
import PlainSpec.Proofs.Grammar.Report
import PlainSpec.Proofs.Grammar.Requirements
import PlainSpec.Proofs.Grammar.Rows
import PlainSpec.Proofs.Grammar.Runs
import PlainSpec.Proofs.Grammar.WellFormed
import PlainSpec.Proofs.Labels
import PlainSpec.Proofs.OrderedMap
import PlainSpec.Proofs.Parser.BlankLines
import PlainSpec.Proofs.Parser.Discipline
import PlainSpec.Proofs.Parser.Likeness
import PlainSpec.Proofs.Parser.Outcome
import PlainSpec.Proofs.Parser.Tree
import PlainSpec.Proofs.Parser.Yield
import PlainSpec.Proofs.Source.Account
import PlainSpec.Proofs.Source.Passage
import PlainSpec.Proofs.Source.Requirements
import PlainSpec.Proofs.Source.Spans
import PlainSpec.Proofs.Source.Statements
import PlainSpec.Proofs.Template.Columns
import PlainSpec.Proofs.Template.Shape
import PlainSpec.Proofs.Template.Substitution
import PlainSpec.Proofs.Template.Tokens
import PlainSpec.Proofs.Text.Neat
import PlainSpec.Storage.Load
import PlainSpec.Storage.Tree
import PlainSpec.Template.Expand
import PlainSpec.Template.Token
import PlainSpec.TestName
import PlainSpec.Text.Blank
import PlainSpec.Text.Cut
import PlainSpec.Text.Digit
import PlainSpec.Text.Fold
import PlainSpec.Text.Word
import PlainSpec.Value.Basic
import PlainSpec.Value.Json
import PlainSpec.Value.Yaml
import PlainSpec.Proofs.Expression.Selection
import PlainSpec.Proofs.Grammar.Repetition
import PlainSpec.Proofs.Canonical.Alignment
import PlainSpec.Proofs.Canonical.Groups
import PlainSpec.Proofs.Canonical.Spacing
import PlainSpec.Proofs.Document.ImpliedRule
import PlainSpec.Proofs.Parser.Locality
import PlainSpec.Proofs.TestName
import PlainSpec.Proofs.Path
import PlainSpec.Proofs.Storage.Tree
import PlainSpec.Proofs.Storage.Discovery
import PlainSpec.Proofs.Storage.Writing
import PlainSpec.Proofs.Config.Quotation
import PlainSpec.Proofs.Config.Lines
import PlainSpec.Proofs.Config.Saved
