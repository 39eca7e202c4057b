import PlainSpec.Text.Cut

/-!
# The two dialects and the three kinds of statement

## Main definitions

* `Dialect`: the narrative dialect with `Feature:` and `Scenario:`, and the tabular one with
  `Requirement:` and `Example:`.
* `StatementKind`: condition, action or outcome.
-/

namespace PlainSpec

/-- The dialect that a document is written in. -/
inductive Dialect where
  /-- `Feature:`, `Rule:`, `Scenario:`, `Given`, `When`, `Then`. -/
  | gherkin
  /-- `Requirement:`, `Example:`, `If:`, `When:`, `Expect:`. -/
  | reqsml
deriving DecidableEq, Inhabited

namespace Dialect

/-- The extension of the dialect's files, without the dot. -/
def extension : Dialect → Text
  | gherkin => "feature".toList
  | reqsml => "requirements".toList

/-- The dialect of a file extension. -/
def ofExtension? (extension : Text) : Option Dialect :=
  if extension = gherkin.extension then some gherkin
  else if extension = reqsml.extension then some reqsml
  else none

@[simp] theorem ofExtension?_extension (d : Dialect) : ofExtension? d.extension = some d := by
  cases d <;> decide

/-- The line that opens and closes a text block. -/
def textDelimiter : Dialect → Text
  | gherkin => "\"\"\"".toList
  | reqsml => "```".toList

/-- How many rows of a table stand before its values: a header, and in the tabular dialect a row of
hyphens below it. -/
def headerRows : Dialect → Nat
  | gherkin => 1
  | reqsml => 2

end Dialect

/-- What a statement is for. -/
inductive StatementKind where
  /-- What holds before. -/
  | condition
  /-- What is done. -/
  | action
  /-- What is expected to hold after. -/
  | outcome
deriving DecidableEq, Inhabited

namespace StatementKind

/-- The keyword of the tabular dialect, without its colon. -/
def keyword : StatementKind → Text
  | condition => "If".toList
  | action => "When".toList
  | outcome => "Expect".toList

/-- The keyword of the narrative dialect. -/
def stepKeyword : StatementKind → Text
  | condition => "Given".toList
  | action => "When".toList
  | outcome => "Then".toList

/-- All kinds, in the order of a statement list. -/
def all : List StatementKind := [condition, action, outcome]

/-- The kind with a keyword of the tabular dialect. -/
def ofKeyword? (word : Text) : Option StatementKind := all.find? (·.keyword = word)

/-- The kind with a keyword of the narrative dialect. -/
def ofStepKeyword? (word : Text) : Option StatementKind := all.find? (·.stepKeyword = word)

@[simp] theorem ofKeyword?_keyword (k : StatementKind) : ofKeyword? k.keyword = some k := by
  cases k <;> decide

@[simp] theorem ofStepKeyword?_stepKeyword (k : StatementKind) :
    ofStepKeyword? k.stepKeyword = some k := by
  cases k <;> decide

end StatementKind

end PlainSpec
