import PlainSpec.Document.Model
import PlainSpec.Expression.Basic
import PlainSpec.TestName

/-!
# The cases of a document

Whoever runs the examples of a document needs them one after the other, each with its requirement, a
name, and the answer to whether it is selected.

## Main definitions

* `ExampleCase`: an example with its requirement.
* `Document.cases`: the cases of a document.
* `Document.testName`, `Requirement.testName`, `ExampleCase.testName`: names for them.
-/

namespace PlainSpec

/-- An example in its place. -/
structure ExampleCase where
  /-- The requirement that it belongs to. -/
  requirement : Requirement
  /-- The example. -/
  case : Example
  /-- Whether it is selected. -/
  included : Bool
deriving DecidableEq

/-- Whether an optional filter selects some labels.  Without a filter everything is selected. -/
def selectedBy (filter : Option Expression) (labels : Labels) : Bool :=
  match filter with
  | none => true
  | some e => e.selects labels

/-- The examples of a document in order, each with the answer to whether the filter selects it. -/
def Document.cases (d : Document) (filter : Option Expression) : List ExampleCase :=
  d.requirements.flatMap fun requirement =>
    requirement.examples.map fun e => ⟨requirement, e, selectedBy filter e.labels⟩

/-- Whether the filter selects some example. -/
def Document.hasIncluded (d : Document) (filter : Option Expression) : Bool :=
  (d.cases filter).any ExampleCase.included

/-- A name for the document, from its title or else from its file. -/
def Document.testName (d : Document) : Text := PlainSpec.testName (d.description.getD d.name)

/-- A name for the requirement. -/
def Requirement.testName (r : Requirement) : Text := PlainSpec.testName r.description

/-- A name for the example, from its title or else from its requirement. -/
def ExampleCase.testName (c : ExampleCase) : Text :=
  PlainSpec.testName (c.case.description.getD c.requirement.description)

end PlainSpec
