import PlainSpec.Document.Model

/-!
# Equality of documents

Two documents are the same when they say the same.  The lines on which statements and templates
stand are not compared, nor is the order of the keys of a map; every list is compared in order.

## Main definitions

* `Data.sameAs`, `Statement.sameAs`, `ExampleSet.sameAs`, `Example.sameAs`, `Requirement.sameAs`,
  `Document.sameAs`: equality of what is said.
-/

namespace PlainSpec

/-- Equality of two maps of texts, in any order of keys. -/
def sameTexts (m n : OrderedMap Text Text) : Bool := m.agreesBy (· == ·) n

/-- Equality of blocks of data. -/
def Data.sameAs : Data → Data → Bool
  | text a, text b => a == b
  | list a, list b => a == b
  | keyValues a, keyValues b => sameTexts a b
  | table a, table b => a.isEqv b sameTexts
  | matrix a, matrix b => a.agreesBy sameTexts b
  | _, _ => false

/-- Equality of optional values by an equality of values. -/
def sameOption {α : Type} (same : α → α → Bool) : Option α → Option α → Bool
  | none, none => true
  | some a, some b => same a b
  | _, _ => false

/-- Equality of statements, wherever they stand. -/
def Statement.sameAs (a b : Statement) : Bool :=
  a.comments == b.comments && a.kind == b.kind && a.description == b.description &&
    sameOption Data.sameAs a.data b.data

/-- Equality of templates, wherever they stand. -/
def ExampleSet.sameAs (a b : ExampleSet) : Bool :=
  a.comments == b.comments && a.identifier == b.identifier && a.labels == b.labels &&
    a.description == b.description && a.statements.isEqv b.statements Statement.sameAs

/-- Equality of table rows. -/
def Specification.sameAs (a b : Specification) : Bool :=
  a.comments == b.comments && a.identifier == b.identifier && a.labels == b.labels &&
    a.description == b.description && sameTexts a.values b.values

/-- Equality of examples. -/
def Example.sameAs (a b : Example) : Bool :=
  a.comments == b.comments && a.identifier == b.identifier && a.labels == b.labels &&
    a.explicitLabels == b.explicitLabels && a.description == b.description &&
    a.statements.isEqv b.statements Statement.sameAs &&
    sameOption ExampleSet.sameAs a.exampleSet b.exampleSet &&
    sameOption Specification.sameAs a.specification b.specification

/-- Equality of requirements. -/
def Requirement.sameAs (a b : Requirement) : Bool :=
  a.comments == b.comments && a.identifier == b.identifier && a.labels == b.labels &&
    a.explicitLabels == b.explicitLabels && a.description == b.description &&
    a.examples.isEqv b.examples Example.sameAs

/-- Equality of lists of requirements. -/
def sameRequirements (a b : List Requirement) : Bool := a.isEqv b Requirement.sameAs

/-- Equality of documents. -/
def Document.sameAs (a b : Document) : Bool :=
  a.source.sameAs b.source && a.comments == b.comments && a.labels == b.labels &&
    a.description == b.description && a.dialect == b.dialect &&
    sameRequirements a.requirements b.requirements

end PlainSpec
