import PlainSpec.Document.Kind
import PlainSpec.Labels
import PlainSpec.OrderedMap
import PlainSpec.Path

/-!
# Documents

Both dialects are read into the same model: a document holds requirements, a requirement holds
examples, an example holds statements, and a statement may carry a block of data.

## Main definitions

* `Data`: text, list, key-value pairs, table or matrix.
* `Statement`, `Example`, `Requirement`, `Document`: the levels of a document.
* `ExampleSet`, `Specification`: the template and the table row that an example was made from.
-/

namespace PlainSpec

/-- The comment lines in front of a construct, if there are any. -/
abbrev Comments := Option (List Text)

/-- A block of data. -/
inductive Data where
  /-- Lines of free text. -/
  | text (content : Text)
  /-- One column of values. -/
  | list (items : List Text)
  /-- Values by name. -/
  | keyValues (pairs : OrderedMap Text Text)
  /-- Rows of values by the name of their column. -/
  | table (rows : List (OrderedMap Text Text))
  /-- Values by the name of their row and the name of their column. -/
  | matrix (rows : OrderedMap Text (OrderedMap Text Text))
deriving DecidableEq

namespace Data

/-- The text of a text block. -/
def text? : Data → Option Text
  | text content => some content
  | _ => none

/-- The values of a list. -/
def list? : Data → Option (List Text)
  | list items => some items
  | _ => none

/-- The pairs of key-value data. -/
def keyValues? : Data → Option (OrderedMap Text Text)
  | keyValues pairs => some pairs
  | _ => none

/-- The rows of a table. -/
def table? : Data → Option (List (OrderedMap Text Text))
  | table rows => some rows
  | _ => none

/-- The rows of a matrix. -/
def matrix? : Data → Option (OrderedMap Text (OrderedMap Text Text))
  | matrix rows => some rows
  | _ => none

end Data

/-- A single statement of an example. -/
structure Statement where
  /-- Comments in front of it. -/
  comments : Comments
  /-- What it is for. -/
  kind : StatementKind
  /-- What it says. -/
  description : Text
  /-- The data below it. -/
  data : Option Data
  /-- The line that it stands on. -/
  line : Option Nat
deriving DecidableEq

/-- The template of a group of examples. -/
structure ExampleSet where
  /-- Comments in front of it. -/
  comments : Comments
  /-- Its identifier. -/
  identifier : Option Text
  /-- The labels written on it. -/
  labels : Labels
  /-- Its title. -/
  description : Option Text
  /-- Its statements, with tokens in them. -/
  statements : List Statement
  /-- The line that it starts on. -/
  line : Option Nat
deriving DecidableEq

/-- The table row that an example was made from. -/
structure Specification where
  /-- Comments in front of it. -/
  comments : Comments
  /-- Its identifier. -/
  identifier : Option Text
  /-- The labels written on it. -/
  labels : Labels
  /-- Its cell in the description column, if the table has one. -/
  description : Option Text
  /-- Its values by token, in column order. -/
  values : OrderedMap Text Text
deriving DecidableEq

/-- A concrete example. -/
structure Example where
  /-- Comments in front of it. -/
  comments : Comments
  /-- Its identifier. -/
  identifier : Option Text
  /-- The labels written on it and the inherited ones. -/
  labels : Labels
  /-- The labels written on it. -/
  explicitLabels : Labels
  /-- Its title. -/
  description : Option Text
  /-- Its statements. -/
  statements : List Statement
  /-- The template that it was made from. -/
  exampleSet : Option ExampleSet
  /-- The table row that it was made from. -/
  specification : Option Specification
deriving DecidableEq

/-- A requirement and its examples. -/
structure Requirement where
  /-- Comments in front of it. -/
  comments : Comments
  /-- Its identifier. -/
  identifier : Option Text
  /-- The labels written on it and the inherited ones. -/
  labels : Labels
  /-- The labels written on it. -/
  explicitLabels : Labels
  /-- What it says. -/
  description : Text
  /-- Its examples. -/
  examples : List Example
deriving DecidableEq

/-- A document. -/
structure Document where
  /-- Where it was read from. -/
  source : Path
  /-- Comments in front of its title. -/
  comments : Comments
  /-- The labels of the whole document. -/
  labels : Labels
  /-- Its title, if the dialect has one. -/
  description : Option Text
  /-- The dialect that it was written in. -/
  dialect : Dialect
  /-- Its requirements. -/
  requirements : List Requirement
deriving DecidableEq

/-- The name of the document's file without its extension. -/
def Document.name (d : Document) : Text := d.source.stem?.getD []

end PlainSpec
