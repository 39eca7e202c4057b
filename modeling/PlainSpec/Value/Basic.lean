import PlainSpec.Document.Model

/-!
# Values for other programs

A document is handed to other programs as a tree of plain values, which the printers then write.

## Main definitions

* `Value`: null, booleans, numbers, texts, lists, and named fields in order.
* `Document.toValue`: the tree of a document.
-/

namespace PlainSpec

/-- A tree of plain values. -/
inductive Value where
  /-- Nothing. -/
  | null
  /-- A truth value. -/
  | bool (b : Bool)
  /-- A number. -/
  | number (n : Nat)
  /-- A text. -/
  | text (t : Text)
  /-- A list. -/
  | list (items : List Value)
  /-- Named fields. -/
  | fields (entries : List (Text × Value))

namespace Value

/-- An optional value. -/
def optional {α : Type} (encode : α → Value) : Option α → Value
  | none => null
  | some a => encode a

/-- A list of texts. -/
def texts (ts : List Text) : Value := list (ts.map text)

/-- A map, as fields in the order of its keys. -/
def ofMap {α : Type} (encode : α → Value) (m : OrderedMap Text α) : Value :=
  fields (m.entries.map fun (k, v) => (k, encode v))

/-- Fields named by strings. -/
def record (entries : List (String × Value)) : Value :=
  fields (entries.map fun (k, v) => (k.toList, v))

/-- A string as a value. -/
def string (s : String) : Value := text s.toList

end Value

/-- The name of a dialect in output. -/
def Dialect.outputName : Dialect → String
  | gherkin => "gherkin"
  | reqsml => "reqs_ml"

/-- The name of a kind of statement in output. -/
def StatementKind.outputName : StatementKind → String
  | condition => "if"
  | action => "when"
  | outcome => "expect"

/-- The name of a kind of data in output. -/
def Data.outputName : Data → String
  | text _ => "text"
  | list _ => "list"
  | keyValues _ => "key_values"
  | table _ => "table"
  | matrix _ => "matrix"

/-- The content of a block of data. -/
def Data.content : Data → Value
  | text content => .text content
  | list items => .texts items
  | keyValues pairs => .ofMap .text pairs
  | table rows => .list (rows.map (.ofMap .text))
  | matrix rows => .ofMap (.ofMap .text) rows

/-- The tree of a block of data. -/
def Data.toValue (d : Data) : Value :=
  .record [("kind", .string d.outputName), ("value", d.content)]

/-- The tree of a statement. -/
def Statement.toValue (s : Statement) : Value :=
  .record
    [("comments", .optional .texts s.comments),
      ("type", .string s.kind.outputName),
      ("description", .text s.description),
      ("data", .optional Data.toValue s.data),
      ("line", .optional .number s.line)]

/-- The tree of a template. -/
def ExampleSet.toValue (s : ExampleSet) : Value :=
  .record
    [("comments", .optional .texts s.comments),
      ("identifier", .optional .text s.identifier),
      ("labels", .optional .texts s.labels),
      ("description", .optional .text s.description),
      ("statements", .list (s.statements.map Statement.toValue)),
      ("line", .optional .number s.line)]

/-- The tree of a table row. -/
def Specification.toValue (s : Specification) : Value :=
  .record
    [("comments", .optional .texts s.comments),
      ("identifier", .optional .text s.identifier),
      ("labels", .optional .texts s.labels),
      ("description", .optional .text s.description),
      ("values", .ofMap .text s.values)]

/-- The tree of an example.  A template and a table row are left out when there are none. -/
def Example.toValue (e : Example) : Value :=
  .record
    ([("comments", .optional .texts e.comments),
      ("identifier", .optional .text e.identifier),
      ("labels", .optional .texts e.labels),
      ("explicit_labels", .optional .texts e.explicitLabels),
      ("description", .optional .text e.description),
      ("statements", .list (e.statements.map Statement.toValue))] ++
      (e.exampleSet.map fun s => ("example_set", s.toValue)).toList ++
      (e.specification.map fun s => ("specification", s.toValue)).toList)

/-- The tree of a requirement. -/
def Requirement.toValue (r : Requirement) : Value :=
  .record
    [("comments", .optional .texts r.comments),
      ("identifier", .optional .text r.identifier),
      ("labels", .optional .texts r.labels),
      ("explicit_labels", .optional .texts r.explicitLabels),
      ("description", .text r.description),
      ("examples", .list (r.examples.map Example.toValue))]

/-- The tree of a document. -/
def Document.toValue (d : Document) : Value :=
  .record
    [("source", .text d.source.text),
      ("comments", .optional .texts d.comments),
      ("labels", .optional .texts d.labels),
      ("description", .optional .text d.description),
      ("syntax", .string d.dialect.outputName),
      ("requirements", .list (d.requirements.map Requirement.toValue))]

end PlainSpec
