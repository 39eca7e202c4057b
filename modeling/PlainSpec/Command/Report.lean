import PlainSpec.Case
import PlainSpec.Command.Style
import PlainSpec.Storage.Load
import PlainSpec.Text.Digit
import PlainSpec.Value.Basic

/-!
# Reports

What the commands tell people about documents and their examples.

## Main definitions

* `Report.checked`: a line about a document that was read, or could not be.
* `Report.shown`: what is in a document.
* `Entry`: an example in a list of examples.
* `Report.listed`: a list of examples.
-/

namespace PlainSpec

/-- A line of output. -/
def Text.line (t : Text) : Text := t ++ ['\n']

namespace Report

/-- Labels in brackets, after a space. -/
def bracketed (labels : List Text) : Text := " [".toList ++ Text.join [',', ' '] labels ++ [']']

/-! ## Checking -/

/-- Where and why a document could not be loaded.  A place in the text is written so that editors
find it. -/
def describe : LoadError → Text
  | .refused path reason =>
    path.text ++ ':' :: Text.ofNat reason.line ++ ": ".toList ++ reason.message.toList
  | other => other.message.toList

/-- How much is in a document. -/
def extent (d : Document) : Text :=
  let examples := (d.requirements.flatMap Requirement.examples).length
  '(' :: Text.ofNat d.requirements.length ++ " requirements, ".toList ++ Text.ofNat examples ++
    " examples)".toList

/-- The line about a document that was read, or could not be. -/
def checked (colour : Bool) : Except LoadError Document → Text
  | .ok d =>
    Text.line (Style.success.paint colour "ok".toList ++ ' ' :: d.source.text ++
      ' ' :: Style.dim.paint colour (extent d))
  | .error e =>
    Text.line (Style.failure.paint colour "error".toList ++ ' ' :: describe e)

/-! ## Showing -/

/-- The labels of something, if it has any. -/
def labels (colour : Bool) : Labels → Text
  | none => []
  | some labels => Style.dim.paint colour (bracketed labels)

/-- A text with spaces in front of it up to a width. -/
def alignRight (width : Nat) (t : Text) : Text := List.replicate (width - t.length) ' ' ++ t

/-- What kind of data there is, and how much of it. -/
def summary (d : Data) : Text :=
  let amount := fun (kind : String) (n : Nat) (unit : String) =>
    kind.toList ++ ", ".toList ++ Text.ofNat n ++ ' ' :: unit.toList
  match d with
  | .text t => amount "text" (Text.lines t).length "lines"
  | .list items => amount "list" items.length "items"
  | .keyValues pairs => amount "key values" pairs.entries.length "entries"
  | .table rows => amount "table" rows.length "rows"
  | .matrix rows => amount "matrix" rows.entries.length "rows"

/-- The lines about a statement. -/
def shownStatement (colour : Bool) (s : Statement) : Text :=
  Text.line (List.replicate 6 ' ' ++ Style.info.paint colour (alignRight 6 s.kind.keyword) ++
    ' ' :: s.description) ++
  match s.data with
  | none => []
  | some d =>
    Text.line (List.replicate 13 ' ' ++ Style.dim.paint colour ('(' :: summary d ++ [')']))

/-- The lines about an example. -/
def shownExample (colour : Bool) (e : Example) : Text :=
  Text.line ("  • ".toList ++ e.description.getD "(example)".toList ++ labels colour e.labels) ++
    e.statements.flatMap (shownStatement colour)

/-- The lines about a requirement. -/
def shownRequirement (colour : Bool) (r : Requirement) : Text :=
  let identifier :=
    match r.identifier with
    | none => []
    | some identifier => '#' :: identifier ++ [' ']
  '\n' :: Text.line
    (Style.info.paint colour identifier ++ r.description ++ labels colour r.labels) ++
    r.examples.flatMap (shownExample colour)

/-- What is in a document. -/
def shown (colour : Bool) (d : Document) : Text :=
  Text.line (d.description.getD d.name ++
    ' ' :: Style.dim.paint colour ('(' :: d.source.text ++ [')']) ++ labels colour d.labels) ++
  d.requirements.flatMap (shownRequirement colour)

end Report

/-! ## Listing -/

/-- An example in a list of examples. -/
structure Entry where
  /-- The file that it comes from. -/
  path : Path
  /-- What its requirement says. -/
  requirement : Text
  /-- What it says, or else a name for it. -/
  title : Text
  /-- Its labels. -/
  labels : List Text
  /-- Whether it is selected. -/
  included : Bool

namespace Entry

/-- The entry of a case. -/
def ofCase (source : Path) (c : ExampleCase) : Entry :=
  { path := source
    requirement := c.requirement.description
    title := c.case.description.getD c.testName
    labels := c.case.labels.getD []
    included := c.included }

/-- The tree of an entry. -/
def toValue (e : Entry) : Value :=
  .record
    [("path", .text e.path.text),
      ("requirement", .text e.requirement),
      ("example", .text e.title),
      ("labels", .texts e.labels),
      ("included", .bool e.included)]

end Entry

namespace Report

/-- The line about an entry. -/
def entryLine (colour : Bool) (e : Entry) : Text :=
  let mark :=
    if e.included then Style.success.paint colour ['✓'] else Style.dim.paint colour ['✗']
  let labels := if e.labels = [] then [] else Style.dim.paint colour (bracketed e.labels)
  Text.line (' ' :: ' ' :: mark ++ ' ' :: e.requirement ++ " › ".toList ++ e.title ++ labels)

/-- The lines about entries.  The path is named where it is another one than before. -/
def entryLines (colour : Bool) (current : Option Path) : List Entry → Text
  | [] => []
  | e :: entries =>
    let heading :=
      if current.any e.path.sameAs then []
      else Text.line (Style.info.paint colour e.path.text)
    heading ++ entryLine colour e ++ entryLines colour (some e.path) entries

/-- A list of examples with their number. -/
def listed (colour : Bool) (entries : List Entry) : Text :=
  if entries.isEmpty then Text.line (Style.dim.paint colour "No examples found".toList)
  else
    let count :=
      Text.ofNat (entries.countP Entry.included) ++ " of ".toList ++ Text.ofNat entries.length ++
        " examples selected".toList
    entryLines colour none entries ++ '\n' :: Text.line (Style.dim.paint colour count)

end Report

end PlainSpec
