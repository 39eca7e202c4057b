import PlainSpec.Canonical.Layout
import PlainSpec.Canonical.Table
import PlainSpec.Document.Same
import PlainSpec.Parser.Repeat

/-!
# Canonical text

Every document has one canonical text in the tabular dialect, whatever dialect it was read from.

* Neighbouring statements of one kind become a bullet list under one keyword.
* Examples made from one table are written as one template with its table.
* An example, or a template, without a title and metadata is written directly below its requirement.

## Main definitions

* `runs`: a list cut into runs of elements that belong together.
* `Canonical.sameBlock`, `Canonical.blocks`: the examples that were made from one table.
* `Document.canonical`: the canonical text.
* `Document.writeCanonical`: writes it where there may be too little room.
-/

namespace PlainSpec

/-- Cuts a list into runs.  An element joins a run if it goes with the run's first element. -/
def runs {α : Type} (goesWith : α → α → Bool) : List α → List (Several α)
  | [] => []
  | a :: as => ⟨a, as.takeWhile (goesWith a)⟩ :: runs goesWith (as.dropWhile (goesWith a))
termination_by as => as.length
decreasing_by
  have := (List.dropWhile_suffix (goesWith a) (l := as)).length_le
  simp only [List.length_cons]
  omega

/-- **The runs are the list.** -/
theorem flatMap_runs {α : Type} (goesWith : α → α → Bool) (as : List α) :
    (runs goesWith as).flatMap Several.toList = as := by
  fun_induction runs goesWith as with
  | case1 => rfl
  | case2 a as ih => simp [Several.toList, ih]

namespace Canonical

/-! ## Parts of a construct -/

/-- Comment lines, set off by a blank line. -/
def comments : Comments → List Row
  | none => []
  | some comments => .blank :: comments.map fun comment => .text ("// ".toList ++ comment)

/-- Labels in parentheses. -/
def labelList (labels : List Text) : Text := '(' :: Text.join [',', ' '] labels ++ [')']

/-- An identifier and labels. -/
def metadata? : Option Text → Labels → Option Text
  | none, none => none
  | some identifier, none => some ('#' :: identifier)
  | none, some labels => some ('#' :: labelList labels)
  | some identifier, some labels => some ('#' :: identifier ++ ' ' :: labelList labels)

/-- The line of an identifier and labels, if there are any. -/
def metadata (identifier : Option Text) (labels : Labels) : List Row :=
  (metadata? identifier labels).toList.map .text

/-- A block of data, one level to the right. -/
def data : Option Data → List Row
  | none => []
  | some data => Row.indent (data.rows.map .text) ++ [.blank]

/-! ## Statements -/

/-- A statement on one line with its keyword. -/
def single (s : Statement) : List Row :=
  comments s.comments ++ .text (s.kind.keyword ++ [':', ' '] ++ s.description) :: data s.data ++
    [.blank]

/-- A statement as a bullet. -/
def bullet (s : Statement) : List Row :=
  comments s.comments ++ .text (['-', ' '] ++ s.description) :: data s.data

/-- Statements of one kind. -/
def group (statements : Several Statement) : List Row :=
  match statements.tail with
  | [] => single statements.head
  | _ :: _ =>
    .text (statements.head.kind.keyword ++ [':']) :: statements.toList.flatMap bullet ++ [.blank]

/-- Statements in their order, one keyword for each run of one kind. -/
def statements (statements : List Statement) : List Row :=
  (runs (fun a b => a.kind == b.kind) statements).flatMap group

/-! ## Examples -/

/-- Whether two examples were made from the same written template, or neither from one. -/
def sameBlock (a b : Example) : Bool :=
  match a.exampleSet, b.exampleSet with
  | some s, some t => s.sameAs t && s.line == t.line
  | none, none => true
  | _, _ => false

/-- The examples in runs that were written together. -/
def blocks (examples : List Example) : List (Several Example) := runs sameBlock examples

/-- An example: its statements alone if there is nothing else to write. -/
def singleExample (e : Example) : List Row :=
  let body := statements e.statements
  if e.comments.isNone && e.identifier.isNone && e.explicitLabels.isNone &&
    e.description.isNone then
    body
  else
    comments e.comments ++ metadata e.identifier e.explicitLabels ++
      .text ("Example: ".toList ++ e.description.getD []) :: .blank :: Row.indent body ++ [.blank]

/-- The greatest of some lengths, if there are any. -/
def widest? (texts : List Text) : Option Nat :=
  if texts.isEmpty then none else some (Aligned.longest texts)

/-- How the rows of a table of examples are aligned. -/
structure TableLayout where
  /-- The width of the metadata in front of the rows, if some row has any. -/
  metadataWidth : Option Nat
  /-- The width of the description column, if there is one. -/
  descriptionWidth : Option Nat
  /-- The other columns. -/
  columns : List (Text × Nat)

/-- The identifier and labels of a row. -/
def rowMetadata? (s : Specification) : Option Text := metadata? s.identifier s.labels

/-- The layout of a table of examples. -/
def TableLayout.of (rows : List Specification) : TableLayout where
  metadataWidth := widest? (rows.filterMap rowMetadata?)
  descriptionWidth :=
    (widest? (rows.filterMap Specification.description)).map (max Aligned.minimumWidth)
  columns := Aligned.columns (rows.map Specification.values)

/-- A line of a table of examples. -/
def TableLayout.line (layout : TableLayout) (front description cells : Text) : Text :=
  (match layout.metadataWidth with
    | none => []
    | some width => Aligned.padTo width front ++ [' ']) ++ description ++ cells ++ ['|']

/-- The description cell of a line, if there is a column for it. -/
def TableLayout.descriptionCell (layout : TableLayout) (cell : Nat → Text) : Text :=
  (layout.descriptionWidth.map cell).getD []

/-- The lines of a table of examples above its values. -/
def TableLayout.header (layout : TableLayout) : List Row :=
  [.text (layout.line [] (layout.descriptionCell (Aligned.cell · []))
      (Aligned.headerCells layout.columns)),
    .text (layout.line [] (layout.descriptionCell Aligned.separator)
      (Aligned.separatorCells layout.columns))]

/-- A row of values, with its comments above it. -/
def TableLayout.row (layout : TableLayout) (s : Specification) : List Row :=
  comments s.comments ++
    [.text (layout.line ((rowMetadata? s).getD [])
      (layout.descriptionCell (Aligned.cell · (s.description.getD [])))
      (Aligned.valueCells layout.columns s.values))]

/-- The table of the examples made from one template. -/
def examplesTable (examples : List Example) : List Row :=
  let rows := examples.filterMap Example.specification
  let layout := TableLayout.of rows
  layout.header ++ rows.flatMap layout.row

/-- A template without its title, and its table. -/
def template (set : ExampleSet) (examples : List Example) : List Row :=
  statements set.statements ++ .text "Examples:".toList :: .blank ::
    Row.indent (examplesTable examples) ++ [.blank]

/-- A titled template and its table. -/
def exampleSet (set : ExampleSet) (examples : List Example) : List Row :=
  comments set.comments ++ metadata set.identifier set.labels ++
    .text ("Example Set: ".toList ++ set.description.getD []) :: .blank ::
    Row.indent (template set examples)

/-- Examples that were written together. -/
def block (examples : Several Example) : List Row :=
  match examples.head.exampleSet with
  | some set => exampleSet set examples.toList
  | none => examples.toList.flatMap singleExample

/-- Whether a template has neither a title nor metadata. -/
def isBare (set : ExampleSet) : Bool :=
  set.comments.isNone && set.identifier.isNone && set.labels.isNone && set.description.isNone

/-- The examples of a requirement.  A template that stands alone needs no title. -/
def examples (examples : List Example) : List Row :=
  match blocks examples with
  | [only] =>
    match only.head.exampleSet with
    | some set => if isBare set then template set only.toList else block only
    | none => block only
  | several => several.flatMap block

/-! ## Requirements -/

/-- A requirement and its examples. -/
def requirement (r : Requirement) : List Row :=
  comments r.comments ++ metadata r.identifier r.explicitLabels ++
    .text ("Requirement: ".toList ++ r.description) :: .blank ::
    Row.indent (examples r.examples)

end Canonical

/-- The canonical text of a document. -/
def Document.canonical (d : Document) : Text :=
  Row.render (Row.consolidate (d.requirements.flatMap Canonical.requirement))

/-! ## Writing -/

/-- Why a text could not be written. -/
inductive WriteError where
  /-- There was no more room. -/
  | noRoom
deriving DecidableEq

/-- The wording of an error. -/
def WriteError.message : WriteError → String
  | noRoom => "failed to write whole buffer"

/-- Writes the canonical text of a document where there is room for a number of bytes.  Gives the
bytes that were written, and an error if these are not all of them. -/
def Document.writeCanonical (d : Document) (room : Nat) : ByteArray × Option WriteError :=
  let bytes := d.canonical.toString.toUTF8
  (bytes.extract 0 room, if bytes.size ≤ room then none else some .noRoom)

end PlainSpec
