import PlainSpec.Text.Cut

/-!
# Layout of canonical text

The parts of a document are laid out as lines and blank lines without regard to what stands before
or after them.  Superfluous blank lines are dropped when everything is put together.

## Main definitions

* `Row`: a line of text, or a blank line for layout.
* `Row.indent`, `Row.consolidate`: indentation, and one blank line for several.
* `Row.render`: the text of a list of rows.
-/

namespace PlainSpec

/-- A line of canonical text.  A line of text that is empty is not a blank line of the layout. -/
inductive Row where
  /-- A line of text. -/
  | text (content : Text)
  /-- A blank line between two parts. -/
  | blank
deriving DecidableEq

namespace Row

/-- How far each level is moved to the right. -/
def step : Text := [' ', ' ']

/-- Moves the lines of text that are not empty one level to the right. -/
def indent (rows : List Row) : List Row :=
  rows.map fun
    | text content => if content.isEmpty then .text content else .text (step ++ content)
    | blank => blank

/-- Keeps one of several blank lines in a row and none at the end.  `afterBlank` says whether a
blank line here would follow another one, or nothing. -/
def consolidateFrom (afterBlank : Bool) : List Row → List Row
  | [] => []
  | text content :: rows => text content :: consolidateFrom false rows
  | blank :: rows =>
    if afterBlank then consolidateFrom true rows
    else
      match consolidateFrom true rows with
      | [] => []
      | kept => blank :: kept

/-- Keeps one of several blank lines in a row, and none at the start and at the end. -/
def consolidate (rows : List Row) : List Row := consolidateFrom true rows

@[simp] theorem consolidate_nil : consolidate [] = [] := rfl

/-- The text of a row, without blanks at its end. -/
def line : Row → Text
  | text content => content.trimEnd
  | blank => []

/-- The text of a list of rows, each ended by a line end. -/
def render (rows : List Row) : Text := rows.flatMap fun row => row.line ++ ['\n']

end Row

end PlainSpec
