import PlainSpec.Line

/-!
# A place in a list of lines

A cursor holds the lines already passed, the last one first, and the lines still ahead.  The source
is the two put back together, so a cursor can never stand outside it.

## Main definitions

* `Cursor`: a place between two lines.
* `Cursor.skipBlank`, `Cursor.advance`: the two ways to move.
* `Cursor.lineNumber`: the line that an error at this place is reported against.

## Main results

* `Cursor.lines_skipBlank`: skipping does not change the source.
* `Cursor.rest_skipBlank`: skipping drops exactly the blank lines in front.
-/

namespace PlainSpec

/-- A place in a list of lines. -/
structure Cursor where
  /-- The lines before the place, nearest first. -/
  passed : List Line
  /-- The lines after the place. -/
  rest : List Line
deriving DecidableEq

namespace Cursor

/-- The place before the first line. -/
def start (lines : List Line) : Cursor := ⟨[], lines⟩

/-- The place before the first line of a source text. -/
def ofText (source : Text) : Cursor := start (Line.split source)

/-- All lines of the source. -/
def lines (c : Cursor) : List Line := c.passed.reverse ++ c.rest

/-- How many lines have been passed. -/
def position (c : Cursor) : Nat := c.passed.length

/-- The next line. -/
def peek? (c : Cursor) : Option Line := c.rest.head?

/-- The place after the next line; at the end, the same place. -/
def advance (c : Cursor) : Cursor :=
  match c.rest with
  | [] => c
  | line :: rest => ⟨line :: c.passed, rest⟩

/-- Passes the blank lines in front. -/
def skipBlank (c : Cursor) : Cursor := go c.passed c.rest
where
  /-- Moves blank lines from the right list to the left one. -/
  go (passed : List Line) : List Line → Cursor
    | [] => ⟨passed, []⟩
    | line :: rest => if line.isBlank then go (line :: passed) rest else ⟨passed, line :: rest⟩

/-- The next line that is not blank. -/
def ahead? (c : Cursor) : Option Line := c.skipBlank.peek?

/-- Whether only blank lines are ahead. -/
def atEnd (c : Cursor) : Bool := c.ahead?.isNone

/-- The number of the next line that is not blank, or of the last line of the source when there is
none.  Without any line it is zero. -/
def lineNumber (c : Cursor) : Nat :=
  match c.ahead? with
  | some line => line.number
  | none => (c.lines.getLast?.map Line.number).getD 0

@[simp] theorem lines_start (lines : List Line) : (start lines).lines = lines := rfl

@[simp] theorem rest_start (lines : List Line) : (start lines).rest = lines := rfl

theorem lines_skipBlank_go (passed rest : List Line) :
    (skipBlank.go passed rest).lines = passed.reverse ++ rest := by
  induction rest generalizing passed with
  | nil => rfl
  | cons line rest ih =>
    unfold skipBlank.go
    split
    · simpa using ih (line :: passed)
    · rfl

theorem rest_skipBlank_go (passed rest : List Line) :
    (skipBlank.go passed rest).rest = rest.dropWhile Line.isBlank := by
  induction rest generalizing passed with
  | nil => rfl
  | cons line rest ih =>
    unfold skipBlank.go
    split <;> simp_all

/-- **Skipping blank lines does not change the source.** -/
@[simp] theorem lines_skipBlank (c : Cursor) : c.skipBlank.lines = c.lines :=
  lines_skipBlank_go c.passed c.rest

/-- **Skipping drops exactly the blank lines in front.** -/
@[simp] theorem rest_skipBlank (c : Cursor) : c.skipBlank.rest = c.rest.dropWhile Line.isBlank :=
  rest_skipBlank_go c.passed c.rest

end Cursor

end PlainSpec
