import PlainSpec.Text.Cut

/-!
# Numbered lines

A source is cut into lines once; everything after that looks at lines.

## Main definitions

* `Line`: the text of one line with its number, counted from one.
* `Line.split`: the lines of a source.
-/

namespace PlainSpec

/-- A line of a source. -/
structure Line where
  /-- Its place in the source, counted from one. -/
  number : Nat
  /-- Its characters, without the line end. -/
  text : Text
deriving DecidableEq

namespace Line

/-- The line without blanks at its ends. -/
def trimmed (line : Line) : Text := line.text.trim

/-- Whether the line holds nothing but blanks. -/
def isBlank (line : Line) : Bool := line.trimmed.isEmpty

/-- Drops the carriage return that a two-character line end leaves behind. -/
def dropReturn (text : Text) : Text :=
  if text.getLast? = some '\r' then text.dropLast else text

/-- The lines of a source, whose ends are `\n` or `\r\n`.  An empty source is one blank line, so
that every source has a line to report errors against. -/
def split (source : Text) : List Line :=
  (source.splitOn '\n').mapIdx fun i text => ⟨i + 1, dropReturn text⟩

/-- **Lines are numbered by their place.** -/
theorem number_split (source : Text) {i : Nat} (h : i < (split source).length) :
    ((split source).get ⟨i, h⟩).number = i + 1 := by
  simp [split]

end Line

end PlainSpec
