import PlainSpec.Text.Blank

/-!
# Styles of terminal output

## Main definitions

* `Style`: what a stretch of output is meant as.
* `Style.paint`: a text in a style, where the terminal has colours.
-/

namespace PlainSpec

/-- What a stretch of output is meant as. -/
inductive Style where
  /-- Something that passed. -/
  | success
  /-- Something that failed. -/
  | failure
  /-- Paths, identifiers and keywords. -/
  | info
  /-- Less important detail. -/
  | dim

namespace Style

/-- The codes of a style. -/
def codes : Style → String
  | success => "32"
  | failure => "31;1"
  | info => "94"
  | dim => "2"

/-- A control sequence that selects a style by its codes. -/
def sequence (codes : String) : Text := '\x1b' :: '[' :: codes.toList ++ ['m']

/-- A text in a style. -/
def paint (colour : Bool) (style : Style) (t : Text) : Text :=
  if colour then sequence style.codes ++ t ++ sequence "0" else t

@[simp] theorem paint_false (style : Style) (t : Text) : paint false style t = t := rfl

end Style

end PlainSpec
