import PlainSpec.Text.Cut

/-!
# Names for tests

A name that is safe as an identifier is made from the first line of a free text: the words are
capitalised and joined, everything but ASCII letters, digits and underscores is dropped, so are
leading digits, and the result is cut.

## Main definitions

* `upperAscii`: the ASCII letters of the upper case form of a character.
* `testName`: the name of a text.
-/

namespace PlainSpec

/-- Whether a character may stand in a name. -/
def isNameChar (c : Char) : Bool := c.isAlphanum || c == '_'

/-- The characters other than ASCII letters whose upper case form has ASCII letters, with these. -/
def upperTable : List (Char × String) :=
  [('ß', "SS"), ('ı', "I"), ('ŉ', "N"), ('ſ', "S"), ('ǰ', "J"), ('ẖ', "H"), ('ẗ', "T"), ('ẘ', "W"),
    ('ẙ', "Y"), ('ẚ', "A"), ('ﬀ', "FF"), ('ﬁ', "FI"), ('ﬂ', "FL"), ('ﬃ', "FFI"), ('ﬄ', "FFL"),
    ('ﬅ', "ST"), ('ﬆ', "ST")]

/-- What the upper case form of a character leaves in a name: of the form's characters, those that
may stand in one. -/
def upperAscii (c : Char) : Text :=
  if isNameChar c then [c.toUpper] else ((upperTable.lookup c).map String.toList).getD []

/-- A word with its first character in upper case, and of it what may stand in a name. -/
def capitalised : Text → Text
  | [] => []
  | c :: rest => upperAscii c ++ rest.filter isNameChar

/-- The greatest length of a name. -/
def maxNameLength : Nat := 100

/-- The first line of a text. -/
def firstLine (text : Text) : Text := text.takeWhile (· ≠ '\n')

/-- The name with its first character in upper case. -/
def upperFirst : Text → Text
  | [] => []
  | c :: rest => c.toUpper :: rest

/-- A name for a text. -/
def testName (text : Text) : Text :=
  let joined := (Text.words (firstLine text)).flatMap capitalised
  (upperFirst (joined.dropWhile Char.isDigit)).take maxNameLength

end PlainSpec
