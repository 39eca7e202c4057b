/-!
# Text and its blank characters

A text is a list of characters, so every operation on it is an ordinary list operation.  This module
fixes which characters count as blank, and cuts texts at them.

## Main definitions

* `Text`: a list of characters.
* `isBlank`: the characters of the Unicode property `White_Space`.
* `Text.trim`: the text without blanks at either end.
* `Text.words`: the maximal runs of non-blank characters.
-/

namespace PlainSpec

/-- A piece of text, as the list of its characters. -/
abbrev Text := List Char

/-- Two texts are equal if they have the same characters in the same order. -/
instance Text.instLawfulBEq : LawfulBEq Text := inferInstance

/-- The characters of the Unicode property `White_Space`.  Zero-width characters, the information
separators and the byte order mark are not among them. -/
def isBlank (c : Char) : Bool :=
  let n := c.toNat
  (0x09 ≤ n && n ≤ 0x0D) || n == 0x20 || n == 0x85 || n == 0xA0 || n == 0x1680 ||
  (0x2000 ≤ n && n ≤ 0x200A) || n == 0x2028 || n == 0x2029 || n == 0x202F || n == 0x205F ||
  n == 0x3000

namespace Text

/-- The text as a string, for output. -/
def toString (t : Text) : String := String.ofList t

/-- Drops the blanks at the start. -/
def trimStart (t : Text) : Text := t.dropWhile isBlank

/-- Drops the blanks at the end. -/
def trimEnd (t : Text) : Text := (t.reverse.dropWhile isBlank).reverse

/-- Drops the blanks at both ends. -/
def trim (t : Text) : Text := trimEnd (trimStart t)

@[simp] theorem trimStart_nil : trimStart [] = [] := rfl

@[simp] theorem trimEnd_nil : trimEnd [] = [] := rfl

@[simp] theorem trim_nil : trim [] = [] := rfl

/-- The maximal runs of non-blank characters, in order. -/
def words (t : Text) : List Text := (t.splitOnP isBlank).filter (!·.isEmpty)

end Text

end PlainSpec
