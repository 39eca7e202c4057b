import PlainSpec.Pattern.Basic
import PlainSpec.Text.Cut
import PlainSpec.Text.Digit

/-!
# Modes and escapes in the notation of patterns

## Main definitions

* `Pattern.Mode`: how the notation is read at some point.
* `Pattern.Escape`: what a backslash and the characters after it stand for.
* `Pattern.readEscape`: reads the characters after a backslash.
-/

namespace PlainSpec.Pattern

/-! ## Modes -/

/-- How the notation is read. -/
structure Mode where
  /-- Letters stand for all their cases. -/
  caseless : Bool := false
  /-- `^` and `$` stand for the ends of lines. -/
  byLine : Bool := false
  /-- The dot stands for line ends too. -/
  dotAll : Bool := false
  /-- A carriage return ends a line too. -/
  returns : Bool := false
  /-- Blanks and comments are skipped. -/
  spaced : Bool := false
  /-- Classes of characters are those of Unicode, not only of ASCII. -/
  unicode : Bool := true

namespace Mode

/-- The mode with one of its flags set or cleared. -/
def set (m : Mode) (flag : Char) (on : Bool) : Option Mode :=
  match flag with
  | 'i' => some { m with caseless := on }
  | 'm' => some { m with byLine := on }
  | 's' => some { m with dotAll := on }
  | 'R' => some { m with returns := on }
  | 'x' => some { m with spaced := on }
  | 'u' => some { m with unicode := on }
  | 'U' => some m
  | _ => none

/-- Drops blanks and comments, from inside a comment or not. -/
def skipNotes : (inComment : Bool) → Text → Text
  | _, [] => []
  | true, c :: rest => skipNotes (c != '\n') rest
  | false, c :: rest =>
    if isBlank c then skipNotes false rest
    else if c = '#' then skipNotes true rest
    else c :: rest

/-- What is left after what the mode skips. -/
def skip (m : Mode) (t : Text) : Text := if m.spaced then skipNotes false t else t

/-- A set in all the cases that the mode asks for. -/
def cases (m : Mode) (s : CharSet) : CharSet :=
  if !m.caseless then s else if m.unicode then .anyCase s else .asciiCase s

/-- The characters outside a set.  Without Unicode there is no such set, because it would take in
parts of characters. -/
def complement (m : Mode) (s : CharSet) : Option CharSet :=
  if m.unicode then some (.except s) else none

/-- The decimal digits of the mode. -/
def digits (m : Mode) : CharSet := if m.unicode then .digits else .range '0' '9'

/-- The blanks of the mode. -/
def blanks (m : Mode) : CharSet :=
  if m.unicode then .blanks else .either (.range '\t' '\r') (.one ' ')

/-- The characters of words in ASCII. -/
def asciiWordChars : CharSet :=
  .either (.either (.range '0' '9') (.range 'A' 'Z')) (.either (.range 'a' 'z') (.one '_'))

/-- The characters of words of the mode. -/
def wordChars (m : Mode) : CharSet := if m.unicode then .wordChars else asciiWordChars

/-- What the dot stands for. -/
def dot (m : Mode) : Option CharSet :=
  m.complement <|
    if m.dotAll then .none else if m.returns then .either (.one '\r') (.one '\n') else .one '\n'

/-- What `^` stands for. -/
def lineStart (m : Mode) : Anchor :=
  if !m.byLine then .textStart else if m.returns then .anyLineStart else .lineStart

/-- What `$` stands for. -/
def lineEnd (m : Mode) : Anchor :=
  if !m.byLine then .textEnd else if m.returns then .anyLineEnd else .lineEnd

end Mode

/-! ## Escapes -/

/-- What a backslash and the characters after it stand for. -/
inductive Escape where
  /-- A character. -/
  | literal (c : Char)
  /-- A class of characters. -/
  | set (s : CharSet)
  /-- A condition on a place. -/
  | anchor (a : Anchor)

/-- Reads a code point: digits in braces, or a fixed number of digits. -/
def readCodePoint (width : Nat) (t : Text) : Option (Escape × Text) :=
  let (digits, rest) :=
    match t with
    | '\x7b' :: t =>
      match Text.splitFirst? (· == '\x7d') t with
      | some parts => parts
      | none => ([], [])
    | t => if width ≤ t.length then (t.take width, t.drop width) else ([], [])
  (charOfHex? digits).map fun c => (.literal c, rest)

/-- Reads what may follow the mark of a word edge: which of its two sides is meant. -/
def readWordEdge (word : CharSet) (t : Text) : Option (Escape × Text) :=
  let isLetter := fun (c : Char) => c.isAlpha || c == '-'
  match t with
  | '\x7b' :: c :: more =>
    if isLetter c then
      let name := (c :: more).takeWhile isLetter
      match (c :: more).dropWhile isLetter with
      | '\x7d' :: rest =>
        if name = "start".toList then some (.anchor (.wordStart word), rest)
        else if name = "end".toList then some (.anchor (.wordEnd word), rest)
        else if name = "start-half".toList then some (.anchor (.noWordBefore word), rest)
        else if name = "end-half".toList then some (.anchor (.noWordAfter word), rest)
        else none
      | _ => none
    else some (.anchor (.wordEdge word), t)
  | _ => some (.anchor (.wordEdge word), t)

/-- Reads the characters after a backslash. -/
def readEscape (m : Mode) : Text → Option (Escape × Text)
  | [] => none
  | c :: rest =>
    match c with
    | 'x' => readCodePoint 2 rest
    | 'u' => readCodePoint 4 rest
    | 'U' => readCodePoint 8 rest
    | 'd' => some (.set m.digits, rest)
    | 's' => some (.set m.blanks, rest)
    | 'w' => some (.set m.wordChars, rest)
    | 'D' => (m.complement m.digits).map fun s => (.set s, rest)
    | 'S' => (m.complement m.blanks).map fun s => (.set s, rest)
    | 'W' => (m.complement m.wordChars).map fun s => (.set s, rest)
    | 'a' => some (.literal '\x07', rest)
    | 'f' => some (.literal '\x0c', rest)
    | 't' => some (.literal '\t', rest)
    | 'n' => some (.literal '\n', rest)
    | 'r' => some (.literal '\r', rest)
    | 'v' => some (.literal '\x0b', rest)
    | 'A' => some (.anchor .textStart, rest)
    | 'z' => some (.anchor .textEnd, rest)
    | 'b' => readWordEdge m.wordChars rest
    | 'B' => some (.anchor (.noWordEdge m.wordChars), rest)
    | '<' => some (.anchor (.wordStart m.wordChars), rest)
    | '>' => some (.anchor (.wordEnd m.wordChars), rest)
    | c => if c.toNat < 0x80 ∧ ¬ c.isAlphanum then some (.literal c, rest) else none

end PlainSpec.Pattern
