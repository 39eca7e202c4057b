import PlainSpec.Value.Json

/-!
# Values as YAML

Values are written in block style, with the items of a list at the level of the field that holds it.
A text is written as it is if it reads back as the same text.  Otherwise it goes between single
quotation marks, or between double ones if it holds characters that need an escape.  A text of
several lines becomes a literal block.

## Main definitions

* `Yaml.isAmbiguous`: texts that would read back as something else.
* `Yaml.style`: how a text is written.
* `Yaml.render`: a value as YAML.
-/

namespace PlainSpec

namespace Yaml

/-! ## Texts that read as other values -/

/-- The words that stand for nothing, for truth values and for special numbers. -/
def reservedWords : List Text :=
  (["null", "Null", "NULL", "~", "true", "True", "TRUE", "false", "False", "FALSE", ".inf", ".Inf",
    ".INF", "+.inf", "+.Inf", "+.INF", "-.inf", "-.Inf", "-.INF", ".nan", ".NaN", ".NAN"]).map
    String.toList

/-- The base that is written in front of digits. -/
def baseOf? : Text → Option (Nat × Text)
  | '0' :: 'x' :: rest => some (16, rest)
  | '0' :: 'o' :: rest => some (8, rest)
  | '0' :: 'b' :: rest => some (2, rest)
  | _ => none

/-- Whether a text is a whole number with its base written in front, of at most 128 bits. -/
def isBasedNumber (t : Text) : Bool :=
  match baseOf? (dropSign t) with
  | some (base, rest) => (number? base rest).any (· < Nat.pow 2 128)
  | none => false

/-- The exponent at the end of a decimal number, which may be missing. -/
def exponent? : Text → Option Int
  | [] => some 0
  | e :: rest =>
    if e = 'e' ∨ e = 'E' then
      match rest with
      | '-' :: ds => (number? 10 ds).map fun n => -(n : Int)
      | '+' :: ds => (number? 10 ds).map Int.ofNat
      | ds => (number? 10 ds).map Int.ofNat
    else none

/-- The digits and the exponent of a decimal number without a sign. -/
def decimal? (t : Text) : Option (Nat × Int) :=
  let whole := t.takeWhile Char.isDigit
  let rest := t.dropWhile Char.isDigit
  let (fraction, rest) :=
    match rest with
    | '.' :: more => (more.takeWhile Char.isDigit, more.dropWhile Char.isDigit)
    | rest => ([], rest)
  if whole.isEmpty && fraction.isEmpty then none
  else do
    let digits ← number? 10 (whole ++ fraction)
    let exponent ← exponent? rest
    some (digits, exponent - fraction.length)

/-- The least number that is too large for a floating point number of 64 bits. -/
def overflow : Nat := Nat.pow 2 1024 - Nat.pow 2 970

/-- Whether digits with an exponent are in the range of floating point numbers of 64 bits. -/
def inRange (digits : Nat) (exponent : Int) : Bool :=
  if digits = 0 ∨ exponent ≤ 0 ∧ exponent < -((Nat.toDigits 10 digits).length : Int) then true
  else if 400 ≤ exponent then false
  else if 0 ≤ exponent then digits * Nat.pow 10 exponent.toNat < overflow
  else digits < overflow * Nat.pow 10 (-exponent).toNat

/-- Whether a text is a decimal number. -/
def isDecimalNumber (t : Text) : Bool := (decimal? (dropSign t)).any fun (d, e) => inRange d e

/-- Whether a text would read back as something other than a text, or looks like a number with zeros
in front. -/
def isAmbiguous (t : Text) : Bool :=
  t.isEmpty || t ∈ reservedWords || isBasedNumber t || isDecimalNumber t

/-! ## Texts that need quotation marks -/

/-- Line ends of the format. -/
def isBreak (c : Char) : Bool := c ∈ ['\n', '\r', '\x85', '\u2028', '\u2029']

/-- Blanks of the format and line ends. -/
def isGap (c : Char) : Bool := c == ' ' || c == '\t' || c == '\x00' || isBreak c

/-- Characters that are written as they are. -/
def isPrintable (c : Char) : Bool :=
  let n := c.toNat
  n == 0x0A || (0x20 ≤ n && n ≤ 0x7E) || (0xA0 ≤ n && n ≤ 0xD7FF) ||
    (0xE000 ≤ n && n ≤ 0xFFFD && n != 0xFEFF) || 0x10000 ≤ n

/-- Characters that mean something at the start of a text. -/
def startMarks : List Char :=
  ['#', ',', '[', ']', '\x7b', '\x7d', '&', '*', '!', '|', '>', '\'', '"', '%', '@', '`']

/-- Whether a gap, or the end, follows. -/
def gapFollows (rest : Text) : Bool := rest.head?.all isGap

/-- Whether some character after the first one means something: a colon before a gap, or a number
sign after one. -/
def hasInnerMark (previous : Char) : Text → Bool
  | [] => false
  | c :: rest =>
    (c == ':' && gapFollows rest) || (c == '#' && isGap previous) || hasInnerMark c rest

/-- Whether a text means something other than itself where a value of a block is expected. -/
def hasMark : Text → Bool
  | [] => false
  | c :: rest =>
    "---".toList.isPrefixOf (c :: rest) || "...".toList.isPrefixOf (c :: rest) ||
      c ∈ startMarks || ((c == '?' || c == ':' || c == '-') && gapFollows rest) ||
      hasInnerMark c rest

/-- Whether some character that satisfies `p` is followed by one that satisfies `q`. -/
def hasPair (p q : Char → Bool) : Text → Bool
  | a :: b :: rest => (p a && q b) || hasPair p q (b :: rest)
  | _ => false

/-- The ways to write a text. -/
inductive Style where
  /-- As it is. -/
  | plain
  /-- Between single quotation marks. -/
  | single
  /-- Between double quotation marks, with escapes. -/
  | double
  /-- Line by line, below a mark. -/
  | block
deriving DecidableEq

/-- Whether a text has blanks at its ends. -/
def hasOuterGap (t : Text) : Bool :=
  let outer := fun (c : Option Char) => c.any fun c => c == ' ' || isBreak c
  outer t.head? || outer t.getLast?

/-- Whether a text holds characters that need an escape, or blanks before a line end. -/
def needsEscape (t : Text) : Bool := t.any (!isPrintable ·) || hasPair (· == ' ') isBreak t

/-- How a text is written. -/
def style (t : Text) : Style :=
  if '\n' ∈ t then
    if needsEscape t || t.getLast? == some ' ' then .double else .block
  else if needsEscape t || hasPair isBreak (· == ' ') t then .double
  else if isAmbiguous t || hasOuterGap t || t.any isBreak || hasMark t then .single
  else .plain

/-! ## Writing texts -/

/-- The space in front of a line. -/
def margin (width : Nat) : Text := List.replicate width ' '

/-- The last digits of a number in base 16, in upper case. -/
def hex (count n : Nat) : Text := (hexDigits count n).map Char.toUpper

/-- A character between double quotation marks. -/
def escape (c : Char) : Text :=
  match c with
  | '\x00' => ['\\', '0']
  | '\x07' => ['\\', 'a']
  | '\x08' => ['\\', 'b']
  | '\t' => ['\\', 't']
  | '\n' => ['\\', 'n']
  | '\x0b' => ['\\', 'v']
  | '\x0c' => ['\\', 'f']
  | '\r' => ['\\', 'r']
  | '\x1b' => ['\\', 'e']
  | '"' => ['\\', '"']
  | '\\' => ['\\', '\\']
  | '\x85' => ['\\', 'N']
  | '\u2028' => ['\\', 'L']
  | '\u2029' => ['\\', 'P']
  | c =>
    if isPrintable c then [c]
    else if c.toNat ≤ 0xFF then '\\' :: 'x' :: hex 2 c.toNat
    else if c.toNat ≤ 0xFFFF then '\\' :: 'u' :: hex 4 c.toNat
    else '\\' :: 'U' :: hex 8 c.toNat

/-- The characters between single quotation marks.  After a line end the text goes on below the
`width` of its block. -/
def singleBody (width : Nat) : Text → Text
  | [] => []
  | c :: rest =>
    let after := singleBody width rest
    if c = '\'' then '\'' :: '\'' :: after
    else if isBreak c && rest.head?.any (!isBreak ·) then c :: margin width ++ after
    else c :: after

/-- The mark of a literal block: a digit if the text starts with a blank, and a sign for the line
ends at the end of the text. -/
def blockMark (t : Text) : Text :=
  let indentation := if t.head?.any fun c => c == ' ' || isBreak c then ['2'] else []
  let chomping :=
    match t.reverse with
    | [] => ['-']
    | c :: rest =>
      if !isBreak c then ['-']
      else if rest.head?.all isBreak then ['+']
      else []
  '|' :: indentation ++ chomping

/-- The characters of a literal block: every line that is not empty starts below `width`. -/
def blockBody (width : Nat) (afterBreak : Bool) : Text → Text
  | [] => []
  | c :: rest =>
    if isBreak c then c :: blockBody width true rest
    else (if afterBreak then margin width else []) ++ c :: blockBody width false rest

/-- A text and the line end after it. -/
def textLine (width : Nat) (t : Text) : Text :=
  match style t with
  | .plain => t ++ ['\n']
  | .single => '\'' :: singleBody width t ++ ['\'', '\n']
  | .double => '"' :: t.flatMap escape ++ ['"', '\n']
  | .block =>
    blockMark t ++ '\n' :: blockBody width true t ++
      (if t.getLast?.any isBreak then [] else ['\n'])

/-- The name of a field.  It is never a block. -/
def name (width : Nat) (t : Text) : Text :=
  match style t with
  | .plain => t
  | .single => '\'' :: singleBody width t ++ ['\'']
  | _ => '"' :: t.flatMap escape ++ ['"']

/-- The greatest size in bytes of a name that is written in front of its value on one line. -/
def maxSimpleName : Nat := 128

/-- Whether a name is written in front of its value on one line. -/
def isSimpleName (t : Text) : Bool := t.toString.utf8ByteSize ≤ maxSimpleName && !t.any isBreak

/-! ## Writing values -/

/- The `width` of a field or item is the number of spaces in front of it. -/
mutual

/-- A value after the mark of an item: its first line goes on, and its other lines start below
`width`. -/
def afterMark (width : Nat) : Value → Text
  | .text t => textLine width t
  | .list (item :: items) => (itemLines width (item :: items)).drop width
  | .list [] => "[]\n".toList
  | .fields (entry :: entries) => (fieldLines width (entry :: entries)).drop width
  | .fields [] => "\x7b\x7d\n".toList
  | value => Json.scalar value ++ ['\n']

/-- A value after the name of a field at `width`. -/
def afterName (width : Nat) : Value → Text
  | .list (item :: items) => '\n' :: itemLines width (item :: items)
  | .fields (entry :: entries) => '\n' :: fieldLines (width + 2) (entry :: entries)
  | .text t => ' ' :: textLine (width + 2) t
  | .list [] => " []\n".toList
  | .fields [] => " \x7b\x7d\n".toList
  | value => ' ' :: Json.scalar value ++ ['\n']

/-- The items of a list. -/
def itemLines (width : Nat) : List Value → Text
  | [] => []
  | item :: items => margin width ++ ['-', ' '] ++ afterMark
      (width + 2) item ++ itemLines width items

/-- Named fields. -/
def fieldLines (width : Nat) : List (Text × Value) → Text
  | [] => []
  | (key, value) :: entries =>
    (if isSimpleName key then margin width ++ name (width + 2) key ++ ':' :: afterName width value
      else
        margin width ++ ['?', ' '] ++ textLine (width + 2) key ++ margin width ++ [':', ' '] ++
          afterMark (width + 2) value) ++
      fieldLines width entries

end

/-- A value as YAML. -/
def render (v : Value) : Text := afterMark 0 v

end Yaml

end PlainSpec
