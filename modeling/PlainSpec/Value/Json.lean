import PlainSpec.Text.Digit
import PlainSpec.Value.Basic

/-!
# Values as JSON

## Main definitions

* `Json.quote`: a text in quotation marks.
* `Json.compact`: a value on one line without spaces.
* `Json.pretty`: a value over several lines, each level two spaces to the right.
-/

namespace PlainSpec

namespace Json

/-- A character inside quotation marks.  Only control characters, quotation marks and backslashes
are escaped. -/
def escape (c : Char) : Text :=
  match c with
  | '"' => ['\\', '"']
  | '\\' => ['\\', '\\']
  | '\x08' => ['\\', 'b']
  | '\x0c' => ['\\', 'f']
  | '\n' => ['\\', 'n']
  | '\r' => ['\\', 'r']
  | '\t' => ['\\', 't']
  | c => if c.toNat < 0x20 then "\\u00".toList ++ hexDigits 2 c.toNat else [c]

/-- A text in quotation marks. -/
def quote (t : Text) : Text := '"' :: t.flatMap escape ++ ['"']

/-- A value that is not made of other values. -/
def scalar : Value → Text
  | .bool true => "true".toList
  | .bool false => "false".toList
  | .number n => Text.ofNat n
  | .text t => quote t
  | _ => "null".toList

mutual

/-- A value on one line without spaces. -/
def compact : Value → Text
  | .list items => '[' :: Text.join [','] (compactItems items) ++ [']']
  | .fields entries => '\x7b' :: Text.join [','] (compactEntries entries) ++ ['\x7d']
  | value => scalar value

/-- The items of a list, each on one line. -/
def compactItems : List Value → List Text
  | [] => []
  | item :: items => compact item :: compactItems items

/-- Named fields, each on one line. -/
def compactEntries : List (Text × Value) → List Text
  | [] => []
  | (name, value) :: entries => (quote name ++ ':' :: compact value) :: compactEntries entries

end

/-- The space in front of a line at a level. -/
def margin (level : Nat) : Text := List.replicate (2 * level) ' '

/-- Parts between brackets, each on a line of its own one level further to the right. -/
def bracket (opening closing : Char) (level : Nat) (parts : List Text) : Text :=
  match parts with
  | [] => [opening, closing]
  | parts =>
    opening :: '\n' ::
      Text.join [',', '\n'] (parts.map fun part => margin (level + 1) ++ part) ++
      '\n' :: margin level ++ [closing]

mutual

/-- A value over several lines at a level. -/
def prettyAt (level : Nat) : Value → Text
  | .list items => bracket '[' ']' level (prettyItems (level + 1) items)
  | .fields entries => bracket '\x7b' '\x7d' level (prettyEntries (level + 1) entries)
  | value => scalar value

/-- The items of a list at a level. -/
def prettyItems (level : Nat) : List Value → List Text
  | [] => []
  | item :: items => prettyAt level item :: prettyItems level items

/-- Named fields at a level. -/
def prettyEntries (level : Nat) : List (Text × Value) → List Text
  | [] => []
  | (name, value) :: entries =>
    (quote name ++ [':', ' '] ++ prettyAt level value) :: prettyEntries level entries

end

/-- A value over several lines. -/
def pretty (v : Value) : Text := prettyAt 0 v

end Json

end PlainSpec
