import PlainSpec.Text.Blank

/-!
# Digits and numbers

## Main definitions

* `digitValue?`, `number?`: the value of a digit and of a row of digits.
* `Text.ofNat`, `hexDigits`: the digits of a number.
* `charOfHex?`: the character whose code point is written in base 16.
-/

namespace PlainSpec

/-- The value of a digit in any base up to sixteen. -/
def digitValue? (c : Char) : Option Nat :=
  if c.isDigit then some (c.toNat - '0'.toNat)
  else if 'a' ≤ c ∧ c ≤ 'f' then some (c.toNat - 'a'.toNat + 10)
  else if 'A' ≤ c ∧ c ≤ 'F' then some (c.toNat - 'A'.toNat + 10)
  else none

/-- The value of a digit below a base. -/
def digitBelow? (base : Nat) (c : Char) : Option Nat := (digitValue? c).filter (· < base)

/-- The number that a row of digits stands for in a base.  There must be at least one digit. -/
def number? (base : Nat) (t : Text) : Option Nat :=
  if t.isEmpty then none
  else (t.mapM (digitBelow? base)).map fun digits => digits.foldl (fun n d => n * base + d) 0

/-- Drops one sign in front of a number. -/
def dropSign : Text → Text
  | '+' :: rest => rest
  | '-' :: rest => rest
  | t => t

/-- The digits of a number in base ten. -/
def Text.ofNat (n : Nat) : Text := Nat.toDigits 10 n

/-- The last digits of a number in base sixteen. -/
def hexDigits : (count : Nat) → Nat → Text
  | 0, _ => []
  | count + 1, n => hexDigits count (n / 16) ++ [Nat.digitChar (n % 16)]

/-- The character whose code point is written in base sixteen, if there is one. -/
def charOfHex? (digits : Text) : Option Char :=
  ((number? 16 digits).filter fun n => n.isValidChar).map Char.ofNat

end PlainSpec
