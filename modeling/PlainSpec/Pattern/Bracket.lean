import PlainSpec.Pattern.Escape

/-!
# Sets of characters in brackets

Brackets hold characters, ranges, classes and further brackets, and may combine what stands left and
right of an operator.  Brackets inside brackets are kept on a stack.

## Main definitions

* `Pattern.namedSet?`: the named classes of ASCII.
* `Pattern.Bracket`: an open bracket with what was read in it.
* `Pattern.readBracket`: reads a set in brackets.
-/

namespace PlainSpec.Pattern

/-- The characters of a string as a set. -/
def setOf (s : String) : CharSet := s.toList.foldr (fun c t => .either (.one c) t) .none

/-- The class of ASCII characters that has a name. -/
def namedSet? (name : Text) : Option CharSet :=
  let digit : CharSet := .range '0' '9'
  let upper : CharSet := .range 'A' 'Z'
  let lower : CharSet := .range 'a' 'z'
  let alpha := CharSet.either upper lower
  match name.toString with
  | "alnum" => some (.either digit alpha)
  | "alpha" => some alpha
  | "ascii" => some (.range '\x00' '\x7f')
  | "blank" => some (setOf "\t ")
  | "cntrl" => some (.either (.range '\x00' '\x1f') (.one '\x7f'))
  | "digit" => some digit
  | "graph" => some (.range '!' '~')
  | "lower" => some lower
  | "print" => some (.range ' ' '~')
  | "punct" =>
    some (.both (.range '!' '~') (.except (.either digit alpha)))
  | "space" => some (.either (.range '\t' '\r') (.one ' '))
  | "upper" => some upper
  | "word" => some Mode.asciiWordChars
  | "xdigit" => some (.either digit (.either (.range 'A' 'F') (.range 'a' 'f')))
  | _ => none

/-- Reads the name of a class with its colons, from after the bracket in front of it. -/
def readNamedSet (m : Mode) : Text → Option (CharSet × Text)
  | ':' :: t =>
    let (negated, t) :=
      match t with
      | '^' :: t => (true, t)
      | t => (false, t)
    match Text.splitFirst? (· == ':') t with
    | some (name, ']' :: rest) => do
      let s ← namedSet? name
      if negated then (m.complement s).map (·, rest) else some (s, rest)
    | _ => none
  | _ => none

/-- How the sets on both sides of an operator are combined. -/
inductive Combination where
  /-- What is in both. -/
  | shared
  /-- What is in the left one only. -/
  | leftOnly
  /-- What is in one of them only. -/
  | oneOnly

/-- The combination of two sets. -/
def Combination.apply (op : Combination) (s t : CharSet) : CharSet :=
  match op with
  | shared => .both s t
  | leftOnly => .both s (.except t)
  | oneOnly => .either (.both s (.except t)) (.both t (.except s))

/-- An open bracket. -/
structure Bracket where
  /-- Whether all other characters are meant. -/
  negated : Bool
  /-- What stands left of an operator, with the operator. -/
  pending : Option (CharSet × Combination)
  /-- What was read since. -/
  items : CharSet

namespace Bracket

/-- The bracket with more characters. -/
def add (b : Bracket) (s : CharSet) : Bracket := { b with items := .either b.items s }

/-- What was read in the bracket. -/
def combined (m : Mode) (b : Bracket) : CharSet :=
  match b.pending with
  | none => b.items
  | some (left, op) => op.apply (m.cases left) (m.cases b.items)

/-- The bracket after an operator. -/
def operator (m : Mode) (b : Bracket) (op : Combination) : Bracket :=
  { b with pending := some (b.combined m, op), items := .none }

/-- The set of a closed bracket. -/
def close (m : Mode) (b : Bracket) : Option CharSet :=
  let s := m.cases (b.combined m)
  if b.negated then m.complement s else some s

end Bracket

/-- Reads the dashes at the start of a bracket, which stand for themselves. -/
def readDashes (m : Mode) (b : Bracket) : Text → Bracket × Text
  | [] => (b, [])
  | c :: rest =>
    if m.spaced ∧ isBlank c then readDashes m b rest
    else if c = '-' then readDashes m (b.add (.one '-')) rest
    else (b, c :: rest)

/-- Reads the start of a bracket: a mark of negation, dashes, and a closing bracket that stands for
itself. -/
def openBracket (m : Mode) (t : Text) : Bracket × Text :=
  let (negated, t) :=
    match m.skip t with
    | '^' :: t => (true, m.skip t)
    | t => (false, t)
  let (b, rest) := readDashes m ⟨negated, none, .none⟩ t
  match rest with
  | ']' :: after => if t.head? = some '-' then (b, rest) else (b.add (.one ']'), after)
  | rest => (b, rest)

/-- Reads one character of a bracket, or an escape. -/
def readItem (m : Mode) : Text → Option (Escape × Text)
  | [] => none
  | '\\' :: rest => readEscape m rest
  | c :: rest => some (.literal c, rest)

/-- Reads a character, a class or a range. -/
def readRange (m : Mode) (t : Text) : Option (CharSet × Text) := do
  let (item, rest) ← readItem m t
  match m.skip rest with
  | '-' :: after =>
    let next := (m.skip after).head?
    if next = some ']' ∨ next = some '-' then
      match item with
      | .literal c => some (.one c, m.skip rest)
      | .set s => some (s, m.skip rest)
      | .anchor _ => none
    else
      match item, ← readItem m (m.skip after) with
      | .literal low, (.literal high, rest) =>
        if low ≤ high then some (.range low high, rest) else none
      | _, _ => none
  | rest =>
    match item with
    | .literal c => some (.one c, rest)
    | .set s => some (s, rest)
    | .anchor _ => none

/-- What reading on in a bracket gives. -/
inductive BracketStep where
  /-- The innermost bracket changed. -/
  | inside (b : Bracket)
  /-- A bracket was opened in it. -/
  | deeper (b : Bracket)
  /-- It was closed. -/
  | closed

/-- Reads the next part of a bracket. -/
def bracketStep (m : Mode) (b : Bracket) (t : Text) : Option (BracketStep × Text) :=
  match t with
  | [] => none
  | '[' :: rest =>
    match readNamedSet m rest with
    | some (s, rest) => some (.inside (b.add s), rest)
    | none =>
      let (inner, rest) := openBracket m rest
      some (.deeper inner, rest)
  | ']' :: rest => some (.closed, rest)
  | '&' :: '&' :: rest => some (.inside (b.operator m .shared), rest)
  | '-' :: '-' :: rest => some (.inside (b.operator m .leftOnly), rest)
  | '~' :: '~' :: rest => some (.inside (b.operator m .oneOnly), rest)
  | t => (readRange m t).map fun (s, rest) => (.inside (b.add s), rest)

/-- Reads on in a bracket that stands in other ones, up to the end of the outermost.  Every part
takes at least one character. -/
def readBracketFrom (m : Mode) (b : Bracket) (outer : List Bracket) (t : Text) :
    Option (CharSet × Text) :=
  match bracketStep m b (m.skip t) with
  | none => none
  | some (step, rest) =>
    if rest.length < t.length then
      match step with
      | .inside b => readBracketFrom m b outer rest
      | .deeper inner => readBracketFrom m inner (b :: outer) rest
      | .closed =>
        match b.close m, outer with
        | none, _ => none
        | some s, [] => some (s, rest)
        | some s, parent :: others => readBracketFrom m (parent.add s) others rest
    else none
termination_by t.length

/-- Reads a set in brackets, from after the opening bracket. -/
def readBracket (m : Mode) (t : Text) : Option (CharSet × Text) :=
  let (b, rest) := openBracket m t
  readBracketFrom m b [] rest

end PlainSpec.Pattern
