import PlainSpec.Parser.Basic

/-!
# Repetition

An element is read again and again until a terminator, used as lookahead only, succeeds.  A step
that reads nothing ends the repetition, so it always comes to an end: the lines ahead get fewer.

## Main definitions

* `Several`: a list that is not empty.
* `Parser.many`: elements until the terminator succeeds.
* `Parser.several`: the same, with at least one element.
-/

namespace PlainSpec

/-- A list that is not empty. -/
structure Several (α : Type) where
  /-- The first element. -/
  head : α
  /-- The other elements. -/
  tail : List α
deriving DecidableEq

namespace Several

variable {α : Type}

/-- The elements in order. -/
def toList (s : Several α) : List α := s.head :: s.tail

/-- A list as a non-empty one. -/
def ofList? : List α → Option (Several α)
  | [] => none
  | a :: as => some ⟨a, as⟩

end Several

namespace Parser

variable {α β : Type}

/-- The elements from a place on, until `stop` succeeds or an element reads nothing. -/
def manyFrom (element : Parser α) (stop : Parser β) (c : Cursor) : Reply (List α) :=
  match stop c with
  | .ok .. => .ok [] c
  | .fail .. =>
    match element c with
    | .fail error _ => .fail error c
    | .ok value next =>
      if next.rest.length < c.rest.length then
        ((manyFrom element stop next).map (value :: ·)).orBackTo c
      else .ok [value] next
termination_by c.rest.length

/-- Elements until `stop` succeeds.  When both `stop` and `element` refuse, the refusal of `element`
is reported. -/
def many (element : Parser α) (stop : Parser β) : Parser (List α) :=
  afterBlank (manyFrom element stop)

/-- At least one element, and more until `stop` succeeds.  `name` is what an element is called when
there is none. -/
def several (name : String) (element : Parser α) (stop : Parser β) : Parser (Several α) := fun c =>
  match many element stop c with
  | .fail error _ => .fail error c
  | .ok values next =>
    match Several.ofList? values with
    | some values => .ok values next
    | none => .fail ⟨next.lineNumber, .unrecognised, .noneFound name⟩ c

/-- Elements as long as the lines ahead start one. -/
def manyWhile (element : Parser α) (starts : Parser β) : Parser (List α) :=
  many element (orElse finish (absent starts))

/-- At least one element, and more as long as the lines ahead start one. -/
def severalWhile (name : String) (element : Parser α) (starts : Parser β) : Parser (Several α) :=
  several name element (orElse finish (absent starts))

end Parser

end PlainSpec
