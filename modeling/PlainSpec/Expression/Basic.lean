import PlainSpec.Labels

/-!
# Label expressions

An expression is a chain that starts with a label or a negated label and goes on, from left to
right, with labels or with whole expressions.

## Main definitions

* `Joint`: how a chain goes on.
* `Expression`: a label expression.
* `Expression.evaluate`: the outcome of a chain on a list of labels.
* `Expression.selects`: whether a node with some labels is selected.
* `Expression.display`: the text of an expression.
-/

namespace PlainSpec

/-- How a chain goes on. -/
inductive Joint where
  | or
  | and
  | orNot
  | andNot
deriving DecidableEq

/-- The text of a joint. -/
def Joint.display : Joint → Text
  | or => "or".toList
  | and => "and".toList
  | orNot => "or not".toList
  | andNot => "and not".toList

/-- A query over the labels of a node. -/
inductive Expression where
  /-- The label is present. -/
  | label (name : Text)
  /-- The label is absent. -/
  | lacks (name : Text)
  /-- A chain that goes on with a label. -/
  | joinLabel (left : Expression) (joint : Joint) (name : Text)
  /-- A chain that goes on with an expression in parentheses. -/
  | joinGroup (left : Expression) (joint : Joint) (right : Expression)
deriving DecidableEq

/-- What a chain can go on with. -/
inductive Operand where
  /-- A label. -/
  | label (name : Text)
  /-- A whole expression. -/
  | group (expression : Expression)
deriving DecidableEq

namespace Expression

/-- The chain that goes on with an operand. -/
def join (left : Expression) (joint : Joint) : Operand → Expression
  | .label name => joinLabel left joint name
  | .group right => joinGroup left joint right

/-! ## Evaluation -/

/-- The outcome of a chain.  A label that was missing is told apart from one that was excluded. -/
inductive Outcome where
  /-- The chain holds. -/
  | success
  /-- A required label is missing. -/
  | missing
  /-- A label is present that must not be. -/
  | excluded
  /-- Both. -/
  | missingAndExcluded
  /-- A combination of whole expressions does not hold. -/
  | failure
deriving DecidableEq

namespace Outcome

/-- The outcome of a combination of whole expressions. -/
def ofBool (holds : Bool) : Outcome := if holds then success else failure

/-- Whether the chain holds. -/
def isSuccess (o : Outcome) : Bool := o == success

/-- The outcome after one more label, given whether it is present. -/
def joinLabel : Joint → Outcome → Bool → Outcome
  | .and, success, true => success
  | .and, success, false => missing
  | .and, excluded, true => excluded
  | .and, excluded, false => missingAndExcluded
  | .and, o, _ => o
  | .or, success, _ => success
  | .or, excluded, true => excluded
  | .or, missingAndExcluded, true => excluded
  | .or, excluded, false => missingAndExcluded
  | .or, missingAndExcluded, false => missingAndExcluded
  | .or, missing, true => success
  | .or, missing, false => missing
  | .or, failure, _ => failure
  | .orNot, success, _ => success
  | .orNot, excluded, false => success
  | .orNot, excluded, true => excluded
  | .orNot, missingAndExcluded, false => missing
  | .orNot, o, _ => o
  | .andNot, success, false => success
  | .andNot, success, true => excluded
  | .andNot, missing, true => missingAndExcluded
  | .andNot, o, _ => o

/-- The outcome of a combination of two whole expressions, which only looks at whether each
holds. -/
def joinGroup (joint : Joint) (left right : Outcome) : Outcome :=
  ofBool <|
    match joint with
    | .or => left.isSuccess || right.isSuccess
    | .and => left.isSuccess && right.isSuccess
    | .orNot => left.isSuccess || !right.isSuccess
    | .andNot => left.isSuccess && !right.isSuccess

end Outcome

/-- The outcome of an expression on a list of labels. -/
def evaluate (labels : List Text) : Expression → Outcome
  | label name => if name ∈ labels then .success else .missing
  | lacks name => if name ∈ labels then .excluded else .success
  | joinLabel left joint name => .joinLabel joint (left.evaluate labels) (decide (name ∈ labels))
  | joinGroup left joint right => .joinGroup joint (left.evaluate labels) (right.evaluate labels)

/-- Whether a node with the given labels is selected.  Absent labels are like an empty list. -/
def selects (e : Expression) (labels : Labels) : Bool := (e.evaluate (labels.getD [])).isSuccess

/-! ## Text -/

/-- The text of an expression. -/
def display : Expression → Text
  | label name => name
  | lacks name => "not ".toList ++ name
  | joinLabel left joint name => left.display ++ ' ' :: joint.display ++ ' ' :: name
  | joinGroup left joint right =>
    left.display ++ ' ' :: joint.display ++ [' ', '('] ++ right.display ++ [')']

end Expression

end PlainSpec
