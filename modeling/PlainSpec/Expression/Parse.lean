import PlainSpec.Expression.Basic

/-!
# Reading label expressions

A text is cut into words and parentheses, and these are read as

```text
expression := first (joint operand)*
first      := label | 'not' label | '(' expression ')'
joint      := ('and' | 'or') ['not']
operand    := label | '(' expression ')'
```

where a label is any word but `and`, `or` and `not`.

## Main definitions

* `Expression.Token`, `Expression.tokenize`: the words and parentheses of a text.
* `ExpressionError`: why a text is no expression.
* `Expression.parse`: the expression of a text.
-/

namespace PlainSpec

namespace Expression

/-- A word or a parenthesis. -/
inductive Token where
  /-- `(` -/
  | opening
  /-- `)` -/
  | closing
  /-- A run of characters that are neither blanks nor parentheses. -/
  | word (text : Text)
deriving DecidableEq

/-- A token in quotation marks. -/
def Token.display : Token → String
  | opening => "'('"
  | closing => "')'"
  | word text => "'" ++ text.toString ++ "'"

/-- Whether a character belongs to a word. -/
def isWordChar (c : Char) : Bool := !isBlank c && c != '(' && c != ')'

/-- The words and parentheses of a text. -/
def tokenize : Text → List Token
  | [] => []
  | c :: rest =>
    if c = '(' then .opening :: tokenize rest
    else if c = ')' then .closing :: tokenize rest
    else if isBlank c then tokenize rest
    else .word (c :: rest.takeWhile isWordChar) :: tokenize (rest.dropWhile isWordChar)
termination_by text => text.length
decreasing_by
  all_goals simp only [List.length_cons]
  all_goals first | omega | skip
  have := (List.dropWhile_suffix isWordChar (l := rest)).length_le
  omega

end Expression

/-- Why a text is no expression. -/
inductive ExpressionError where
  /-- There is nothing to read. -/
  | empty
  /-- A label or a parenthesis is needed and something else, or nothing, is there. -/
  | expectedTerm (found : Option Expression.Token)
  /-- A joint is needed and something else is there. -/
  | expectedOperator (found : Expression.Token)
  /-- A parenthesis without its partner. -/
  | unbalanced
  /-- A negated group at the start. -/
  | negatedGroup
deriving DecidableEq

/-- The wording of an error.  A token that stands for a joint is quoted once more. -/
def ExpressionError.message : ExpressionError → String
  | empty => "the label expression is empty"
  | expectedTerm none => "expected a label or '(' but found the end of the expression"
  | expectedTerm (some token) => "expected a label or '(' but found " ++ token.display
  | expectedOperator token => "expected 'and' or 'or' but found '" ++ token.display ++ "'"
  | unbalanced => "unbalanced parentheses in label expression"
  | negatedGroup =>
    "an expression can't start with a negated group; write it as a chain of labels instead"

namespace Expression

/-- The words that are no labels. -/
def keywords : List Text := ["and".toList, "or".toList, "not".toList]

/-- A label at the start of some tokens, and the tokens after it. -/
def readLabel : List Token → Except ExpressionError (Text × List Token)
  | [] => .error (.expectedTerm none)
  | .word text :: rest =>
    if text ∈ keywords then .error (.expectedTerm (some (.word text))) else .ok (text, rest)
  | token :: _ => .error (.expectedTerm (some token))

/-- The joint of a conjunction or disjunction. -/
def jointOf (conjunction negated : Bool) : Joint :=
  match conjunction, negated with
  | true, false => .and
  | true, true => .andNot
  | false, false => .or
  | false, true => .orNot

/-- Whether a word is a conjunction or a disjunction. -/
def conjunction? (text : Text) : Option Bool :=
  if text = "and".toList then some true
  else if text = "or".toList then some false
  else none

/-- Passes a `not` at the start of some tokens. -/
def skipNot : List Token → Bool × List Token
  | .word text :: rest => if text = "not".toList then (true, rest) else (false, .word text :: rest)
  | tokens => (false, tokens)

theorem length_skipNot_le (tokens : List Token) : (skipNot tokens).2.length ≤ tokens.length := by
  unfold skipNot
  split
  · split <;> simp
  · exact Nat.le_refl _

theorem length_of_readLabel {tokens rest : List Token} {name : Text}
    (h : readLabel tokens = .ok (name, rest)) : rest.length < tokens.length := by
  unfold readLabel at h
  split at h
  · simp at h
  · split at h
    · simp at h
    · simp only [Except.ok.injEq, Prod.mk.injEq] at h
      simp [h.2]
  · simp at h

/- Reading ends because every call is made on fewer tokens.  The comparison of lengths after a group
always holds: a group takes at least its parentheses. -/
mutual

/-- An expression at the start of some tokens, and the tokens after it. -/
def readExpression (tokens : List Token) : Except ExpressionError (Expression × List Token) :=
  match tokens with
  | .opening :: rest =>
    match readGroup rest with
    | .error e => .error e
    | .ok (inner, after) =>
      if after.length ≤ rest.length then readChain inner after else .error .unbalanced
  | .word text :: rest =>
    if text = "not".toList then
      match rest with
      | .opening :: _ => .error .negatedGroup
      | rest =>
        match _found : readLabel rest with
        | .error e => .error e
        | .ok (name, after) => readChain (.lacks name) after
    else
      match readLabel (.word text :: rest) with
      | .error e => .error e
      | .ok (name, _) => readChain (.label name) rest
  | tokens =>
    match readLabel tokens with
    | .error e => .error e
    | .ok _ => .error .unbalanced
termination_by (tokens.length, 0)
decreasing_by
  · exact Prod.Lex.left _ _ (by simp)
  · exact Prod.Lex.left _ _ (by simp only [List.length_cons]; omega)
  · exact Prod.Lex.left _ _ (by
      have := length_of_readLabel _found
      simp only [List.length_cons]
      omega)
  · exact Prod.Lex.left _ _ (by simp)

/-- An expression and the parenthesis that closes it. -/
def readGroup (tokens : List Token) : Except ExpressionError (Expression × List Token) :=
  match readExpression tokens with
  | .error e => .error e
  | .ok (inner, .closing :: after) => .ok (inner, after)
  | .ok _ => .error .unbalanced
termination_by (tokens.length, 1)
decreasing_by exact Prod.Lex.right _ (by decide)

/-- The rest of a chain. -/
def readChain (left : Expression) (tokens : List Token) :
    Except ExpressionError (Expression × List Token) :=
  match tokens with
  | [] => .ok (left, [])
  | .closing :: rest => .ok (left, .closing :: rest)
  | .opening :: _ => .error (.expectedOperator .opening)
  | .word text :: rest =>
    match conjunction? text with
    | none => .error (.expectedOperator (.word text))
    | some conjunction =>
      let joint := jointOf conjunction (skipNot rest).1
      match _ahead : (skipNot rest).2 with
      | .opening :: inside =>
        match readGroup inside with
        | .error e => .error e
        | .ok (right, after) =>
          if after.length ≤ inside.length then readChain (.joinGroup left joint right) after
          else .error .unbalanced
      | others =>
        match _found : readLabel others with
        | .error e => .error e
        | .ok (name, after) => readChain (.joinLabel left joint name) after
termination_by (tokens.length, 0)
decreasing_by
  · have := length_skipNot_le rest
    rw [_ahead] at this
    exact Prod.Lex.left _ _ (by simp only [List.length_cons] at *; omega)
  · have := length_skipNot_le rest
    rw [_ahead] at this
    exact Prod.Lex.left _ _ (by simp only [List.length_cons] at *; omega)
  · have := length_skipNot_le rest
    have := length_of_readLabel _found
    simp only [_ahead] at *
    exact Prod.Lex.left _ _ (by simp only [List.length_cons] at *; omega)

end

/-- The expression of a list of tokens. -/
def ofTokens (tokens : List Token) : Except ExpressionError Expression :=
  match tokens with
  | [] => .error .empty
  | tokens =>
    match readExpression tokens with
    | .error e => .error e
    | .ok (e, []) => .ok e
    | .ok (_, _ :: _) => .error .unbalanced

/-- The expression of a text. -/
def parse (text : Text) : Except ExpressionError Expression := ofTokens (tokenize text)

end Expression

end PlainSpec
