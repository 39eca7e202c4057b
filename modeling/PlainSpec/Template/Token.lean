import PlainSpec.Document.Model

/-!
# Template tokens

A token is a stretch `<…>` on one line with at least one character inside.  Tokens are found from
left to right, each as short as it can be.

## Main definitions

* `Piece`, `Template.pieces`: a text as tokens and the characters between them.
* `Template.tokens`: the names of the tokens of a text.
* `Data.texts`, `Data.mapTexts`: the texts of a block of data, and a change to all of them.
* `Statement.tokens`, `ExampleSet.tokens`: the names of the tokens of a statement and of a template.

## Main results

* `Template.plain_pieces`: the pieces are the text.
-/

namespace PlainSpec

/-- A token of a text, or a character outside of tokens. -/
inductive Piece where
  /-- A character outside of tokens. -/
  | plain (c : Char)
  /-- A token, by what stands between its brackets. -/
  | token (body : Text)
deriving DecidableEq

namespace Piece

/-- The characters of a piece. -/
def text : Piece → Text
  | plain c => [c]
  | token body => '<' :: body ++ ['>']

/-- The brackets around the name of a token. -/
def isBracket (c : Char) : Bool := c == '<' || c == '>'

/-- Drops the brackets at both ends of a text. -/
def trimBrackets (t : Text) : Text := ((t.dropWhile isBracket).reverse.dropWhile isBracket).reverse

/-- The name of a token, which has no brackets at its ends. -/
def name? : Piece → Option Text
  | plain _ => none
  | token body => some (trimBrackets body)

end Piece

namespace Template

/-- What stands between an opening bracket, already passed, and the bracket that closes it, and what
follows. -/
def body? : Text → Option (Text × Text)
  | [] => none
  | c :: rest =>
    if c = '\n' then none
    else
      match rest.dropWhile (fun d => d ≠ '>' && d ≠ '\n') with
      | '>' :: after => some (c :: rest.takeWhile (fun d => d ≠ '>' && d ≠ '\n'), after)
      | _ => none

/-- **A token is cut out of the text.** -/
theorem eq_of_body? {t body after : Text} (h : body? t = some (body, after)) :
    t = body ++ '>' :: after := by
  cases t with
  | nil => simp [body?] at h
  | cons c rest =>
    simp only [body?] at h
    split at h
    · simp at h
    · split at h
      · rename_i hd
        simp only [Option.some.injEq, Prod.mk.injEq] at h
        obtain ⟨rfl, rfl⟩ := h
        rw [List.cons_append, ← hd, List.takeWhile_append_dropWhile]
      · simp at h

theorem length_of_body? {t body after : Text} (h : body? t = some (body, after)) :
    after.length < t.length := by
  rw [eq_of_body? h]
  simp
  omega

/-- A text as tokens and the characters between them. -/
def pieces : Text → List Piece
  | [] => []
  | c :: rest =>
    if c = '<' then
      match _found : body? rest with
      | some (body, after) => .token body :: pieces after
      | none => .plain c :: pieces rest
    else .plain c :: pieces rest
termination_by t => t.length
decreasing_by
  · have := length_of_body? _found
    simp only [List.length_cons]
    omega
  all_goals simp

/-- **The pieces are the text.** -/
theorem plain_pieces (t : Text) : (pieces t).flatMap Piece.text = t := by
  fun_induction pieces t with
  | case1 => rfl
  | case2 rest body after h ih =>
    rw [List.flatMap_cons, ih, eq_of_body? h]
    simp [Piece.text]
  | case3 rest h ih => simp [Piece.text, ih]
  | case4 c rest hc ih => simp [Piece.text, ih]

/-- The names of the tokens of a text, in order. -/
def names (t : Text) : List Text := (pieces t).filterMap Piece.name?

/-- The distinct names of the tokens of a text, sorted. -/
def tokens (t : Text) : List Text := Text.sortedSet (names t)

end Template

/-- The texts of a map, each key before its value. -/
def mapTexts (m : OrderedMap Text Text) : List Text := m.entries.flatMap fun (k, v) => [k, v]

/-- Every text of a block of data. -/
def Data.texts : Data → List Text
  | text content => [content]
  | list items => items
  | keyValues pairs => PlainSpec.mapTexts pairs
  | table rows => rows.flatMap PlainSpec.mapTexts
  | matrix rows => rows.entries.flatMap fun (key, row) => key :: PlainSpec.mapTexts row

/-- The map with every key and value changed.  Keys that become equal are merged. -/
def changeMap (f : Text → Text) (m : OrderedMap Text Text) : OrderedMap Text Text :=
  .ofList (m.entries.map fun (k, v) => (f k, f v))

/-- The data with every text changed. -/
def Data.mapTexts (f : Text → Text) : Data → Data
  | text content => .text (f content)
  | list items => .list (items.map f)
  | keyValues pairs => .keyValues (changeMap f pairs)
  | table rows => .table (rows.map (changeMap f))
  | matrix rows => .matrix (.ofList (rows.entries.map fun (key, row) => (f key, changeMap f row)))

/-- The distinct names of the tokens of a list of texts, sorted. -/
def tokensOf (texts : List Text) : List Text := Text.sortedSet (texts.flatMap Template.names)

/-- The distinct names of the tokens of a block of data, sorted. -/
def Data.tokens (d : Data) : List Text := tokensOf d.texts

/-- The texts of a statement that may hold tokens. -/
def Statement.texts (s : Statement) : List Text :=
  s.description :: (s.data.map Data.texts).getD []

/-- The distinct names of the tokens of a statement, sorted. -/
def Statement.tokens (s : Statement) : List Text := tokensOf s.texts

/-- The distinct names of the tokens of a template, sorted. -/
def ExampleSet.tokens (set : ExampleSet) : List Text :=
  tokensOf (set.description.toList ++ set.statements.flatMap Statement.texts)

end PlainSpec
