import PlainSpec.Parser.Repeat

/-!
# Keyword lines and comments

## Main definitions

* `Grammar.titled`: a keyword and the title after it.
* `Grammar.alone`: a keyword on a line of its own.
* `Grammar.commentLine`, `Grammar.comments`: comment lines by the mark that starts them.
-/

namespace PlainSpec.Grammar

open PlainSpec.Parser

/-- The first of the keywords that the text starts with, and what follows it. -/
def leading? (keywords : List Text) (text : Text) : Option (Text × Text) :=
  keywords.findSome? fun keyword => (Text.after? keyword text).map fun rest => (keyword, rest)

/-- The title on a line that starts with one of the keywords. -/
def readTitle (keywords : List Text) (text : Text) : Except Fault Text :=
  match leading? keywords text with
  | none => .error (.noTitleKeyword keywords)
  | some (keyword, rest) =>
    if rest.trim.isEmpty then .error (.emptyTitle keyword) else .ok rest.trim

/-- A line that starts with one of the keywords and goes on with a title. -/
def titled (keywords : List Text) : Parser Text := line fun l => readTitle keywords l.trimmed

/-- A line that is one of the keywords and nothing else. -/
def alone (keywords : List Text) : Parser Unit := line fun l =>
  match leading? keywords l.trimmed with
  | none => .error (.noLoneKeyword keywords)
  | some (keyword, rest) => if rest.isEmpty then .ok () else .error (.notAlone keyword)

/-- The content of a comment line: what follows the mark and all further copies of its character. -/
def readComment (mark : Text) (text : Text) : Except Fault Text :=
  if text.startsWith mark then
    .ok (Text.trim (text.dropWhile fun c => mark.head? = some c))
  else .error (.notComment mark)

/-- A line that starts with the comment mark. -/
def commentLine (mark : Text) : Parser Text := line fun l => readComment mark l.trimmed

/-- The comment lines in front of something, if there are any. -/
def comments (mark : Text) : Parser (Option (List Text)) :=
  map (manyWhile (commentLine mark) (commentLine mark)) fun found =>
    if found.isEmpty then none else some found

end PlainSpec.Grammar
