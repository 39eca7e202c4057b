import PlainSpec.Pattern.Bracket

/-!
# Reading patterns

The notation is cut into pieces, which takes care of modes, escapes and brackets.  The pieces are
then put together on a stack of open groups.

## Main definitions

* `Pattern.Piece`: a piece of the notation.
* `Pattern.cutPieces`: cuts the notation into pieces.
* `Pattern.assemble`: puts pieces together.
* `Pattern.read`: the pattern that a text denotes.
-/

namespace PlainSpec.Pattern

/-- A piece of the notation. -/
inductive Piece where
  /-- A pattern of its own. -/
  | atom (p : Pattern)
  /-- A change of mode. -/
  | setting
  /-- The start of a group. -/
  | opening
  /-- The end of a group. -/
  | closing
  /-- A bar between two alternatives. -/
  | bar
  /-- A repetition of what stands before it. -/
  | repetition (least : Nat) (most : Option Nat)

/-! ## Pieces -/

/-- How the notation is read at some point. -/
structure Context where
  /-- The mode of the innermost group. -/
  mode : Mode
  /-- The modes to go back to where the open groups end. -/
  outer : List Mode
  /-- The names of groups so far. -/
  names : List Text

/-- Reads the letters of a change of mode, after those in `seen`.  Gives the mode and the character
that ends the letters. -/
def readFlags (m : Mode) (seen : List Char) : Text → Option (Mode × List Char × Char × Text)
  | [] => none
  | c :: rest =>
    if c = ':' ∨ c = ')' then
      if seen.head? = some '-' then none else some (m, seen, c, rest)
    else if c ∈ seen then none
    else if c = '-' then readFlags m (c :: seen) rest
    else
      match m.set c ('-' ∉ seen) with
      | none => none
      | some m => readFlags m (c :: seen) rest

/-- Whether a character may stand in the name of a group. -/
def isGroupNameChar (first : Bool) (c : Char) : Bool :=
  c == '_' || (isWord c && !(first && isDecimalDigit c)) ||
    (!first && (c == '.' || c == '[' || c == ']'))

/-- Whether a text may name a group. -/
def isGroupName : Text → Bool
  | [] => false
  | c :: rest => isGroupNameChar true c && rest.all (isGroupNameChar false)

/-- Reads the start of a group, from after the parenthesis. -/
def readOpening (c : Context) (t : Text) : Option (Piece × Context × Text) :=
  let deeper := { c with outer := c.mode :: c.outer }
  let readName := fun (t : Text) => do
    let (name, rest) ← Text.splitFirst? (· == '>') t
    if isGroupName name ∧ name ∉ c.names then
      some (Piece.opening, { deeper with names := name :: c.names }, rest)
    else none
  match c.mode.skip t with
  | '?' :: '=' :: _ | '?' :: '!' :: _ | '?' :: '<' :: '=' :: _ | '?' :: '<' :: '!' :: _ => none
  | '?' :: 'P' :: '<' :: rest => readName rest
  | '?' :: '<' :: rest => readName rest
  | '?' :: rest => do
    let (mode, seen, stop, rest) ← readFlags c.mode [] rest
    if stop = ':' then some (.opening, { deeper with mode := mode }, rest)
    else if seen = [] then none
    else some (.setting, { c with mode := mode }, rest)
  | rest => some (.opening, deeper, rest)

/-- Reads a number between blanks. -/
def readNumber (t : Text) : Option (Nat × Text) :=
  let t := Text.trimStart t
  let rest := Text.trimStart (t.dropWhile Char.isDigit)
  ((number? 10 (t.takeWhile Char.isDigit)).filter (· < UInt32.size)).map (·, rest)

/-- Reads the bounds of a repetition, from after the opening brace to after the closing one. -/
def readBounds (t : Text) : Option ((Nat × Option Nat) × Text) := do
  let (least, rest) ← readNumber t
  match rest with
  | '\x7d' :: rest => some ((least, some least), rest)
  | ',' :: '\x7d' :: rest => some ((least, none), rest)
  | ',' :: rest =>
    match ← readNumber rest with
    | (most, '\x7d' :: rest) => if least ≤ most then some ((least, some most), rest) else none
    | _ => none
  | _ => none

/-- Drops the mark of a repetition that prefers to be short, which makes no difference to whether a
text has a stretch that fits. -/
def skipReluctance : Text → Text
  | '?' :: rest => rest
  | rest => rest

/-- Reads the next piece of the notation. -/
def readPiece (c : Context) (t : Text) : Option (Piece × Context × Text) :=
  let m := c.mode
  match t with
  | [] => none
  | '(' :: rest => readOpening c rest
  | ')' :: rest =>
    match c.outer with
    | [] => none
    | mode :: outer => some (.closing, { c with mode := mode, outer := outer }, rest)
  | '|' :: rest => some (.bar, c, rest)
  | '[' :: rest => (readBracket m rest).map fun (s, rest) => (.atom (.single s), c, rest)
  | '?' :: rest => some (.repetition 0 (some 1), c, skipReluctance rest)
  | '*' :: rest => some (.repetition 0 none, c, skipReluctance rest)
  | '+' :: rest => some (.repetition 1 none, c, skipReluctance rest)
  | '\x7b' :: rest =>
    (readBounds (m.skip rest)).map fun ((least, most), rest) =>
      (.repetition least most, c, skipReluctance (m.skip rest))
  | '.' :: rest => m.dot.map fun s => (.atom (.single s), c, rest)
  | '^' :: rest => some (.atom (.anchor m.lineStart), c, rest)
  | '$' :: rest => some (.atom (.anchor m.lineEnd), c, rest)
  | '\\' :: rest =>
    (readEscape m rest).map fun
      | (.literal d, rest) => (.atom (.single (m.cases (.one d))), c, rest)
      | (.set s, rest) => (.atom (.single s), c, rest)
      | (.anchor a, rest) => (.atom (.anchor a), c, rest)
  | d :: rest => some (.atom (.single (m.cases (.one d))), c, rest)

/-- Cuts the notation into pieces.  Every piece takes at least one character. -/
def cutPieces (c : Context) (t : Text) : Option (List Piece) :=
  match c.mode.skip t with
  | [] => some []
  | d :: rest =>
    match readPiece c (d :: rest) with
    | none => none
    | some (piece, c, rest) =>
      if rest.length < t.length then (cutPieces c rest).map (piece :: ·) else none
termination_by t.length

/-! ## Groups -/

/-- A group that is not finished. -/
structure Group where
  /-- The finished alternatives, the latest first. -/
  branches : List Pattern
  /-- The parts of the current alternative, the latest first.  A change of mode is no pattern. -/
  parts : List (Option Pattern)

namespace Group

/-- The group before anything was read. -/
def start : Group := ⟨[], []⟩

/-- The group with a further part. -/
def add (g : Group) (part : Option Pattern) : Group := { g with parts := part :: g.parts }

/-- The current alternative. -/
def branch (g : Group) : Pattern :=
  g.parts.foldl (fun after part =>
    match part with
    | none => after
    | some p => .sequence p after) .empty

/-- The group after a bar. -/
def bar (g : Group) : Group := ⟨g.branch :: g.branches, []⟩

/-- The pattern of the finished group. -/
def close (g : Group) : Pattern := g.branches.foldl (fun last p => .choice p last) g.branch

/-- The group with its last part repeated, if that is a pattern. -/
def repeatLast (g : Group) (least : Nat) (most : Option Nat) : Option Group :=
  match g.parts with
  | some p :: parts => some { g with parts := some (.repeated least most p) :: parts }
  | _ => none

end Group

/-- Puts pieces together, in a group that stands in other ones. -/
def assemble (g : Group) (outer : List Group) : List Piece → Option Pattern
  | [] => if outer.isEmpty then some g.close else none
  | .atom p :: pieces => assemble (g.add (some p)) outer pieces
  | .setting :: pieces => assemble (g.add none) outer pieces
  | .opening :: pieces => assemble .start (g :: outer) pieces
  | .closing :: pieces =>
    match outer with
    | [] => none
    | parent :: others => assemble (parent.add (some g.close)) others pieces
  | .bar :: pieces => assemble g.bar outer pieces
  | .repetition least most :: pieces =>
    match g.repeatLast least most with
    | none => none
    | some g => assemble g outer pieces

/-- The pattern that a text denotes, if it denotes one. -/
def read (t : Text) : Option Pattern :=
  (cutPieces ⟨{}, [], []⟩ t).bind (assemble .start [])

end PlainSpec.Pattern
