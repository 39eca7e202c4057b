import PlainSpec.Cursor
import PlainSpec.ParseError

/-!
# Parsers over lines

A parser reads from a cursor and replies with a value or a refusal, and with the place where reading
goes on.  Blank lines mean nothing: they are passed before every attempt.  Every parser of this
module that refuses replies with the place where it started, so that an alternative can read from
there.

## Main definitions

* `Reply`: the outcome of reading.
* `Parser.line`, `Parser.peek`, `Parser.finish`: the parsers of one line and of the end.
* `Parser.both`, `Parser.orElse`, `Parser.map`, `Parser.check`: sequence, choice, and what is made
  of a value.
* `Parser.absent`, `Parser.optional`: lookahead.
-/

namespace PlainSpec

/-- The outcome of reading: a value or a refusal, and the place where reading goes on. -/
inductive Reply (α : Type) where
  /-- A value was read, up to `next`. -/
  | ok (value : α) (next : Cursor)
  /-- Nothing was read. -/
  | fail (error : ParseError) (next : Cursor)

namespace Reply

variable {α β : Type}

/-- The place where reading goes on. -/
def next : Reply α → Cursor
  | ok _ next => next
  | fail _ next => next

/-- The value or the refusal. -/
def result : Reply α → Except ParseError α
  | ok value _ => .ok value
  | fail error _ => .error error

/-- Whether a value was read. -/
def isOk : Reply α → Bool
  | ok .. => true
  | fail .. => false

/-- The same value at the same place, or the refusal at the place `origin`. -/
def orBackTo (origin : Cursor) : Reply α → Reply α
  | ok value next => ok value next
  | fail error _ => fail error origin

/-- Transforms the value. -/
def map (f : α → β) : Reply α → Reply β
  | ok value next => ok (f value) next
  | fail error next => fail error next

end Reply

/-- Something that reads an `α` from the lines ahead of a cursor. -/
abbrev Parser (α : Type) := Cursor → Reply α

namespace Parser

variable {α β γ : Type}

/-! ## One line -/

/-- Reads the next non-blank line with `f`. -/
def line (f : Line → Except Fault α) : Parser α := fun c =>
  match c.skipBlank.peek? with
  | none => .fail ⟨c.lineNumber, .unrecognised, .endOfInput⟩ c
  | some line =>
    match f line with
    | .ok value => .ok value c.skipBlank.advance
    | .error fault => .fail ⟨line.number, .unrecognised, fault⟩ c

/-- Looks at the next non-blank line with `f` and leaves it where it is. -/
def peek (f : Line → Except Fault α) : Parser α := fun c =>
  match c.skipBlank.peek? with
  | none => .fail ⟨c.lineNumber, .unrecognised, .endOfInput⟩ c
  | some line =>
    match f line with
    | .ok value => .ok value c.skipBlank
    | .error fault => .fail ⟨line.number, .unrecognised, fault⟩ c

/-- Succeeds when only blank lines are left. -/
def finish : Parser Unit := fun c =>
  if c.atEnd then .ok () c.skipBlank
  else .fail ⟨c.lineNumber, .unrecognised, .linesRemain⟩ c

/-! ## Values -/

/-- Transforms the value that is read. -/
def map (p : Parser α) (f : α → β) : Parser β := fun c => (p c).map f

/-- Transforms the value that is read by a check that may find it invalid.  A fault without a line
of its own is reported against the line on which reading started. -/
def check (p : Parser α) (f : α → Except Invalid β) : Parser β := fun c =>
  match p c with
  | .fail error _ => .fail error c
  | .ok value next =>
    match f value with
    | .ok result => .ok result next
    | .error invalid =>
      .fail ⟨invalid.line?.getD c.lineNumber, .invalid, invalid.fault⟩ c

/-! ## Sequence and choice -/

/-- Reads with `p` and then with the parser that `f` makes of its value. -/
def bind (p : Parser α) (f : α → Parser β) : Parser β := fun c =>
  match p c with
  | .fail error _ => .fail error c
  | .ok value next => (f value next).orBackTo c

/-- Reads with `p` after blank lines are passed. -/
def afterBlank (p : Parser α) : Parser α := fun c => (p c.skipBlank).orBackTo c

/-- Reads with `p` and then with `q`, and keeps both values. -/
def both (p : Parser α) (q : Parser β) : Parser (α × β) :=
  afterBlank (bind p fun a => map q fun b => (a, b))

/-- Reads with `p` and then with `q`, and keeps the first value. -/
def first (p : Parser α) (q : Parser β) : Parser α :=
  afterBlank (bind p fun a => map q fun _ => a)

/-- Reads with `p` and then with `q`, and keeps the second value. -/
def second (p : Parser α) (q : Parser β) : Parser β :=
  afterBlank (bind p fun _ => q)

/-- Reads with `p` or, if it refuses, with `q` from the same place.  If both refuse, the deeper
refusal is reported. -/
def orElse (p q : Parser α) : Parser α := fun c =>
  match p c.skipBlank with
  | .ok value next => .ok value next
  | .fail earlier _ =>
    match q c.skipBlank with
    | .ok value next => .ok value next
    | .fail later _ => .fail (earlier.deepest later) c

/-! ## Lookahead -/

/-- Succeeds, reading nothing, exactly when `p` refuses. -/
def absent (p : Parser α) : Parser Unit := fun c =>
  match p c with
  | .ok .. => .fail ⟨c.lineNumber, .unrecognised, .unexpectedLine⟩ c
  | .fail .. => .ok () c

/-- Reads with `p`, or nothing if it refuses. -/
def optional (p : Parser α) : Parser (Option α) := fun c =>
  match p c with
  | .ok value next => .ok (some value) next
  | .fail .. => .ok none c

/-- Reads with `p` if the next non-blank line passes the test, and reads nothing otherwise.  Once
the test is passed, a refusal of `p` stands. -/
def whenAhead (test : Line → Bool) (p : Parser α) : Parser (Option α) := fun c =>
  if c.ahead?.any test then (p c).map some else .ok none c

end Parser

end PlainSpec
