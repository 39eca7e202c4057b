import PlainSpec.Text.Cut
import PlainSpec.Text.Digit

/-!
# Settings files

A settings file holds lines `key = value` and tables under headers.  The program uses texts, whole
numbers and truth values of the first table; everything else is read to see that it is well formed.

## Main definitions

* `Toml.Value`: the values that a setting can have.
* `Toml.read`: the settings of a text.
* `Toml.quote`: a text as a value.
-/

namespace PlainSpec

namespace Toml

/-- A value of a settings file. -/
inductive Value where
  /-- A text. -/
  | text (content : Text)
  /-- A whole number. -/
  | integer (n : Int)
  /-- A truth value. -/
  | boolean (b : Bool)
  /-- A value that no setting has: a fraction, a list or a table. -/
  | other
deriving DecidableEq

/-! ## Characters -/

/-- Blanks within a line. -/
def isSpace (c : Char) : Bool := c == ' ' || c == '\t'

/-- Control characters, which may stand nowhere. -/
def isControl (c : Char) : Bool := (c.toNat < 0x20 && c != '\t') || c.toNat == 0x7F

/-- The characters of a key without quotation marks. -/
def isKeyChar (c : Char) : Bool := c.isAlphanum || c == '_' || c == '-'

/-- The characters of numbers and truth values. -/
def isTokenChar (c : Char) : Bool := c.isAlphanum || c == '_' || c == '-' || c == '+' || c == '.'

/-- Drops blanks within a line. -/
def skipSpace (t : Text) : Text := t.dropWhile isSpace

/-- Drops a line end at the start. -/
def dropBreak? : Text → Option Text
  | '\n' :: rest => some rest
  | '\r' :: '\n' :: rest => some rest
  | _ => none

/-- Drops a comment at the start, up to the line end.  None if it holds a control character. -/
def skipComment? : Text → Option Text
  | '#' :: rest =>
    let comment := rest.takeWhile (· ≠ '\n')
    let comment := if comment.getLast? = some '\r' then comment.dropLast else comment
    if comment.any isControl then none else some (rest.drop comment.length)
  | t => some t

/-! ## Texts -/

/-- The character that an escape of one letter stands for. -/
def escape? : Char → Option Char
  | 'b' => some '\x08'
  | 't' => some '\t'
  | 'n' => some '\n'
  | 'f' => some '\x0c'
  | 'r' => some '\r'
  | '"' => some '"'
  | '\\' => some '\\'
  | _ => none

/-- An escape after its backslash, and what follows it. -/
def readEscape : Text → Option (Char × Text)
  | 'u' :: a :: b :: c :: d :: rest => (charOfHex? [a, b, c, d]).map fun e => (e, rest)
  | 'U' :: a :: b :: c :: d :: e :: f :: g :: h :: rest =>
    (charOfHex? [a, b, c, d, e, f, g, h]).map fun e => (e, rest)
  | c :: rest => (escape? c).map fun e => (e, rest)
  | [] => none

theorem length_readEscape {t rest : Text} {c : Char} (h : readEscape t = some (c, rest)) :
    rest.length < t.length := by
  unfold readEscape at h
  split at h <;> simp only [Option.map_eq_some_iff, Prod.mk.injEq, reduceCtorEq] at h
  all_goals
    obtain ⟨_, _, _, rfl⟩ := h
    simp only [List.length_cons]
    omega

/-- A text up to its closing quotation mark, with escapes, and what follows it. -/
def readBasic : Text → Option (Text × Text)
  | [] => none
  | c :: rest =>
    if c = '"' then some ([], rest)
    else if c = '\\' then
      match _found : readEscape rest with
      | none => none
      | some (e, after) => (readBasic after).map fun (body, after) => (e :: body, after)
    else if isControl c then none
    else (readBasic rest).map fun (body, after) => (c :: body, after)
termination_by t => t.length
decreasing_by
  · have := length_readEscape _found
    simp only [List.length_cons]
    omega
  · simp

/-- A text up to its closing apostrophe, and what follows it. -/
def readLiteral : Text → Option (Text × Text)
  | [] => none
  | c :: rest =>
    if c = '\'' then some ([], rest)
    else if isControl c then none
    else (readLiteral rest).map fun (body, after) => (c :: body, after)

/-- A text over several lines up to three closing marks, and what follows it.  Up to two more marks
before the end belong to the text. -/
def readLong (mark : Char) : Text → Option (Text × Text)
  | [] => none
  | c :: rest =>
    if c = mark then
      let more := rest.takeWhile (· == mark)
      if more.length < 2 then
        (readLong mark (rest.drop more.length)).map fun (body, after) => (c :: more ++ body, after)
      else if more.length ≤ 4 then
        some (List.replicate (more.length - 2) mark, rest.drop more.length)
      else none
    else if c = '\\' ∧ mark = '"' then
      let gap := rest.takeWhile fun d => isSpace d || d == '\n' || d == '\r'
      if '\n' ∈ gap then readLong mark (rest.drop gap.length)
      else
        match _found : readEscape rest with
        | none => none
        | some (e, after) => (readLong mark after).map fun (body, after) => (e :: body, after)
    else if isControl c && c != '\n' && !(c == '\r' && rest.head? == some '\n') then none
    else (readLong mark rest).map fun (body, after) => (c :: body, after)
termination_by t => t.length
decreasing_by
  · simp only [List.length_cons, List.length_drop]; omega
  · simp only [List.length_cons, List.length_drop]; omega
  · have := length_readEscape _found
    simp only [List.length_cons]
    omega
  · simp

/-- A text of any of the four kinds, and what follows it. -/
def readText? : Text → Option (Text × Text)
  | '"' :: '"' :: '"' :: rest => readLong '"' ((dropBreak? rest).getD rest)
  | '\'' :: '\'' :: '\'' :: rest => readLong '\'' ((dropBreak? rest).getD rest)
  | '"' :: rest => readBasic rest
  | '\'' :: rest => readLiteral rest
  | _ => none

/-! ## Numbers and truth values -/

/-- The number of digits in a base.  Underscores may stand between two digits. -/
def natural? (base : Nat) (t : Text) : Option Nat :=
  let groups := t.splitOn '_'
  if groups.any List.isEmpty then none
  else number? base groups.flatten

/-- Decimal digits without superfluous zeros in front. -/
def decimal? (t : Text) : Option Nat :=
  match t with
  | '0' :: _ :: _ => none
  | t => natural? 10 t

/-- A whole number. -/
def integer? : Text → Option Int
  | '0' :: 'x' :: rest => (natural? 16 rest).map Int.ofNat
  | '0' :: 'o' :: rest => (natural? 8 rest).map Int.ofNat
  | '0' :: 'b' :: rest => (natural? 2 rest).map Int.ofNat
  | '+' :: rest => (decimal? rest).map Int.ofNat
  | '-' :: rest => (decimal? rest).map fun n => -(n : Int)
  | t => (decimal? t).map Int.ofNat

/-- Whether a text is a number with a fraction or an exponent. -/
def isFraction (t : Text) : Bool :=
  let t := dropSign t
  if t = "inf".toList ∨ t = "nan".toList then true
  else
    let (mantissa, exponent) := Text.cutAt (fun c => c == 'e' || c == 'E') t
    let (whole, fraction) := Text.cutAt (· == '.') mantissa
    (decimal? whole).isSome &&
      (fraction.isEmpty || (natural? 10 fraction.tail).isSome) &&
      (exponent.isEmpty || (natural? 10 (dropSign exponent.tail)).isSome) &&
      !(fraction.isEmpty && exponent.isEmpty)

/-- The numbers that a settings file can hold: those of a signed or an unsigned word of 64 bits. -/
def inRange (n : Int) : Bool := -(UInt64.size / 2 : Nat) ≤ n && n < UInt64.size

/-- The value of a word without quotation marks. -/
def word? (t : Text) : Option Value :=
  if t = "true".toList then some (.boolean true)
  else if t = "false".toList then some (.boolean false)
  else
    match integer? t with
    | some n => if inRange n then some (.integer n) else none
    | none => if isFraction t then some .other else none

/-! ## Keys and values -/

/-- One part of a key, and what follows it. -/
def readKeyPart (t : Text) : Option (Text × Text) :=
  match t with
  | '"' :: rest => readBasic rest
  | '\'' :: rest => readLiteral rest
  | t =>
    let key := t.takeWhile isKeyChar
    if key.isEmpty then none else some (key, t.dropWhile isKeyChar)

/-- A key with dots between its parts, and what follows it. -/
def readKey (t : Text) : Option (List Text × Text) :=
  match readKeyPart (skipSpace t) with
  | none => none
  | some (part, rest) =>
    match _ahead : skipSpace rest with
    | '.' :: more =>
      if more.length < t.length then (readKey more).map fun (parts, rest) => (part :: parts, rest)
      else none
    | rest => some ([part], rest)
termination_by t.length

/-- Drops blanks, line ends and comments, as they may stand inside a list. -/
def skipLines (t : Text) : Option Text :=
  match skipComment? (skipSpace t) with
  | none => none
  | some rest =>
    match dropBreak? rest with
    | none => some rest
    | some after => if after.length < t.length then skipLines after else none
termination_by t.length

/- Reading a value ends because every call is made on a shorter text. -/
mutual

/-- A value, and what follows it. -/
def readValue (t : Text) : Option (Value × Text) :=
  match t with
  | '[' :: rest => (readItems rest).map fun rest => (.other, rest)
  | '\x7b' :: rest =>
    match skipSpace rest with
    | '\x7d' :: after => some (.other, after)
    | _ => (readFields rest).map fun rest => (.other, rest)
  | t =>
    match readText? t with
    | some (content, rest) => some (.text content, rest)
    | none => (word? (t.takeWhile isTokenChar)).map fun v => (v, t.dropWhile isTokenChar)
termination_by (t.length, 0)
decreasing_by all_goals exact Prod.Lex.left _ _ (by simp)

/-- The items of a list up to its closing bracket, and what follows it. -/
def readItems (t : Text) : Option Text :=
  match skipLines t with
  | none => none
  | some (']' :: rest) => some rest
  | some item =>
    if item.length ≤ t.length then
      match readValue item with
      | none => none
      | some (_, rest) =>
        match skipLines rest with
        | some (',' :: more) => if more.length < t.length then readItems more else none
        | some (']' :: after) => some after
        | _ => none
    else none
termination_by (t.length, 1)
decreasing_by
  · rcases Nat.lt_or_eq_of_le (by assumption : item.length ≤ t.length) with h | h
    · exact Prod.Lex.left _ _ h
    · rw [h]; exact Prod.Lex.right _ (by decide)
  · exact Prod.Lex.left _ _ (by assumption)

/-- The fields of a table on one line up to its closing brace, and what follows it. -/
def readFields (t : Text) : Option Text :=
  match readKey t with
  | some (_, '=' :: rest) =>
    if (skipSpace rest).length < t.length then
      match readValue (skipSpace rest) with
      | none => none
      | some (_, rest) =>
        match skipSpace rest with
        | ',' :: more => if more.length < t.length then readFields more else none
        | '\x7d' :: after => some after
        | _ => none
    else none
  | _ => none
termination_by (t.length, 1)
decreasing_by all_goals exact Prod.Lex.left _ _ (by assumption)

end

/-! ## Files -/

/-- What has been read of a file: the entries with the full names of their keys, and the headers of
tables. -/
structure Progress where
  /-- The table that further entries belong to. -/
  table : List Text
  /-- The headers so far. -/
  headers : List (List Text)
  /-- The entries so far, the last one first. -/
  entries : List (List Text × Value)

/-- Whether one key name is the start of the other one. -/
def overlaps (a b : List Text) : Bool := a.isPrefixOf b || b.isPrefixOf a

/-- Puts in an entry, unless its key is taken. -/
def Progress.addEntry (p : Progress) (key : List Text) (value : Value) : Option Progress :=
  let key := p.table ++ key
  if p.entries.any (fun entry => overlaps entry.1 key) || key ∈ p.headers then none
  else some { p with entries := (key, value) :: p.entries }

/-- Starts a table, unless its name is taken. -/
def Progress.addHeader (p : Progress) (key : List Text) (repeatable : Bool) : Option Progress :=
  if p.entries.any (fun entry => entry.1.isPrefixOf key) ||
    (key ∈ p.headers && !repeatable) then none
  else
    some
      { table := key
        headers := key :: p.headers
        entries := if repeatable then p.entries.filter (!key.isPrefixOf ·.1) else p.entries }

/-- What may stand after the content of a line, and the next line. -/
def endLine? (t : Text) : Option Text :=
  match skipComment? (skipSpace t) with
  | none => none
  | some [] => some []
  | some rest => dropBreak? rest

/-- The header of a table, and what follows it. -/
def readHeader (t : Text) : Option ((List Text × Bool) × Text) :=
  match t with
  | '[' :: rest =>
    match readKey rest with
    | some (key, ']' :: ']' :: after) => some ((key, true), after)
    | _ => none
  | t =>
    match readKey t with
    | some (key, ']' :: after) => some ((key, false), after)
    | _ => none

/-- The content of one line, and what follows it. -/
def readLine (p : Progress) (t : Text) : Option (Progress × Text) :=
  match skipSpace t with
  | [] => some (p, [])
  | '#' :: rest => some (p, '#' :: rest)
  | '\n' :: rest => some (p, '\n' :: rest)
  | '\r' :: rest => some (p, '\r' :: rest)
  | '[' :: rest => do
    let ((key, repeatable), after) ← readHeader rest
    let p ← p.addHeader key repeatable
    some (p, after)
  | line =>
    match readKey line with
    | some (key, '=' :: rest) => do
      let (value, after) ← readValue (skipSpace rest)
      let p ← p.addEntry key value
      some (p, after)
    | _ => none

/-- The rest of a file, line by line. -/
def readFrom (p : Progress) (t : Text) : Option Progress :=
  match t with
  | [] => some p
  | t =>
    match readLine p t with
    | none => none
    | some (p, rest) =>
      match endLine? rest with
      | none => none
      | some after => if after.length < t.length then readFrom p after else none
termination_by t.length

/-- Drops the byte order mark that some editors put at the start of a file. -/
def dropMark : Text → Text
  | '\uFEFF' :: rest => rest
  | t => t

/-- The settings of a text: the keys of its first table with their values. -/
def read (t : Text) : Option (List (Text × Value)) :=
  (readFrom ⟨[], [], []⟩ (dropMark t)).map fun p =>
    p.entries.reverse.filterMap (fun
      | ([key], value) => some (key, value)
      | (key :: _, _) => some (key, .other)
      | _ => none) ++
    p.headers.filterMap fun header => header.head?.map fun key => (key, .other)

/-! ## Writing -/

/-- The greatest number of copies of a character in a row. -/
def longestRun (c : Char) : Text → Nat
  | [] => 0
  | d :: rest =>
    if d = c then max ((rest.takeWhile (· == c)).length + 1) (longestRun c rest)
    else longestRun c rest

/-- A character between quotation marks. -/
def escapeChar (c : Char) : Text :=
  match c with
  | '"' => ['\\', '"']
  | '\\' => ['\\', '\\']
  | '\x08' => ['\\', 'b']
  | '\t' => ['\\', 't']
  | '\n' => ['\\', 'n']
  | '\x0c' => ['\\', 'f']
  | '\r' => ['\\', 'r']
  | c => if isControl c then '\\' :: 'u' :: (hexDigits 4 c.toNat).map Char.toUpper else [c]

/-- A text as a value, in the first of the four kinds that needs no escape, or else with escapes. -/
def quote (t : Text) : Text :=
  let escapes := t.any isControl
  let backslash := '\\' ∈ t
  let doubles := longestRun '"' t
  let singles := longestRun '\'' t
  if !escapes ∧ ¬ backslash ∧ doubles = 0 then '"' :: t ++ ['"']
  else if !escapes ∧ singles = 0 then '\'' :: t ++ ['\'']
  else if !escapes ∧ ¬ backslash ∧ doubles ≤ 2 then
    ['"', '"', '"'] ++ t ++ ['"', '"', '"']
  else if !escapes ∧ singles ≤ 2 then ['\'', '\'', '\''] ++ t ++ ['\'', '\'', '\'']
  else '"' :: t.flatMap escapeChar ++ ['"']

end Toml

end PlainSpec
