import PlainSpec.Text.Cut

/-!
# Paths of files

A path is kept as it was written.  Repeated slashes, inner `.` parts and a trailing slash say
nothing: paths are compared, ordered and taken apart by their parts.

## Main definitions

* `Path.parts`: what a path says.
* `Path.name?`, `Path.stem?`, `Path.extension?`: the last name and its two halves.
* `Path.join`, `Path.parent`: a path below another one, and the folder that a path leads into.
* `Path.before`: the order of paths, part by part.
-/

namespace PlainSpec

/-- A path, as it was written. -/
structure Path where
  /-- The characters of the path. -/
  text : Text
deriving DecidableEq

namespace Path

/-- One step of a path. -/
inductive Part where
  /-- The leading slash of an absolute path. -/
  | root
  /-- The leading `.` of a relative path. -/
  | here
  /-- A step `..` to the folder above. -/
  | up
  /-- A step into a file or folder. -/
  | name (text : Text)
deriving DecidableEq

/-- The part that a stretch between slashes stands for.  Empty stretches and `.` stand for none. -/
def Part.ofText? (text : Text) : Option Part :=
  if text = [] ∨ text = ['.'] then none
  else if text = ['.', '.'] then some .up
  else some (.name text)

/-- What a path says. -/
def parts (p : Path) : List Part :=
  let steps := (p.text.splitOn '/').filterMap Part.ofText?
  match p.text.splitOn '/' with
  | [] :: _ :: _ => .root :: steps
  | ['.'] :: _ => .here :: steps
  | _ => steps

/-- The last name of the path. -/
def name? (p : Path) : Option Text :=
  match p.parts.getLast? with
  | some (.name name) => some name
  | _ => none

/-- The parts of a name before and after its last dot.  A name whose only dot is its first character
has no second part. -/
def splitName (name : Text) : Text × Option Text :=
  let after := (name.reverse.takeWhile (· ≠ '.')).reverse
  let before := (name.reverse.dropWhile (· ≠ '.')).reverse.dropLast
  if before = [] then (name, none) else (before, some after)

/-- The last name without its extension. -/
def stem? (p : Path) : Option Text := p.name?.map fun name => (splitName name).1

/-- What follows the last dot of the last name. -/
def extension? (p : Path) : Option Text := p.name?.bind fun name => (splitName name).2

/-- Whether the path starts at the root. -/
def isAbsolute (p : Path) : Bool := p.text.head? = some '/'

/-- The path `below`, read from the folder `p`. -/
def join (p below : Path) : Path :=
  if below.isAbsolute then below
  else if p.text = [] ∨ p.text.getLast? = some '/' then ⟨p.text ++ below.text⟩
  else ⟨p.text ++ '/' :: below.text⟩

/-- Whether a path can only be a folder: it ends with a slash or with the part `.`. -/
def meansFolder (p : Path) : Bool :=
  match (p.text.splitOn '/').reverse with
  | last :: _ :: _ => last = [] ∨ last = ['.']
  | _ => false

/-- The folder that the last step of a path starts from.  Slashes at the end are no step. -/
def parent (p : Path) : Path :=
  match (p.text.splitOn '/').reverse.dropWhile List.isEmpty with
  | [] | [_] => ⟨['.']⟩
  | _ :: above => ⟨Text.join ['/'] above.reverse ++ ['/']⟩

/-- The name that a file at the path has.  There is none if the path can only be a folder. -/
def fileName? (p : Path) : Option Text := if p.meansFolder then none else p.name?

/-- The place of a part in the order of parts, names last. -/
def Part.rank : Part → Nat × Text
  | .root => (0, [])
  | .here => (1, [])
  | .up => (2, [])
  | .name text => (3, text)

/-- Whether a part comes before another one. -/
def Part.before (a b : Part) : Bool :=
  a.rank.1 < b.rank.1 || (a.rank.1 == b.rank.1 && decide (a.rank.2 < b.rank.2))

/-- Whether a list of parts comes strictly before another one, part by part. -/
def partsBefore : List Part → List Part → Bool
  | [], [] => false
  | [], _ :: _ => true
  | _ :: _, [] => false
  | a :: as, b :: bs => if a = b then partsBefore as bs else a.before b

/-- Whether a path comes strictly before another one. -/
def before (p q : Path) : Bool := partsBefore p.parts q.parts

/-- Whether two paths say the same. -/
def sameAs (p q : Path) : Bool := p.parts == q.parts

end Path

end PlainSpec
