import PlainSpec.Path

/-!
# Files and folders

## Main definitions

* `Node`: a file or a folder with what is in it.
* `AccessError`: why a path could not be read or written.
* `Node.find`: what stands at a path below a folder.
* `Node.writeError?`, `Node.add`: why a file could not be written at a path, and the folder after it
  is.
* `Storage`: what stands at each path.
-/

namespace PlainSpec

/-- A file or a folder. -/
inductive Node where
  /-- A file with its bytes. -/
  | file (content : ByteArray)
  /-- A folder with its entries. -/
  | folder (entries : List (Text × Node))

/-- Why a path could not be used. -/
inductive AccessError where
  /-- Nothing is there. -/
  | missing
  /-- A step leads into something that is no folder. -/
  | notFolder
  /-- A folder is there where a file is needed. -/
  | isFolder
deriving DecidableEq

/-- The wording of the reason. -/
def AccessError.message : AccessError → String
  | missing => "No such file or directory (os error 2)"
  | notFolder => "Not a directory (os error 20)"
  | isFolder => "Is a directory (os error 21)"

namespace Node

/-- What stands at the end of a list of steps from a node, given the folders above it. -/
def follow (above : List Node) (here : Node) : List Path.Part → Except AccessError Node
  | [] => .ok here
  | step :: steps =>
    match here with
    | file _ => .error .notFolder
    | folder entries =>
      match step with
      | .root => .error .missing
      | .here => follow above here steps
      | .up =>
        match above with
        | [] => .error .missing
        | parent :: others => follow others parent steps
      | .name name =>
        match entries.lookup name with
        | none => .error .missing
        | some node => follow (here :: above) node steps

/-- What stands at a path that starts from a folder. -/
def find (root : Node) (p : Path) : Except AccessError Node :=
  if p.text = [] then .error .missing
  else
    match follow [] root p.parts with
    | .ok (file content) => if p.meansFolder then .error .notFolder else .ok (file content)
    | found => found

/-- Why no file could be written at a path that starts from a folder. -/
def writeError? (root : Node) (p : Path) : Option AccessError :=
  if p.text = [] then some .missing
  else
    match root.find p.parent with
    | .error e => some e
    | .ok (file _) => some .notFolder
    | .ok (folder entries) =>
      match p.fileName? with
      | none => some .isFolder
      | some name =>
        match entries.lookup name with
        | some (folder _) => some .isFolder
        | _ => none

/-- What is in a folder.  There is nothing in a file. -/
def entries : Node → List (Text × Node)
  | file _ => []
  | folder entries => entries

/-- A node with a further node put in below it, along a list of names.  Folders on the way are
made. -/
def put (new : Node) : List Text → Node → Node
  | [], _ => new
  | name :: names, here =>
    let child := put new names ((here.entries.lookup name).getD (folder []))
    folder ((here.entries.filter fun entry => entry.1 ≠ name) ++ [(name, child)])

/-- The names on the way that is left after one more step.  A step up takes the last name back. -/
def advance (names : List Text) : Path.Part → List Text
  | .name name => names ++ [name]
  | .up => names.dropLast
  | .root | .here => names

/-- A folder with a node put in at a path.  A folder that is there already stays as it is. -/
def add (root : Node) (p : Path) (new : Node) : Node :=
  match new, root.find p with
  | folder [], .ok (folder _) => root
  | _, _ => put new (p.parts.foldl advance []) root

end Node

/-- What stands at each path. -/
structure Storage where
  /-- The node at a path, or why there is none. -/
  find : Path → Except AccessError Node

/-- The storage whose paths start from a folder. -/
def Storage.ofNode (root : Node) : Storage := ⟨root.find⟩

/-- The bytes of the file at a path. -/
def Storage.read (s : Storage) (p : Path) : Except AccessError ByteArray :=
  match s.find p with
  | .ok (.file content) => .ok content
  | .ok (.folder _) => .error .isFolder
  | .error e => .error e

/-- The text of a file's bytes, if they are well formed. -/
def decodeText? (content : ByteArray) : Option Text := (String.fromUTF8? content).map String.toList

end PlainSpec
