import PlainSpec.Document.Parse
import PlainSpec.Storage.Tree

/-!
# Documents from files

## Main definitions

* `Storage.load`: the document of a file.
* `Storage.discover`: the paths of all documents below a path.
-/

namespace PlainSpec

namespace Storage

/-- The document of a file. -/
def load (s : Storage) (p : Path) : Except LoadError Document :=
  match Dialect.ofPath? p with
  | none => .error (.unsupported p)
  | some dialect =>
    match s.read p with
    | .error _ => .error (.unreadable p)
    | .ok content =>
      match decodeText? content with
      | none => .error (.undecodable p)
      | some text => (Document.parse p dialect text).mapError (.refused p)

/-! ## Discovery -/

/-- The folder of the program's own settings, in which no documents are looked for. -/
def stateFolder : Text := ".reqs".toList

mutual

/-- The paths of the documents at a node that stands at `p`. -/
def documentsOf (p : Path) : Node → List Path
  | .file _ => if (Dialect.ofPath? p).isSome then [p] else []
  | .folder entries => documentsIn p entries

/-- The paths of the documents among the entries of the folder `p`. -/
def documentsIn (p : Path) : List (Text × Node) → List Path
  | [] => []
  | (name, node) :: entries =>
    (if name = stateFolder then [] else documentsOf (p.join ⟨name⟩) node) ++ documentsIn p entries

end

/-- The paths of all documents at or below a path, in the order of paths. -/
def discover (s : Storage) (root : Path) : List Path :=
  match s.find root with
  | .error _ => []
  | .ok node =>
    if root.name? = some stateFolder then []
    else (documentsOf root node).mergeSort fun p q => !q.before p

end Storage

end PlainSpec
