import PlainSpec.Grammar.Gherkin
import PlainSpec.Grammar.ReqsML

/-!
# Reading a document

A document is read from a text in a dialect, which follows from the extension of the file.

## Main definitions

* `Document.parse`: the document of a source text in a given dialect.
* `Dialect.ofPath?`: the dialect of a file.
* `LoadError`: why no document could be read from a file.
-/

namespace PlainSpec

/-- The document of a source text.  The path is only recorded. -/
def Document.parse (source : Path) (dialect : Dialect) (text : Text) : Except ParseError Document :=
  match dialect with
  | .gherkin => Grammar.Gherkin.document source text
  | .reqsml => Grammar.ReqsML.document source text

/-- The dialect of a file. -/
def Dialect.ofPath? (p : Path) : Option Dialect := p.extension?.bind ofExtension?

/-- Why no document could be read from a file. -/
inductive LoadError where
  /-- The file could not be read. -/
  | unreadable (path : Path)
  /-- The file is no text. -/
  | undecodable (path : Path)
  /-- The extension stands for no dialect. -/
  | unsupported (path : Path)
  /-- The text is no document. -/
  | refused (path : Path) (reason : ParseError)

namespace LoadError

/-- The file that the error is about. -/
def path : LoadError → Path
  | unreadable path => path
  | undecodable path => path
  | unsupported path => path
  | refused path _ => path

/-- The wording of an error. -/
def message (e : LoadError) : String :=
  let path := e.path.text.toString
  match e with
  | unreadable _ => "failed to read " ++ path
  | undecodable _ => path ++ " is not valid UTF-8 text"
  | unsupported _ => path ++ " is not a .feature or .requirements file"
  | refused _ reason => path ++ ": " ++ reason.display

end LoadError

end PlainSpec
