import PlainSpec.Canonical.Export
import PlainSpec.Command.Arguments
import PlainSpec.Command.Report
import PlainSpec.Config.Basic
import PlainSpec.Pattern.Read
import PlainSpec.Value.Json
import PlainSpec.Value.Yaml

/-!
# Running commands

A command looks at stored files and ends with some output, and possibly with an error.  It changes
nothing.

## Main definitions

* `CommandError`: why a command fails.
* `Outcome`: what a command ends with.
* `Invocation.run`: does what was asked for.
* `runArguments`: does what the arguments of the command line ask for.
-/

namespace PlainSpec

/-- Why a command fails. -/
inductive CommandError where
  /-- Some documents are wrong. -/
  | failures (failed total : Nat)
  /-- A document could not be loaded. -/
  | unloadable (reason : LoadError)
  /-- A document could not be read a second time. -/
  | unreadable (path : Path)
  /-- A document is not in canonical form. -/
  | notCanonical (path : Path)
  /-- A text denotes no pattern. -/
  | badPattern (text : Text)

/-- The wording of an error. -/
def CommandError.message : CommandError → Text
  | failures failed total =>
    Text.ofNat failed ++ " of ".toList ++ Text.ofNat total ++ " documents failed to parse".toList
  | unloadable reason => reason.message.toList
  | unreadable path => "failed to read ".toList ++ path.text
  | notCanonical path => path.text ++ " is not in canonical form".toList
  | badPattern text => "invalid regex: ".toList ++ text

/-- What a command ends with. -/
structure Outcome where
  /-- What it wrote. -/
  output : Text
  /-- Why it failed. -/
  error : Option CommandError

namespace Outcome

/-- The command did what was asked for. -/
def success (output : Text) : Outcome := ⟨output, none⟩

/-- The command failed without output. -/
def failure (e : CommandError) : Outcome := ⟨[], some e⟩

end Outcome

/-- The paths that a command works on: those that were named, or else all documents there are. -/
def Storage.resolve (s : Storage) (root : Path) (paths : List Path) : List Path :=
  if paths.isEmpty then s.discover root else paths.map root.join

/-- The documents that a task works on. -/
def Storage.requested (s : Storage) (i : Invocation) : List Path :=
  match i.task with
  | .check paths _ => s.resolve i.root paths
  | .convert file _ => [i.root.join file]
  | .inspect file _ => [i.root.join file]
  | .survey paths _ _ _ _ => s.resolve i.root paths

/-- The settings file of a folder. -/
def configPath (root : Path) : Path :=
  (root.join ⟨Storage.stateFolder⟩).join ⟨"config.toml".toList⟩

/-- The settings of a folder.  If there are none that can be loaded, nothing is set. -/
def Storage.settings (s : Storage) (root : Path) : Config :=
  (s.loadConfig (configPath root)).toOption.getD .initial

namespace Task

/-! ## The commands -/

/-- Reads documents and reports on each of them, or only on those that are wrong. -/
def runCheck (s : Storage) (colour : Bool) (paths : List Path) (quiet : Bool) : Outcome :=
  if paths.isEmpty then
    .success (Text.line (Style.dim.paint colour "No requirements documents found".toList))
  else
    let results := paths.map s.load
    let failed := results.countP fun result => !result.isOk
    let reported := results.filter fun result => !(quiet && result.isOk)
    { output := reported.flatMap (Report.checked colour)
      error := if failed = 0 then none else some (.failures failed results.length) }

/-- Writes a document in canonical form, or only looks whether it is. -/
def runConvert (s : Storage) (path : Path) (verify : Bool) : Outcome :=
  match s.load path with
  | .error reason => .failure (.unloadable reason)
  | .ok d =>
    if !verify then .success d.canonical
    else
      match (s.read path).toOption.bind decodeText? with
      | none => .failure (.unreadable path)
      | some text => if text = d.canonical then .success [] else .failure (.notCanonical path)

/-- Shows what is in a document. -/
def runInspect (s : Storage) (colour : Bool) (path : Path) (form : OutputForm) : Outcome :=
  match s.load path with
  | .error reason => .failure (.unloadable reason)
  | .ok d =>
    .success <|
      match form with
      | .json => Text.line (Json.pretty d.toValue)
      | .yaml => Yaml.render d.toValue
      | .pretty | .table => Report.shown colour d

/-- Whether the description of an example or of its requirement fits an optional pattern. -/
def fits (pattern : Option Pattern) (c : ExampleCase) : Bool :=
  match pattern with
  | none => true
  | some p => p.occursIn c.requirement.description || c.case.description.any p.occursIn

/-- The entries of a document. -/
def entriesOf (filter : Option Expression) (pattern : Option Pattern) (includedOnly : Bool)
    (d : Document) : List Entry :=
  let kept := (d.cases filter).filter fun c => (c.included || !includedOnly) && fits pattern c
  kept.map (Entry.ofCase d.source)

/-- The entries of several documents, unless one of them cannot be loaded. -/
def entries (s : Storage) (filter : Option Expression) (pattern : Option Pattern)
    (includedOnly : Bool) (paths : List Path) : Except LoadError (List Entry) := do
  let documents ← paths.mapM s.load
  return documents.flatMap (entriesOf filter pattern includedOnly)

/-- Lists examples. -/
def runSurvey (s : Storage) (colour : Bool) (paths : List Path) (filter : Option Expression)
    (pattern : Option Pattern) (includedOnly : Bool) (form : OutputForm) : Outcome :=
  match entries s filter pattern includedOnly paths with
  | .error reason => .failure (.unloadable reason)
  | .ok entries =>
    .success <|
      match form with
      | .json => Text.line (Json.pretty (.list (entries.map Entry.toValue)))
      | .pretty | .table | .yaml => Report.listed colour entries

end Task

/-- Does what was asked for.  An expression on the command line takes the place of the one in the
settings. -/
def Invocation.run (i : Invocation) (s : Storage) (colour : Bool) : Outcome :=
  match i.task with
  | .check paths quiet => Task.runCheck s colour (s.resolve i.root paths) quiet
  | .convert file verify => Task.runConvert s (i.root.join file) verify
  | .inspect file form => Task.runInspect s colour (i.root.join file) form
  | .survey paths labels pattern includedOnly form =>
    let filter := labels <|> (s.settings i.root).matchLabels
    let listWith := fun (p : Option Pattern) =>
      Task.runSurvey s colour (s.resolve i.root paths) filter p includedOnly form
    match pattern with
    | none => listWith none
    | some text =>
      match Pattern.read text with
      | none => .failure (.badPattern text)
      | some p => listWith (some p)

/-! ## The command line -/

/-- How the program ends. -/
structure Ending where
  /-- The number that it returns. -/
  code : Nat
  /-- What it wrote. -/
  output : Text
  /-- Why it failed, if the arguments were right. -/
  error : Option Text

/-- The name and version of the program. -/
def versionLine : Text := Text.line "requirements-kit 0.1.0".toList

/-- How the program is to be used. -/
def usage : Text :=
  "Parse, query and canonically re-export plain-text behavioural requirements

Usage: reqs [-v]... [-r ROOT] [COMMAND]

Commands:
  check [-q] [PATHS]...       Parse every document and report errors (default)
  export [--check] FILE       Print a document as canonical ReqsML
  show [--output FORMAT] FILE Show the parsed model of a document
  list [--labels EXPR] [--regex REGEX] [--included-only] [--output FORMAT] [PATHS]...
                              List example cases and whether a label expression selects them
".toList

/-- How the program ends after a command. -/
def Outcome.ending (o : Outcome) : Ending :=
  match o.error with
  | none => ⟨0, o.output, none⟩
  | some e => ⟨1, o.output, some e.message⟩

/-- How the program ends when the arguments name no task. -/
def Stop.ending : Stop → Ending
  | misuse => ⟨2, [], none⟩
  | help => ⟨0, usage, none⟩
  | version => ⟨0, versionLine, none⟩

/-- Does what the arguments of the command line ask for. -/
def runArguments (arguments : List Text) (s : Storage) (colour : Bool) : Ending :=
  match Invocation.read arguments with
  | .error stop => stop.ending
  | .ok i => (i.run s colour).ending

end PlainSpec
