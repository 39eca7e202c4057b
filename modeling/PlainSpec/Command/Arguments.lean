import PlainSpec.Expression.Parse
import PlainSpec.Path

/-!
# Arguments of the command line

The arguments name a command, before and after which options may stand.  They are read from left to
right into a draft, and the first one that is wrong or that asks for help ends the reading.

## Main definitions

* `Command`: the commands.
* `Flag`, `Setting`: the options without and with a value.
* `Draft`: what the arguments said so far.
* `Task`, `Invocation`: what is to be done, and where.
* `Invocation.read`: what the arguments ask for.
-/

namespace PlainSpec

/-- The commands. -/
inductive Command where
  /-- Reads documents and reports those that are wrong. -/
  | check
  /-- Writes a document in canonical form. -/
  | convert
  /-- Shows what is in a document. -/
  | inspect
  /-- Lists examples and whether they are selected. -/
  | survey
deriving DecidableEq

/-- The forms in which commands answer. -/
inductive OutputForm where
  /-- Text for people. -/
  | pretty
  /-- A list for people. -/
  | table
  /-- JSON. -/
  | json
  /-- YAML. -/
  | yaml
deriving DecidableEq

/-- The options without a value. -/
inductive Flag where
  /-- More messages about what is being done. -/
  | verbose
  /-- Only failures are reported. -/
  | quiet
  /-- Nothing is written, and a document that is not canonical is a failure. -/
  | verify
  /-- Examples that are not selected are left out. -/
  | includedOnly
  /-- An explanation is asked for. -/
  | help
  /-- The version is asked for. -/
  | version
deriving DecidableEq

/-- The options with a value. -/
inductive Setting where
  /-- The folder of the documents. -/
  | root
  /-- An expression that selects examples. -/
  | labels
  /-- A pattern for the descriptions of examples. -/
  | pattern
  /-- The form of the output. -/
  | output
deriving DecidableEq

/-- An option. -/
inductive Switch where
  /-- One without a value. -/
  | flag (f : Flag)
  /-- One with a value. -/
  | setting (s : Setting)
deriving DecidableEq

/-- Why reading the arguments ends early. -/
inductive Stop where
  /-- The arguments are wrong. -/
  | misuse
  /-- An explanation is asked for. -/
  | help
  /-- The version is asked for. -/
  | version
deriving DecidableEq

/-! ## Names -/

namespace Command

/-- All commands. -/
def all : List Command := [check, convert, inspect, survey]

/-- The word for a command. -/
def word : Command → String
  | check => "check"
  | convert => "export"
  | inspect => "show"
  | survey => "list"

/-- The command that a word stands for. -/
def ofWord? (t : Text) : Option Command := all.find? fun c => c.word.toList = t

/-- Whether a command works on any number of documents, and not on exactly one. -/
def takesMany : Command → Bool
  | check | survey => true
  | convert | inspect => false

/-- The forms in which a command can answer, with their names. -/
def outputForms : Command → List (String × OutputForm)
  | inspect => [("pretty", .pretty), ("json", .json), ("yaml", .yaml)]
  | survey => [("table", .table), ("json", .json)]
  | check | convert => []

end Command

/-- The options that can stand in front of a command, or after it, each with its long name. -/
def longNames : Option Command → List (String × Switch)
  | place =>
    [("verbose", .flag .verbose), ("root", .setting .root), ("help", .flag .help)] ++
      match place with
      | none => [("version", .flag .version)]
      | some .check => [("quiet", .flag .quiet)]
      | some .convert => [("check", .flag .verify)]
      | some .inspect => [("output", .setting .output)]
      | some .survey =>
        [("labels", .setting .labels), ("regex", .setting .pattern),
          ("included-only", .flag .includedOnly), ("output", .setting .output)]

/-- The options that have a short name, with it. -/
def shortNames : Option Command → List (Char × Switch)
  | place =>
    [('v', .flag .verbose), ('r', .setting .root), ('h', .flag .help)] ++
      match place with
      | none => [('V', .flag .version)]
      | some .check => [('q', .flag .quiet)]
      | some _ => []

/-! ## Drafts -/

/-- What the arguments said so far. -/
structure Draft where
  /-- The command, once it was named. -/
  command : Option Command := none
  /-- The flags that were set. -/
  flags : List Flag := []
  /-- The folder that was named in front of the command. -/
  outerRoot : Option Path := none
  /-- The folder that was named last, since the command. -/
  root : Option Path := none
  /-- The expression that selects examples. -/
  labels : Option Expression := none
  /-- The pattern for descriptions. -/
  pattern : Option Text := none
  /-- The form of the output. -/
  output : Option OutputForm := none
  /-- The documents that were named. -/
  operands : List Path := []

namespace Draft

/-- Sets a flag.  Only the one for more messages may be set twice. -/
def setFlag (d : Draft) (f : Flag) : Except Stop Draft :=
  match f with
  | .help => .error .help
  | .version => .error .version
  | .verbose => .ok d
  | f => if f ∈ d.flags then .error .misuse else .ok { d with flags := f :: d.flags }

/-- A path, which must not be empty. -/
def path? (t : Text) : Option Path := if t = [] then none else some ⟨t⟩

/-- Gives an option its value.  It must have none yet. -/
def setValue (d : Draft) (s : Setting) (value : Text) : Except Stop Draft :=
  match s with
  | .root =>
    match d.root, path? value with
    | none, some p => .ok { d with root := some p }
    | _, _ => .error .misuse
  | .labels =>
    match d.labels, Expression.parse value with
    | none, .ok e => .ok { d with labels := some e }
    | _, _ => .error .misuse
  | .pattern =>
    match d.pattern with
    | none => .ok { d with pattern := some value }
    | some _ => .error .misuse
  | .output =>
    let forms := (d.command.map Command.outputForms).getD []
    match d.output, forms.find? fun (name, _) => name.toList = value with
    | none, some (_, form) => .ok { d with output := some form }
    | _, _ => .error .misuse

/-- Takes an argument that is no option: the word for a command, or a document for one. -/
def takeOperand (d : Draft) (ended : Bool) (t : Text) : Except Stop Draft :=
  match d.command with
  | none =>
    match Command.ofWord? t with
    | some c =>
      if ended then .error .misuse
      else .ok { d with command := some c, outerRoot := d.root, root := none }
    | none => .error .misuse
  | some c =>
    match path? t with
    | some p =>
      if c.takesMany ∨ d.operands = [] then .ok { d with operands := d.operands ++ [p] }
      else .error .misuse
    | none => .error .misuse

/-- What is left to do after an argument. -/
inductive Progress where
  /-- The argument is finished. -/
  | done (d : Draft)
  /-- The next argument is the value of an option. -/
  | awaiting (d : Draft) (s : Setting)

/-- Takes an option by its long name, with the value that may be attached to it. -/
def takeLong (d : Draft) (name : Text) (attached : Option Text) : Except Stop Progress :=
  match (longNames d.command).find? (fun (long, _) => long.toList = name), attached with
  | some (_, .flag f), none => (d.setFlag f).map .done
  | some (_, .setting s), some value => (d.setValue s value).map .done
  | some (_, .setting s), none => .ok (.awaiting d s)
  | _, _ => .error .misuse

/-- Takes options by their short names, written together.  What follows an option with a value is
that value. -/
def takeShort (d : Draft) : Text → Except Stop Progress
  | [] => .ok (.done d)
  | c :: rest =>
    match (shortNames d.command).lookup c with
    | none => .error .misuse
    | some (.flag f) =>
      match d.setFlag f with
      | .error stop => .error stop
      | .ok d => takeShort d rest
    | some (.setting s) =>
      match rest with
      | [] => .ok (.awaiting d s)
      | '=' :: value => (d.setValue s value).map .done
      | value => (d.setValue s value).map .done

/-- Whether an argument is an option, and so no value: a dash that stands alone is none. -/
def isOption : Text → Bool
  | '-' :: _ :: _ => true
  | _ => false

/-- Takes an argument in a place where options are looked for. -/
def take (d : Draft) (t : Text) : Except Stop Progress :=
  match t with
  | '-' :: '-' :: body =>
    match Text.splitFirst? (· == '=') body with
    | some (name, value) => d.takeLong name (some value)
    | none => d.takeLong body none
  | '-' :: c :: rest => d.takeShort (c :: rest)
  | t => (d.takeOperand false t).map .done

/-- The word that asks for an explanation. -/
def helpWord : Text := "help".toList

/-- How reading ends after that word: at most one command can be explained. -/
def helpStop : List Text → Stop
  | [] => .help
  | [word] => if (Command.ofWord? word).isSome ∨ word = helpWord then .help else .misuse
  | _ => .misuse

/-- Takes all arguments that are left.  `awaited` is the option whose value comes next; after two
dashes alone, the other arguments are no options. -/
def takeAll (d : Draft) (awaited : Option Setting) (ended : Bool) : List Text → Except Stop Draft
  | [] => if awaited.isSome then .error .misuse else .ok d
  | t :: rest =>
    if ended then
      match d.takeOperand true t with
      | .error stop => .error stop
      | .ok d => d.takeAll none true rest
    else
      match awaited with
      | some s =>
        if isOption t then .error .misuse
        else
          match d.setValue s t with
          | .error stop => .error stop
          | .ok d => d.takeAll none false rest
      | none =>
        if t = ['-', '-'] then d.takeAll none true rest
        else if d.command = none ∧ t = helpWord then .error (helpStop rest)
        else
          match d.take t with
          | .error stop => .error stop
          | .ok (.done d) => d.takeAll none false rest
          | .ok (.awaiting d s) => d.takeAll (some s) false rest

end Draft

/-! ## Invocations -/

/-- What is to be done. -/
inductive Task where
  /-- Read documents and report those that are wrong. -/
  | check (paths : List Path) (quiet : Bool)
  /-- Write a document in canonical form, or only look whether it is. -/
  | convert (file : Path) (verify : Bool)
  /-- Show what is in a document. -/
  | inspect (file : Path) (form : OutputForm)
  /-- List examples. -/
  | survey (paths : List Path) (labels : Option Expression) (pattern : Option Text)
      (includedOnly : Bool) (form : OutputForm)

/-- What is to be done, and where. -/
structure Invocation where
  /-- The folder of the documents. -/
  root : Path
  /-- What is to be done there. -/
  task : Task

/-- What a finished draft asks for.  Without a command it is a check. -/
def Draft.finish (d : Draft) : Except Stop Invocation :=
  let root := ((d.root <|> d.outerRoot).getD ⟨['.']⟩)
  let on := fun (f : Flag) => decide (f ∈ d.flags)
  match d.command.getD .check, d.operands with
  | .check, paths => .ok ⟨root, .check paths (on .quiet)⟩
  | .convert, [file] => .ok ⟨root, .convert file (on .verify)⟩
  | .inspect, [file] => .ok ⟨root, .inspect file (d.output.getD .pretty)⟩
  | .survey, paths =>
    .ok ⟨root, .survey paths d.labels d.pattern (on .includedOnly) (d.output.getD .table)⟩
  | _, _ => .error .misuse

/-- What the arguments ask for. -/
def Invocation.read (arguments : List Text) : Except Stop Invocation :=
  match Draft.takeAll {} none false arguments with
  | .error stop => .error stop
  | .ok d => d.finish

end PlainSpec
