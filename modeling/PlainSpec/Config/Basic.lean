import PlainSpec.Config.Toml
import PlainSpec.Expression.Parse
import PlainSpec.Storage.Tree

/-!
# Settings of the program

## Main definitions

* `Config`: the settings.
* `Config.read`, `Config.render`: settings from the text of a settings file, and the text of
  settings.
* `Storage.loadConfig`: the settings of a file.
-/

namespace PlainSpec

/-- The settings of the program and of those that run the examples. -/
structure Config where
  /-- Which examples are selected.  Without it all of them are. -/
  matchLabels : Option Expression
  /-- How many seconds a statement may take. -/
  timeoutSecs : UInt64
  /-- Whether the statements after a failing one are still run. -/
  continueAfterFailure : Bool
deriving DecidableEq

namespace Config

/-- The time that a statement may take if nothing else is set. -/
def defaultTimeout : UInt64 := 180

/-- The settings if nothing is set. -/
def initial : Config := ⟨none, defaultTimeout, false⟩

/-- Sets the time that a statement may take, cut to whole seconds. -/
def setTimeoutMillis (c : Config) (millis : Nat) : Config :=
  { c with timeoutSecs := UInt64.ofNat (millis / 1000) }

/-- The version of the settings file. -/
def version : Text := ['1']

/-! ## Reading -/

/-- The expression of the setting that selects examples. -/
def readLabels : Option Toml.Value → Option (Option Expression)
  | none => some none
  | some (.text content) => (Expression.parse content).toOption.map some
  | some _ => none

/-- The number of the setting for the time. -/
def readTimeout : Option Toml.Value → Option UInt64
  | none => some defaultTimeout
  | some (.integer n) => if 0 ≤ n ∧ n.toNat < UInt64.size then some (UInt64.ofNat n.toNat) else none
  | some _ => none

/-- The truth value of the setting for failures. -/
def readFlag : Option Toml.Value → Option Bool
  | none => some false
  | some (.boolean b) => some b
  | some _ => none

/-- The settings of the text of a settings file.  Unknown keys are ignored. -/
def read (t : Text) : Option Config := do
  let entries ← Toml.read t
  let get := fun (key : String) => entries.lookup key.toList
  if get "_version" = some (.text version) then
    some
      { matchLabels := ← readLabels (get "match_labels")
        timeoutSecs := ← readTimeout (get "statement_timeout_secs")
        continueAfterFailure := ← readFlag (get "continue_after_failure") }
  else none

/-! ## Writing -/

/-- A line of a settings file. -/
def setting (key : String) (value : Text) : Text := key.toList ++ " = ".toList ++ value ++ ['\n']

/-- The text of settings.  A setting without a value is left out. -/
def render (c : Config) : Text :=
  setting "_version" (Toml.quote version) ++
    (match c.matchLabels with
      | none => []
      | some e => setting "match_labels" (Toml.quote e.display)) ++
    setting "statement_timeout_secs" (Text.ofNat c.timeoutSecs.toNat) ++
    setting "continue_after_failure"
      (if c.continueAfterFailure then "true".toList else "false".toList)

end Config

/-- Why settings could not be loaded or saved.  Settings without a form in the file are no such
reason: a text, a number of 64 bits and a truth value can always be written. -/
inductive ConfigError where
  /-- The file could not be read. -/
  | unreadable (reason : AccessError)
  /-- The file is no text. -/
  | undecodable
  /-- The text holds no settings. -/
  | malformed
  /-- The file could not be written. -/
  | unwritable (reason : AccessError)
deriving DecidableEq

/-- The wording of an error, if it is the program's own. -/
def ConfigError.message? : ConfigError → Option String
  | unreadable reason => some ("failed to read config file: " ++ reason.message)
  | undecodable => some "failed to read config file: stream did not contain valid UTF-8"
  | malformed => none
  | unwritable reason => some ("failed to write config file: " ++ reason.message)

namespace Storage

/-- The settings of a file. -/
def loadConfig (s : Storage) (p : Path) : Except ConfigError Config :=
  match s.read p with
  | .error reason => .error (.unreadable reason)
  | .ok content =>
    match decodeText? content with
    | none => .error .undecodable
    | some text =>
      match Config.read text with
      | none => .error .malformed
      | some config => .ok config

end Storage

/-- The folder after settings are saved at a path of it. -/
def Node.saveConfig (root : Node) (p : Path) (c : Config) : Except ConfigError Node :=
  match root.writeError? p with
  | some reason => .error (.unwritable reason)
  | none => .ok (root.add p (.file c.render.toString.toUTF8))

end PlainSpec
