import DiffGauge.Disk
import DiffGauge.Settings.Checked
import DiffGauge.Settings.Toml
import DiffGauge.Text.Utf8

/-!
# Loading settings

The settings file is the one that is asked for, which has to be there, or else the one with the
usual name in the repository, which may be missing. It is read over the defaults, the
environment goes over it, and the outcome is checked.
-/

namespace DiffGauge.Settings

/-- The usual name of a settings file. -/
def fileName : String := ".rust-diff-analyzer.toml"

/-- Why settings cannot be loaded. -/
inductive Fault where
  | notFound (asked : String)
  | unreadable (path : String)
  | notText
  | numberTooLong
  | layer (e : LayerFault)
  | field (e : FieldFault)
  deriving Repr

/-- A fault of the settings in words, unless it is one that has none. -/
def Fault.message? : Fault → Option String
  | .notFound asked => some ("Config file not found: " ++ asked)
  | .unreadable path => some ("Failed to parse " ++ path)
  | .layer (.notTable s) => some ("[" ++ s.text ++ "] must be a table")
  | .field e => some e.message
  | .notText => none
  | .numberTooLong => none
  | .layer .notExtensible => none

/-- The settings file that is asked for. An empty name asks for none. -/
def askedFor (asked : Option String) : Option String := asked.filter fun s => !s.isEmpty

/-- The path at which the settings file is looked for. -/
def settingsPath (repository : String) (asked : Option String) : String :=
  match askedFor asked with
  | some path => Path.tidy path
  | none => Path.within repository fileName

/-- The content of the settings file. Only a file that is asked for has to be there. -/
def settingsContent? (files : Files) (repository : String) (asked : Option String) :
    Except Fault (Option Bytes) :=
  match (files (settingsPath repository asked)).content?, askedFor asked with
  | some content, _ => .ok (some content)
  | none, some path => .error (.notFound path)
  | none, none => .ok none

/-- The draft that the fields of a file give, if the version among them can be written. -/
def Draft.ofFields (fields : Fields) : Except Fault Draft :=
  if (fields.get "version").isShowable then (Draft.ofFile fields).mapError .layer
  else .error .numberTooLong

/-- The draft that a file at a path gives. -/
def Draft.ofContent (path : String) (content : Bytes) : Except Fault Draft :=
  match Text.Utf8.decode? content with
  | none => .error .notText
  | some text =>
    match Toml.read text with
    | .error .malformed => .error (.unreadable path)
    | .error .numberTooLong => .error .numberTooLong
    | .ok fields => Draft.ofFields fields

/-- The fault of a field, if its value can be shown. -/
def faultOf (e : FieldFault) : Fault := if e.value.isShowable then .field e else .numberTooLong

/-- Loads the settings of a repository. -/
def load (files : Files) (env : Environment) (repository : String) (asked : Option String) :
    Except Fault Checked := do
  let draft ← match ← settingsContent? files repository asked with
    | some content => Draft.ofContent (settingsPath repository asked) content
    | none => .ok Draft.default
  let draft ← (draft.withEnvironment env).mapError .layer
  draft.check.mapError faultOf

end DiffGauge.Settings
