import DiffGauge.CodeUnit
import DiffGauge.Diff.Basic

/-!
# What an analysis yields

An analysis of a diff yields its changes, an entry for each file of the diff, and the messages of
the files that could not be read. A file that is passed over has a reason.
-/

namespace DiffGauge.Analysis

open Diff

/-- Why a file is passed over. -/
inductive SkipReason where
  | binary
  | notRust
  | ignored
  | noSource
  | parseError
  deriving DecidableEq, Repr

/-- The name of a reason in reports. -/
def SkipReason.text : SkipReason → String
  | .binary => "binary"
  | .notRust => "not_rust"
  | .ignored => "ignored"
  | .noSource => "no_source"
  | .parseError => "parse_error"

/-- Every reason. -/
def SkipReason.all : List SkipReason := [.binary, .notRust, .ignored, .noSource, .parseError]

/-- What became of a file of the diff. -/
structure FileEntry where
  path : String
  oldPath : Option String := none
  status : FileStatus := .modified
  changes : Int := 0
  skipped : Option SkipReason := none
  deriving DecidableEq, Repr

/-- What an analysis yields. -/
structure Result where
  changes : List Change
  files : List FileEntry
  errors : List String
  durationMs : Float
  deriving Repr

/-- The files that were analysed. -/
def Result.analyzedFiles (r : Result) : List FileEntry := r.files.filter (·.skipped.isNone)

/-- The files that were passed over. -/
def Result.skippedFiles (r : Result) : List FileEntry := r.files.filter (·.skipped.isSome)

/-- The changes of the file at a path. -/
def Result.changesFor (r : Result) (path : String) : List Change :=
  r.changes.filter (·.file == path)

/-- How important a message to the log is. -/
inductive LogLevel where
  | debug
  | info
  | warning
  | error
  deriving DecidableEq, Repr

/-- The name of a level in the log. -/
def LogLevel.text : LogLevel → String
  | .debug => "DEBUG"
  | .info => "INFO"
  | .warning => "WARNING"
  | .error => "ERROR"

/-- The place of a level in their order. -/
def LogLevel.rank : LogLevel → Nat
  | .debug => 0
  | .info => 1
  | .warning => 2
  | .error => 3

/-- A message to the log. -/
structure LogEntry where
  level : LogLevel
  text : String
  deriving DecidableEq, Repr

/-- A message with its level. -/
def LogEntry.line (e : LogEntry) : String := e.level.text ++ " " ++ e.text

/-- A value with the messages that were logged on the way to it. -/
structure Logged (α : Type) where
  log : List LogEntry
  value : α
  deriving Repr

end DiffGauge.Analysis
