import DiffGauge.Analysis.Run
import DiffGauge.Command.Request
import DiffGauge.Disk
import DiffGauge.Git.Query
import DiffGauge.Report.Console
import DiffGauge.Report.Yaml
import DiffGauge.Settings.Draft
import DiffGauge.Text.Breaks

/-!
# What a command sees

A command sees the current directory, the files, the environment, git and its standard input.
All of them are taken as they are when the command starts. It is built on the work of others, and
whatever it does may fail for reasons that are none of its own.
-/

namespace DiffGauge.Command

open Analysis

/-- A thing that a command does. -/
inductive Event where
  | looked (path : String)
  | opened (path : String)
  | listened
  | asked (arguments : List String)
  | out (text : String)
  | err (text : String)
  | logged (entry : LogEntry)
  | wrote (path content : String)
  deriving DecidableEq, Repr

/-- Bytes as a text with plain line breaks. What is not UTF-8 is replaced. -/
def textOf (content : Bytes) : String :=
  String.ofList (Text.unifyBreaks (Text.Utf8.decode content))

/-- What a command is built on: what a command line asks for, the trees of Rust sources, the
    console, documents as YAML, and what is said of a settings file that is not TOML. -/
structure Libraries where
  request : List String → Request := Request.ofWords
  parse : String → Except Syntax.SyntaxFault Syntax.SyntaxTree := Rust.parse
  console : Report.Console := .standard
  yaml : Report.Document → String := Report.Yaml.ofDocument
  complaint : Bytes → String := fun _ => ""

/-- What a command sees, and what it is built on. The failures `ε` come from outside, with a message
    for each: a file may be there and still be unreadable, anything that is done may break off, and
    so may any step of the analysis. -/
structure Machine (ε : Type := Empty) where
  root : String
  files : Files
  environment : Settings.Environment
  git : Git.Replies
  input : Bytes
  inputText? : Bytes → Option String := fun bytes => some (textOf bytes)
  libraries : Libraries := {}
  message : ε → String := fun _ => ""
  unreadable? : String → Option ε := fun _ => none
  breaksOff? : Event → Option ε := fun _ => none
  breaksOffAt? : Step → Option ε := fun _ => none

/-- Why a file cannot be written. -/
inductive WriteFault where
  | missing
  | isDirectory
  | notDirectory
  deriving DecidableEq, Repr

/-- The directory that a path is in. -/
def parent (path : String) : String := Path.spell (Path.parts path).dropLast

/-- Why no file can be written at a path, if so. -/
def writeFault? (files : Files) (path : String) : Option WriteFault :=
  match files path with
  | .file _ => none
  | .directory => some .isDirectory
  | .insideFile => some .notDirectory
  | .missing =>
    match files (parent path) with
    | .directory => none
    | .missing => some .missing
    | _ => some .notDirectory

end DiffGauge.Command
