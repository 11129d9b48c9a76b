import DiffGauge.Path
import DiffGauge.Text.Pieces

/-!
# Asking git

Every question to git is one command. Git may be missing or too slow, or it may end with a
failure; a difference that ends with one is still taken as it is unless git calls the failure
fatal, and a file that is not there is no failure.
-/

namespace DiffGauge.Git

open Text

/-- What becomes of a git command. -/
inductive Reply where
  | notInstalled
  | timedOut
  | ended (code : Int) (output errors : String)
  deriving DecidableEq, Repr

/-- What git replies to each list of arguments. -/
abbrev Replies := List String → Reply

/-- Why a question has no answer. -/
inductive Fault where
  | notInstalled
  | timedOut (arguments : List String)
  | failed (errors : String)
  deriving DecidableEq, Repr

/-- How many seconds git may take. -/
def patience : Nat := 30

/-- A fault in words. -/
def Fault.message : Fault → String
  | .notInstalled => "git is not installed or not on PATH"
  | .timedOut arguments =>
    "git command timed out after " ++ toString patience ++ "s: git " ++ joined " " arguments
  | .failed errors => "git error: " ++ errors

/-- A question to git. A file is asked for at a revision, or as it is staged. -/
inductive Query where
  | topLevel
  | stagedDiff
  | rangeDiff (base head : String)
  | revision (name : String)
  | content (version : Option String) (path : String)
  deriving DecidableEq, Repr

/-- How differences are to be written: with renames, plain, and by git itself. -/
def diffStyle : List String := ["-M", "--no-color", "--no-ext-diff"]

/-- The arguments of the command that asks a question. -/
def Query.arguments : Query → List String
  | .topLevel => ["rev-parse", "--show-toplevel"]
  | .stagedDiff => ["diff", "--cached"] ++ diffStyle
  | .rangeDiff base head => ["diff", base ++ ".." ++ head] ++ diffStyle
  | .revision name => ["rev-parse", "--verify", "--quiet", name ++ "^\x7bcommit\x7d"]
  | .content version path => ["show", version.getD "" ++ ":" ++ path]

/-- How a command ended: its code, its output, and its messages without blanks around them. -/
structure Ended where
  code : Int
  output : String
  errors : String
  deriving DecidableEq, Repr

/-- Asks a question. -/
def ask (git : Replies) (q : Query) : Except Fault Ended :=
  match git q.arguments with
  | .notInstalled => .error .notInstalled
  | .timedOut => .error (.timedOut q.arguments)
  | .ended code output errors => .ok ⟨code, output, trimmed errors⟩

/-- Git calls a failure fatal. -/
def isFatal (errors : String) : Bool := holdsString "fatal" (asciiLower errors)

/-- The output of a command that did not fail fatally. -/
def outputOf (git : Replies) (q : Query) : Except Fault String := do
  let ended ← ask git q
  if ended.code ≠ 0 ∧ isFatal ended.errors then throw (.failed ended.errors)
  return ended.output

/-- The directory of the repository. -/
def topLevel (git : Replies) : Except Fault String :=
  (outputOf git .topLevel).map fun s => Path.tidy (trimmed s)

/-- The revision names a commit. -/
def hasRevision (git : Replies) (name : String) : Except Fault Bool :=
  (ask git (.revision name)).map fun ended => ended.code == 0

/-- What git says of a file that is not there. -/
def absentMarkers : List String := ["does not exist", "exists on disk, but not in"]

/-- The text of a file, if it is there. -/
def content? (git : Replies) (version : Option String) (path : String) :
    Except Fault (Option String) := do
  let ended ← ask git (.content version path)
  if ended.code = 0 then return some ended.output
  else if absentMarkers.any fun m => holdsString m ended.errors then return none
  else throw (.failed ended.errors)

end DiffGauge.Git
