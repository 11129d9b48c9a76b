import DiffGauge.Command.Run

/-!
# The program

Runs a command line on this machine. A command takes the machine as it is when it starts, so it
is run again with every file that it looked at until it looks at no new one; only then is what
it does carried out. Git is not called from here: a diff has to come from a file or from the
standard input.
-/

namespace DiffGauge.Main

open Command

/-- A number of an error, which may be given with a minus sign, is `code`. -/
def isCode (code given : UInt32) : Bool := given == code || given == 0 - code

/-- What an error of reading a file says about its path: that a directory was read as a file, or
    that the path goes on below a file. Any other error means that there is nothing to read. -/
def foundOfError : IO.Error → Found
  | .inappropriateType _ code _ =>
    if isCode 21 code then .directory else if isCode 20 code then .insideFile else .missing
  | _ => .missing

/-- What stands at a path on the disk. -/
def findOnDisk (path : String) : IO Found := do
  try
    return .file (← IO.FS.readBinFile path).toList
  catch e => return foundOfError e

/-- The variables that settings are taken from. -/
def settingVariables : List String :=
  ["RDA_MAX_PROD_UNITS", "RDA_MAX_WEIGHTED_SCORE", "RDA_FORMAT", "RDA_IGNORE_PATHS"]

/-- The paths that a command looked at. -/
def lookedAt (o : Outcome) : List String :=
  o.events.filterMap fun
    | .looked path => some path
    | _ => none

/-- Runs a command line until everything that it looks at is known. -/
partial def settle (machine : Machine) (words : List String) (known : List (String × Found)) :
    IO Outcome := do
  let outcome := run { machine with files := fun path => (known.lookup path).getD .missing } words
  match (lookedAt outcome).find? fun path => (known.lookup path).isNone with
  | none => return outcome
  | some path => settle machine words ((path, ← findOnDisk path) :: known)

/-- Carries out one thing that a command does. -/
def carryOut : Event → IO Unit
  | .out text => do (← IO.getStdout).putStr text
  | .err text => do (← IO.getStderr).putStr text
  | .logged entry => do (← IO.getStderr).putStr (entry.line ++ "\n")
  | .wrote path content => IO.FS.writeFile path content
  | .looked _ => return ()
  | .opened _ => return ()
  | .listened => return ()
  | .asked _ => return ()

/-- The standard input, if a word asks for it. -/
def input (words : List String) : IO Bytes := do
  if words.contains "-" then return (← (← IO.getStdin).readToEnd).toUTF8.toList
  else return []

end DiffGauge.Main

open DiffGauge in
/-- Runs the program. -/
def main (words : List String) : IO UInt32 := do
  let environment ← Main.settingVariables.mapM fun name => do return (name, ← IO.getEnv name)
  let machine : Command.Machine :=
    { root := (← IO.getEnv "PWD").getD "."
      files := fun _ => .missing
      environment := fun name => (environment.lookup name).join
      git := fun _ => .notInstalled
      input := ← Main.input words }
  let outcome ← Main.settle machine words []
  outcome.events.forM Main.carryOut
  return outcome.ending.code.toUInt32
