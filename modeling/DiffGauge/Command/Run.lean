import DiffGauge.Command.Init

/-!
# Running a command line
-/

namespace DiffGauge.Command

open Activity

/-- The version of the program. -/
def version : String := "0.1.0"

/-- How the program is called. -/
def usage : String :=
  "Usage: rust-diff-analyzer [--version] (analyze [OPTIONS] | init [--force])\n"

variable {ε : Type} (machine : Machine ε)

/-- Does what is asked for. -/
def Request.activity : Request → Activity ε Unit
  | .version => perform machine (.out ("rust-diff-analyzer " ++ Command.version ++ "\n"))
  | .analyze options => Command.analyze machine options
  | .init force => Command.init machine force
  | .unclear => do
    perform machine (.err usage)
    exit 2

/-- Runs a command line. -/
def run (words : List String) : Outcome ε :=
  ((machine.libraries.request words).activity machine).outcome

end DiffGauge.Command
