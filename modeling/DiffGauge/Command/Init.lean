import DiffGauge.Command.Analyze
import DiffGauge.Settings.Template

/-!
# Starting a settings file

The command writes a settings file with all defaults into the repository. It does not replace
one that is there unless it is told to.
-/

namespace DiffGauge.Command

open Activity

/-- Runs the command. -/
def init {ε : Type} (machine : Machine ε) (force : Bool) : Activity ε Unit := do
  let path := Path.within (← repository machine) Settings.fileName
  let found ← look machine path
  if found.isThere && !force then
    say machine ("[yellow]⚠[/yellow]  " ++ Settings.fileName ++ " already exists at " ++ path)
    exit 1
  write machine path Settings.template
  say machine ("[green]✓[/green] Created " ++ path)

end DiffGauge.Command
