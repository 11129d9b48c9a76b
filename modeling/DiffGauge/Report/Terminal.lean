import DiffGauge.Decimal.Shortest
import DiffGauge.Report.Console
import DiffGauge.Report.Document

/-!
# The report on the terminal

A table of the changes if details are wanted, a few lines of totals, a line for each source that
could not be read, and the verdict with a line for each limit that was exceeded. File paths, the
names of units and the names of limits are taken as markup.
-/

namespace DiffGauge.Report.Terminal

open Text Gate Analysis

/-- A text in a style. -/
def styled (style text : String) : String := "[" ++ style ++ "]" ++ text ++ "[/" ++ style ++ "]"

/-- A name with blanks between its words. -/
def spaced (s : String) : String :=
  String.ofList (s.toList.map fun c => if c = '_' then ' ' else c)

/-- What a unit is called in the table. -/
def unitLabel (u : CodeUnit) : String :=
  match u.kind with
  | none => "(outside any unit)"
  | some kind => spaced kind.text ++ " " ++ (if u.name.isEmpty then "<anonymous>" else u.name)

/-- The columns of the table. -/
def columns : List Column :=
  [ { head := "File" }, { head := "Lines", side := .right }, { head := "Unit", least := 20 },
    { head := "Change", side := .middle }, { head := "Type", side := .middle },
    { head := "+", side := .right }, { head := "-", side := .right }]

/-- The lines that a change is about. -/
def lineRange (c : Change) : String :=
  intText c.unit.span.first ++ "-" ++ intText c.unit.span.last

/-- The numbers in the row of a change. -/
def rowNumbers (c : Change) : List Int :=
  [c.unit.span.first, c.unit.span.last, c.added, c.removed]

/-- What a limit is called on the terminal. -/
def limitLabel (limit : String) : String :=
  match Limit.all.find? fun l => l.text == limit with
  | some .prodUnits => "Production units"
  | some .weightedScore => "Weighted score"
  | some .prodLines => "Production lines"
  | none => limit

/-- A limit that was exceeded, marked up. -/
def violationText (v : Violation) : String :=
  "  " ++ styled "red" "•" ++ " " ++ limitLabel v.limit ++ ": " ++ intText v.actual ++ " > "
    ++ intText v.maximum

section Console

variable (console : Console)

/-- An empty line. -/
def emptyLine : Print := .ok (console.line "")

/-- Prints a marked-up text with some numbers in it, each of which has to be one that can be
    written. -/
def printed (numbers : List Int) (s : String) : Print :=
  if numbers.all isWritable then console.print s else .error .numberTooLong

/-- The row of a change, unless a text in it is faulty markup. -/
def row? (c : Change) : Option (List String) := do
  return [← console.read c.file, ← console.read (lineRange c),
    ← console.read (unitLabel c.unit), c.kind.text, c.unit.purpose.text,
    ← console.read (intText c.added), ← console.read (intText c.removed)]

/-- The table of changes. Its numbers are written before any of its texts is read. -/
def changeTable (changes : List Change) : Print :=
  if (changes.flatMap rowNumbers).all isWritable then
    match changes.mapM (row? console) with
    | some rows => .ok (console.table "Rust Diff Analysis" columns rows)
    | none => .error .markup
  else .error .numberTooLong

/-- What comes before the totals. -/
def opening (r : Run) : List Print :=
  if r.result.changes.isEmpty then
    [emptyLine console, console.print (styled "bold green" "✅ No Rust code changes detected.")]
  else if r.showsDetails then [emptyLine console, changeTable console r.result.changes]
  else []

/-- A number after its label, which is dim. -/
def labelled (label gap : String) (n : Int) : Print :=
  printed console [n] (styled "dim" (label ++ ":") ++ gap ++ intText n)

/-- Added and removed lines after their label, which is dim. -/
def labelledLines (label gap : String) (added removed : Int) : Print :=
  printed console [added, removed]
    (styled "dim" (label ++ ":") ++ gap ++ "+" ++ intText added ++ " -" ++ intText removed)

/-- The totals. -/
def totals (r : Run) : List Print :=
  let s := r.summary
  [ emptyLine console,
    labelled console "Files analysed" "   " r.result.analyzedFiles.length,
    labelled console "Files skipped" "    " r.result.skippedFiles.length,
    labelled console "Changes" "          " r.result.changes.length,
    labelled console "Production units" " " s.prodUnits,
    labelledLines console "Production lines" " " s.prodAdded s.prodRemoved,
    labelledLines console "All lines" "        " s.totalAdded s.totalRemoved,
    labelled console "Weighted score" "   " s.weightedScore,
    console.print
      (styled "dim" "Duration:" ++ "         " ++ Decimal.roundedText r.result.durationMs ++ "ms")]

/-- A source that could not be read. -/
def warning (message : String) : Print :=
  console.print (styled "yellow" "⚠" ++ "  " ++ console.escape message)

/-- A limit that was exceeded. -/
def violation (v : Violation) : Print := printed console [v.actual, v.maximum] (violationText v)

/-- The verdict. -/
def verdict (violations : List Violation) : List Print :=
  if violations.isEmpty then
    [emptyLine console,
      console.print
        (styled "bold green" "✅ PASSED — change is within configured limits.")]
  else
    [emptyLine console, console.print (styled "bold red" "❌ LIMITS EXCEEDED")]
      ++ violations.map (violation console)

end Console

/-- The prints of a report on a console. -/
def prints (r : Run) (console : Console := .standard) : List Print :=
  opening console r ++ totals console r ++ r.result.errors.map (warning console)
    ++ verdict console r.violations

end DiffGauge.Report.Terminal
