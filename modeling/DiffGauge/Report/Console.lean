import DiffGauge.Report.Table
import DiffGauge.Text.Markup
import DiffGauge.Text.Printed

/-!
# Consoles

A console reads texts as markup and shows what is left of them, line by line or in a table. What
its markup is and how its tables look is its own matter: a report is written for any console.
-/

namespace DiffGauge.Report

open Text

/-- A console: what it shows of a text that it reads as markup, unless the markup is faulty; a text
    so that none of it is markup; a text that it shows as a line; and a table with a title, with
    cells as they are shown. -/
structure Console where
  read : String → Option String
  escape : String → String
  line : String → String
  table : String → List Column → List (List String) → String

/-- A console with tags in brackets and with tables in frames. Its lines are as long as need be. -/
def Console.standard : Console where
  read := Markup.strip?
  escape := Markup.escape
  line := fun s => String.ofList (expandTabs 0 s.toList) ++ "\n"
  table := Report.table

/-- Prints a marked-up text. -/
def Console.print (c : Console) (s : String) : Print :=
  match c.read s with
  | some t => .ok (c.line t)
  | none => .error .markup

end DiffGauge.Report
