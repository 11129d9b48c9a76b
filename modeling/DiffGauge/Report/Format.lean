/-!
# Forms of a report

A report is shown as a table on the terminal, or written as a JSON or a YAML document.
-/

namespace DiffGauge.Report

/-- The form of a report. -/
inductive Format where
  | terminal
  | json
  | yaml
  deriving DecidableEq, Repr

/-- The name of a form. -/
def Format.text : Format → String
  | .terminal => "terminal"
  | .json => "json"
  | .yaml => "yaml"

/-- Every form. -/
def Format.all : List Format := [.terminal, .json, .yaml]

/-- The form with a name. -/
def Format.ofText? (s : String) : Option Format := Format.all.find? fun f => f.text == s

/-- The name of a format is read as the format. -/
theorem Format.ofText?_text (f : Format) : Format.ofText? f.text = some f := by
  cases f <;> decide

/-- A format is read from its name alone. -/
theorem Format.text_of_ofText? {s : String} {f : Format} (h : Format.ofText? s = some f) :
    f.text = s := by
  simpa using List.find?_some h

end DiffGauge.Report
