import DiffGauge.Decimal.Shortest
import DiffGauge.Report.Document
import DiffGauge.Report.YamlScalar

/-!
# Documents as YAML

Records and lists are written in block form, every field and item on a line of its own. A record
in a record is indented by two blanks; a list in a record is not. A record without fields and a
list without items are written as a pair of brackets. A command can be given another writer.
-/

namespace DiffGauge.Report.Yaml

open Text

/-- How numbers are written. -/
def realForm : Decimal.RealForm := ⟨".inf", "-.inf", ".nan", true⟩

/-- Blanks at the start of a line. -/
def pad (n : Nat) : String := String.ofList (List.replicate n ' ')

mutual

/-- What follows a key or a dash that ends at column `column`. A plain value stands on the same
    line, and goes on at column `below` if it is folded; the fields of a record begin at column
    `below`, the items of a list at column `beside`. -/
def renderValue (column beside below : Nat) : Document → String
  | .nothing => " null\n"
  | .flag b => if b then " true\n" else " false\n"
  | .integer n => " " ++ intText n ++ "\n"
  | .real x => " " ++ realForm.text x ++ "\n"
  | .text s => " " ++ scalar below (column + 1) s ++ "\n"
  | .list [] => " []\n"
  | .list (d :: ds) => "\n" ++ pad beside ++ renderItems beside (d :: ds)
  | .record [] => " \x7b\x7d\n"
  | .record (f :: fs) => "\n" ++ pad below ++ renderFields below (f :: fs)

/-- Fields at a column, which is where the first of them stands already. -/
def renderFields (column : Nat) : List (String × Document) → String
  | [] => ""
  | (k, d) :: fs =>
    let key := scalar (column + 2) column k
    key ++ ":" ++ renderValue (column + key.length + 1) column (column + 2) d
      ++ (if fs.isEmpty then "" else pad column ++ renderFields column fs)

/-- Items at a column, which is where the first of them stands already. A record or a list as an
    item begins right after the dash. -/
def renderItems (column : Nat) : List Document → String
  | [] => ""
  | d :: ds =>
    (match d with
      | .list (e :: es) => "- " ++ renderItems (column + 2) (e :: es)
      | .record (f :: fs) => "- " ++ renderFields (column + 2) (f :: fs)
      | d => "-" ++ renderValue (column + 1) (column + 2) (column + 2) d)
      ++ (if ds.isEmpty then "" else pad column ++ renderItems column ds)

end

/-- A document as a text. -/
def ofDocument : Document → String
  | .record (f :: fs) => renderFields 0 (f :: fs)
  | .list (d :: ds) => renderItems 0 (d :: ds)
  | d => String.ofList ((renderValue 0 0 2 d).toList.drop 1)

end DiffGauge.Report.Yaml
