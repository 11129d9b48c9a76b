import DiffGauge.Text.Cells

/-!
# Prints

What is printed is put out print by print. A print may be at fault: then it puts out nothing and
stops what comes after it.
-/

namespace DiffGauge.Text

/-- The distance between tab stops. -/
def tabStop : Nat := 8

/-- A text at a column of its line, with blanks up to the next tab stop instead of tabs. -/
def expandTabs (column : Nat) : List Char → List Char
  | [] => []
  | c :: cs =>
    if c = '\t' then
      let n := tabStop - column % tabStop
      List.replicate n ' ' ++ expandTabs (column + n) cs
    else if c = '\n' then c :: expandTabs 0 cs
    else c :: expandTabs (column + charCells c) cs

/-- Why a print puts out nothing: its markup is faulty, or a number in it has too many digits. -/
inductive PrintFault where
  | markup
  | numberTooLong
  deriving DecidableEq, Repr

/-- What a print puts out. -/
abbrev Print := Except PrintFault String

/-- Why the first print that is at fault is, if one is. -/
def firstFault? : List Print → Option PrintFault
  | [] => none
  | .error e :: _ => some e
  | .ok _ :: ps => firstFault? ps

/-- What prints put out one after another: the text up to the first that is at fault, and whether
    none is. -/
def putOut : List Print → String × Bool
  | [] => ("", true)
  | .error _ :: _ => ("", false)
  | .ok s :: ps =>
    let (rest, isWhole) := putOut ps
    (s ++ rest, isWhole)

end DiffGauge.Text
