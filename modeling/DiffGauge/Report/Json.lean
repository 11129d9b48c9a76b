import DiffGauge.Decimal.Shortest
import DiffGauge.Report.Document
import DiffGauge.Text.Pieces
import DiffGauge.Text.Quoted

/-!
# Documents as JSON

Every item of a list and every field of a record has a line of its own, indented by two blanks
for each level. Texts hold ASCII characters only; all others are escaped by their UTF-16 units.
-/

namespace DiffGauge.Report.Json

open Text

/-- How numbers are written. -/
def realForm : Decimal.RealForm := ⟨"Infinity", "-Infinity", "NaN", false⟩

/-- A UTF-16 unit as an escape. -/
def unitEscape (n : Nat) : List Char := '\\' :: 'u' :: hexText 4 n

/-- The UTF-16 units of a character. -/
def units (c : Char) : List Nat :=
  let n := c.toNat
  if n < 0x10000 then [n]
  else [0xD800 + (n - 0x10000) / 0x400, 0xDC00 + (n - 0x10000) % 0x400]

/-- A character inside quotes. -/
def textChar (c : Char) : List Char :=
  if c == '"' then ['\\', '"']
  else if c == '\\' then ['\\', '\\']
  else if c == '\n' then ['\\', 'n']
  else if c == '\r' then ['\\', 'r']
  else if c == '\t' then ['\\', 't']
  else if c == '\x0c' then ['\\', 'f']
  else if c == '\x08' then ['\\', 'b']
  else if ' ' ≤ c && c ≤ '~' then [c]
  else (units c).flatMap unitEscape

/-- A text in quotes. -/
def text (s : String) : String :=
  String.ofList ('"' :: s.toList.flatMap textChar ++ ['"'])

/-- The start of a line at a level. -/
def newLine (level : Nat) : String :=
  "\n" ++ String.ofList (List.replicate (2 * level) ' ')

/-- Lines between brackets. Nothing between them takes no line. -/
def bracketed (opening closing : String) (level : Nat) (lines : List String) : String :=
  if lines.isEmpty then opening ++ closing
  else
    opening ++ newLine (level + 1) ++ joined ("," ++ newLine (level + 1)) lines ++ newLine level
      ++ closing

mutual

/-- A document at a level. -/
def render (level : Nat) : Document → String
  | .nothing => "null"
  | .flag b => if b then "true" else "false"
  | .integer n => intText n
  | .real x => realForm.text x
  | .text s => text s
  | .list items => bracketed "[" "]" level (renderItems (level + 1) items)
  | .record fields => bracketed "\x7b" "\x7d" level (renderFields (level + 1) fields)

/-- The items of a list at a level. -/
def renderItems (level : Nat) : List Document → List String
  | [] => []
  | d :: ds => render level d :: renderItems level ds

/-- The fields of a record at a level. -/
def renderFields (level : Nat) : List (String × Document) → List String
  | [] => []
  | (k, d) :: fs => (text k ++ ": " ++ render level d) :: renderFields level fs

end

/-- A document as a text. -/
def ofDocument (d : Document) : String := render 0 d

end DiffGauge.Report.Json
