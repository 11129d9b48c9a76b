import DiffGauge.Decimal.Shortest
import DiffGauge.Settings.Moment
import DiffGauge.Text.Quoted

/-!
# Values of settings

A settings file may give any value for any key; only some are checked. A value can be shown
inside a message and written as plain text, and it counts as set or as not set.
-/

namespace DiffGauge.Settings

open Text

/-- A value of a settings file, or the lack of one. -/
inductive Value where
  | absent
  | flag (b : Bool)
  | integer (n : Int)
  | real (x : Float)
  | text (s : String)
  | moment (m : Moment)
  | array (items : List Value)
  | table (fields : List (String × Value))
  deriving Repr

instance : Inhabited Value := ⟨.absent⟩

/-- How numbers are written inside messages. -/
def realForm : Decimal.RealForm := ⟨"inf", "-inf", "nan", false⟩

mutual

/-- A value as messages show it. -/
def Value.shown : Value → String
  | .absent => "None"
  | .flag b => if b then "True" else "False"
  | .integer n => intText n
  | .real x => realForm.text x
  | .text s => quoted s
  | .moment m => m.shown
  | .array items => "[" ++ ", ".intercalate (shownItems items) ++ "]"
  | .table fields => "\x7b" ++ ", ".intercalate (shownFields fields) ++ "\x7d"

/-- Values as messages show them. -/
def shownItems : List Value → List String
  | [] => []
  | v :: vs => v.shown :: shownItems vs

/-- Fields as messages show them. -/
def shownFields : List (String × Value) → List String
  | [] => []
  | (k, v) :: fs => (quoted k ++ ": " ++ v.shown) :: shownFields fs

end

mutual

/-- The value can be shown. A whole number with too many digits cannot, wherever it stands. -/
def Value.isShowable : Value → Bool
  | .integer n => isWritable n
  | .array items => areShowable items
  | .table fields => areShowableFields fields
  | .absent => true
  | .flag _ => true
  | .real _ => true
  | .text _ => true
  | .moment _ => true

/-- All values can be shown. -/
def areShowable : List Value → Bool
  | [] => true
  | v :: vs => v.isShowable && areShowable vs

/-- The values of all fields can be shown. -/
def areShowableFields : List (String × Value) → Bool
  | [] => true
  | (_, v) :: fs => v.isShowable && areShowableFields fs

end

/-- A value as plain text: a text as it is, a moment as it is written, anything else as messages
    show it. -/
def Value.plain : Value → String
  | .text s => s
  | .moment m => m.text
  | v => v.shown

/-- A value that counts as set: neither nothing nor false nor zero nor empty. -/
def Value.isSet : Value → Bool
  | .absent => false
  | .flag b => b
  | .integer n => n != 0
  | .real x => x != 0.0
  | .text s => !s.isEmpty
  | .moment _ => true
  | .array items => !items.isEmpty
  | .table fields => !fields.isEmpty

/-- The whole number that a value is. A flag is none. -/
def Value.integer? : Value → Option Int
  | .integer n => some n
  | _ => none

/-- The text that a value is. -/
def Value.text? : Value → Option String
  | .text s => some s
  | _ => none

/-- The fields of a section or a table. -/
abbrev Fields := List (String × Value)

/-- The value of a field. -/
def Fields.get (fs : Fields) (name : String) : Value := (List.lookup name fs).getD .absent

/-- The fields with a new value for one that is there. -/
def Fields.set (fs : Fields) (name : String) (v : Value) : Fields :=
  fs.map fun f => if f.1 = name then (f.1, v) else f

end DiffGauge.Settings
