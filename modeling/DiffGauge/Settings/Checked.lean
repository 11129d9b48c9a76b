import DiffGauge.Gate.Summary
import DiffGauge.Settings.Draft

/-!
# Checked settings

The fields that decide the outcome of a run are checked: bounds are positive whole numbers,
weights are whole numbers that are not negative, and the form of the report is one that there
is. The first field that fails is reported. What is not checked stays as it was given.
-/

namespace DiffGauge.Settings

open Text

/-- What a field has to be. -/
inductive Demand where
  | positive
  | positiveIfSet
  | notNegative
  | format
  deriving DecidableEq, Repr

/-- What a field has to be, in words. -/
def Demand.text : Demand → String
  | .positive => "must be a positive integer"
  | .positiveIfSet => "must be a positive integer when set"
  | .notNegative => "must be a non-negative integer"
  | .format => "must be one of " ++ joined ", " (Report.Format.all.map Report.Format.text)

/-- A field that is not what it has to be. -/
structure FieldFault where
  kind : Section
  name : String
  demand : Demand
  value : Value
  deriving Repr

/-- A field fault in words. -/
def FieldFault.message (e : FieldFault) : String :=
  "invalid config field '" ++ e.kind.text ++ "." ++ e.name ++ "': " ++ e.demand.text ++ ", got "
    ++ e.value.shown

/-- A positive whole number. -/
def positive? (v : Value) : Option Int := v.integer?.filter (0 < ·)

/-- A positive whole number, or nothing. -/
def positiveIfSet? : Value → Option (Option Int)
  | .absent => some none
  | v => (positive? v).map some

/-- A whole number that is not negative. -/
def notNegative? (v : Value) : Option Int := v.integer?.filter (0 ≤ ·)

/-- The form that a value names. -/
def format? (v : Value) : Option Report.Format := v.text?.bind Report.Format.ofText?

/-- The names that a value gives, for asking whether one of them is meant. Items that are no
    texts are no names; a table gives its keys. -/
def names? : Value → Option Names
  | .array items => some (.each (items.filterMap Value.text?))
  | .text s => some (.partsOf s)
  | .table fields => some (.each (fields.map (·.1)))
  | _ => none

/-- Settings that were checked, with the draft that they came from. -/
structure Checked where
  draft : Draft
  limits : Gate.Limits
  weights : Gate.Weights
  format : Report.Format

/-- The field `name` as `read` takes it, which is what `demand` says. -/
def Draft.demanded {α : Type} (d : Draft) (s : Section) (name : String) (demand : Demand)
    (read : Value → Option α) : Except FieldFault α :=
  match read (d.get s name) with
  | some a => .ok a
  | none => .error ⟨s, name, demand, d.get s name⟩

/-- The weight of each purpose. -/
def Draft.weightOf (d : Draft) (p : Purpose) : Except FieldFault (Purpose × Int) := do
  return (p, ← d.demanded .weights p.text .notNegative notNegative?)

/-- Checks a draft. -/
def Draft.check (d : Draft) : Except FieldFault Checked := do
  let units ← d.demanded .limits Gate.Limit.prodUnits.text .positive positive?
  let score ← d.demanded .limits Gate.Limit.weightedScore.text .positive positive?
  let lines ← d.demanded .limits Gate.Limit.prodLines.text .positiveIfSet positiveIfSet?
  let weights ← Purpose.all.mapM d.weightOf
  let format ← d.demanded .output "format" .format format?
  return {
    draft := d
    limits := { maxProdUnits := units, maxWeightedScore := score, maxProdLines := lines }
    weights
    format }

/-- A run with an exceeded limit fails. -/
def Checked.failsOnExceed (c : Checked) : Bool := (c.draft.get .limits "fail_on_exceed").isSet

/-- A report lists the changes. -/
def Checked.showsDetails (c : Checked) : Bool := (c.draft.get .output "show_details").isSet

end DiffGauge.Settings
