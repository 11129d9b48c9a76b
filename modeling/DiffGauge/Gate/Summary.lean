import DiffGauge.CodeUnit
import DiffGauge.Total

/-!
# Summary of a list of changes

A summary adds up what a list of changes touches: how many changes there are of each purpose and
kind, how many production units and lines, how many lines in all, and the lines weighted by
purpose.
-/

namespace DiffGauge.Gate

/-- The weight of a line of each purpose. A purpose without a weight counts nothing. -/
abbrev Weights := List (Purpose × Int)

/-- The weight of a line of a purpose. -/
def Weights.of (w : Weights) (p : Purpose) : Int := (List.lookup p w).getD 0

/-- The number of changes of one purpose and kind. -/
structure Count where
  purpose : Purpose
  kind : ChangeKind
  number : Int
  deriving DecidableEq, Repr

/-- What a list of changes touches. -/
structure Summary where
  counts : List Count := []
  weightedScore : Int := 0
  prodUnits : Int := 0
  prodAdded : Int := 0
  prodRemoved : Int := 0
  totalAdded : Int := 0
  totalRemoved : Int := 0
  deriving DecidableEq, Repr

/-- The production lines, added and removed. -/
def Summary.prodLines (s : Summary) : Int := s.prodAdded + s.prodRemoved

/-- The number of changes. -/
def Summary.totalChanges (s : Summary) : Int := total (s.counts.map (·.number))

/-- The number of changes of a purpose and a kind. -/
def Summary.count (s : Summary) (p : Purpose) (k : ChangeKind) : Int :=
  match s.counts.find? fun c => c.purpose == p && c.kind == k with
  | some c => c.number
  | none => 0

/-- Every pair of a purpose and a kind, in the order of reports. -/
def countKeys : List (Purpose × ChangeKind) :=
  Purpose.all.flatMap fun p => ChangeKind.all.map fun k => (p, k)

/-- The change is to shipping code. -/
def isProduction (c : Change) : Bool := c.unit.purpose.isProduction

/-- The change leaves a declared unit of shipping code new or different. -/
def countsAsUnit (c : Change) : Bool :=
  isProduction c && c.unit.isIdentified && (c.kind == .added || c.kind == .modified)

/-- The counts of a list of changes, without those that are zero. -/
def countsOf (changes : List Change) : List Count :=
  countKeys.filterMap fun (p, k) =>
    match changes.countP fun c => c.unit.purpose == p && c.kind == k with
    | 0 => none
    | n => some ⟨p, k, n⟩

/-- The summary of a list of changes. -/
def summarize (weights : Weights) (changes : List Change) : Summary :=
  let prod := changes.filter isProduction
  { counts := countsOf changes
    weightedScore := total (changes.map fun c => weights.of c.unit.purpose * c.total)
    prodUnits := changes.countP countsAsUnit
    prodAdded := total (prod.map (·.added))
    prodRemoved := total (prod.map (·.removed))
    totalAdded := total (changes.map (·.added))
    totalRemoved := total (changes.map (·.removed)) }

end DiffGauge.Gate
