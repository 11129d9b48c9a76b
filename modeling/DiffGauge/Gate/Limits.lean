import DiffGauge.Gate.Summary

/-!
# Limits

A change set passes when no limit is exceeded. Each limit is checked on its own, in a fixed
order; the limit on production lines applies only where it is set.
-/

namespace DiffGauge.Gate

/-- The bounds on a summary. -/
structure Limits where
  maxProdUnits : Int := 30
  maxWeightedScore : Int := 100
  maxProdLines : Option Int := none
  deriving DecidableEq, Repr

/-- What a bound is on. -/
inductive Limit where
  | prodUnits
  | weightedScore
  | prodLines
  deriving DecidableEq, Repr

/-- The name of a limit in reports and settings. -/
def Limit.text : Limit → String
  | .prodUnits => "max_prod_units"
  | .weightedScore => "max_weighted_score"
  | .prodLines => "max_prod_lines"

/-- Every limit, in the order in which they are checked. -/
def Limit.all : List Limit := [.prodUnits, .weightedScore, .prodLines]

/-- The bound that is set on a limit. -/
def Limits.bound? (l : Limits) : Limit → Option Int
  | .prodUnits => some l.maxProdUnits
  | .weightedScore => some l.maxWeightedScore
  | .prodLines => l.maxProdLines

/-- What a summary has of the thing that a limit is on. -/
def Limit.actual (s : Summary) : Limit → Int
  | .prodUnits => s.prodUnits
  | .weightedScore => s.weightedScore
  | .prodLines => s.prodLines

/-- A limit by name, what was found and what was allowed. -/
structure Violation where
  limit : String
  actual : Int
  maximum : Int
  deriving DecidableEq, Repr

/-- The violations of limits, in the order of the limits. -/
structure Outcome where
  violations : List Violation
  deriving DecidableEq, Repr

/-- No limit is exceeded. -/
def Outcome.passed (o : Outcome) : Bool := o.violations.isEmpty

/-- A given limit is exceeded. -/
def Outcome.exceeded (o : Outcome) (l : Limit) : Bool :=
  o.violations.any fun v => v.limit == l.text

/-- The violation of a limit, if it is set and exceeded. -/
def Limits.violation? (l : Limits) (s : Summary) (limit : Limit) : Option Violation :=
  match l.bound? limit with
  | some maximum =>
    let actual := limit.actual s
    if maximum < actual then some ⟨limit.text, actual, maximum⟩ else none
  | none => none

/-- Checks every limit. -/
def evaluate (l : Limits) (s : Summary) : Outcome := ⟨Limit.all.filterMap (l.violation? s)⟩

end DiffGauge.Gate
