/-!
# Totals

Sums of whole numbers.
-/

namespace DiffGauge

/-- The sum of some whole numbers. -/
def total (ns : List Int) : Int := ns.foldr (· + ·) 0

/-- The sum of some counts. -/
def totalCount (ns : List Nat) : Nat := ns.foldr (· + ·) 0

end DiffGauge
