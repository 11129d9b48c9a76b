import DiffGauge.CodeUnit

/-!
# The unit that a line belongs to

A line belongs to the smallest unit around it, of equal ones to the last in the list. A unit of
the old side lives on in a unit of the same kind and name: the smallest one at the given place,
else the nearest, of equal ones the first.
-/

namespace DiffGauge.Attribution

/-- The index and the value of the best unit that passes a test; `keeps u v` says that `u`, which
    stands before `v`, is kept against it. -/
def best? (p : CodeUnit → Bool) (keeps : CodeUnit → CodeUnit → Bool) :
    List CodeUnit → Option (Nat × CodeUnit)
  | [] => none
  | u :: us =>
    match best? p keeps us with
    | none => if p u then some (0, u) else none
    | some (i, v) => if p u && keeps u v then some (0, u) else some (i + 1, v)

/-- The first unit is smaller than the second. -/
def isSmaller (u v : CodeUnit) : Bool := u.span.length < v.span.length

/-- The index of the smallest unit that passes a test, of equal ones the last. -/
def smallest? (p : CodeUnit → Bool) (units : List CodeUnit) : Option Nat :=
  (best? p isSmaller units).map (·.1)

/-- The index of the smallest unit that contains a line. -/
def innermost? (units : List CodeUnit) (line : Int) : Option Nat :=
  smallest? (fun u => u.span.contains line) units

/-- The index of the smallest unit that contains a line and the line before it. -/
def surrounding? (units : List CodeUnit) (anchor : Int) : Option Nat :=
  smallest? (fun u => u.span.first < anchor && anchor ≤ u.span.last) units

/-- The index of the unit with the least key that passes a test, of equal ones the first. -/
def first? (key : CodeUnit → Nat) (p : CodeUnit → Bool) (units : List CodeUnit) : Option Nat :=
  (best? p (fun u v => key u ≤ key v) units).map (·.1)

/-- The number of lines between the beginnings of two units. -/
def distance (u v : CodeUnit) : Nat := ((u.span.first : Int) - v.span.first).natAbs

/-- The index of the unit that an old unit has become: a namesake at `position` or else the
    nearest namesake. -/
def counterpart? (units : List CodeUnit) (old : CodeUnit) (position : Int) : Option Nat :=
  match first? (·.span.length) (fun u => u.isNamesake old && u.span.contains position) units with
  | some i => some i
  | none => first? (distance old) (·.isNamesake old) units

end DiffGauge.Attribution
