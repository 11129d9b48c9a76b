import DiffGauge.Attribution.Block
import DiffGauge.Attribution.Choice

/-!
# Where the lines of a block go

Each added and each removed line of a block has one target: a unit of the new side, a unit of
the old side that is gone, or no unit at all.

* An added line goes to the innermost unit around it.
* With the old units at hand, a removed line goes to the counterpart of the innermost old unit
  around it, or to that old unit if it has none.
* Without them it goes to the innermost unit at its position or, in a block that adds nothing,
  to the smallest unit that surrounds the place of the deletion.
-/

namespace DiffGauge.Attribution

open Diff

/-- What a changed line is attributed to: the unit with an index on either side, or nothing, in
    which case its own number is kept. -/
inductive Target where
  | unit (index : Nat)
  | oldUnit (index : Nat)
  | stray (line : Int)
  deriving DecidableEq, Repr

/-- The targets of the added and of the removed lines of a block, each in their order. -/
structure Targets where
  added : List Target
  removed : List Target
  deriving DecidableEq, Repr

/-- The target of the added line with a number. -/
def addedTarget (units : List CodeUnit) (line : Int) : Target :=
  match innermost? units line with
  | some i => .unit i
  | none => .stray line

/-- The target of a removed line that takes the place of the new line `position`, when the old
    units are known. -/
def removedTarget (units olds : List CodeUnit) (position line : Int) : Target :=
  match innermost? olds line with
  | none => .stray line
  | some o =>
    match (olds[o]?).bind fun old => counterpart? units old position with
    | some i => .unit i
    | none => .oldUnit o

/-- The unit that the removed line with index `i` of a block goes to when the old units are not
    known. -/
def Block.holder? (b : Block) (units : List CodeUnit) (i : Nat) : Option Nat :=
  if b.added.isEmpty then surrounding? units b.anchor else innermost? units (b.position i)

/-- The target of the removed line with index `i` of a block. A line that its position
    attributes needs no number. -/
def Block.removedTarget (b : Block) (units : List CodeUnit) (olds : Option (List CodeUnit))
    (i : Nat) (line : HunkLine) : Except Unnumbered Target :=
  match olds with
  | some olds => line.number.map (Attribution.removedTarget units olds (b.position i))
  | none =>
    match b.holder? units i with
    | some u => .ok (.unit u)
    | none => line.number.map .stray

/-- The targets of the lines of a block. -/
def Block.targets (b : Block) (units : List CodeUnit) (olds : Option (List CodeUnit)) :
    Except Unnumbered Targets := do
  let removed ← b.removed.zipIdx.mapM fun (line, i) => b.removedTarget units olds i line
  return { added := b.added.map (addedTarget units), removed }

end DiffGauge.Attribution
