import DiffGauge.Attribution.Target
import DiffGauge.Purpose
import DiffGauge.Total

/-!
# The changes of a file

The targets of all changed lines are added up: every unit with a line is one change, every old
unit with a line is one removal, and the lines of a block that belong to no unit are one change
of an unnamed region. Each line is counted once, so the changes have as many added and removed
lines as the diff.
-/

namespace DiffGauge.Attribution

open Diff

/-- The number of a line that belongs to no unit. -/
def Target.stray? : Target → Option Int
  | .stray line => some line
  | _ => none

/-- A file's lines after attribution: the numbers of all added lines, and the targets of each
    block. -/
structure Attributed where
  addedLines : List Int
  blocks : List Targets
  deriving DecidableEq, Repr

/-- The lines of a file diff, attributed block by block. -/
def attributed (units : List CodeUnit) (olds : Option (List CodeUnit)) (hunks : List Hunk) :
    Except Unnumbered Attributed := do
  let parts ← (hunks.flatMap blocks).mapM fun block? => do
    let block ← block?
    return (block.added, ← block.targets units olds)
  return { addedLines := parts.flatMap (·.1), blocks := parts.map (·.2) }

/-- The number of added lines with a target. -/
def Attributed.addedTo (a : Attributed) (t : Target) : Nat :=
  totalCount (a.blocks.map fun b => b.added.count t)

/-- The number of removed lines with a target. -/
def Attributed.removedFrom (a : Attributed) (t : Target) : Nat :=
  totalCount (a.blocks.map fun b => b.removed.count t)

/-- Every line of a span is among the given lines. A span with more lines than are given is out
    of the question. -/
def allAmong (lines : List Int) (s : LineSpan) : Bool :=
  s.length ≤ lines.length && (List.range' s.first s.length).all fun n => lines.contains (n : Int)

/-- The change of the unit with an index, if any line went to it. The unit is new if all its
    lines are and none was removed from it. -/
def Attributed.unitChange? (a : Attributed) (file : String) (unit : CodeUnit) (i : Nat) :
    Option Change :=
  let added := a.addedTo (.unit i)
  let removed := a.removedFrom (.unit i)
  if added = 0 ∧ removed = 0 then none
  else
    some
      { file
        unit
        kind := if removed = 0 && allAmong a.addedLines unit.span then .added else .modified
        added
        removed }

/-- The removal of the old unit with an index, if any line went to it. -/
def Attributed.oldUnitChange? (a : Attributed) (file : String) (unit : CodeUnit) (i : Nat) :
    Option Change :=
  let removed := a.removedFrom (.oldUnit i)
  if removed = 0 then none else some { file, unit, kind := .removed, added := 0, removed }

/-- The region of the stray lines of a block. -/
def region (rules : Rules) (file : String) (span : LineSpan) : CodeUnit :=
  { kind := none
    name := ""
    visibility := .inside
    span
    purpose := .of rules [] [] (Path.moduleOf file) file }

/-- The change of the region outside all units in a block, if it has stray lines. It spans the
    added ones if there are any. -/
def Targets.strayChange? (t : Targets) (rules : Rules) (file : String) : Option Change :=
  let added := t.added.filterMap Target.stray?
  let removed := t.removed.filterMap Target.stray?
  match added, removed with
  | [], [] => none
  | n :: ns, removed =>
    some
      { file
        unit := region rules file (.covering n ns)
        kind := if removed.isEmpty then .added else .modified
        added := ns.length + 1
        removed := removed.length }
  | [], n :: ns =>
    some
      { file
        unit := region rules file (.covering n ns)
        kind := .removed
        added := 0
        removed := ns.length + 1 }

/-- The changes after attribution: those of the units, of the old units and of the regions. -/
def Attributed.changes (a : Attributed) (rules : Rules) (file : String) (units : List CodeUnit)
    (olds : Option (List CodeUnit)) : List Change :=
  units.zipIdx.filterMap (fun (u, i) => a.unitChange? file u i)
    ++ (olds.getD []).zipIdx.filterMap (fun (u, i) => a.oldUnitChange? file u i)
    ++ a.blocks.filterMap (·.strayChange? rules file)

/-- The change begins no later than the other one. -/
def startsNoLater (c d : Change) : Bool := c.unit.span.first ≤ d.unit.span.first

/-- The changes of a file, by the first line of their span. A binary file has none. -/
def changesOf (rules : Rules) (f : FileDiff) (units : List CodeUnit)
    (olds : Option (List CodeUnit)) : Except Unnumbered (List Change) :=
  if f.isBinary then .ok []
  else do
    let a ← attributed units olds f.hunks
    return (a.changes rules f.path units olds).mergeSort startsNoLater

end DiffGauge.Attribution
