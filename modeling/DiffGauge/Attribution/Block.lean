import DiffGauge.Diff.Basic

/-!
# Change blocks

A block is a longest run of added and removed lines between the context lines of a hunk. It
knows the numbers of its added lines on the new side, those of its removed lines on the old
side, and its anchor: the number that the next line of the new side has where the block begins.
-/

namespace DiffGauge.Attribution

open Diff

/-- A longest run of changed lines. -/
structure Block where
  added : List Int
  removed : List HunkLine
  anchor : Int
  deriving DecidableEq, Repr

/-- The line is added or removed. -/
def isChanged (l : HunkLine) : Bool := l.kind != .context

/-- The block of a run of changed lines. -/
def Block.ofRun (anchor : Int) (run : List HunkLine) : Except Unnumbered Block := do
  let added ← (run.filter fun l => l.kind == .added).mapM HunkLine.number
  return { added, removed := run.filter fun l => l.kind == .removed, anchor }

/-- The blocks of some lines, in order; `next` is the number that the next line of the new side
    has. A line without its number ends the list. -/
def blocksFrom (next : Int) (lines : List HunkLine) : List (Except Unnumbered Block) :=
  match lines with
  | [] => []
  | line :: below =>
    if isChanged line then
      have : (below.dropWhile isChanged).length < (line :: below).length :=
        Nat.lt_succ_of_le (List.dropWhile_suffix isChanged).length_le
      match Block.ofRun next (line :: below.takeWhile isChanged) with
      | .error e => [.error e]
      | .ok block => .ok block :: blocksFrom next (below.dropWhile isChanged)
    else
      match line.number with
      | .error e => [.error e]
      | .ok n => blocksFrom (n + 1) below
  termination_by lines.length
  decreasing_by all_goals (simp only [List.length_cons] at *; omega)

/-- The number of the first line of the new side. A hunk that has none there states the line
    before it. -/
def firstNew (h : Hunk) : Int := if 0 < h.newCount then h.newStart else h.newStart + 1

/-- The blocks of a hunk. -/
def blocks (h : Hunk) : List (Except Unnumbered Block) := blocksFrom (firstNew h) h.lines

/-- The line of the new side at which the removed line with index `i` is taken to sit: that of
    the added line with the same index, of the last one if there are fewer, and the anchor if
    there are none. -/
def Block.position (b : Block) (i : Nat) : Int :=
  match b.added[i]? with
  | some n => n
  | none => b.added.getLast?.getD b.anchor

end DiffGauge.Attribution
