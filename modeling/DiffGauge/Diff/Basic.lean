import DiffGauge.LineSpan
import DiffGauge.Total

/-!
# Diffs

A diff is a list of file sections. A section names the two sides of a file and holds hunks; a
hunk holds numbered lines, each of them context, added or removed. Added lines have a number on
the new side only, removed lines on the old side only, context lines on both.
-/

namespace DiffGauge.Diff

/-- What a line of a hunk says about its text. -/
inductive LineKind where
  | context
  | added
  | removed
  deriving DecidableEq, Repr

/-- The name of a line kind in reports. -/
def LineKind.text : LineKind → String
  | .context => "context"
  | .added => "added"
  | .removed => "removed"

/-- Every line kind. -/
def LineKind.all : List LineKind := [.context, .added, .removed]

/-- A line of a hunk with its number on each side that has it. -/
structure HunkLine where
  kind : LineKind
  content : String
  oldNo : Option Int := none
  newNo : Option Int := none
  deriving DecidableEq, Repr

/-- The side that a line of a kind is numbered on: removed lines on the old side, all others
    on the new one. -/
def HunkLine.number? (l : HunkLine) : Option Int :=
  match l.kind with
  | .removed => l.oldNo
  | .context | .added => l.newNo

/-- A line that has no number on its side. -/
structure Unnumbered where
  kind : LineKind
  deriving DecidableEq, Repr

/-- The wording of a missing line number. -/
def Unnumbered.message (e : Unnumbered) : String := e.kind.text ++ " line has no line number"

/-- The number of a line on its side. -/
def HunkLine.number (l : HunkLine) : Except Unnumbered Int :=
  match l.number? with
  | some n => .ok n
  | none => .error ⟨l.kind⟩

/-- The line has a number on its side. -/
def HunkLine.IsNumbered (l : HunkLine) : Prop := l.number?.isSome = true

instance (l : HunkLine) : Decidable l.IsNumbered :=
  inferInstanceAs (Decidable (l.number?.isSome = true))

/-- A line with a number is asked for it without fault. -/
theorem HunkLine.IsNumbered.number_eq_ok {l : HunkLine} (h : l.IsNumbered) :
    ∃ n, l.number? = some n ∧ l.number = .ok n := by
  obtain ⟨n, hn⟩ := Option.isSome_iff_exists.1 h
  refine ⟨n, hn, ?_⟩
  rw [number, hn]

/-- A line that is asked for its number without fault has it. -/
theorem HunkLine.isNumbered_of_number {l : HunkLine} {n : Int} (h : l.number = .ok n) :
    l.IsNumbered := by
  show l.number?.isSome = true
  rw [number] at h
  cases hl : l.number? with
  | none =>
      rw [hl] at h
      cases h
  | some m => rfl

/-- A run of lines, with the first line and the number of lines that its header states for each
    side, and the text after the header. -/
structure Hunk where
  oldStart : Int
  oldCount : Int
  newStart : Int
  newCount : Int
  heading : String := ""
  lines : List HunkLine := []
  deriving DecidableEq, Repr

/-- The number of lines of a kind. -/
def Hunk.count (h : Hunk) (k : LineKind) : Nat := h.lines.countP fun l => l.kind == k

/-- What happened to a file. -/
inductive FileStatus where
  | added
  | modified
  | deleted
  | renamed
  | modeChanged
  deriving DecidableEq, Repr

/-- The name of a file status in reports. -/
def FileStatus.text : FileStatus → String
  | .added => "added"
  | .modified => "modified"
  | .deleted => "deleted"
  | .renamed => "renamed"
  | .modeChanged => "mode_changed"

/-- Every file status. -/
def FileStatus.all : List FileStatus := [.added, .modified, .deleted, .renamed, .modeChanged]

/-- The first of two paths that is there and not empty; the second as it is if the first is
    not. -/
def present (first second : Option String) : Option String :=
  match first with
  | some p => if p.isEmpty then second else some p
  | none => second

/-- The section of a diff about one file. A side on which the file does not exist has no
    path. -/
structure FileDiff where
  oldPath : Option String
  newPath : Option String
  status : FileStatus := .modified
  isRename : Bool := false
  isBinary : Bool := false
  hunks : List Hunk := []
  deriving DecidableEq, Repr

/-- The path that changes of the file are listed under: the new one where there is one. -/
def FileDiff.path (f : FileDiff) : String := (present f.newPath f.oldPath).getD ""

/-- The number of lines of a kind in all hunks. -/
def FileDiff.count (f : FileDiff) (k : LineKind) : Nat := totalCount (f.hunks.map (·.count k))

/-- All lines of the file have a number on their side. -/
def FileDiff.IsNumbered (f : FileDiff) : Prop := ∀ h ∈ f.hunks, ∀ l ∈ h.lines, l.IsNumbered

instance (f : FileDiff) : Decidable f.IsNumbered :=
  inferInstanceAs (Decidable (∀ h ∈ f.hunks, ∀ l ∈ h.lines, l.IsNumbered))

end DiffGauge.Diff
