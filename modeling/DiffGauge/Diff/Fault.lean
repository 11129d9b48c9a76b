import DiffGauge.Text.Digit
import DiffGauge.Text.Quoted

/-!
# Faults of a diff

Why a text is not a diff, and at which line. A line number in a hunk header that is longer than
any reader accepts is a fault of its own, without a place.
-/

namespace DiffGauge.Diff

/-- A line of a diff without its line ending. -/
abbrev Line := List Char

/-- What is wrong with a diff. -/
inductive Cause where
  | hunkOutsideSection
  | headerWithoutPaths (header : Line)
  | sectionWithoutBody (path : Option String)
  | sectionWithoutHunk (path : Option String)
  | malformedOldPath (line : Line)
  | unpairedOldPath
  | missingPath (line : Line)
  | malformedHunkHeader (header : Line)
  | excessBody
  | truncatedHunk (oldOwed newOwed beforeLine : Nat)
  deriving DecidableEq, Repr

/-- Why reading a diff failed. -/
inductive Fault where
  | at (cause : Cause) (line : Nat)
  | numberTooLong
  deriving DecidableEq, Repr

/-- A path in quotes, or the word for no path. -/
def quotedPath (path : Option String) : String :=
  match path with
  | some p => Text.quoted p
  | none => "None"

/-- A line in quotes. -/
def quotedLine (line : Line) : String := Text.quoted (String.ofList line)

/-- The wording of a cause. -/
def Cause.message : Cause → String
  | .hunkOutsideSection => "hunk header outside of a file section"
  | .headerWithoutPaths header =>
    "truncated diff header, missing path tokens: " ++ quotedLine header
  | .sectionWithoutBody path =>
    "truncated file section for " ++ quotedPath path ++ ": no path lines or hunks"
  | .sectionWithoutHunk path =>
    "file section for " ++ quotedPath path ++ " has no hunk header"
  | .malformedOldPath line => "malformed old path line: " ++ quotedLine line
  | .unpairedOldPath => "'---' path line without a following '+++' line"
  | .missingPath line => "missing path token in " ++ quotedLine line
  | .malformedHunkHeader header => "malformed hunk header: " ++ quotedLine header
  | .excessBody => "hunk body exceeds the line counts declared in its header"
  | .truncatedHunk oldOwed newOwed beforeLine =>
    "hunk truncated: expected " ++ Text.natText oldOwed ++ " more old-side and "
      ++ Text.natText newOwed ++ " more new-side lines before line " ++ Text.natText beforeLine

/-- The wording of a fault, with its place if it has one. -/
def Fault.message : Fault → String
  | .at cause line =>
    "failed to parse diff: " ++ cause.message ++ " (line " ++ Text.natText line ++ ")"
  | .numberTooLong => "failed to parse diff: a line number has too many digits"

end DiffGauge.Diff
