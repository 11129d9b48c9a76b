import DiffGauge.Analysis.Basic
import DiffGauge.Gate.Limits
import DiffGauge.Text.Digit

/-!
# The report as a document

A document is a tree of records, lists and plain values. The report of a run says whether it
passed, what was counted, which limits were exceeded, which files were passed over and why, and,
if details are wanted, every change.
-/

namespace DiffGauge.Report

open Analysis Gate

/-- A tree of records, lists and plain values. -/
inductive Document where
  | nothing
  | flag (b : Bool)
  | integer (n : Int)
  | real (x : Float)
  | text (s : String)
  | list (items : List Document)
  | record (fields : List (String × Document))
  deriving Repr

mutual

/-- All numbers in a document can be written. -/
def Document.isWritable : Document → Bool
  | .integer n => Text.isWritable n
  | .list items => areWritable items
  | .record fields => areWritableFields fields
  | .nothing => true
  | .flag _ => true
  | .real _ => true
  | .text _ => true

/-- All numbers in some documents can be written. -/
def areWritable : List Document → Bool
  | [] => true
  | d :: ds => d.isWritable && areWritable ds

/-- All numbers in the fields of a record can be written. -/
def areWritableFields : List (String × Document) → Bool
  | [] => true
  | (_, d) :: fs => d.isWritable && areWritableFields fs

end

/-- What a report is about. -/
structure Run where
  result : Result
  summary : Summary
  violations : List Violation
  showsDetails : Bool

/-- The version of the layout of reports. -/
def layoutVersion : String := "1.0"

/-- The number of changes of each kind that serve a purpose. -/
def countsDocument (s : Summary) (p : Purpose) : Document :=
  .record (ChangeKind.all.map fun k => (k.text, .integer (s.count p k)))

/-- Some change serves the purpose. -/
def isCounted (s : Summary) (p : Purpose) : Bool :=
  ChangeKind.all.any fun k => s.count p k != 0

/-- The summary as a document. -/
def summaryDocument (s : Summary) : Document :=
  .record [
    ("weighted_score", .integer s.weightedScore),
    ("prod_units", .integer s.prodUnits),
    ("prod_lines_added", .integer s.prodAdded),
    ("prod_lines_removed", .integer s.prodRemoved),
    ("total_added", .integer s.totalAdded),
    ("total_removed", .integer s.totalRemoved),
    ("changes_by_type", .record ((Purpose.all.filter (isCounted s)).map fun p =>
      (p.text, countsDocument s p)))]

/-- A violation as a document. -/
def violationDocument (v : Violation) : Document :=
  .record [("limit", .text v.limit), ("actual", .integer v.actual),
    ("maximum", .integer v.maximum)]

/-- A text that may be missing. -/
def textOrNothing : Option String → Document
  | some s => .text s
  | none => .nothing

/-- A file that was passed over as a document. -/
def skippedDocument (f : FileEntry) : Document :=
  .record [("file", .text f.path), ("reason", textOrNothing (f.skipped.map SkipReason.text))]

/-- A change as a document. -/
def changeDocument (c : Change) : Document :=
  .record [
    ("file", .text c.file),
    ("kind", .text c.kind.text),
    ("unit", textOrNothing (c.unit.kind.map UnitKind.text)),
    ("name", .text c.unit.name),
    ("visibility", .text c.unit.visibility.text),
    ("code_type", .text c.unit.purpose.text),
    ("start_line", .integer c.unit.span.first),
    ("end_line", .integer c.unit.span.last),
    ("added", .integer c.added),
    ("removed", .integer c.removed)]

/-- The fields of a report that are always there. -/
def mainFields (r : Run) : List (String × Document) :=
  [ ("version", .text layoutVersion),
    ("passed", .flag (Outcome.passed ⟨r.violations⟩)),
    ("analyzed_files", .integer r.result.analyzedFiles.length),
    ("total_changes", .integer r.result.changes.length),
    ("summary", summaryDocument r.summary),
    ("violations", .list (r.violations.map violationDocument)),
    ("skipped_files", .list (r.result.skippedFiles.map skippedDocument)),
    ("errors", .list (r.result.errors.map .text)),
    ("duration_ms", .real r.result.durationMs)]

/-- The field that lists the changes. -/
def detailFields (r : Run) : List (String × Document) :=
  if r.showsDetails then [("changes", .list (r.result.changes.map changeDocument))] else []

/-- The report of a run. -/
def document (r : Run) : Document := .record (mainFields r ++ detailFields r)

end DiffGauge.Report
