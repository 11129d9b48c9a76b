import DiffGauge.Diff.Reader
import DiffGauge.Proofs.Diff.Sides
import Mathlib

/-!
# Printed diffs

A diff as it is written by a program: a list of file sections, each opened by a line of its own
and extended headers or by its path lines alone, with at least one hunk. The header of a hunk
states the number of its lines on each side, and the body may be any lines at all behind their
marks. `printed` writes the text and `SectionText.file` says which file a section stands for; the
conditions that a part has to meet are fields of its type.
-/

namespace DiffGauge.Diff

open Text

/-! ## Hunks -/

/-- The mark in front of a line of a kind. -/
def LineKind.mark : LineKind → Char
  | .context => ' '
  | .added => '+'
  | .removed => '-'

/-- A line of a body. Its content may look like anything, a path line or a hunk header included. -/
structure BodyText where
  kind : LineKind
  content : List Char
  no_break : '\n' ∉ content
  no_return : content.getLast? ≠ some '\r'

/-- The line with its mark. -/
def BodyText.line (b : BodyText) : Line := b.kind.mark :: b.content

/-- A hunk that begins at the given lines of the two sides. Its heading is trimmed and stands on
    the line of the header. A side with one line may leave out its count there (`oldTerse`,
    `newTerse`). -/
structure HunkText where
  oldStart : Nat
  newStart : Nat
  heading : List Char
  body : List BodyText
  oldTerse : Bool := false
  newTerse : Bool := false
  trim_heading : trim heading = heading
  heading_no_break : '\n' ∉ heading
  oldStart_lt : oldStart < 10 ^ maxDigits
  newStart_lt : newStart < 10 ^ maxDigits
  oldCount_lt : body.countP (·.kind.onOld) < 10 ^ maxDigits
  newCount_lt : body.countP (·.kind.onNew) < 10 ^ maxDigits

/-- The number of lines on the old side. -/
def HunkText.oldCount (h : HunkText) : Nat := h.body.countP (·.kind.onOld)

/-- The number of lines on the new side. -/
def HunkText.newCount (h : HunkText) : Nat := h.body.countP (·.kind.onNew)

/-- The count of a side in a header, behind a comma. -/
def countText (terse : Bool) (count : Nat) : List Char :=
  if terse && count == 1 then [] else ',' :: digitsOf count

/-- What a header says after its second pair of signs: a heading behind a blank, or nothing. -/
def headingText (heading : List Char) : List Char :=
  if heading.isEmpty then [] else ' ' :: heading

/-- The header of a hunk. -/
def HunkText.header (h : HunkText) : Line :=
  "@@ -".toList ++ (digitsOf h.oldStart ++ (countText h.oldTerse h.oldCount
    ++ (" +".toList ++ (digitsOf h.newStart ++ (countText h.newTerse h.newCount
    ++ (" @@".toList ++ headingText h.heading))))))

/-- The lines of a hunk. -/
def HunkText.lines (h : HunkText) : List Line := h.header :: h.body.map BodyText.line

/-- The lines that a body stands for, numbered from `old` and `new`. -/
def numbered (old new : Int) : List BodyText → List HunkLine
  | [] => []
  | b :: bs =>
    let content := String.ofList b.content
    match b.kind with
    | .context =>
      { kind := .context, content, oldNo := some old, newNo := some new }
        :: numbered (old + 1) (new + 1) bs
    | .added => { kind := .added, content, newNo := some new } :: numbered old (new + 1) bs
    | .removed => { kind := .removed, content, oldNo := some old } :: numbered (old + 1) new bs

/-- The hunk that a text stands for. -/
def HunkText.hunk (h : HunkText) : Hunk :=
  { oldStart := h.oldStart
    oldCount := h.oldCount
    newStart := h.newStart
    newCount := h.newCount
    heading := String.ofList h.heading
    lines := numbered h.oldStart h.newStart h.body }

/-! ## Sections -/

/-- A path that a line can name up to its end. -/
structure PathText where
  chars : List Char
  ne_nil : chars ≠ []
  no_tab : '\t' ∉ chars
  no_break : '\n' ∉ chars
  no_blank_end : ∀ c, chars.getLast? = some c → isBlank c = false

/-- A file mode. -/
structure ModeText where
  digits : List Char
  isNumber : isNumber digits = true

/-- What stands before the path lines of a section that has an opening line: the two paths of
    that line, and the extended headers. -/
structure OpeningText where
  left : PathText
  right : PathText
  newMode : Option ModeText := none
  deletedMode : Option ModeText := none
  rename : Option (PathText × PathText) := none

/-- The line that says that a file is new. -/
def newModeLine (m : ModeText) : Line := "new file mode ".toList ++ m.digits

/-- The line that says that a file is deleted. -/
def deletedModeLine (m : ModeText) : Line := "deleted file mode ".toList ++ m.digits

/-- The lines that say that a file is renamed. -/
def renameLines (r : PathText × PathText) : List Line :=
  ["rename from ".toList ++ r.1.chars, "rename to ".toList ++ r.2.chars]

/-- The opening line. -/
def OpeningText.line (o : OpeningText) : Line :=
  "diff --git ".toList ++ ("a/".toList ++ (o.left.chars ++ (" b/".toList ++ o.right.chars)))

/-- The extended headers. -/
def OpeningText.headers (o : OpeningText) : List Line :=
  o.newMode.toList.map newModeLine
    ++ (o.deletedMode.toList.map deletedModeLine ++ o.rename.toList.flatMap renameLines)

/-- A file section. A side on which the file does not exist has no path. -/
structure SectionText where
  opening : Option OpeningText
  oldPath : Option PathText
  newPath : Option PathText
  first : HunkText
  more : List HunkText

/-- A path line: its beginning, the letter of its side, and the path. -/
def pathLine (lead side : String) (path : Option PathText) : Line :=
  lead.toList ++ match path with
    | some p => side.toList ++ p.chars
    | none => "/dev/null".toList

/-- The path lines and the hunks of a section. -/
def SectionText.sides (s : SectionText) : List Line :=
  pathLine "--- " "a/" s.oldPath :: pathLine "+++ " "b/" s.newPath
    :: (s.first :: s.more).flatMap HunkText.lines

/-- The lines of a section. -/
def SectionText.lines (s : SectionText) : List Line :=
  match s.opening with
  | some o => o.line :: (o.headers ++ s.sides)
  | none => s.sides

/-- The section says that the file is renamed. -/
def SectionText.isRename (s : SectionText) : Bool := s.opening.any (·.rename.isSome)

/-- What happened to the file of a section. -/
def SectionText.status (s : SectionText) : FileStatus :=
  match s.oldPath, s.newPath with
  | _, none => .deleted
  | none, some _ => .added
  | some _, some _ => if s.isRename then .renamed else .modified

/-- The file that a section stands for. -/
def SectionText.file (s : SectionText) : FileDiff :=
  { oldPath := s.oldPath.map fun p => String.ofList p.chars
    newPath := s.newPath.map fun p => String.ofList p.chars
    status := s.status
    isRename := s.isRename
    isBinary := false
    hunks := (s.first :: s.more).map HunkText.hunk }

/-- The text of a diff: the lines of its sections, each with a line break at its end. -/
def printed (sections : List SectionText) : String :=
  String.ofList ((sections.flatMap SectionText.lines).flatMap fun line => line ++ ['\n'])

/-- A path of one letter. -/
def letterPath : PathText :=
  { chars := ['x']
    ne_nil := by decide
    no_tab := by decide
    no_break := by decide
    no_blank_end := by
      rintro c ⟨⟩
      decide }

/-- Lines whose content makes them look like path lines. -/
def pathLikeLines : HunkText :=
  { oldStart := 1
    newStart := 1
    heading := []
    body :=
      [⟨.removed, "-- a/y".toList, by decide, by decide⟩,
       ⟨.added, "++ b/y".toList, by decide, by decide⟩]
    newTerse := true
    trim_heading := rfl
    heading_no_break := by decide
    oldStart_lt := by norm_num [maxDigits]
    newStart_lt := by norm_num [maxDigits]
    oldCount_lt := by
      show 1 < 10 ^ maxDigits
      norm_num [maxDigits]
    newCount_lt := by
      show 1 < 10 ^ maxDigits
      norm_num [maxDigits] }

example : printed
    [{ opening := none, oldPath := letterPath, newPath := none
       first := pathLikeLines, more := [] }]
    = "--- a/x\n+++ /dev/null\n@@ -1,1 +1 @@\n--- a/y\n+++ b/y\n" := by
  decide

end DiffGauge.Diff
