import DiffGauge.Diff.Header

/-!
# The body of a hunk

A hunk header states how many lines each side has. The body is read while either side is owed a
line. Once both have theirs, further body lines belong to the hunk only if nothing but body
lines follows to the end of the text; and a text that ends early, in blank lines if in any,
ends a hunk early.
-/

namespace DiffGauge.Diff

open Text

/-- Lines still to be read, and the number of the first of them. -/
structure Input where
  lineNo : Nat
  lines : List Line
  deriving DecidableEq, Repr

/-- The line that says that a file does not end in a line break. It is no line of the file. -/
def isNoNewlineMark (line : Line) : Bool := line == "\\ No newline at end of file".toList

/-- The kind and the content of a body line, told by its first character. -/
def marked? : Line → Option (LineKind × List Char)
  | ' ' :: content => some (.context, content)
  | '+' :: content => some (.added, content)
  | '-' :: content => some (.removed, content)
  | _ => none

/-- A line that may stand in the body of a hunk. -/
def isBodyLine (line : Line) : Bool :=
  (marked? line).isSome || line.isEmpty || isNoNewlineMark line

/-- The numbers of the next line on the two sides. -/
structure Place where
  oldNo : Nat
  newNo : Nat
  deriving DecidableEq, Repr

/-- The line of a kind at a place. -/
def Place.line (p : Place) (kind : LineKind) (content : List Char) : HunkLine :=
  { kind
    content := String.ofList content
    oldNo := if kind = .added then none else some p.oldNo
    newNo := if kind = .removed then none else some p.newNo }

/-- The place after a line of a kind. -/
def Place.after (p : Place) : LineKind → Place
  | .context => ⟨p.oldNo + 1, p.newNo + 1⟩
  | .added => ⟨p.oldNo, p.newNo + 1⟩
  | .removed => ⟨p.oldNo + 1, p.newNo⟩

/-- The lines that the two sides are still owed. -/
structure Owed where
  old : Nat
  new : Nat
  deriving DecidableEq, Repr

/-- A side is still owed a line. -/
def Owed.some (o : Owed) : Bool := 0 < o.old || 0 < o.new

/-- Both sides are still owed a line. -/
def Owed.both (o : Owed) : Bool := 0 < o.old && 0 < o.new

/-- What is owed after a line of a kind. Nothing less than nothing is owed. -/
def Owed.after (o : Owed) : LineKind → Owed
  | .context => ⟨o.old - 1, o.new - 1⟩
  | .added => ⟨o.old, o.new - 1⟩
  | .removed => ⟨o.old - 1, o.new⟩

/-- The lines of a body with what follows it. -/
structure Body where
  lines : List HunkLine
  rest : Input
  deriving DecidableEq, Repr

/-- The body with a line in front. -/
def Body.push (l : HunkLine) (b : Body) : Body := { b with lines := l :: b.lines }

/-- What a line without a mark does to a hunk: blank lines to the end of the text end it. -/
def unmarked (header : Nat) (owed : Owed) (lineNo : Nat) (lines : List Line) :
    Except Fault Body :=
  if lines.all allBlank then .ok ⟨[], ⟨lineNo, lines⟩⟩
  else .error (.at (.truncatedHunk owed.old owed.new lineNo) header)

/-- The rest of a text that is a body to its end, after all that the header states. -/
def readExcess (header : Nat) (place : Place) (lineNo : Nat) : List Line → Except Fault Body
  | [] => .ok ⟨[], ⟨lineNo, []⟩⟩
  | line :: lines =>
    if isNoNewlineMark line then readExcess header place (lineNo + 1) lines
    else
      match marked? line with
      | .some (kind, content) =>
        (readExcess header (place.after kind) (lineNo + 1) lines).map
          (.push (place.line kind content))
      | none => unmarked header ⟨0, 0⟩ lineNo (line :: lines)

/-- The body of a hunk whose header stands at line `header`. An empty line is an empty context
    line while both sides are owed a line. -/
def readBody (header : Nat) (place : Place) (owed : Owed) (lineNo : Nat) :
    List Line → Except Fault Body
  | [] => .ok ⟨[], ⟨lineNo, []⟩⟩
  | line :: lines =>
    if isNoNewlineMark line then readBody header place owed (lineNo + 1) lines
    else if owed.some then
      match if line.isEmpty && owed.both then .some (.context, []) else marked? line with
      | .some (kind, content) =>
        (readBody header (place.after kind) (owed.after kind) (lineNo + 1) lines).map
          (.push (place.line kind content))
      | none => unmarked header owed lineNo (line :: lines)
    else if (line :: lines).all isBodyLine then readExcess header place lineNo (line :: lines)
    else .ok ⟨[], ⟨lineNo, line :: lines⟩⟩

/-- The lines that follow a body are an end of the lines that it was read from. -/
def Input.EndOf (rest : Input) (lineNo : Nat) (lines : List Line) : Prop :=
  ∃ front, lines = front ++ rest.lines ∧ rest.lineNo = lineNo + front.length

/-- The whole input is an end of itself. -/
theorem Input.EndOf.refl (lineNo : Nat) (lines : List Line) :
    Input.EndOf ⟨lineNo, lines⟩ lineNo lines := ⟨[], by simp⟩

/-- An end of what comes after a line is an end of the whole. -/
theorem Input.EndOf.cons {rest : Input} {lineNo : Nat} {lines : List Line} (line : Line)
    (h : rest.EndOf (lineNo + 1) lines) : rest.EndOf lineNo (line :: lines) := by
  obtain ⟨front, h₁, h₂⟩ := h
  exact ⟨line :: front, by simp [h₁], by simp only [h₂, List.length_cons]; omega⟩

/-- An end is no longer than the whole. -/
theorem Input.EndOf.length_le {rest : Input} {lineNo : Nat} {lines : List Line}
    (h : rest.EndOf lineNo lines) : rest.lines.length ≤ lines.length := by
  obtain ⟨front, h, _⟩ := h
  simp [h]

/-- A hunk that ends at these lines takes none of them, and they are blank. -/
theorem unmarked_eq_ok {header lineNo : Nat} {owed : Owed} {lines : List Line} {b : Body}
    (h : unmarked header owed lineNo lines = .ok b) :
    lines.all allBlank = true ∧ b = ⟨[], ⟨lineNo, lines⟩⟩ := by
  unfold unmarked at h
  split at h
  · next hblank =>
    cases h
    exact ⟨hblank, rfl⟩
  · cases h

/-- A result that was changed on its way was there before. -/
theorem map_eq_ok {ε α β : Type} {f : α → β} {r : Except ε α} {b : β} (h : r.map f = .ok b) :
    ∃ a, r = .ok a ∧ f a = b := by
  cases r with
  | error e => cases h
  | ok a =>
    cases h
    exact ⟨a, rfl, rfl⟩

private theorem readExcess_endOf {header : Nat} {place : Place} {lineNo : Nat} {lines : List Line}
    {b : Body} (h : readExcess header place lineNo lines = .ok b) :
    b.rest.EndOf lineNo lines := by
  induction lines generalizing place lineNo b with
  | nil => cases h; exact .refl _ _
  | cons line lines ih =>
    rw [readExcess] at h
    split at h
    · exact .cons line (ih h)
    · split at h
      · obtain ⟨b', h', rfl⟩ := map_eq_ok h
        have hr : b'.rest.EndOf (lineNo + 1) lines := ih h'
        exact hr.cons line
      · obtain ⟨-, rfl⟩ := unmarked_eq_ok h
        exact .refl _ _

/-- What a body leaves is an end of the input. -/
theorem readBody_endOf {header : Nat} {place : Place} {owed : Owed} {lineNo : Nat}
    {lines : List Line} {b : Body} (h : readBody header place owed lineNo lines = .ok b) :
    b.rest.EndOf lineNo lines := by
  induction lines generalizing place owed lineNo b with
  | nil => cases h; exact .refl _ _
  | cons line lines ih =>
    rw [readBody] at h
    split at h
    · exact .cons line (ih h)
    split at h
    · split at h
      · obtain ⟨b', h', rfl⟩ := map_eq_ok h
        have hr : b'.rest.EndOf (lineNo + 1) lines := ih h'
        exact hr.cons line
      · obtain ⟨-, rfl⟩ := unmarked_eq_ok h
        exact .refl _ _
    split at h
    · exact readExcess_endOf h
    · cases h
      exact .refl _ _

end DiffGauge.Diff
