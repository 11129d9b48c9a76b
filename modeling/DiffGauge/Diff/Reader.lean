import DiffGauge.Diff.Body

/-!
# Reading a diff

A diff is read line by line into its file sections. Text before and between sections is passed
over; a section is either opened by its own line, with extended headers after it, or by a pair
of path lines alone. `read` gives the sections of a text, or the first fault.
-/

namespace DiffGauge.Diff

open Text

/-! ## Lines -/

/-- A line without the carriage return at its end. -/
def withoutReturn (line : Line) : Line :=
  if line.getLast? = some '\r' then line.dropLast else line

/-- A text without the byte order mark in front. -/
def withoutMark : List Char → List Char
  | '\uFEFF' :: cs => cs
  | cs => cs

/-- The lines of a text. A line break at the end opens no further line. -/
def linesOf (text : List Char) : List Line :=
  let lines := pieces '\n' (withoutMark text)
  let lines := if lines.getLast? = some [] then lines.dropLast else lines
  lines.map withoutReturn

/-! ## Hunks -/

/-- The hunks of a section with what follows them. -/
structure Hunks where
  hunks : List Hunk
  rest : Input
  deriving DecidableEq, Repr

/-- The hunks at the front of some lines. A lone body line is too much, unless it is the
    separator before a signature or opens a section. -/
def readHunks (lineNo : Nat) (lines : List Line) : Except Fault Hunks :=
  match lines with
  | [] => .ok ⟨[], ⟨lineNo, []⟩⟩
  | line :: below =>
    if opensHunk line then
      match HunkHeader.read line lineNo with
      | .error e => .error e
      | .ok h =>
        match hb : readBody lineNo ⟨h.oldStart, h.newStart⟩ ⟨h.oldCount, h.newCount⟩
            (lineNo + 1) below with
        | .error e => .error e
        | .ok body =>
          have : body.rest.lines.length < (line :: below).length :=
            Nat.lt_succ_of_le (readBody_endOf hb).length_le
          (readHunks body.rest.lineNo body.rest.lines).map fun more =>
            { more with
              hunks :=
                { oldStart := h.oldStart
                  oldCount := h.oldCount
                  newStart := h.newStart
                  newCount := h.newCount
                  heading := h.heading
                  lines := body.lines } :: more.hunks }
    else if isNoNewlineMark line then readHunks (lineNo + 1) below
    else if line == "-- ".toList then .ok ⟨[], ⟨lineNo, line :: below⟩⟩
    else if (marked? line).isSome && !atPathLines (line :: below) then
      .error (.at .excessBody lineNo)
    else .ok ⟨[], ⟨lineNo, line :: below⟩⟩
  termination_by lines.length
  decreasing_by all_goals (simp only [List.length_cons] at *; omega)

/-! ## Sections -/

/-- What the opening line and the extended headers of a section say. -/
structure Preface where
  oldPath : String
  newPath : String
  isRename : Bool := false
  isCopy : Bool := false
  isBinary : Bool := false
  isDeleted : Bool := false
  isNew : Bool := false
  modeChanged : Bool := false
  deriving DecidableEq, Repr

/-- A preface with one more extended header. -/
def Preface.adding (p : Preface) : ExtendedHeader → Preface
  | .informative => p
  | .modeChanged => { p with modeChanged := true }
  | .deletedFile => { p with isDeleted := true }
  | .newFile => { p with isNew := true }
  | .renamedFrom path => { p with oldPath := path, isRename := true }
  | .renamedTo path => { p with newPath := path, isRename := true }
  | .copiedFrom path => { p with oldPath := path, isCopy := true }
  | .copiedTo path => { p with newPath := path, isCopy := true }
  | .binary => { p with isBinary := true }

/-- The preface with all extended headers at the front, and what follows them. -/
def readPreface (p : Preface) (lineNo : Nat) : List Line → Preface × Input
  | [] => (p, ⟨lineNo, []⟩)
  | line :: lines =>
    match ExtendedHeader.read? line with
    | some h => readPreface (p.adding h) (lineNo + 1) lines
    | none => (p, ⟨lineNo, line :: lines⟩)

/-- The old path, unless the file is new. -/
def Preface.oldPath? (p : Preface) : Option String := if p.isNew then none else some p.oldPath

/-- The new path, unless the file is deleted. -/
def Preface.newPath? (p : Preface) : Option String :=
  if p.isDeleted then none else some p.newPath

/-- The preface alone says what happened to the file. -/
def Preface.isComplete (p : Preface) : Bool :=
  p.isRename || p.isCopy || p.modeChanged || p.isNew || p.isDeleted

/-- The status of a file, the first of these that applies: deleted, new, renamed, a changed mode
    and nothing else, modified. -/
def FileStatus.of (isNew isDeleted isRename onlyMode : Bool) : FileStatus :=
  if isDeleted then .deleted
  else if isNew then .added
  else if isRename then .renamed
  else if onlyMode then .modeChanged
  else .modified

/-- The file of a section without hunks. -/
def Preface.fileDiff (p : Preface) : FileDiff :=
  { oldPath := p.oldPath?
    newPath := p.newPath?
    status := .of p.isNew p.isDeleted p.isRename p.modeChanged
    isRename := p.isRename
    isBinary := p.isBinary }

/-- A section with what follows it. -/
structure Section where
  file : FileDiff
  rest : Input
  deriving DecidableEq, Repr

/-- The paths that the path lines at the front name, and what follows the two lines. -/
def readPaths (lineNo : Nat) :
    List Line → Except Fault (Option String × Option String × List Line)
  | old :: lines =>
    if hasLead oldPathLead old then
      match lines with
      | new :: below =>
        if hasLead newPathLead new then do
          let oldPath ← pathOf "a/" old lineNo
          let newPath ← pathOf "b/" new (lineNo + 1)
          return (oldPath, newPath, below)
        else .error (.at .unpairedOldPath lineNo)
      | [] => .error (.at .unpairedOldPath lineNo)
    else .error (.at (.malformedOldPath old) lineNo)
  | [] => .error (.at .unpairedOldPath lineNo)

/-- The path lines at the front and the hunks after them. `header` is the line at which the
    section begins. -/
def readSides (header : Nat) (isRename : Bool) (lineNo : Nat) (lines : List Line) :
    Except Fault Section :=
  match readPaths lineNo lines with
  | .error e => .error e
  | .ok (oldPath, newPath, below) =>
    match readHunks (lineNo + 2) below with
    | .error e => .error e
    | .ok ⟨[], _⟩ => .error (.at (.sectionWithoutHunk (present newPath oldPath)) header)
    | .ok ⟨h :: hs, rest⟩ =>
      .ok {
        file :=
          { oldPath
            newPath
            status := .of oldPath.isNone newPath.isNone isRename false
            isRename
            hunks := h :: hs }
        rest }

/-- Passes over lines up to the next section. -/
def skipToSection (lineNo : Nat) : List Line → Input
  | [] => ⟨lineNo, []⟩
  | line :: lines =>
    if opensSection line then ⟨lineNo, line :: lines⟩ else skipToSection (lineNo + 1) lines

/-- The lines go on with something like a path line. -/
def atOldPath : List Line → Bool
  | line :: _ => hasLead "---" line
  | [] => false

/-- The section that the line `header` opens; `lines` follow that line. The payload of a binary
    file is passed over. -/
def readSection (header : Line) (lineNo : Nat) (lines : List Line) : Except Fault Section :=
  match headerPaths? header with
  | none => .error (.at (.headerWithoutPaths header) lineNo)
  | some (oldPath, newPath) =>
    let (p, rest) := readPreface { oldPath, newPath } (lineNo + 1) lines
    if p.isBinary then .ok ⟨p.fileDiff, skipToSection rest.lineNo rest.lines⟩
    else if atOldPath rest.lines then readSides lineNo p.isRename rest.lineNo rest.lines
    else if p.isComplete then .ok ⟨p.fileDiff, rest⟩
    else .error (.at (.sectionWithoutBody (present p.newPath? p.oldPath?)) lineNo)

/-! ## The whole diff -/

/-- What the hunks leave is an end of the input. -/
theorem readHunks_endOf {lineNo : Nat} {lines : List Line} {hs : Hunks}
    (h : readHunks lineNo lines = .ok hs) : hs.rest.EndOf lineNo lines := by
  fun_induction readHunks lineNo lines generalizing hs with
  | case1 lineNo => cases h; exact .refl _ _
  | case2 => cases h
  | case3 => cases h
  | case4 lineNo line below _ hh _ body hb _ ih =>
    cases hr : readHunks body.rest.lineNo body.rest.lines with
    | error e => rw [hr] at h; cases h
    | ok more =>
      rw [hr] at h
      cases h
      obtain ⟨f₁, e₁, n₁⟩ := readBody_endOf hb
      obtain ⟨f₂, e₂, n₂⟩ := ih hr
      refine ⟨line :: f₁ ++ f₂, ?_, ?_⟩
      · rw [e₁, e₂]; simp
      · simp only [n₂, n₁, List.length_append, List.length_cons]; omega
  | case5 lineNo line below _ _ ih => exact .cons line (ih h)
  | case6 => cases h; exact .refl _ _
  | case7 => cases h
  | case8 => cases h; exact .refl _ _

/-- What the extended headers leave is an end of the input. -/
theorem readPreface_endOf (p : Preface) (lineNo : Nat) (lines : List Line) :
    (readPreface p lineNo lines).2.EndOf lineNo lines := by
  induction lines generalizing p lineNo with
  | nil => exact .refl _ _
  | cons line lines ih =>
    rw [readPreface]
    split
    · exact .cons line (ih _ _)
    · exact .refl _ _

private theorem skipToSection_endOf (lineNo : Nat) (lines : List Line) :
    (skipToSection lineNo lines).EndOf lineNo lines := by
  induction lines generalizing lineNo with
  | nil => exact .refl _ _
  | cons line lines ih =>
    rw [skipToSection]
    split
    · exact .refl _ _
    · exact .cons line (ih _)

/-- An end of an end is an end of the whole. -/
theorem Input.EndOf.trans {rest mid : Input} {lineNo : Nat} {lines : List Line}
    (h₁ : rest.EndOf mid.lineNo mid.lines) (h₂ : mid.EndOf lineNo lines) :
    rest.EndOf lineNo lines := by
  obtain ⟨f₁, e₁, n₁⟩ := h₁
  obtain ⟨f₂, e₂, n₂⟩ := h₂
  refine ⟨f₂ ++ f₁, ?_, ?_⟩
  · rw [e₂, e₁]; simp
  · rw [n₁, n₂]; simp only [List.length_append]; omega

/-- The path lines are the first two lines, each with its path. -/
theorem readPaths_eq_ok {lineNo : Nat} {lines below : List Line}
    {oldPath newPath : Option String}
    (h : readPaths lineNo lines = .ok (oldPath, newPath, below)) :
    ∃ old new, lines = old :: new :: below ∧ pathOf "a/" old lineNo = .ok oldPath ∧
      pathOf "b/" new (lineNo + 1) = .ok newPath := by
  unfold readPaths at h
  repeat' split at h
  · next old _ _ new below' _ =>
    cases ho : pathOf "a/" old lineNo with
    | error e => simp [ho, bind, Except.bind] at h
    | ok o =>
      cases hn : pathOf "b/" new (lineNo + 1) with
      | error e => simp [ho, hn, bind, Except.bind] at h
      | ok n =>
        simp only [ho, hn, bind, Except.bind, pure, Except.pure, Except.ok.injEq,
          Prod.mk.injEq] at h
        obtain ⟨rfl, rfl, rfl⟩ := h
        exact ⟨old, new, rfl, ho, hn⟩
  all_goals cases h

/-- What follows the path lines leaves an end of the input. -/
theorem readSides_endOf {header : Nat} {isRename : Bool} {lineNo : Nat} {lines : List Line}
    {s : Section} (h : readSides header isRename lineNo lines = .ok s) :
    ∃ old new below, lines = old :: new :: below ∧ s.rest.EndOf (lineNo + 2) below := by
  unfold readSides at h
  split at h
  · cases h
  · next oldPath newPath below hp =>
    obtain ⟨old, new, e, _, _⟩ := readPaths_eq_ok hp
    split at h
    · cases h
    · cases h
    · next hs =>
      cases h
      exact ⟨old, new, below, e, readHunks_endOf hs⟩

/-- What a section leaves is an end of the input. -/
theorem readSection_endOf {header : Line} {lineNo : Nat} {lines : List Line} {s : Section}
    (h : readSection header lineNo lines = .ok s) : s.rest.EndOf (lineNo + 1) lines := by
  unfold readSection at h
  split at h
  · cases h
  · next oldPath newPath _ =>
    have hp := readPreface_endOf { oldPath, newPath } (lineNo + 1) lines
    revert h
    generalize readPreface { oldPath, newPath } (lineNo + 1) lines = pr at hp ⊢
    obtain ⟨p, rest⟩ := pr
    intro h
    simp only at h hp
    split at h
    · cases h
      exact .trans (skipToSection_endOf _ _) hp
    split at h
    · obtain ⟨old, new, below, e, hs⟩ := readSides_endOf h
      refine .trans ?_ hp
      rw [e]
      exact .cons old (.cons new hs)
    split at h
    · cases h; exact hp
    · cases h

/-- The sections of some lines. -/
def readSections (lineNo : Nat) (lines : List Line) : Except Fault (List FileDiff) :=
  match lines with
  | [] => .ok []
  | line :: below =>
    if opensSection line then
      match hs : readSection line lineNo below with
      | .error e => .error e
      | .ok s =>
        have : s.rest.lines.length < (line :: below).length :=
          Nat.lt_succ_of_le (readSection_endOf hs).length_le
        (readSections s.rest.lineNo s.rest.lines).map (s.file :: ·)
    else if atPathLines (line :: below) then
      match hs : readSides lineNo false lineNo (line :: below) with
      | .error e => .error e
      | .ok s =>
        have : s.rest.lines.length < (line :: below).length := by
          obtain ⟨_, _, _, e, h⟩ := readSides_endOf hs
          have := h.length_le
          simp only [e, List.length_cons]
          omega
        (readSections s.rest.lineNo s.rest.lines).map (s.file :: ·)
    else if opensHunk line then .error (.at .hunkOutsideSection lineNo)
    else readSections (lineNo + 1) below
  termination_by lines.length
  decreasing_by all_goals (simp only [List.length_cons] at *; omega)

/-- A hunk is read by its header and its body, and the next one where the body ends. -/
theorem readHunks_headed {lineNo : Nat} {line : Line} {below : List Line} {h : HunkHeader}
    {body : Body} (hopens : opensHunk line = true) (hh : HunkHeader.read line lineNo = .ok h)
    (hb : readBody lineNo ⟨h.oldStart, h.newStart⟩ ⟨h.oldCount, h.newCount⟩ (lineNo + 1) below
      = .ok body) :
    readHunks lineNo (line :: below)
      = (readHunks body.rest.lineNo body.rest.lines).map fun more =>
          { more with
            hunks :=
              { oldStart := h.oldStart
                oldCount := h.oldCount
                newStart := h.newStart
                newCount := h.newCount
                heading := h.heading
                lines := body.lines } :: more.hunks } := by
  rw [readHunks, if_pos hopens, hh]
  simp only
  split
  · next e he => cases hb.symm.trans he
  · next b he =>
    obtain rfl := Except.ok.inj (hb.symm.trans he)
    rfl

/-- A section with an opening line is read, and the next one where it ends. -/
theorem readSections_opened {lineNo : Nat} {line : Line} {below : List Line} {s : Section}
    (hopens : opensSection line = true) (hs : readSection line lineNo below = .ok s) :
    readSections lineNo (line :: below)
      = (readSections s.rest.lineNo s.rest.lines).map (s.file :: ·) := by
  rw [readSections, if_pos hopens]
  split
  · next e he => cases hs.symm.trans he
  · next t he =>
    obtain rfl := Except.ok.inj (hs.symm.trans he)
    rfl

/-- The same of a section with path lines alone. -/
theorem readSections_plain {lineNo : Nat} {line : Line} {below : List Line} {s : Section}
    (hopens : opensSection line = false) (hpaths : atPathLines (line :: below) = true)
    (hs : readSides lineNo false lineNo (line :: below) = .ok s) :
    readSections lineNo (line :: below)
      = (readSections s.rest.lineNo s.rest.lines).map (s.file :: ·) := by
  rw [readSections, hopens, hpaths]
  simp only [Bool.false_eq_true, if_false, if_true]
  split
  · next e he => cases hs.symm.trans he
  · next t he =>
    obtain rfl := Except.ok.inj (hs.symm.trans he)
    rfl

/-- The file sections of a diff. -/
def read (text : String) : Except Fault (List FileDiff) :=
  readSections 1 (linesOf text.toList)

end DiffGauge.Diff
