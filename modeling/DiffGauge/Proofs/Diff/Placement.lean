import DiffGauge.Diff.Reader

/-!
# The place of a diff in a text

What lines mean does not depend on where they stand. Read some lines further down, they give the
same sections, and a fault is the same fault that many lines further down.

Each reader has one lemma, named for it: what it gives at `lineNo + d` is what it gives at
`lineNo`, with the line numbers in it moved by `d`. `readSections_movedBy` is the last of them.
-/

namespace DiffGauge.Diff

/-! ## Moving line numbers -/

/-- A cause in lines that stand further down. -/
def Cause.movedBy (d : Nat) : Cause → Cause
  | .truncatedHunk oldOwed newOwed beforeLine => .truncatedHunk oldOwed newOwed (beforeLine + d)
  | cause => cause

/-- A fault in lines that stand further down. -/
def Fault.movedBy (d : Nat) : Fault → Fault
  | .at cause line => .at (cause.movedBy d) (line + d)
  | .numberTooLong => .numberTooLong

/-- Lines that stand further down. -/
def Input.movedBy (d : Nat) (i : Input) : Input := { i with lineNo := i.lineNo + d }

/-- A body that stands further down. -/
def Body.movedBy (d : Nat) (b : Body) : Body := { b with rest := b.rest.movedBy d }

/-- Hunks that stand further down. -/
def Hunks.movedBy (d : Nat) (hs : Hunks) : Hunks := { hs with rest := hs.rest.movedBy d }

/-- A section that stands further down. -/
def Section.movedBy (d : Nat) (s : Section) : Section := { s with rest := s.rest.movedBy d }

/-- What reading gives further down: the result moved by `move`, or the fault that far down. -/
def moved {α : Type} (d : Nat) (move : α → α) (r : Except Fault α) : Except Fault α :=
  (r.map move).mapError (·.movedBy d)

variable (d : Nat)

/-- A change to the result does not touch its place. -/
theorem moved_map {α β : Type} (move : α → α) {move' : β → β} {f : α → β}
    (hf : ∀ a, move' (f a) = f (move a)) (r : Except Fault α) :
    moved d move' (r.map f) = (moved d move r).map f := by
  cases r with
  | error e => rfl
  | ok a => exact congrArg Except.ok (hf a)

private theorem moved_eq_ok {α : Type} {move : α → α} {r : Except Fault α} {a : α} (h : r = .ok a) :
    moved d move r = .ok (move a) := by
  rw [h]
  rfl

private theorem moved_eq_error {α : Type} {move : α → α} {r : Except Fault α} {e : Fault}
    (h : r = .error e) : moved d move r = .error (e.movedBy d) := by
  rw [h]
  rfl

/-! ## The body of a hunk -/

private theorem unmarked_movedBy (header : Nat) (owed : Owed) (lineNo : Nat) (lines : List Line) :
    unmarked (header + d) owed (lineNo + d) lines
      = moved d (Body.movedBy d) (unmarked header owed lineNo lines) := by
  rw [unmarked, unmarked]
  split
  · rfl
  · rfl

private theorem readExcess_movedBy
    (header : Nat) (place : Place) (lineNo : Nat) (lines : List Line) :
    readExcess (header + d) place (lineNo + d) lines
      = moved d (Body.movedBy d) (readExcess header place lineNo lines) := by
  induction lines generalizing place lineNo with
  | nil => rfl
  | cons line lines ih =>
      rw [readExcess, readExcess, Nat.add_right_comm]
      split
      · exact ih _ _
      · split
        · rw [ih, moved_map d (Body.movedBy d)]
          intro b
          rfl
        · exact unmarked_movedBy d _ _ _ _

private theorem readBody_movedBy (header : Nat) (place : Place) (owed : Owed) (lineNo : Nat)
    (lines : List Line) :
    readBody (header + d) place owed (lineNo + d) lines
      = moved d (Body.movedBy d) (readBody header place owed lineNo lines) := by
  induction lines generalizing place owed lineNo with
  | nil => rfl
  | cons line lines ih =>
      rw [readBody, readBody, Nat.add_right_comm]
      split
      · exact ih _ _ _
      split
      · split
        · rw [ih, moved_map d (Body.movedBy d)]
          intro b
          rfl
        · exact unmarked_movedBy d _ _ _ _
      split
      · exact readExcess_movedBy d _ _ _ _
      · rfl

/-! ## The hunks of a section -/

/-- A number that is too long has no place. -/
theorem lineNumber_movedBy (digits : List Char) :
    moved d id (lineNumber digits) = lineNumber digits := by
  rw [lineNumber]
  split
  · rfl
  · rfl

private theorem lineCount_movedBy (digits : Option (List Char)) :
    moved d id (lineCount digits) = lineCount digits := by
  cases digits with
  | none => rfl
  | some digits => exact lineNumber_movedBy d digits

private theorem moved_bind {α β : Type} (r : Except Fault α) (f : α → Except Fault β) :
    moved d id (r >>= f) = moved d id r >>= fun a => moved d id (f a) := by
  cases r with
  | error e => rfl
  | ok a => rfl

private theorem HunkHeader.read_movedBy (line : Line) (lineNo : Nat) :
    HunkHeader.read line (lineNo + d) = moved d id (HunkHeader.read line lineNo) := by
  rw [HunkHeader.read, HunkHeader.read]
  split
  · rfl
  · simp only [moved_bind, lineNumber_movedBy, lineCount_movedBy]
    rfl

/-- A hunk whose body is at fault is read to that fault. -/
theorem readHunks_body_fault {lineNo : Nat} {line : Line} {below : List Line} {h : HunkHeader}
    {e : Fault} (hopens : opensHunk line = true) (hh : HunkHeader.read line lineNo = .ok h)
    (hb : readBody lineNo ⟨h.oldStart, h.newStart⟩ ⟨h.oldCount, h.newCount⟩ (lineNo + 1) below
      = .error e) :
    readHunks lineNo (line :: below) = .error e := by
  rw [readHunks, if_pos hopens, hh]
  simp only
  split
  · next e' he =>
      obtain rfl := Except.error.inj (hb.symm.trans he)
      rfl
  · next b he => cases hb.symm.trans he

private theorem readHunks_movedBy (lineNo : Nat) (lines : List Line) :
    readHunks (lineNo + d) lines = moved d (Hunks.movedBy d) (readHunks lineNo lines) := by
  fun_induction readHunks lineNo lines with
  | case1 lineNo =>
      rw [readHunks]
      rfl
  | case2 lineNo line below hopens e hread =>
      have hread' := (HunkHeader.read_movedBy d line lineNo).trans (moved_eq_error d hread)
      rw [readHunks, if_pos hopens, hread']
      rfl
  | case3 lineNo line below hopens h hread e hb =>
      have hread' := (HunkHeader.read_movedBy d line lineNo).trans (moved_eq_ok d hread)
      have hb' := (readBody_movedBy d _ _ _ _ below).trans (moved_eq_error d hb)
      rw [Nat.add_right_comm] at hb'
      rw [readHunks_body_fault hopens hread' hb']
      rfl
  | case4 lineNo line below hopens h hread body hb _ ih =>
      have hread' := (HunkHeader.read_movedBy d line lineNo).trans (moved_eq_ok d hread)
      have hb' := (readBody_movedBy d _ _ _ _ below).trans (moved_eq_ok d hb)
      rw [Nat.add_right_comm] at hb'
      rw [readHunks_headed hopens hread' hb', moved_map d (Hunks.movedBy d), ← ih]
      · rfl
      · intro hs
        rfl
  | case5 lineNo line below hopens hmark ih =>
      rw [readHunks, if_neg hopens, if_pos hmark, Nat.add_right_comm]
      exact ih
  | case6 lineNo line below hopens hmark hsignature =>
      rw [readHunks, if_neg hopens, if_neg hmark, if_pos hsignature]
      rfl
  | case7 lineNo line below hopens hmark hsignature hexcess =>
      rw [readHunks, if_neg hopens, if_neg hmark, if_neg hsignature, if_pos hexcess]
      rfl
  | case8 lineNo line below hopens hmark hsignature hexcess =>
      rw [readHunks, if_neg hopens, if_neg hmark, if_neg hsignature, if_neg hexcess]
      rfl

/-! ## Sections -/

private theorem pathOf_movedBy (side : String) (line : Line) (lineNo : Nat) :
    pathOf side line (lineNo + d) = moved d id (pathOf side line lineNo) := by
  rw [pathOf, pathOf]
  simp only
  split
  · rfl
  split
  · rfl
  · rfl

private theorem readPaths_movedBy (lineNo : Nat) (lines : List Line) :
    readPaths (lineNo + d) lines = moved d id (readPaths lineNo lines) := by
  unfold readPaths
  split
  · split
    · split
      · split
        · simp only [moved_bind, pathOf_movedBy, Nat.add_right_comm _ d]
          rfl
        · rfl
      · rfl
    · rfl
  · rfl

private theorem readSides_movedBy
    (header : Nat) (isRename : Bool) (lineNo : Nat) (lines : List Line) :
    readSides (header + d) isRename (lineNo + d) lines
      = moved d (Section.movedBy d) (readSides header isRename lineNo lines) := by
  rw [readSides, readSides, readPaths_movedBy]
  cases readPaths lineNo lines with
  | error e => rfl
  | ok paths =>
      obtain ⟨oldPath, newPath, below⟩ := paths
      rw [moved_eq_ok d rfl]
      simp only [id]
      rw [Nat.add_right_comm, readHunks_movedBy]
      cases readHunks (lineNo + 2) below with
      | error e => rfl
      | ok hs =>
          obtain ⟨hunks, rest⟩ := hs
          cases hunks with
          | nil => rfl
          | cons k ks => rfl

private theorem readPreface_movedBy (p : Preface) (lineNo : Nat) (lines : List Line) :
    readPreface p (lineNo + d) lines
      = ((readPreface p lineNo lines).1, (readPreface p lineNo lines).2.movedBy d) := by
  induction lines generalizing p lineNo with
  | nil => rfl
  | cons line lines ih =>
      rw [readPreface, readPreface]
      split
      · rw [Nat.add_right_comm]
        exact ih _ _
      · rfl

private theorem skipToSection_movedBy (lineNo : Nat) (lines : List Line) :
    skipToSection (lineNo + d) lines = (skipToSection lineNo lines).movedBy d := by
  induction lines generalizing lineNo with
  | nil => rfl
  | cons line lines ih =>
      rw [skipToSection, skipToSection]
      split
      · rfl
      · rw [Nat.add_right_comm]
        exact ih _

/-- What becomes of a section once its preface is read. -/
theorem readSection_of_preface {header : Line} {lineNo : Nat} {lines : List Line}
    {oldPath newPath : String} {p : Preface} {rest : Input}
    (hpaths : headerPaths? header = some (oldPath, newPath))
    (hpreface : readPreface { oldPath, newPath } (lineNo + 1) lines = (p, rest)) :
    readSection header lineNo lines
      = if p.isBinary then .ok ⟨p.fileDiff, skipToSection rest.lineNo rest.lines⟩
        else if atOldPath rest.lines then readSides lineNo p.isRename rest.lineNo rest.lines
        else if p.isComplete then .ok ⟨p.fileDiff, rest⟩
        else .error (.at (.sectionWithoutBody (present p.newPath? p.oldPath?)) lineNo) := by
  rw [readSection, hpaths]
  simp only [hpreface]

private theorem readSection_movedBy (header : Line) (lineNo : Nat) (lines : List Line) :
    readSection header (lineNo + d) lines
      = moved d (Section.movedBy d) (readSection header lineNo lines) := by
  cases hpaths : headerPaths? header with
  | none =>
      rw [readSection, readSection, hpaths]
      rfl
  | some paths =>
      obtain ⟨oldPath, newPath⟩ := paths
      have hmoved := readPreface_movedBy d { oldPath, newPath } (lineNo + 1) lines
      rw [Nat.add_right_comm] at hmoved
      rw [readSection_of_preface hpaths hmoved, readSection_of_preface hpaths rfl]
      generalize readPreface { oldPath, newPath } (lineNo + 1) lines = pr
      obtain ⟨p, rest⟩ := pr
      show (if p.isBinary = true then _ else if atOldPath rest.lines = true then
        readSides (lineNo + d) p.isRename (rest.lineNo + d) rest.lines else _) = _
      split
      · show Except.ok (Section.mk _ (skipToSection (rest.lineNo + d) rest.lines)) = _
        rw [skipToSection_movedBy]
        rfl
      split
      · exact readSides_movedBy d _ _ _ _
      split
      · rfl
      · rfl

/-! ## The whole diff -/

/-- A section that is at fault ends the reading with that fault. -/
theorem readSections_opened_fault {lineNo : Nat} {line : Line} {below : List Line} {e : Fault}
    (hopens : opensSection line = true) (hs : readSection line lineNo below = .error e) :
    readSections lineNo (line :: below) = .error e := by
  rw [readSections, if_pos hopens]
  split
  · next e' he =>
      obtain rfl := Except.error.inj (hs.symm.trans he)
      rfl
  · next t he => cases hs.symm.trans he

/-- The same of a section with path lines alone. -/
theorem readSections_plain_fault {lineNo : Nat} {line : Line} {below : List Line} {e : Fault}
    (hopens : ¬opensSection line = true) (hpaths : atPathLines (line :: below) = true)
    (hs : readSides lineNo false lineNo (line :: below) = .error e) :
    readSections lineNo (line :: below) = .error e := by
  rw [readSections, if_neg hopens, if_pos hpaths]
  split
  · next e' he =>
      obtain rfl := Except.error.inj (hs.symm.trans he)
      rfl
  · next t he => cases hs.symm.trans he

/-- The sections of some lines are the same further down, and so is the fault, that many lines
    further down. -/
theorem readSections_movedBy (lineNo : Nat) (lines : List Line) :
    readSections (lineNo + d) lines = moved d id (readSections lineNo lines) := by
  fun_induction readSections lineNo lines with
  | case1 lineNo =>
      rw [readSections]
      rfl
  | case2 lineNo line below hopens e hs =>
      have hs' := (readSection_movedBy d line lineNo below).trans (moved_eq_error d hs)
      rw [readSections_opened_fault hopens hs']
      rfl
  | case3 lineNo line below hopens s hs _ ih =>
      have hs' := (readSection_movedBy d line lineNo below).trans (moved_eq_ok d hs)
      rw [readSections_opened hopens hs', moved_map d id, ← ih]
      · rfl
      · intro files
        rfl
  | case4 lineNo line below hopens hpaths e hs =>
      have hs' := (readSides_movedBy d lineNo false lineNo (line :: below)).trans
        (moved_eq_error d hs)
      rw [readSections_plain_fault hopens hpaths hs']
      rfl
  | case5 lineNo line below hopens hpaths s hs _ ih =>
      have hs' := (readSides_movedBy d lineNo false lineNo (line :: below)).trans
        (moved_eq_ok d hs)
      rw [readSections_plain (eq_false_of_ne_true hopens) hpaths hs',
        moved_map d id, ← ih]
      · rfl
      · intro files
        rfl
  | case6 lineNo line below hopens hpaths hhunk =>
      rw [readSections, if_neg hopens, if_neg hpaths, if_pos hhunk]
      rfl
  | case7 lineNo line below hopens hpaths hhunk ih =>
      rw [readSections, if_neg hopens, if_neg hpaths, if_neg hhunk, Nat.add_right_comm]
      exact ih

end DiffGauge.Diff
