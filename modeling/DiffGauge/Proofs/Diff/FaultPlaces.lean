import DiffGauge.Diff.Reader
import DiffGauge.Proofs.Traversal

/-!
# Where a diff is at fault

A text is read as a diff, or it has a fault. A fault with a place is at a line of the text, and the
line is one that the cause of the fault speaks of (`Cause.PointsTo`): it opens a section or a hunk,
it is a path line, or it is a lone line of a body. The one fault without a place is a number of a
hunk header that is too long.

* `readBody_fault` and `readHunks_fault` say where the hunks of a section are at fault;
* `readPaths_fault`, `readSides_fault` and `readSection_fault` say it of one section;
* `readSections_fault` follows the sections, and `read_locates_fault` is the statement about a text.
-/

namespace DiffGauge.Diff

open Text

/-! ## The line of a fault -/

/-- What a cause says of the line at which it is. A cause that repeats a line repeats this one. -/
def Cause.PointsTo (line : Line) : Cause → Prop
  | .hunkOutsideSection => opensHunk line = true
  | .headerWithoutPaths header =>
    header = line ∧ opensSection line = true ∧ headerPaths? line = none
  | .sectionWithoutBody _ => opensSection line = true
  | .sectionWithoutHunk _ => opensSection line = true ∨ hasLead oldPathLead line = true
  | .malformedOldPath old =>
    old = line ∧ hasLead "---" line = true ∧ hasLead oldPathLead line = false
  | .unpairedOldPath => hasLead oldPathLead line = true
  | .missingPath path =>
    path = line ∧ (hasLead oldPathLead line = true ∨ hasLead newPathLead line = true) ∧
      pathToken line = []
  | .malformedHunkHeader header =>
    header = line ∧ opensHunk line = true ∧ HunkHeaderText.read? line = none
  | .excessBody => (marked? line).isSome = true
  | .truncatedHunk _ _ _ => opensHunk line = true

/-- The beginnings of the lines that give a diff its structure, and the marks of body lines. -/
def structuralLeads : List String := ["diff --git", "---", "+++ ", "@@", " ", "+", "-"]

/-- A text with a longer beginning has the shorter one too. -/
theorem hasLead_of_longer {lead longer : String} {more : List Char} {line : Line}
    (hlonger : longer.toList = lead.toList ++ more) (h : hasLead longer line = true) :
    hasLead lead line = true := by
  obtain ⟨rest, hrest⟩ := Option.isSome_iff_exists.1 h
  rw [dropLead?, hlonger, after?_eq_some_iff, List.append_assoc] at hrest
  rw [hasLead, dropLead?, hrest, after?_append]
  rfl

private theorem hasLead_dashes {line : Line} (h : hasLead oldPathLead line = true) :
    hasLead "---" line = true := by
  have hlonger : oldPathLead.toList = "---".toList ++ [' '] := rfl
  exact hasLead_of_longer hlonger h

/-- A line with a mark begins with it. -/
theorem exists_lead_of_marked {line : Line} (h : (marked? line).isSome = true) :
    ∃ lead ∈ structuralLeads, hasLead lead line = true := by
  unfold marked? at h
  split at h
  · exact ⟨" ", by decide, rfl⟩
  · exact ⟨"+", by decide, rfl⟩
  · exact ⟨"-", by decide, rfl⟩
  · cases h

private theorem Cause.PointsTo.exists_lead {cause : Cause} {line : Line} (h : cause.PointsTo line) :
    ∃ lead ∈ structuralLeads, hasLead lead line = true := by
  cases cause with
  | hunkOutsideSection => exact ⟨"@@", by decide, h⟩
  | headerWithoutPaths header => exact ⟨"diff --git", by decide, h.2.1⟩
  | sectionWithoutBody path => exact ⟨"diff --git", by decide, h⟩
  | sectionWithoutHunk path =>
      rcases h with hopens | hold
      · exact ⟨"diff --git", by decide, hopens⟩
      · exact ⟨"---", by decide, hasLead_dashes hold⟩
  | malformedOldPath old => exact ⟨"---", by decide, h.2.1⟩
  | unpairedOldPath => exact ⟨"---", by decide, hasLead_dashes h⟩
  | missingPath path =>
      rcases h.2.1 with hold | hnew
      · exact ⟨"---", by decide, hasLead_dashes hold⟩
      · exact ⟨"+++ ", by decide, hnew⟩
  | malformedHunkHeader header => exact ⟨"@@", by decide, h.2.1⟩
  | excessBody => exact exists_lead_of_marked h
  | truncatedHunk oldOwed newOwed beforeLine => exact ⟨"@@", by decide, h⟩

/-! ## Faults among lines -/

/-- The numbers of a hunk header, as they are written. -/
def HunkHeaderText.numbers (t : HunkHeaderText) : List (List Char) :=
  t.oldStart :: (t.oldCount.toList ++ t.newStart :: t.newCount.toList)

/-- The line is the header of a hunk, and one of its numbers is longer than any that is read. -/
def StatesLongNumber (line : Line) : Prop :=
  ∃ t, HunkHeaderText.read? line = some t ∧ ∃ digits ∈ t.numbers, maxDigits < digits.length

/-- The fault is at one of the lines, of which the first has the number `lineNo`. -/
def Fault.IsAmong (lineNo : Nat) (lines : List Line) : Fault → Prop
  | .at cause k => ∃ i line, lines[i]? = some line ∧ k = lineNo + i ∧ cause.PointsTo line
  | .numberTooLong => ∃ line ∈ lines, StatesLongNumber line

private theorem Fault.isAmong_first
    (cause : Cause) {line : Line} (h : cause.PointsTo line) (lineNo : Nat)
    (below : List Line) : (Fault.at cause lineNo).IsAmong lineNo (line :: below) :=
  ⟨0, line, rfl, rfl, h⟩

/-- A fault of what follows some lines is a fault of all of them. -/
theorem Fault.IsAmong.ofEnd {rest : Input} {lineNo : Nat} {lines : List Line} {e : Fault}
    (hrest : rest.EndOf lineNo lines) (h : e.IsAmong rest.lineNo rest.lines) :
    e.IsAmong lineNo lines := by
  obtain ⟨front, hlines, hno⟩ := hrest
  cases e with
  | «at» cause k =>
      obtain ⟨i, line, hline, rfl, hpoints⟩ := h
      refine ⟨front.length + i, line, ?_, by rw [hno, Nat.add_assoc], hpoints⟩
      rw [hlines, List.getElem?_append_right (Nat.le_add_right _ _), Nat.add_sub_cancel_left]
      exact hline
  | numberTooLong =>
      obtain ⟨line, hline, hlong⟩ := h
      exact ⟨line, by rw [hlines]; exact List.mem_append_right front hline, hlong⟩

/-- A line in front does not matter. -/
theorem Fault.IsAmong.cons {lineNo : Nat} {lines : List Line} {e : Fault} (line : Line)
    (h : e.IsAmong (lineNo + 1) lines) : e.IsAmong lineNo (line :: lines) :=
  h.ofEnd (Input.EndOf.cons line (.refl _ _))

/-! ## Hunks -/

/-- Digits are refused only if there are too many of them. -/
theorem lineNumber_fault {digits : List Char} {e : Fault} (h : lineNumber digits = .error e) :
    e = .numberTooLong ∧ maxDigits < digits.length := by
  rw [lineNumber] at h
  split at h
  · cases h
  · next hread =>
      cases h
      rw [readNumber?] at hread
      split at hread
      · cases hread
      · next hlong => exact ⟨rfl, Nat.lt_of_not_le hlong⟩

private theorem lineCount_fault {digits : Option (List Char)} {e : Fault}
    (h : lineCount digits = .error e) :
    e = .numberTooLong ∧ ∃ ds ∈ digits.toList, maxDigits < ds.length := by
  cases digits with
  | none => cases h
  | some ds =>
      obtain ⟨rfl, hlong⟩ := lineNumber_fault h
      exact ⟨rfl, ds, List.mem_singleton_self ds, hlong⟩

/-- A hunk header that is not read is malformed or has a number that is too long. -/
theorem HunkHeader.read_fault {line : Line} {lineNo : Nat} {e : Fault}
    (hopens : opensHunk line = true) (h : HunkHeader.read line lineNo = .error e)
    (below : List Line) : e.IsAmong lineNo (line :: below) := by
  rw [HunkHeader.read] at h
  split at h
  · next hread =>
      cases h
      exact Fault.isAmong_first (.malformedHunkHeader line) ⟨rfl, hopens, hread⟩ _ _
  · next t hread =>
      suffices hlong : e = .numberTooLong ∧ ∃ digits ∈ t.numbers, maxDigits < digits.length by
        obtain ⟨rfl, hlong⟩ := hlong
        exact ⟨line, List.mem_cons_self, t, hread, hlong⟩
      -- the four numbers are read one after the other, and the first that is refused is the fault
      rcases bind_eq_error_iff.1 h with hold | ⟨_, -, h⟩
      · obtain ⟨rfl, hlong⟩ := lineNumber_fault hold
        exact ⟨rfl, t.oldStart, List.mem_cons_self, hlong⟩
      rcases bind_eq_error_iff.1 h with holdCount | ⟨_, -, h⟩
      · obtain ⟨rfl, ds, hds, hlong⟩ := lineCount_fault holdCount
        exact ⟨rfl, ds, List.mem_cons_of_mem _ (List.mem_append_left _ hds), hlong⟩
      rcases bind_eq_error_iff.1 h with hnew | ⟨_, -, h⟩
      · obtain ⟨rfl, hlong⟩ := lineNumber_fault hnew
        exact ⟨rfl, t.newStart,
          List.mem_cons_of_mem _ (List.mem_append_right _ List.mem_cons_self), hlong⟩
      rcases bind_eq_error_iff.1 h with hnewCount | ⟨_, -, h⟩
      · obtain ⟨rfl, ds, hds, hlong⟩ := lineCount_fault hnewCount
        exact ⟨rfl, ds,
          List.mem_cons_of_mem _ (List.mem_append_right _ (List.mem_cons_of_mem _ hds)), hlong⟩
      · cases h

private theorem unmarked_fault
    {header : Nat} {owed : Owed} {lineNo : Nat} {lines : List Line} {e : Fault}
    (h : unmarked header owed lineNo lines = .error e) :
    e = .at (.truncatedHunk owed.old owed.new lineNo) header := by
  rw [unmarked] at h
  split at h
  · cases h
  · cases h
    rfl

private theorem readExcess_fault {header : Nat} {place : Place} {lineNo : Nat} {lines : List Line}
    {e : Fault} (h : readExcess header place lineNo lines = .error e) :
    ∃ oldOwed newOwed before, e = .at (.truncatedHunk oldOwed newOwed before) header := by
  induction lines generalizing place lineNo with
  | nil => cases h
  | cons line lines ih =>
      rw [readExcess] at h
      split at h
      · exact ih h
      · split at h
        · exact ih (map_eq_error_iff.1 h)
        · exact ⟨_, _, _, unmarked_fault h⟩

/-- A body that is at fault is cut short, and the fault is at the header of the hunk. -/
theorem readBody_fault {header : Nat} {place : Place} {owed : Owed} {lineNo : Nat}
    {lines : List Line} {e : Fault} (h : readBody header place owed lineNo lines = .error e) :
    ∃ oldOwed newOwed before, e = .at (.truncatedHunk oldOwed newOwed before) header := by
  induction lines generalizing place owed lineNo with
  | nil => cases h
  | cons line lines ih =>
      rw [readBody] at h
      split at h
      · exact ih h
      split at h
      · split at h
        · exact ih (map_eq_error_iff.1 h)
        · exact ⟨_, _, _, unmarked_fault h⟩
      split at h
      · exact readExcess_fault h
      · cases h

/-- A fault of a hunk is at one of its lines. -/
theorem readHunks_fault {lineNo : Nat} {lines : List Line} {e : Fault}
    (h : readHunks lineNo lines = .error e) : e.IsAmong lineNo lines := by
  fun_induction readHunks lineNo lines with
  | case1 => cases h
  | case2 lineNo line below hopens e' hread =>
      cases h
      exact HunkHeader.read_fault hopens hread below
  | case3 lineNo line below hopens _ _ e' hb =>
      cases h
      obtain ⟨oldOwed, newOwed, before, rfl⟩ := readBody_fault hb
      exact Fault.isAmong_first (.truncatedHunk oldOwed newOwed before) hopens _ _
  | case4 lineNo line below _ _ _ body hb _ ih =>
      exact (ih (map_eq_error_iff.1 h)).ofEnd (.cons line (readBody_endOf hb))
  | case5 lineNo line below _ _ ih => exact (ih h).cons line
  | case6 => cases h
  | case7 lineNo line below _ _ _ hexcess =>
      cases h
      have hmarked : (marked? line).isSome = true := (Bool.and_eq_true _ _ ▸ hexcess).1
      exact Fault.isAmong_first .excessBody hmarked _ _
  | case8 => cases h

/-! ## Sections -/

/-- The path of a path line is not read only where there is none. -/
theorem pathOf_fault {side : String} {line : Line} {lineNo : Nat} {e : Fault}
    (h : pathOf side line lineNo = .error e) :
    e = .at (.missingPath line) lineNo ∧ pathToken line = [] := by
  rw [pathOf] at h
  simp only at h
  split at h
  · next hempty =>
      cases h
      exact ⟨rfl, List.isEmpty_iff.1 hempty⟩
  · split at h
    · cases h
    · cases h

/-- A fault of a path line is at one of the two. -/
theorem readPaths_fault {lineNo : Nat} {lines : List Line} {e : Fault}
    (hat : atOldPath lines = true) (h : readPaths lineNo lines = .error e) :
    e.IsAmong lineNo lines := by
  unfold readPaths at h
  split at h
  · next old lines =>
      split at h
      · next hold =>
          split at h
          · next new below =>
              split at h
              · next hnew =>
                  rcases bind_eq_error_iff.1 h with h | ⟨_, -, h⟩
                  · obtain ⟨rfl, hnone⟩ := pathOf_fault h
                    exact Fault.isAmong_first (.missingPath old)
                      ⟨rfl, .inl hold, hnone⟩ _ _
                  rcases bind_eq_error_iff.1 h with h | ⟨_, -, h⟩
                  · obtain ⟨rfl, hnone⟩ := pathOf_fault h
                    exact (Fault.isAmong_first (.missingPath new)
                      ⟨rfl, .inr hnew, hnone⟩ _ _).cons old
                  · cases h
              · cases h
                exact Fault.isAmong_first .unpairedOldPath hold _ _
          · cases h
            exact Fault.isAmong_first .unpairedOldPath hold _ _
      · next hold =>
          cases h
          exact Fault.isAmong_first (.malformedOldPath old)
            ⟨rfl, hat, eq_false_of_ne_true hold⟩ _ _
  · cases hat

/-- The two sides of a section are at fault among their lines, or have no hunk; that is said of the
    line with which the section begins. -/
theorem readSides_fault {header : Nat} {isRename : Bool} {lineNo : Nat} {lines : List Line}
    {e : Fault} (hat : atOldPath lines = true)
    (h : readSides header isRename lineNo lines = .error e) :
    e.IsAmong lineNo lines ∨ ∃ path, e = .at (.sectionWithoutHunk path) header := by
  unfold readSides at h
  split at h
  · next hpaths =>
      cases h
      exact .inl (readPaths_fault hat hpaths)
  · next oldPath newPath below hpaths =>
      obtain ⟨old, new, rfl, -, -⟩ := readPaths_eq_ok hpaths
      split at h
      · next hhunks =>
          cases h
          exact .inl (((readHunks_fault hhunks).cons new).cons old)
      · cases h
        exact .inr ⟨_, rfl⟩
      · cases h

/-- A fault of a section is at one of its lines. -/
theorem readSection_fault {header : Line} {lineNo : Nat} {lines : List Line} {e : Fault}
    (hopens : opensSection header = true) (h : readSection header lineNo lines = .error e) :
    e.IsAmong lineNo (header :: lines) := by
  unfold readSection at h
  split at h
  · next hnone =>
      cases h
      exact Fault.isAmong_first (.headerWithoutPaths header) ⟨rfl, hopens, hnone⟩ _ _
  · next oldPath newPath _ =>
      have hend := readPreface_endOf { oldPath, newPath } (lineNo + 1) lines
      generalize readPreface { oldPath, newPath } (lineNo + 1) lines = pr at h hend
      obtain ⟨p, rest⟩ := pr
      simp only at h hend
      split at h
      · cases h
      split at h
      · next hat =>
          rcases readSides_fault hat h with hamong | ⟨path, rfl⟩
          · exact (hamong.ofEnd hend).cons header
          · exact Fault.isAmong_first (.sectionWithoutHunk path) (.inl hopens) _ _
      split at h
      · cases h
      · cases h
        exact Fault.isAmong_first (.sectionWithoutBody _) hopens _ _

/-! ## The whole text -/

/-- A fault of a diff is at one of its lines. -/
theorem readSections_fault {lineNo : Nat} {lines : List Line} {e : Fault}
    (h : readSections lineNo lines = .error e) : e.IsAmong lineNo lines := by
  fun_induction readSections lineNo lines with
  | case1 => cases h
  | case2 lineNo line below hopens e' hs =>
      cases h
      exact readSection_fault hopens hs
  | case3 lineNo line below _ s hs _ ih =>
      exact (ih (map_eq_error_iff.1 h)).ofEnd (.cons line (readSection_endOf hs))
  | case4 lineNo line below _ hpaths e' hs =>
      cases h
      have hold : hasLead oldPathLead line = true := by
        cases below with
        | nil => cases hpaths
        | cons new below => exact (Bool.and_eq_true _ _ ▸ hpaths : _ ∧ _).1
      have hat : atOldPath (line :: below) = true := hasLead_dashes hold
      rcases readSides_fault hat hs with hamong | ⟨path, rfl⟩
      · exact hamong
      · exact Fault.isAmong_first (.sectionWithoutHunk path) (.inr hold) _ _
  | case5 lineNo line below _ _ s hs _ ih =>
      obtain ⟨old, new, below', hlines, hend⟩ := readSides_endOf hs
      have hamong := (ih (map_eq_error_iff.1 h)).ofEnd ((hend.cons new).cons old)
      rwa [hlines]
  | case6 lineNo line below _ _ hhunk =>
      cases h
      exact Fault.isAmong_first .hunkOutsideSection hhunk _ _
  | case7 lineNo line below _ _ _ ih => exact (ih h).cons line

/-- A text is read, or it has a fault at one of its lines that the cause speaks of, or one of its
    hunk headers has a number that is too long. -/
theorem read_locates_fault (text : String) :
    (∃ files, read text = .ok files) ∨
      (∃ cause k line, read text = .error (.at cause k) ∧
        1 ≤ k ∧ k ≤ (linesOf text.toList).length ∧
        (linesOf text.toList)[k - 1]? = some line ∧ cause.PointsTo line ∧
        ∃ lead ∈ structuralLeads, hasLead lead line = true) ∨
      (read text = .error .numberTooLong ∧
        ∃ line ∈ linesOf text.toList, StatesLongNumber line) := by
  cases hread : read text with
  | ok files => exact .inl ⟨files, rfl⟩
  | error e =>
      have hamong : e.IsAmong 1 (linesOf text.toList) := readSections_fault hread
      cases e with
      | «at» cause k =>
          obtain ⟨i, line, hline, rfl, hpoints⟩ := hamong
          obtain ⟨hlt, -⟩ := List.getElem?_eq_some_iff.1 hline
          refine .inr (.inl ⟨cause, 1 + i, line, rfl, by omega, by omega, ?_, hpoints,
            hpoints.exists_lead⟩)
          rwa [Nat.add_sub_cancel_left]
      | numberTooLong => exact .inr (.inr ⟨rfl, hamong⟩)

end DiffGauge.Diff
