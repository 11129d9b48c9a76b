import DiffGauge.Proofs.Diff.Counts
import DiffGauge.Proofs.Diff.Lines
import DiffGauge.Proofs.Diff.Placement
import Mathlib

/-!
# Diffs one after the other

A diff whose hunks are exact reads the same when a line that opens a section follows it. So two
diffs of which the second opens a section give the sections of the first and then those of the
second, and a fault of the second is found that many lines further down.

What stands at the end of a text matters to its reading: lines that are left over belong to the
last hunk if they are a body to the end, and blank lines may end a hunk early. An exact hunk has
used neither.

* `readBody_followedBy` and `readHunks_followedBy` read up to the section that follows;
* `readSection_followedBy` and `readSections_followedBy` read the sections in front of it;
* `linesOf_append` cuts the joined text, and `read_append` is the statement about two diffs.
-/

namespace DiffGauge.Diff

open Text

/-! ## Lines that open a section -/

/-- The first of the lines opens a section. -/
def BeginsSection (more : List Line) : Prop :=
  ∃ rest below, more = ("diff --git".toList ++ rest) :: below

/-- Lines with others after them. -/
def Input.followedBy (more : List Line) (i : Input) : Input := { i with lines := i.lines ++ more }

/-- A body with other lines after it. -/
def Body.followedBy (more : List Line) (b : Body) : Body :=
  { b with rest := b.rest.followedBy more }

/-- Hunks with other lines after them. -/
def Hunks.followedBy (more : List Line) (hs : Hunks) : Hunks :=
  { hs with rest := hs.rest.followedBy more }

/-- A section with other lines after it. -/
def Section.followedBy (more : List Line) (s : Section) : Section :=
  { s with rest := s.rest.followedBy more }

section

variable {more : List Line} (hmore : BeginsSection more)

include hmore

private theorem BeginsSection.not_all_isBodyLine (lines : List Line) :
    ¬(lines ++ more).all isBodyLine = true := by
  obtain ⟨rest, below, rfl⟩ := hmore
  have hline : isBodyLine ("diff --git".toList ++ rest) = false := rfl
  rw [List.all_append, List.all_cons, hline, Bool.false_and, Bool.and_false]
  exact Bool.false_ne_true

/-- No path line follows a line before a section. -/
theorem BeginsSection.atPathLines_append (line : Line) (below : List Line) :
    atPathLines (line :: (below ++ more)) = atPathLines (line :: below) := by
  cases below with
  | nil =>
      obtain ⟨rest, below, rfl⟩ := hmore
      have hpath : hasLead newPathLead ("diff --git".toList ++ rest) = false := rfl
      rw [List.nil_append, atPathLines, hpath, Bool.and_false]
      rfl
  | cons new below => rfl

private theorem BeginsSection.atOldPath_append (lines : List Line) :
    atOldPath (lines ++ more) = atOldPath lines := by
  cases lines with
  | nil =>
      obtain ⟨rest, below, rfl⟩ := hmore
      rfl
  | cons line lines => rfl

end

/-! ## The body of a hunk -/

/-- Every line stands on a side. -/
theorem eq_nil_of_sides {ls : List HunkLine} (hold : (oldSide ls).length = 0)
    (hnew : (newSide ls).length = 0) : ls = [] := by
  cases ls with
  | nil => rfl
  | cons l ls =>
      obtain ⟨kind, content, oldNo, newNo⟩ := l
      cases kind with
      | context => cases hold
      | added => cases hnew
      | removed => cases hold

/-- A rest of a text that adds no line to a hunk is left as it is. -/
theorem readExcess_eq_rest {header : Nat} {place : Place} {lineNo : Nat} {line : Line}
    {lines : List Line} {b : Body} (hmark : ¬isNoNewlineMark line = true)
    (h : readExcess header place lineNo (line :: lines) = .ok b) (hb : b.lines = []) :
    b = ⟨[], ⟨lineNo, line :: lines⟩⟩ := by
  rw [readExcess, if_neg hmark] at h
  split at h
  · obtain ⟨b', -, rfl⟩ := map_eq_ok h
    cases hb
  · exact (unmarked_eq_ok h).2

/-- A body with exactly the lines that it is owed ends before a section in any case. -/
theorem readBody_followedBy {more : List Line} (hmore : BeginsSection more) {header : Nat}
    {place : Place} {owed : Owed} {lineNo : Nat} {lines : List Line} {b : Body}
    (h : readBody header place owed lineNo lines = .ok b)
    (hold : (oldSide b.lines).length = owed.old) (hnew : (newSide b.lines).length = owed.new) :
    readBody header place owed lineNo (lines ++ more) = .ok (b.followedBy more) := by
  induction lines generalizing place owed lineNo b with
  | nil =>
      obtain rfl : b = ⟨[], ⟨lineNo, []⟩⟩ := by
        cases h
        rfl
      have hpaid : ¬owed.some = true := by
        rw [owed.some_iff, ← hold, ← hnew]
        exact fun hlt => hlt.elim (Nat.lt_irrefl 0) (Nat.lt_irrefl 0)
      have hall := hmore.not_all_isBodyLine []
      obtain ⟨rest, below, rfl⟩ := hmore
      have hmark : ¬isNoNewlineMark ("diff --git".toList ++ rest) = true := Bool.false_ne_true
      rw [List.nil_append] at hall ⊢
      rw [readBody, if_neg hmark, if_neg hpaid, if_neg hall]
      rfl
  | cons line lines ih =>
      rw [readBody] at h
      rw [List.cons_append, readBody]
      by_cases hmark : isNoNewlineMark line = true
      · rw [if_pos hmark] at h ⊢
        exact ih h hold hnew
      rw [if_neg hmark] at h ⊢
      by_cases howed : owed.some = true
      · rw [if_pos howed] at h ⊢
        split at h
        · next kind content hkind =>
            obtain ⟨b', h', rfl⟩ := map_eq_ok h
            rw [Body.push, oldSide_length_line] at hold
            rw [Body.push, newSide_length_line] at hnew
            have hread := ih h' (by rw [owed.after_old]; omega) (by rw [owed.after_new]; omega)
            rw [hread]
            rfl
        -- a hunk that blank lines end is short
        · obtain ⟨-, rfl⟩ := unmarked_eq_ok h
          rw [owed.some_iff, ← hold, ← hnew] at howed
          exact absurd howed fun hlt => hlt.elim (Nat.lt_irrefl 0) (Nat.lt_irrefl 0)
      · rw [if_neg howed] at h ⊢
        rw [← List.cons_append, if_neg (hmore.not_all_isBodyLine _)]
        rw [owed.some_iff] at howed
        split at h
        -- a hunk that takes in what is left is too long, unless that is nothing
        · have hb : b.lines = [] := eq_nil_of_sides (by omega) (by omega)
          rw [readExcess_eq_rest hmark h hb]
          rfl
        · cases h
          rfl

/-! ## The hunks of a section -/

private theorem readHunks_section {more : List Line} (hmore : BeginsSection more) (lineNo : Nat) :
    readHunks lineNo more = .ok ⟨[], ⟨lineNo, more⟩⟩ := by
  obtain ⟨rest, below, rfl⟩ := hmore
  rw [readHunks]
  rfl

/-- Exact hunks are read no differently where another section follows. -/
theorem readHunks_followedBy {more : List Line} (hmore : BeginsSection more) {lineNo : Nat}
    {lines : List Line} {hs : Hunks} (h : readHunks lineNo lines = .ok hs)
    (hexact : ∀ k ∈ hs.hunks, k.IsExact) :
    readHunks lineNo (lines ++ more) = .ok (hs.followedBy more) := by
  fun_induction readHunks lineNo lines generalizing hs with
  | case1 lineNo =>
      cases h
      exact readHunks_section hmore lineNo
  | case2 => cases h
  | case3 => cases h
  | case4 lineNo line below hopens hh hread body hb _ ih =>
      obtain ⟨rest, hrest, rfl⟩ := map_eq_ok h
      obtain ⟨hk, hks⟩ := List.forall_mem_cons.1 hexact
      have hbody := readBody_followedBy hmore hb (Int.ofNat.inj hk.oldCount.symm)
        (Int.ofNat.inj hk.newCount.symm)
      rw [List.cons_append, readHunks_headed hopens hread hbody]
      have hmoreHunks := ih hrest hks
      simp only [Body.followedBy, Input.followedBy, hmoreHunks]
      rfl
  | case5 lineNo line below hopens hmark ih =>
      rw [List.cons_append, readHunks, if_neg hopens, if_pos hmark]
      exact ih h hexact
  | case6 lineNo line below hopens hmark hsignature =>
      cases h
      rw [List.cons_append, readHunks, if_neg hopens, if_neg hmark, if_pos hsignature]
      rfl
  | case7 => cases h
  | case8 lineNo line below hopens hmark hsignature hexcess =>
      cases h
      rw [List.cons_append, readHunks, if_neg hopens, if_neg hmark, if_neg hsignature,
        hmore.atPathLines_append, if_neg hexcess]
      rfl

/-! ## Sections -/

/-- What stands below the two path lines is left as it is. -/
theorem readPaths_pair (lineNo : Nat) (old new : Line) (below : List Line) :
    readPaths lineNo (old :: new :: below)
      = (readPaths lineNo [old, new]).map fun paths => (paths.1, paths.2.1, below) := by
  simp only [readPaths]
  split
  · split
    · cases pathOf "a/" old lineNo with
      | error e => rfl
      | ok oldPath =>
          cases pathOf "b/" new (lineNo + 1) with
          | error e => rfl
          | ok newPath => rfl
    · rfl
  · rfl

private theorem readPaths_followedBy {lineNo : Nat} {lines below : List Line}
    {oldPath newPath : Option String}
    (h : readPaths lineNo lines = .ok (oldPath, newPath, below)) (more : List Line) :
    readPaths lineNo (lines ++ more) = .ok (oldPath, newPath, below ++ more) := by
  obtain ⟨old, new, rfl, -, -⟩ := readPaths_eq_ok h
  rw [readPaths_pair] at h
  obtain ⟨paths, hpaths, hsame⟩ := map_eq_ok h
  rw [List.cons_append, List.cons_append, readPaths_pair, hpaths]
  cases hsame
  rfl

private theorem readSides_followedBy {more : List Line} (hmore : BeginsSection more) {header : Nat}
    {isRename : Bool} {lineNo : Nat} {lines : List Line} {s : Section}
    (h : readSides header isRename lineNo lines = .ok s)
    (hexact : ∀ k ∈ s.file.hunks, k.IsExact) :
    readSides header isRename lineNo (lines ++ more) = .ok (s.followedBy more) := by
  unfold readSides at h ⊢
  split at h
  · cases h
  · next oldPath newPath below hpaths =>
      rw [readPaths_followedBy hpaths more]
      split at h
      · cases h
      · cases h
      · next hs =>
          cases h
          simp only [readHunks_followedBy hmore hs hexact]
          rfl

private theorem readPreface_followedBy {more : List Line} (hmore : BeginsSection more) (p : Preface)
    (lineNo : Nat) (lines : List Line) :
    readPreface p lineNo (lines ++ more)
      = ((readPreface p lineNo lines).1, (readPreface p lineNo lines).2.followedBy more) := by
  induction lines generalizing p lineNo with
  | nil =>
      obtain ⟨rest, below, rfl⟩ := hmore
      have hnone : ExtendedHeader.read? ("diff --git".toList ++ rest) = none := rfl
      show readPreface p lineNo (_ :: below) = (p, ⟨lineNo, _ :: below⟩)
      rw [readPreface, hnone]
  | cons line lines ih =>
      rw [List.cons_append, readPreface, readPreface]
      split
      · exact ih _ _
      · rfl

private theorem skipToSection_followedBy
    {more : List Line} (hmore : BeginsSection more) (lineNo : Nat)
    (lines : List Line) :
    skipToSection lineNo (lines ++ more) = (skipToSection lineNo lines).followedBy more := by
  induction lines generalizing lineNo with
  | nil =>
      obtain ⟨rest, below, rfl⟩ := hmore
      rfl
  | cons line lines ih =>
      rw [List.cons_append, skipToSection, skipToSection]
      split
      · rfl
      · exact ih _

/-- A section of exact hunks is read no differently where another section follows. -/
theorem readSection_followedBy {more : List Line} (hmore : BeginsSection more) {header : Line}
    {lineNo : Nat} {lines : List Line} {s : Section}
    (h : readSection header lineNo lines = .ok s) (hexact : ∀ k ∈ s.file.hunks, k.IsExact) :
    readSection header lineNo (lines ++ more) = .ok (s.followedBy more) := by
  cases hpaths : headerPaths? header with
  | none =>
      rw [readSection, hpaths] at h
      cases h
  | some paths =>
      obtain ⟨oldPath, newPath⟩ := paths
      have hpreface := readPreface_followedBy hmore { oldPath, newPath } (lineNo + 1) lines
      rw [readSection_of_preface hpaths rfl] at h
      rw [readSection_of_preface hpaths hpreface]
      generalize readPreface { oldPath, newPath } (lineNo + 1) lines = pr at h ⊢
      obtain ⟨p, rest⟩ := pr
      simp only [Input.followedBy, hmore.atOldPath_append] at h ⊢
      by_cases hbinary : p.isBinary = true
      · rw [if_pos hbinary] at h ⊢
        cases h
        rw [skipToSection_followedBy hmore]
        rfl
      rw [if_neg hbinary] at h ⊢
      by_cases hpath : atOldPath rest.lines = true
      · rw [if_pos hpath] at h ⊢
        exact readSides_followedBy hmore h hexact
      rw [if_neg hpath] at h ⊢
      by_cases hcomplete : p.isComplete = true
      · rw [if_pos hcomplete] at h ⊢
        cases h
        rfl
      · rw [if_neg hcomplete] at h
        cases h

/-- The lines that are left end where all of them do. -/
theorem Input.EndOf.lineNo_add_length {rest : Input} {lineNo : Nat} {lines : List Line}
    (h : rest.EndOf lineNo lines) :
    rest.lineNo + rest.lines.length = lineNo + lines.length := by
  obtain ⟨front, rfl, hno⟩ := h
  rw [hno, List.length_append, Nat.add_assoc]

/-- More files in front of those in front. -/
theorem map_cons_append (f : FileDiff) (fs : List FileDiff)
    (r : Except Fault (List FileDiff)) :
    (r.map (fs ++ ·)).map (f :: ·) = r.map (f :: fs ++ ·) := by
  cases r with
  | error e => rfl
  | ok more => rfl

/-- Sections with exact hunks are read as they are, and then those that follow them. -/
theorem readSections_followedBy {more : List Line} (hmore : BeginsSection more) {lineNo : Nat}
    {lines : List Line} {files : List FileDiff} (h : readSections lineNo lines = .ok files)
    (hexact : ∀ f ∈ files, ∀ k ∈ f.hunks, k.IsExact) :
    readSections lineNo (lines ++ more)
      = (readSections (lineNo + lines.length) more).map (files ++ ·) := by
  fun_induction readSections lineNo lines generalizing files with
  | case1 lineNo =>
      cases h
      show readSections lineNo more = (readSections lineNo more).map fun fs => fs
      cases readSections lineNo more with
      | error e => rfl
      | ok fs => rfl
  | case2 => cases h
  | case3 lineNo line below hopens s hs _ ih =>
      obtain ⟨fs, hfs, rfl⟩ := map_eq_ok h
      obtain ⟨hf, hfs'⟩ := List.forall_mem_cons.1 hexact
      have hend := (readSection_endOf hs).lineNo_add_length
      have hrest := ih hfs hfs'
      rw [hend, Nat.add_right_comm, Nat.add_assoc, ← List.length_cons (a := line)] at hrest
      rw [List.cons_append, readSections_opened hopens (readSection_followedBy hmore hs hf)]
      show (readSections s.rest.lineNo (s.rest.lines ++ more)).map (s.file :: ·) = _
      rw [hrest, map_cons_append]
  | case4 => cases h
  | case5 lineNo line below hopens hpaths s hs _ ih =>
      obtain ⟨fs, hfs, rfl⟩ := map_eq_ok h
      obtain ⟨hf, hfs'⟩ := List.forall_mem_cons.1 hexact
      obtain ⟨old, new, below', hlines, hsides⟩ := readSides_endOf hs
      have hend : s.rest.lineNo + s.rest.lines.length = lineNo + (line :: below).length := by
        rw [hlines]
        exact ((hsides.cons new).cons old).lineNo_add_length
      have hpaths' : atPathLines (line :: (below ++ more)) = true := by
        rw [hmore.atPathLines_append]
        exact hpaths
      have hrest := ih hfs hfs'
      rw [hend] at hrest
      rw [List.cons_append, readSections_plain (eq_false_of_ne_true hopens) hpaths'
        (readSides_followedBy hmore hs hf)]
      show (readSections s.rest.lineNo (s.rest.lines ++ more)).map (s.file :: ·) = _
      rw [hrest, map_cons_append]
  | case6 => cases h
  | case7 lineNo line below hopens hpaths hhunk ih =>
      rw [List.cons_append, readSections, if_neg hopens, hmore.atPathLines_append, if_neg hpaths,
        if_neg hhunk, ih h hexact, List.length_cons, Nat.add_right_comm, Nat.add_assoc]

/-! ## The text -/

private theorem withoutMark_append (front back : List Char) :
    withoutMark (front ++ '\n' :: back) = withoutMark front ++ '\n' :: back := by
  cases front with
  | nil => rfl
  | cons c front =>
      by_cases hmark : c = '\uFEFF'
      · rw [hmark]
        rfl
      · have hne (cs : List Char) : (c :: cs).head? ≠ some '\uFEFF' :=
          fun e => hmark (Option.some.inj e)
        rw [List.cons_append, withoutMark_eq_self (hne _), withoutMark_eq_self (hne _)]
        rfl

/-- The lines of a text that ends in a line break, and then those of the text after it. -/
theorem linesOf_append {front back : List Char} (hback : back.head? ≠ some '\uFEFF') :
    linesOf (front ++ '\n' :: back) = linesOf (front ++ ['\n']) ++ linesOf back := by
  have hlast : pieces '\n' [] = [[]] := rfl
  unfold linesOf
  rw [withoutMark_append, withoutMark_append, withoutMark_eq_self hback, pieces_append,
    pieces_append, hlast]
  simp only [List.getLast?_concat, if_true, List.dropLast_concat, ← List.map_append]
  congr 1
  rw [List.getLast?_append_of_ne_nil _ (pieces_ne_nil _ _)]
  split
  · rw [List.dropLast_append_of_ne_nil (pieces_ne_nil _ _)]
  · rfl

/-- What stands in front of the first piece belongs to it. -/
theorem pieces_front {sep : Char} {front : List Char} (h : sep ∉ front) (cs : List Char) :
    ∃ p ps, pieces sep (front ++ cs) = (front ++ p) :: ps := by
  induction front with
  | nil =>
      obtain ⟨p, ps, hp⟩ := List.exists_cons_of_ne_nil (pieces_ne_nil sep cs)
      exact ⟨p, ps, hp⟩
  | cons c front ih =>
      rw [List.mem_cons, not_or] at h
      obtain ⟨p, ps, hp⟩ := ih h.2
      refine ⟨p, ps, ?_⟩
      exact pieces_cons (Ne.symm h.1) hp

/-- A text that begins like the line that opens a section has such a line first. -/
theorem beginsSection_linesOf {text : List Char} (h : hasLead sectionLead text = true) :
    BeginsSection (linesOf text) := by
  obtain ⟨cs, hcs⟩ := Option.isSome_iff_exists.1 h
  obtain rfl := after?_eq_some_iff.1 hcs
  have hbreak : '\n' ∉ sectionLead.toList := by decide
  obtain ⟨p, ps, hp⟩ := pieces_front hbreak cs
  have hmark : (sectionLead.toList ++ cs).head? ≠ some '\uFEFF' := by
    intro e
    cases e
  obtain ⟨below, hbelow⟩ : ∃ below, linesOf (sectionLead.toList ++ cs)
      = withoutReturn (sectionLead.toList ++ p) :: below := by
    unfold linesOf
    rw [withoutMark_eq_self hmark, hp]
    cases ps with
    | nil => exact ⟨[], rfl⟩
    | cons q ps =>
        simp only [List.getLast?_cons_cons, List.dropLast_cons_cons]
        split
        · exact ⟨_, rfl⟩
        · exact ⟨_, rfl⟩
  rw [hbelow, withoutReturn]
  split
  · next hreturn =>
      cases p with
      | nil => cases hreturn
      | cons c p => exact ⟨(c :: p).dropLast, below, rfl⟩
  · exact ⟨p, below, rfl⟩

/-- A diff with exact hunks, empty or ended by a line break, and after it a text that opens a
    section: what is read are the files of the first and then those of the second, and a fault of
    the second stands as many lines further down as the first has. -/
theorem read_append {a b : String} {files : List FileDiff}
    (ha : a = "" ∨ a.toList.getLast? = some '\n') (hb : hasLead sectionLead b.toList = true)
    (h : read a = .ok files) (hexact : ∀ f ∈ files, ∀ k ∈ f.hunks, k.IsExact) :
    read (a ++ b)
      = match read b with
        | .ok more => .ok (files ++ more)
        | .error e => .error (e.movedBy (linesOf a.toList).length) := by
  have hmore := beginsSection_linesOf hb
  have hlines : linesOf (a ++ b).toList = linesOf a.toList ++ linesOf b.toList := by
    rw [String.toList_append]
    rcases ha with rfl | hend
    · rfl
    · obtain ⟨front, hfront⟩ : ∃ front, a.toList = front ++ ['\n'] :=
        List.getLast?_eq_some_iff.1 hend
      have hmark : b.toList.head? ≠ some '\uFEFF' := by
        obtain ⟨cs, hcs⟩ := Option.isSome_iff_exists.1 hb
        rw [after?_eq_some_iff.1 hcs]
        intro e
        cases e
      rw [hfront, List.append_assoc, List.singleton_append, linesOf_append hmark]
  have hread := readSections_followedBy hmore h hexact
  rw [readSections_movedBy] at hread
  rw [read, hlines, hread]
  show (moved _ id (read b)).map (files ++ ·) = _
  cases read b with
  | error e => rfl
  | ok more => rfl

/-- A diff with a line in front, a mark of a missing line break and a blank line at its end. -/
def framedText : String :=
  "intro\n--- a/x\n+++ b/x\n@@ -1 +1 @@\n-a\n+b\n\\ No newline at end of file\n\n"

/-- The file of `framedText`. -/
def framedFile : FileDiff :=
  { oldPath := some "x"
    newPath := some "x"
    hunks :=
      [{ oldStart := 1, oldCount := 1, newStart := 1, newCount := 1
         lines :=
           [{ kind := .removed, content := "a", oldNo := some 1 },
            { kind := .added, content := "b", newNo := some 1 }] }] }

/-- A diff with a hunk that another section cuts short. -/
def cutText : String :=
  "diff --git a/y b/y\n--- a/y\n+++ b/y\n@@ -1,3 +1,3 @@\n c\ndiff --git a/z b/z\n"

/-- The fault of the second diff stands eight lines further down, and so do the lines that it
    names. -/
theorem read_append_of_cutText :
    hasLead sectionLead cutText.toList = true ∧ read framedText = .ok [framedFile] ∧
      (∀ f ∈ [framedFile], ∀ k ∈ f.hunks, k.IsExact) ∧
      read cutText = .error (.at (.truncatedHunk 2 2 6) 4) ∧
      read (framedText ++ cutText) = .error (.at (.truncatedHunk 2 2 14) 12) := by
  have hframed : read framedText = .ok [framedFile] := by decide +kernel
  have hcut : read cutText = .error (.at (.truncatedHunk 2 2 6) 4) := by decide +kernel
  have hexact : ∀ f ∈ [framedFile], ∀ k ∈ f.hunks, k.IsExact := by
    simp only [List.forall_mem_singleton, framedFile]
    exact ⟨rfl, rfl⟩
  have hlines : (linesOf framedText.toList).length = 8 := by decide +kernel
  refine ⟨rfl, hframed, hexact, hcut, ?_⟩
  rw [read_append (.inr rfl) rfl hframed hexact, hcut, hlines]
  rfl

end DiffGauge.Diff
