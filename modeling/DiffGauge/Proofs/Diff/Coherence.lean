import DiffGauge.Proofs.Diff.Numbering
import Mathlib

/-!
# The parts of a file section agree

The extended headers of a section may come in any order, again and against one another, and the path
lines after them overrule the paths that they name. The file that comes out of it is coherent all
the same (`FileDiff.IsCoherent`): its status says which of the two paths are there, a rename is
never passed over but for a file that is new or deleted, and binary files and changes of the mode
have no hunks.

* `isCoherent_of_status` is the one argument for the three places at which a section ends;
* `IsReadAt.hunks_ne_nil_iff` says that the sections with hunks are those with path lines, binary
  ones apart;
* `read_coherent` is the statement about a diff.
-/

namespace DiffGauge.Diff

/-! ## Status and paths -/

/-- The status, the paths and the hunks of a file do not contradict one another. -/
structure FileDiff.IsCoherent (f : FileDiff) : Prop where
  deleted_iff : f.status = .deleted ↔ f.newPath = none
  added_iff : f.status = .added ↔ f.oldPath = none ∧ f.newPath ≠ none
  renamed : f.status = .renamed → f.isRename = true ∧ f.oldPath ≠ none ∧ f.newPath ≠ none
  rename : f.isRename = true → f.status = .renamed ∨ f.status = .added ∨ f.status = .deleted
  modeChanged : f.status = .modeChanged → f.hunks = []
  binary : f.isBinary = true → f.hunks = []

/-- Which status is chosen. -/
theorem FileStatus.of_spec : ∀ isNew isDeleted isRename onlyMode : Bool,
    (of isNew isDeleted isRename onlyMode = .deleted ↔ isDeleted = true) ∧
    (of isNew isDeleted isRename onlyMode = .added ↔ isNew = true ∧ isDeleted = false) ∧
    (of isNew isDeleted isRename onlyMode = .renamed ↔
      isRename = true ∧ isNew = false ∧ isDeleted = false) ∧
    (of isNew isDeleted isRename onlyMode = .modeChanged → onlyMode = true) := by
  decide

/-- A file is coherent if its status is chosen by its own paths. -/
theorem isCoherent_of_status {f : FileDiff} (onlyMode : Bool)
    (hstatus : f.status = .of f.oldPath.isNone f.newPath.isNone f.isRename onlyMode)
    (hmode : onlyMode = true → f.hunks = []) (hbinary : f.isBinary = true → f.hunks = []) :
    f.IsCoherent := by
  obtain ⟨hdeleted, hadded, hrenamed, honly⟩ :=
    FileStatus.of_spec f.oldPath.isNone f.newPath.isNone f.isRename onlyMode
  rw [← hstatus] at hdeleted hadded hrenamed honly
  rw [Option.isNone_iff_eq_none] at hdeleted
  rw [Option.isNone_iff_eq_none, Option.isNone_eq_false_iff, Option.isSome_iff_ne_none] at hadded
  rw [Option.isNone_eq_false_iff, Option.isNone_eq_false_iff, Option.isSome_iff_ne_none,
    Option.isSome_iff_ne_none] at hrenamed
  refine ⟨hdeleted, hadded, hrenamed.1, ?_, fun hstat => hmode (honly hstat), hbinary⟩
  -- a rename whose status is another one misses a path
  intro hrename
  by_cases hnew : f.newPath = none
  · exact .inr (.inr (hdeleted.2 hnew))
  by_cases hold : f.oldPath = none
  · exact .inr (.inl (hadded.2 ⟨hold, hnew⟩))
  · exact .inl (hrenamed.2 ⟨hrename, hold, hnew⟩)

/-- What the preface alone says of a file is coherent. -/
theorem Preface.fileDiff_isCoherent (p : Preface) : p.fileDiff.IsCoherent := by
  have hold : p.fileDiff.oldPath.isNone = p.isNew := by
    show (if p.isNew = true then none else some p.oldPath).isNone = p.isNew
    cases p.isNew with
    | true => rfl
    | false => rfl
  have hnew : p.fileDiff.newPath.isNone = p.isDeleted := by
    show (if p.isDeleted = true then none else some p.newPath).isNone = p.isDeleted
    cases p.isDeleted with
    | true => rfl
    | false => rfl
  refine isCoherent_of_status p.modeChanged ?_ (fun _ => rfl) fun _ => rfl
  rw [hold, hnew]
  rfl

/-- The two sides of a section have path lines in front of them, and a hunk at least. -/
theorem readSides_coherent {header : Nat} {isRename : Bool} {lineNo : Nat} {lines : List Line}
    {s : Section} (h : readSides header isRename lineNo lines = .ok s) :
    s.file.IsCoherent ∧ atPathLines lines = true ∧ s.file.hunks ≠ [] := by
  have hbinary := readSides_isBinary h
  unfold readSides at h
  split at h
  · cases h
  · next oldPath newPath below hpaths =>
      have hat : atPathLines lines = true := by
        unfold readPaths at hpaths
        repeat' split at hpaths
        · next old _ hold _ new below' hnew => exact Bool.and_eq_true_iff.2 ⟨hold, hnew⟩
        all_goals cases hpaths
      split at h
      · cases h
      · cases h
      · next k ks rest hs =>
          cases h
          refine ⟨isCoherent_of_status false rfl nofun ?_, hat,
            List.cons_ne_nil k ks⟩
          rw [hbinary]
          exact nofun

/-! ## Sections with path lines -/

/-- The section that begins with these lines has path lines: they come first, or right behind the
    line that opens the section and its extended headers. -/
def hasPathLines : List Line → Bool
  | [] => false
  | line :: below =>
    if opensSection line then
      atPathLines (below.dropWhile fun l => (ExtendedHeader.read? l).isSome)
    else atPathLines (line :: below)

/-- A section begins with these lines, and it is about the file. -/
inductive FileDiff.IsReadAt (f : FileDiff) (lineNo : Nat) : List Line → Prop where
  | opened {line : Line} {below : List Line} {rest : Input} :
      opensSection line = true → readSection line lineNo below = .ok ⟨f, rest⟩ →
      IsReadAt f lineNo (line :: below)
  | plain {line : Line} {below : List Line} {rest : Input} :
      opensSection line = false → readSides lineNo false lineNo (line :: below) = .ok ⟨f, rest⟩ →
      IsReadAt f lineNo (line :: below)

/-- Behind the preface stands the first line that is no extended header. -/
theorem readPreface_rest (p : Preface) (lineNo : Nat) (lines : List Line) :
    (readPreface p lineNo lines).2.lines
      = lines.dropWhile fun l => (ExtendedHeader.read? l).isSome := by
  induction lines generalizing p lineNo with
  | nil => rfl
  | cons line lines ih =>
      rw [readPreface, List.dropWhile_cons]
      cases ExtendedHeader.read? line with
      | none => rfl
      | some x => exact ih (p.adding x) (lineNo + 1)

/-- Something that is no path line is none of a pair. -/
theorem atOldPath_of_atPathLines {lines : List Line} (h : atPathLines lines = true) :
    atOldPath lines = true := by
  unfold atPathLines at h
  split at h
  · next old new below =>
      obtain ⟨rest, hrest⟩ := Option.isSome_iff_exists.1 (Bool.and_eq_true_iff.1 h).1
      rw [Text.dropLead?, Text.after?_eq_some_iff] at hrest
      rw [hrest]
      rfl
  · cases h

private theorem readSection_coherent
    {header : Line} {lineNo : Nat} {lines : List Line} {s : Section}
    (h : readSection header lineNo lines = .ok s) :
    s.file.IsCoherent ∧
      (s.file.hunks ≠ [] ↔
        atPathLines (lines.dropWhile fun l => (ExtendedHeader.read? l).isSome) = true ∧
          s.file.isBinary = false) := by
  unfold readSection at h
  split at h
  · cases h
  · next oldPath newPath _ =>
      have hrest := readPreface_rest { oldPath, newPath } (lineNo + 1) lines
      generalize readPreface { oldPath, newPath } (lineNo + 1) lines = pr at h hrest
      obtain ⟨p, rest⟩ := pr
      simp only at h hrest
      rw [← hrest]
      split at h
      · next hbinary =>
          cases h
          refine ⟨p.fileDiff_isCoherent, fun hne => absurd rfl hne, fun hpaths => ?_⟩
          have hfalse : p.isBinary = false := hpaths.2
          exact absurd (hbinary.symm.trans hfalse) (by decide)
      split at h
      · have hfalse := readSides_isBinary h
        obtain ⟨hcoherent, hpaths, hne⟩ := readSides_coherent h
        exact ⟨hcoherent, fun _ => ⟨hpaths, hfalse⟩, fun _ => hne⟩
      · next hno =>
          split at h
          · cases h
            refine ⟨p.fileDiff_isCoherent, fun hne => absurd rfl hne, fun hpaths => ?_⟩
            exact absurd (atOldPath_of_atPathLines hpaths.1) hno
          · cases h

private theorem FileDiff.IsReadAt.isCoherent {f : FileDiff} {lineNo : Nat} {lines : List Line}
    (h : f.IsReadAt lineNo lines) : f.IsCoherent := by
  cases h with
  | opened _ hs => exact (readSection_coherent hs).1
  | plain _ hs => exact (readSides_coherent hs).1

/-- A file has hunks exactly if its section has path lines and it is not binary. -/
theorem FileDiff.IsReadAt.hunks_ne_nil_iff {f : FileDiff} {lineNo : Nat} {lines : List Line}
    (h : f.IsReadAt lineNo lines) :
    f.hunks ≠ [] ↔ hasPathLines lines = true ∧ f.isBinary = false := by
  cases h with
  | opened hopens hs =>
      rw [hasPathLines, if_pos hopens]
      exact (readSection_coherent hs).2
  | plain hopens hs =>
      obtain ⟨-, hpaths, hne⟩ := readSides_coherent hs
      rw [hasPathLines, hopens]
      exact ⟨fun _ => ⟨hpaths, readSides_isBinary hs⟩, fun _ => hne⟩

/-! ## The whole diff -/

/-- The file is read at some of the lines, of which the first has the number `lineNo`. -/
def FileDiff.IsReadIn (f : FileDiff) (lineNo : Nat) (lines : List Line) : Prop :=
  ∃ front below, lines = front ++ below ∧ f.IsReadAt (lineNo + front.length) below

private theorem FileDiff.IsReadAt.isReadIn {f : FileDiff} {lineNo : Nat} {lines : List Line}
    (h : f.IsReadAt lineNo lines) : f.IsReadIn lineNo lines :=
  ⟨[], lines, rfl, h⟩

/-- What is read in the rest of some lines is read in all of them. -/
theorem FileDiff.IsReadIn.ofEnd {rest : Input} {lineNo : Nat} {lines : List Line} {f : FileDiff}
    (hrest : rest.EndOf lineNo lines) (h : f.IsReadIn rest.lineNo rest.lines) :
    f.IsReadIn lineNo lines := by
  obtain ⟨before, hlines, hno⟩ := hrest
  obtain ⟨front, below, hbelow, hread⟩ := h
  refine ⟨before ++ front, below, by rw [hlines, hbelow, List.append_assoc], ?_⟩
  rwa [List.length_append, ← Nat.add_assoc, ← hno]

/-- Every file of a diff is read at some of its lines. -/
theorem readSections_isReadIn {lineNo : Nat} {lines : List Line} {files : List FileDiff}
    (h : readSections lineNo lines = .ok files) : ∀ f ∈ files, f.IsReadIn lineNo lines := by
  fun_induction readSections lineNo lines generalizing files with
  | case1 =>
      cases h
      exact List.forall_mem_nil _
  | case2 => cases h
  | case3 lineNo line below hopens s hs _ ih =>
      obtain ⟨more, hmore, rfl⟩ := map_eq_ok h
      have hfirst : s.file.IsReadAt lineNo (line :: below) := .opened hopens hs
      refine List.forall_mem_cons.2 ⟨hfirst.isReadIn, fun f hf => ?_⟩
      exact (ih hmore f hf).ofEnd (.cons line (readSection_endOf hs))
  | case4 => cases h
  | case5 lineNo line below hopens _ s hs _ ih =>
      obtain ⟨more, hmore, rfl⟩ := map_eq_ok h
      have hfirst : s.file.IsReadAt lineNo (line :: below) :=
        .plain (eq_false_of_ne_true hopens) hs
      refine List.forall_mem_cons.2 ⟨hfirst.isReadIn, fun f hf => ?_⟩
      obtain ⟨old, new, below', hlines, hend⟩ := readSides_endOf hs
      rw [hlines]
      exact (ih hmore f hf).ofEnd (.cons old (.cons new hend))
  | case6 => cases h
  | case7 lineNo line below _ _ _ ih =>
      exact fun f hf => (ih h f hf).ofEnd (.cons line (.refl _ _))

/-- The files of a diff are coherent. Each of them is read at some of its lines, and it has hunks
    exactly if its section there has path lines and it is not binary. -/
theorem read_coherent {text : String} {files : List FileDiff} (h : read text = .ok files) :
    ∀ f ∈ files, f.IsCoherent ∧
      ∃ front lines, linesOf text.toList = front ++ lines ∧ f.IsReadAt (1 + front.length) lines ∧
        (f.hunks ≠ [] ↔ hasPathLines lines = true ∧ f.isBinary = false) := by
  intro f hf
  obtain ⟨front, lines, hlines, hread⟩ := readSections_isReadIn h f hf
  exact ⟨hread.isCoherent, front, lines, hlines, hread, hread.hunks_ne_nil_iff⟩

/-- A section that says of its file that it is new, deleted, renamed twice and of another mode, and
    then has path lines; one of a binary file with path lines; and one that changes the mode. -/
def contradictoryText : String :=
  "diff --git a/x b/x\nnew file mode 1\nrename from u\nold mode 2\nrename to v\n"
    ++ "deleted file mode 3\nrename to w\n--- a/y\n+++ b/y\n@@ -1 +1 @@\n-a\n+b\n"
    ++ "diff --git a/z b/z\nGIT binary patch\nrename to v\n--- a/z\n+++ b/z\n@@ -1 +1 @@\n-a\n"
    ++ "diff --git a/z b/z\nnew mode 4\n"

/-- The files of `contradictoryText`. -/
def contradictoryFiles : List FileDiff :=
  [{ oldPath := some "y", newPath := some "y", status := .renamed, isRename := true
     hunks :=
       [{ oldStart := 1, oldCount := 1, newStart := 1, newCount := 1
          lines :=
            [{ kind := .removed, content := "a", oldNo := some 1 },
             { kind := .added, content := "b", newNo := some 1 }] }] },
   { oldPath := some "z", newPath := some "v", status := .renamed, isRename := true
     isBinary := true },
   { oldPath := some "z", newPath := some "z", status := .modeChanged }]

/-- All three files are coherent, and only the first has hunks. -/
theorem read_coherent_of_contradictoryText :
    read contradictoryText = .ok contradictoryFiles ∧
      ∀ f ∈ contradictoryFiles, f.IsCoherent ∧
        ∃ front lines, linesOf contradictoryText.toList = front ++ lines ∧
          f.IsReadAt (1 + front.length) lines ∧
          (f.hunks ≠ [] ↔ hasPathLines lines = true ∧ f.isBinary = false) := by
  have hread : read contradictoryText = .ok contradictoryFiles := by decide +kernel
  exact ⟨hread, read_coherent hread⟩

end DiffGauge.Diff
