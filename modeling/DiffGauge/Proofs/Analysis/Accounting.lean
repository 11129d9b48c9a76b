import DiffGauge.Analysis.Run
import DiffGauge.Gate.Summary
import DiffGauge.Proofs.Attribution.Conservation
import DiffGauge.Proofs.Diff.Numbering
import Mathlib

/-!
# What a run accounts for

A lenient run gives an account of every file section of its diff, in order. A file that is
analysed has a group of changes that add up to its hunks; a file whose source is at fault has a
message; any other file that is passed over has neither.

* `FileAccount` is the account of one file and `Accounts` that of a run;
* `analyzeFile_accounts` is the step and `analyzeFiles_accounts` the run, where there can be no
  obstacles;
* `Accounts.total_lines` adds the groups up and `analyze_accounts_for_diff` speaks of a whole diff.
-/

namespace DiffGauge.Analysis

open Diff Syntax

/-- The source at a path is never refused for a span that does not exist: its units are found, or
    its text is at fault. -/
def Setup.FindsUnitsOrFault {ε : Type} (s : Setup ε) : Prop :=
  ∀ path source span, s.unitsOf path source ≠ .error (.invalidSpan span)

/-- The entry is about the file. -/
structure IsEntryOf (f : FileDiff) (e : FileEntry) : Prop where
  path : e.path = f.path
  oldPath : e.oldPath = if f.isRename then f.oldPath else none
  status : e.status = f.status

/-- The changes are those of an analysed file: as many as its entry says, all at its path, with
    the added and the removed lines of its hunks. -/
structure CoversFile (f : FileDiff) (e : FileEntry) (group : List Change) : Prop where
  skipped : e.skipped = none
  changes : e.changes = group.length
  file : ∀ c ∈ group, c.file = e.path
  added : total (group.map (·.added)) = (f.count .added : Int)
  removed : total (group.map (·.removed)) = (f.count .removed : Int)

/-- The message says what is wrong with the source of a file. -/
def IsMessageOf (s : Setup) (f : FileDiff) (message : String) : Prop :=
  ∃ source fault, s.sources f.path = some source ∧
    s.unitsOf f.path source = .error (.syntaxFault fault) ∧ message = fault.message f.path

/-- The account of one file: its entry, its changes and its messages. -/
inductive FileAccount (s : Setup) (f : FileDiff) :
    FileEntry → List Change → List String → Prop where
  | analyzed {e : FileEntry} {group : List Change} :
      IsEntryOf f e → CoversFile f e group → FileAccount s f e group []
  | unread {e : FileEntry} {message : String} :
      IsEntryOf f e → e.skipped = some .parseError → IsMessageOf s f message →
      FileAccount s f e [] [message]
  | passedOver {e : FileEntry} {reason : SkipReason} :
      IsEntryOf f e → e.skipped = some reason → reason ≠ .parseError → FileAccount s f e [] []

/-- The account of a run: one entry for each file, in order, and the changes and the messages of
    all files, one after the other. -/
inductive Accounts (s : Setup) :
    List FileDiff → List FileEntry → List Change → List String → Prop where
  | nil : Accounts s [] [] [] []
  | cons {f : FileDiff} {e : FileEntry} {group cs : List Change} {own ms : List String}
      {fs : List FileDiff} {es : List FileEntry} :
      FileAccount s f e group own → Accounts s fs es cs ms →
      Accounts s (f :: fs) (e :: es) (group ++ cs) (own ++ ms)

/-! ## One file -/

/-- An old source never makes a run fail. -/
theorem oldUnits_eq_ok {s : Setup} (hs : s.FindsUnitsOrFault) (f : FileDiff) :
    ∃ olds, (oldUnits s f).value = .ok olds := by
  unfold oldUnits
  cases s.oldSources with
  | none => exact ⟨none, rfl⟩
  | some sources =>
      cases f.oldPath with
      | none => exact ⟨none, rfl⟩
      | some path =>
          simp only
          cases sources path with
          | none => exact ⟨none, rfl⟩
          | some source =>
              simp only [Setup.obstacle?_eq_none]
              cases hu : s.unitsOf path source with
              | ok units => exact ⟨some units, rfl⟩
              | error refusal =>
                  cases refusal with
                  -- an old source at fault is as good as none
                  | syntaxFault fault => exact ⟨none, rfl⟩
                  | invalidSpan span => exact absurd hu (hs path source span)

/-- The lines of a file go to the given units, and its changes cover it. -/
theorem attributeFile_accounts {s : Setup} (hs : s.FindsUnitsOrFault) {f : FileDiff}
    (hbinary : f.isBinary = false) (hn : f.IsNumbered) (units : List CodeUnit) :
    ∃ finding, (attributeFile s f units).value = .ok finding ∧
      FileAccount s f finding.entry finding.changes finding.errors := by
  obtain ⟨olds, holds⟩ := oldUnits_eq_ok hs f
  obtain ⟨a, ha, alen, rlen, arange, rrange⟩ := Attribution.exists_attributed units olds hn
  simp only [attributeFile, holds, bind, Except.bind, Attribution.changesOf_eq_ok hbinary ha,
    Except.mapError, Setup.placingObstacle?_eq_none]
  refine ⟨_, rfl, .analyzed ⟨rfl, rfl, rfl⟩ ⟨rfl, rfl, ?_, ?_, ?_⟩⟩
  · intro c hc
    exact Attribution.file_of_mem_changes (List.mem_mergeSort.1 hc)
  · rw [Attribution.total_mergeSort, Attribution.total_added_changes _ _ _ _ _ arange, alen]
  · rw [Attribution.total_mergeSort, Attribution.total_removed_changes _ _ _ _ _ rrange, rlen]

/-- A file that is passed over before its source is looked for is not at fault. -/
theorem skipReason?_ne_parseError {path : String} {isBinary : Bool} {ignored : Names}
    {reason : SkipReason} (h : skipReason? path isBinary ignored = some reason) :
    reason ≠ .parseError := by
  unfold skipReason? at h
  repeat' split at h
  all_goals cases h
  all_goals decide

private theorem isBinary_of_skipReason?_eq_none {path : String} {isBinary : Bool} {ignored : Names}
    (h : skipReason? path isBinary ignored = none) : isBinary = false := by
  cases isBinary with
  | false => rfl
  | true => cases h

/-- The step of a lenient run gives the account of its file. -/
theorem analyzeFile_accounts {s : Setup} (hlenient : s.isStrict = false)
    (hs : s.FindsUnitsOrFault) {f : FileDiff} (hn : f.IsNumbered) :
    ∃ finding, (analyzeFile s f).value = .ok finding ∧
      FileAccount s f finding.entry finding.changes finding.errors := by
  rw [analyzeFile, Setup.choosingObstacle?_eq_none]
  cases hskip : skipReason? f.path f.isBinary s.rules.ignorePaths with
  | some reason =>
      exact ⟨_, rfl, .passedOver ⟨rfl, rfl, rfl⟩ rfl (skipReason?_ne_parseError hskip)⟩
  | none =>
      have hbinary := isBinary_of_skipReason?_eq_none hskip
      simp only
      unfold analyzeChosen
      by_cases hd : f.status = .deleted
      -- a deleted file has no units, whether there is a source or not
      · simp only [if_pos hd]
        exact attributeFile_accounts hs hbinary hn []
      simp only [if_neg hd]
      cases hsource : s.sources f.path with
      | none => exact ⟨_, rfl, .passedOver ⟨rfl, rfl, rfl⟩ rfl (by decide)⟩
      | some source =>
          simp only [Setup.obstacle?_eq_none]
          cases hu : s.unitsOf f.path source with
          | ok units => exact attributeFile_accounts hs hbinary hn units
          | error refusal =>
              cases refusal with
              | syntaxFault fault =>
                  simp only [hlenient, Bool.false_eq_true, if_false]
                  exact ⟨_, rfl, .unread ⟨rfl, rfl, rfl⟩ rfl ⟨source, fault, hsource, hu, rfl⟩⟩
              | invalidSpan span => exact absurd hu (hs f.path source span)

/-! ## The run -/

/-- A lenient run over files whose lines are numbered gives the account of all of them. -/
theorem analyzeFiles_accounts {s : Setup} (hlenient : s.isStrict = false)
    (hs : s.FindsUnitsOrFault) {files : List FileDiff} (hn : ∀ f ∈ files, f.IsNumbered) :
    ∃ found, (analyzeFiles s files).value = .ok found ∧
      Accounts s files (found.map (·.entry)) (found.flatMap (·.changes))
        (found.flatMap (·.errors)) := by
  induction files with
  | nil => exact ⟨[], rfl, .nil⟩
  | cons f fs ih =>
      obtain ⟨hf, hfs⟩ := List.forall_mem_cons.1 hn
      obtain ⟨finding, hfinding, haccount⟩ := analyzeFile_accounts hlenient hs hf
      obtain ⟨found, hfound, haccounts⟩ := ih hfs
      refine ⟨finding :: found, ?_, .cons haccount haccounts⟩
      simp only [analyzeFiles, hfinding, hfound]
      rfl

/-! ## Adding up -/

/-- The lines of a kind in the sections whose entries were not skipped. -/
def analyzedLines (k : LineKind) (files : List FileDiff) (entries : List FileEntry) : Int :=
  total (((files.zip entries).filter (·.2.skipped.isNone)).map fun x => (x.1.count k : Int))

private theorem analyzedLines_cons
    (k : LineKind) (f : FileDiff) (e : FileEntry) (fs : List FileDiff)
    (es : List FileEntry) :
    analyzedLines k (f :: fs) (e :: es)
      = (if e.skipped.isNone then (f.count k : Int) else 0) + analyzedLines k fs es := by
  rw [analyzedLines, List.zip_cons_cons, List.filter_cons]
  by_cases h : e.skipped.isNone = true
  · rw [if_pos h, if_pos h, List.map_cons, total_eq_sum, List.sum_cons]
    rfl
  · rw [if_neg h, if_neg h, Int.zero_add]
    rfl

/-- What the group of each analysed file adds up to, all changes add up to over the sections that
    were analysed. -/
theorem Accounts.total_lines {g : Change → Int} {k : LineKind}
    (hg : ∀ f e group, CoversFile f e group → total (group.map g) = (f.count k : Int))
    {s : Setup} {files : List FileDiff} {entries : List FileEntry} {cs : List Change}
    {ms : List String} (h : Accounts s files entries cs ms) :
    total (cs.map g) = analyzedLines k files entries := by
  induction h with
  | nil => rfl
  | cons hf _ ih =>
      rw [List.map_append, total_eq_sum, List.sum_append, ← total_eq_sum, ← total_eq_sum, ih,
        analyzedLines_cons]
      congr 1
      cases hf with
      | analyzed _ hcovers =>
          rw [hg _ _ _ hcovers, hcovers.skipped]
          rfl
      | unread _ hskipped _ =>
          rw [hskipped]
          rfl
      | passedOver _ hskipped _ =>
          rw [hskipped]
          rfl

/-! ## The whole diff -/

/-- A lenient run over a diff that is read gives the account of its sections, and the summary
    counts the lines of those that were analysed. -/
theorem analyze_accounts_for_diff (s : Setup) (text : String) (files : List FileDiff)
    (weights : Gate.Weights) (hread : read text = .ok files) (hlenient : s.isStrict = false)
    (hs : s.FindsUnitsOrFault) :
    ∃ r, (analyze s text).value = .ok r ∧
      Accounts s files r.files r.changes r.errors ∧
      (Gate.summarize weights r.changes).totalAdded = analyzedLines .added files r.files ∧
      (Gate.summarize weights r.changes).totalRemoved = analyzedLines .removed files r.files := by
  obtain ⟨found, hfound, haccounts⟩ := analyzeFiles_accounts hlenient hs (read_numbered hread)
  refine ⟨Result.ofFindings found, ?_, haccounts, ?_, ?_⟩
  · simp only [analyze, hread, hfound]
  · exact haccounts.total_lines fun f e group hcovers => hcovers.added
  · exact haccounts.total_lines fun f e group hcovers => hcovers.removed

/-- A diff that replaces a function and adds a file that is not Rust. -/
def halfReadable : String :=
  "--- a/src/a.rs\n+++ b/src/a.rs\n@@ -1 +1 @@\n-fn a() \x7b\x7d\n+fn b() \x7b\x7d\n"
    ++ "--- /dev/null\n+++ b/src/c.rs\n@@ -0,0 +1 @@\n+fn\n"

/-- A lenient run that knows the new sources of `halfReadable`. -/
def halfReadableSetup : Setup :=
  { rules := {}
    sources := fun path => if path = "src/c.rs" then some "fn\n" else some "fn b() \x7b\x7d\n"
    oldSources := none
    isStrict := false
    unitsOf := fun _ source =>
      if source = "fn\n" then .error (.syntaxFault .unreadable)
      else .ok [{
        kind := some .function, name := "b", visibility := .inside
        span := .clamped 1 1, purpose := .production }] }

/-- The sections of `halfReadable`. -/
def halfReadableFiles : List FileDiff :=
  [{ oldPath := some "src/a.rs"
     newPath := some "src/a.rs"
     hunks :=
       [{ oldStart := 1, oldCount := 1, newStart := 1, newCount := 1
          lines :=
            [{ kind := .removed, content := "fn a() \x7b\x7d", oldNo := some 1 },
             { kind := .added, content := "fn b() \x7b\x7d", newNo := some 1 }] }] },
   { oldPath := none
     newPath := some "src/c.rs"
     status := .added
     hunks :=
       [{ oldStart := 0, oldCount := 0, newStart := 1, newCount := 1
          lines := [{ kind := .added, content := "fn", newNo := some 1 }] }] }]

/-- Both sections have an account, and the summary counts the line of the first. -/
theorem analyze_accounts_for_diff_of_halfReadable :
    read halfReadable = .ok halfReadableFiles ∧ halfReadableSetup.isStrict = false ∧
      halfReadableSetup.FindsUnitsOrFault ∧
      ∃ r, (analyze halfReadableSetup halfReadable).value = .ok r ∧
        Accounts halfReadableSetup halfReadableFiles r.files r.changes r.errors ∧
        (Gate.summarize {} r.changes).totalAdded
          = analyzedLines .added halfReadableFiles r.files ∧
        (Gate.summarize {} r.changes).totalRemoved
          = analyzedLines .removed halfReadableFiles r.files := by
  have hread : read halfReadable = .ok halfReadableFiles := by decide +kernel
  have hfinds : halfReadableSetup.FindsUnitsOrFault := by
    intro path source span
    show (if source = "fn\n" then _ else _) ≠ _
    split
    · intro e
      cases e
    · intro e
      cases e
  exact ⟨hread, rfl, hfinds,
    analyze_accounts_for_diff halfReadableSetup halfReadable halfReadableFiles {} hread rfl hfinds⟩

end DiffGauge.Analysis
