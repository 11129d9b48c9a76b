import DiffGauge.Proofs.Analysis.Accounting

/-!
# Strict and lenient runs

A strict run does what a lenient one does, up to the first file whose new source is at fault, and
fails there. An old source at fault is as good as none in either of them.

* `Agrees` puts the two runs side by side, `analyzeFile_agrees` is the step and
  `analyzeFiles_agrees` the run;
* `analyze_error` says for what a run can fail, whatever stands in its way;
* `analyze_withoutOld` leaves out old sources at fault;
* `strict_eq_lenient_up_to_fault` says both of a whole diff.
-/

namespace DiffGauge.Analysis

open Diff Syntax

/-- The same run, up to the first source at fault. -/
def Setup.strict (s : Setup) : Setup := { s with isStrict := true }

/-- The same run, over all sources at fault. -/
def Setup.lenient (s : Setup) : Setup := { s with isStrict := false }

/-- The new source at a path is at fault. -/
def Setup.FaultAt (s : Setup) (path : String) (fault : SyntaxFault) : Prop :=
  ∃ source, s.sources path = some source ∧ s.unitsOf path source = .error (.syntaxFault fault)

/-- The entry is of a file whose source is at fault. -/
def FileEntry.isUnread (e : FileEntry) : Bool := e.skipped == some .parseError

/-- What a strict run comes to, beside what a lenient one does: the same if no source is at fault,
    and else a failure. It is that of the first source at fault, unless the lenient run fails
    too. -/
inductive Agrees (s : Setup) {α : Type} (entries : α → List FileEntry) :
    Except Failure α → Except Failure α → Prop where
  | same {a : α} : (∀ e ∈ entries a, e.isUnread = false) → Agrees s entries (.ok a) (.ok a)
  | refused {a : α} {e : FileEntry} {fault : SyntaxFault} :
      (entries a).find? FileEntry.isUnread = some e → s.FaultAt e.path fault →
      Agrees s entries (.ok a) (.error (.source e.path fault))
  | failed {e e' : Failure} : Agrees s entries (.error e) (.error e')

/-! ## One file -/

private theorem attributeFile_isUnread {s : Setup} {f : FileDiff} {units : List CodeUnit}
    {finding : FileFinding} (h : (attributeFile s f units).value = .ok finding) :
    finding.entry.isUnread = false := by
  simp only [attributeFile, bind, Except.bind] at h
  repeat' split at h
  all_goals cases h
  rfl

/-- What is found out in the same way in both runs, about a file whose source is not at fault. -/
theorem Agrees.of_file {s : Setup} {found : Except Failure FileFinding}
    (h : ∀ finding, found = .ok finding → finding.entry.isUnread = false) :
    Agrees s (fun x : FileFinding => [x.entry]) found found := by
  cases found with
  | error e => exact .failed
  | ok finding => exact .same (List.forall_mem_singleton.2 (h finding rfl))

/-- A strict run finds out the same about a file as a lenient one, unless its source is at
    fault. -/
theorem analyzeFile_agrees (s : Setup) (f : FileDiff) :
    Agrees s (fun x : FileFinding => [x.entry]) (analyzeFile s.lenient f).value
      (analyzeFile s.strict f).value := by
  rw [analyzeFile, analyzeFile, Setup.choosingObstacle?_eq_none, Setup.choosingObstacle?_eq_none]
  simp only [Setup.lenient, Setup.strict]
  cases hskip : skipReason? f.path f.isBinary s.rules.ignorePaths with
  | some reason =>
      have hne : ¬some reason = some SkipReason.parseError :=
        fun h => skipReason?_ne_parseError hskip (Option.some.inj h)
      exact .same (List.forall_mem_singleton.2 (beq_false_of_ne hne))
  | none =>
      simp only [analyzeChosen]
      split
      · exact .of_file fun _ h => attributeFile_isUnread h
      cases hsource : s.sources f.path with
      | none => exact .same (List.forall_mem_singleton.2 rfl)
      | some source =>
          simp only [Setup.obstacle?_eq_none]
          cases hunits : s.unitsOf f.path source with
          | ok units => exact .of_file fun _ h => attributeFile_isUnread h
          | error refusal =>
              cases refusal with
              | syntaxFault fault =>
                  exact .refused (e := (passedOver f .parseError []).entry) rfl
                    ⟨source, hsource, hunits⟩
              | invalidSpan span => exact .failed

/-! ## The run -/

/-- What the findings about all files come to, by those about the first. -/
theorem analyzeFiles_cons_value {ε : Type} (s : Setup ε) (f : FileDiff) (fs : List FileDiff) :
    (analyzeFiles s (f :: fs)).value = do
      let finding ← (analyzeFile s f).value
      return finding :: (← (analyzeFiles s fs).value) := by
  rw [analyzeFiles]
  cases (analyzeFile s f).value with
  | error e => rfl
  | ok finding =>
      simp only
      cases (analyzeFiles s fs).value with
      | error e => rfl
      | ok found => rfl

/-- A strict run beside a lenient one, over some files. -/
theorem analyzeFiles_agrees (s : Setup) (files : List FileDiff) :
    Agrees s (List.map FileFinding.entry) (analyzeFiles s.lenient files).value
      (analyzeFiles s.strict files).value := by
  induction files with
  | nil => exact .same (List.forall_mem_nil _)
  | cons f fs ih =>
      have hfile := analyzeFile_agrees s f
      rw [analyzeFiles_cons_value, analyzeFiles_cons_value]
      generalize (analyzeFile s.lenient f).value = lenient at hfile
      generalize (analyzeFile s.strict f).value = strict at hfile
      generalize (analyzeFiles s.lenient fs).value = lenients at ih
      generalize (analyzeFiles s.strict fs).value = stricts at ih
      cases hfile with
      | failed => exact .failed
      | refused hfirst hfault =>
          -- the lenient run goes on where the strict one ends
          cases lenients with
          | error e => exact .failed
          | ok found =>
              refine .refused ?_ hfault
              rw [List.map_cons, ← List.singleton_append, List.find?_append, hfirst]
              rfl
      | same hread =>
          have hhead := List.forall_mem_singleton.1 hread
          cases ih with
          | same hfound => exact .same (List.forall_mem_cons.2 ⟨hhead, hfound⟩)
          | refused hfirst hfault =>
              refine .refused ?_ hfault
              rw [List.map_cons, List.find?_cons, hhead]
              exact hfirst
          | failed => exact .failed

/-- A strict run beside a lenient one, over a whole diff. -/
theorem analyze_agrees (s : Setup) (text : String) :
    Agrees s Result.files (analyze s.lenient text).value (analyze s.strict text).value := by
  rw [analyze, analyze]
  cases read text with
  | error e => exact .failed
  | ok files =>
      have hfiles := analyzeFiles_agrees s files
      simp only
      generalize analyzeFiles s.lenient files = lenient at hfiles
      generalize analyzeFiles s.strict files = strict at hfiles
      obtain ⟨_, lenient⟩ := lenient
      obtain ⟨_, strict⟩ := strict
      cases hfiles with
      | same hread => exact .same hread
      | refused hfirst hfault => exact .refused hfirst hfault
      | failed => exact .failed

/-! ## Failures -/

section Failures

variable {ε : Type} {s : Setup ε}

/-- What a run can fail for. The lines of a diff that was read are numbered. -/
inductive Setup.FailsFor (s : Setup ε) : Failure ε → Prop where
  | diff (fault : Fault) : FailsFor s (.diff fault)
  | source (path : String) (fault : SyntaxFault) : FailsFor s (.source path fault)
  | invalidSpan {path source : String} {span : InvalidSpan} :
      s.unitsOf path source = .error (.invalidSpan span) → FailsFor s (.invalidSpan span)
  | blocked {step : Step} {obstacle : ε} :
      s.obstacle? step = some obstacle → FailsFor s (.blocked obstacle)

private theorem oldUnits_error
    {f : FileDiff} {e : Failure ε} (h : (oldUnits s f).value = .error e) :
    s.FailsFor e := by
  unfold oldUnits at h
  repeat' split at h
  all_goals cases h
  · exact .blocked ‹_›
  · exact .invalidSpan ‹_›

private theorem attributeFile_error {f : FileDiff} (hn : f.IsNumbered) {units : List CodeUnit}
    {e : Failure ε} (h : (attributeFile s f units).value = .error e) : s.FailsFor e := by
  rcases bind_eq_error_iff.1 h with h | ⟨olds, -, h⟩
  · exact oldUnits_error h
  obtain ⟨changes, hchanges⟩ := Attribution.exists_changesOf_of_isNumbered s.rules units olds hn
  rw [hchanges] at h
  simp only [Except.mapError, bind, Except.bind] at h
  split at h
  · next hplacing =>
      cases h
      rw [Setup.placingObstacle?] at hplacing
      split at hplacing
      · exact .blocked hplacing
      · cases hplacing
  · cases h

private theorem analyzeFile_error {f : FileDiff} (hn : f.IsNumbered) {e : Failure ε}
    (h : (analyzeFile s f).value = .error e) : s.FailsFor e := by
  unfold analyzeFile analyzeChosen at h
  repeat' split at h
  all_goals first | (cases h; done) | skip
  · next hchoosing =>
      cases h
      rw [Setup.choosingObstacle?] at hchoosing
      split at hchoosing
      · cases hchoosing
      · exact .blocked hchoosing
  · exact attributeFile_error hn h
  · cases h
    exact .blocked ‹_›
  · exact attributeFile_error hn h
  · cases h
    exact .source _ _
  · cases h
    exact .invalidSpan ‹_›

private theorem analyzeFiles_error {files : List FileDiff} (hn : ∀ f ∈ files, f.IsNumbered)
    {e : Failure ε} (h : (analyzeFiles s files).value = .error e) : s.FailsFor e := by
  induction files with
  | nil => cases h
  | cons f fs ih =>
      obtain ⟨hf, hfs⟩ := List.forall_mem_cons.1 hn
      rw [analyzeFiles_cons_value] at h
      rcases bind_eq_error_iff.1 h with h | ⟨finding, -, h⟩
      · exact analyzeFile_error hf h
      rcases bind_eq_error_iff.1 h with h | ⟨found, -, h⟩
      · exact ih hfs h
      · cases h

/-- A run fails for the diff, for a source, for a span that does not exist, or for something that
    stands in its way, and for nothing else. -/
theorem analyze_error {text : String} {e : Failure ε} (h : (analyze s text).value = .error e) :
    s.FailsFor e := by
  rw [analyze] at h
  cases hread : read text with
  | error fault =>
      rw [hread] at h
      cases h
      exact .diff fault
  | ok files =>
      rw [hread] at h
      simp only at h
      cases hfiles : (analyzeFiles s files).value with
      | error e' =>
          rw [hfiles] at h
          cases h
          exact analyzeFiles_error (read_numbered hread) hfiles
      | ok found =>
          rw [hfiles] at h
          cases h

end Failures

/-! ## Old sources at fault -/

/-- The same run without the old sources at some paths. -/
def Setup.withoutOld (s : Setup) (paths : List String) : Setup :=
  { s with
    oldSources := s.oldSources.map fun sources path =>
      if path ∈ paths then none else sources path }

/-- The old sources at the paths are at fault. -/
def Setup.OldFaultAt (s : Setup) (paths : List String) : Prop :=
  ∀ sources, s.oldSources = some sources → ∀ path ∈ paths, ∀ source,
    sources path = some source → ∃ fault, s.unitsOf path source = .error (.syntaxFault fault)

/-- Nothing is known of the old units of a file whose old source is at fault, or not there. -/
theorem oldUnits_withoutOld {s : Setup} {paths : List String} (h : s.OldFaultAt paths)
    (f : FileDiff) : (oldUnits (s.withoutOld paths) f).value = (oldUnits s f).value := by
  unfold oldUnits Setup.withoutOld
  cases holds : s.oldSources with
  | none => rfl
  | some sources =>
      cases f.oldPath with
      | none => rfl
      | some path =>
          by_cases hpath : path ∈ paths
          · simp only [Option.map_some, if_pos hpath]
            cases hsource : sources path with
            | none => rfl
            | some source =>
                obtain ⟨fault, hfault⟩ := h sources holds path hpath source hsource
                simp only [hfault, Setup.obstacle?_eq_none]
          · simp only [Option.map_some, if_neg hpath]

/-- Old sources matter to what is found out about a file only where its lines are attributed. -/
theorem analyzeFile_value_congr {s t : Setup} {f : FileDiff} (hrules : s.rules = t.rules)
    (hsources : s.sources = t.sources) (hstrict : s.isStrict = t.isStrict)
    (hunits : s.unitsOf = t.unitsOf)
    (hattribute : ∀ units, (attributeFile s f units).value = (attributeFile t f units).value) :
    (analyzeFile s f).value = (analyzeFile t f).value := by
  rw [analyzeFile, analyzeFile, Setup.choosingObstacle?_eq_none, Setup.choosingObstacle?_eq_none,
    hrules]
  simp only
  cases skipReason? f.path f.isBinary t.rules.ignorePaths with
  | some reason => rfl
  | none =>
      simp only [analyzeChosen, hsources, hstrict, hunits, Setup.obstacle?_eq_none]
      split
      · exact hattribute []
      · cases t.sources f.path with
        | none => rfl
        | some source =>
            simp only
            cases t.unitsOf f.path source with
            | ok units => exact hattribute units
            | error refusal =>
                cases refusal with
                | syntaxFault fault => rfl
                | invalidSpan span => rfl

private theorem analyzeFile_withoutOld {s : Setup} {paths : List String} (h : s.OldFaultAt paths)
    (f : FileDiff) : (analyzeFile (s.withoutOld paths) f).value = (analyzeFile s f).value := by
  refine analyzeFile_value_congr rfl rfl rfl rfl fun units => ?_
  simp only [attributeFile, oldUnits_withoutOld h]
  rfl

private theorem analyzeFiles_withoutOld {s : Setup} {paths : List String} (h : s.OldFaultAt paths)
    (files : List FileDiff) :
    (analyzeFiles (s.withoutOld paths) files).value = (analyzeFiles s files).value := by
  induction files with
  | nil => rfl
  | cons f fs ih =>
      rw [analyzeFiles_cons_value, analyzeFiles_cons_value, analyzeFile_withoutOld h, ih]

/-- Leaving out old sources at fault changes neither the result nor the failure of a run. -/
theorem analyze_withoutOld {s : Setup} {paths : List String} (h : s.OldFaultAt paths)
    (text : String) : (analyze (s.withoutOld paths) text).value = (analyze s text).value := by
  rw [analyze, analyze]
  cases read text with
  | error e => rfl
  | ok files =>
      simp only [analyzeFiles_withoutOld h]
      cases (analyzeFiles s files).value with
      | error e => rfl
      | ok found => rfl

/-! ## The whole diff -/

/-- **A strict run only fails more often**: it has a result exactly if the lenient run has one and
    no source is at fault, and it is the same. If the lenient run passes over files whose sources
    are at fault, the strict run fails with the fault of the first of them. Old sources at fault
    change nothing in either run. -/
theorem strict_eq_lenient_up_to_fault (s : Setup) (text : String) :
    (∀ r, (analyze s.strict text).value = .ok r ↔
      (analyze s.lenient text).value = .ok r ∧ ∀ e ∈ r.files, e.isUnread = false) ∧
    (∀ r e, (analyze s.lenient text).value = .ok r → r.files.find? FileEntry.isUnread = some e →
      ∃ fault, s.FaultAt e.path fault ∧
        (analyze s.strict text).value = .error (.source e.path fault)) ∧
    ∀ paths, s.OldFaultAt paths → ∀ run ∈ [s.strict, s.lenient],
      (analyze (run.withoutOld paths) text).value = (analyze run text).value := by
  refine ⟨fun r => ?_, fun r e h hfirst => ?_, fun paths hpaths run hrun => ?_⟩
  · have hagrees := analyze_agrees s text
    generalize (analyze s.lenient text).value = lenient at hagrees
    generalize (analyze s.strict text).value = strict at hagrees
    cases hagrees with
    | same hread =>
        exact ⟨fun h => ⟨h, Except.ok.inj h ▸ hread⟩, fun h => h.1⟩
    | refused hfirst hfault =>
        refine ⟨nofun, fun ⟨h, hread⟩ => ?_⟩
        cases h
        have hunread := List.find?_some hfirst
        rw [hread _ (List.mem_of_find?_eq_some hfirst)] at hunread
        cases hunread
    | failed => exact ⟨nofun, fun h => nomatch h.1⟩
  · have hagrees := analyze_agrees s text
    rw [h] at hagrees
    generalize (analyze s.strict text).value = strict at hagrees
    cases hagrees with
    | same hread =>
        have hunread := List.find?_some hfirst
        rw [hread _ (List.mem_of_find?_eq_some hfirst)] at hunread
        cases hunread
    | refused hfirst' hfault =>
        cases hfirst.symm.trans hfirst'
        exact ⟨_, hfault, rfl⟩
  · refine analyze_withoutOld ?_ text
    rcases List.mem_pair.1 hrun with rfl | rfl
    · exact hpaths
    · exact hpaths

/-- A run over `halfReadable` that knows old sources, all of them at fault. -/
def brokenPastSetup : Setup := { halfReadableSetup with oldSources := some fun _ => some "fn\n" }

/-- The lenient run passes over the second file of `halfReadable`, the strict one fails there, and
    neither looks for the old units of the first. -/
theorem strict_eq_lenient_up_to_fault_of_halfReadable :
    (∃ r e, (analyze brokenPastSetup.lenient halfReadable).value = .ok r ∧
      r.files.find? FileEntry.isUnread = some e ∧ e.path = "src/c.rs" ∧
      ∃ fault, brokenPastSetup.FaultAt e.path fault ∧
        (analyze brokenPastSetup.strict halfReadable).value = .error (.source e.path fault)) ∧
    brokenPastSetup.OldFaultAt ["src/a.rs"] ∧
    ∀ run ∈ [brokenPastSetup.strict, brokenPastSetup.lenient],
      (analyze (run.withoutOld ["src/a.rs"]) halfReadable).value
        = (analyze run halfReadable).value := by
  obtain ⟨-, hrefused, hold⟩ := strict_eq_lenient_up_to_fault brokenPastSetup halfReadable
  have hfirst : ((analyze brokenPastSetup.lenient halfReadable).value.toOption.bind
      fun r => r.files.find? FileEntry.isUnread)
        = some { path := "src/c.rs", status := .added, skipped := some .parseError } := by
    decide +kernel
  have hfaults : brokenPastSetup.OldFaultAt ["src/a.rs"] := by
    intro sources hsources path _ source hsource
    cases hsources
    cases hsource
    exact ⟨.unreadable, rfl⟩
  refine ⟨?_, hfaults, hold ["src/a.rs"] hfaults⟩
  cases hlenient : (analyze brokenPastSetup.lenient halfReadable).value with
  | error e =>
      rw [hlenient] at hfirst
      cases hfirst
  | ok r =>
      rw [hlenient] at hfirst
      exact ⟨r, _, rfl, hfirst, rfl, hrefused r _ hlenient hfirst⟩

end DiffGauge.Analysis
