import DiffGauge.Analysis.Run
import DiffGauge.Gate.Summary
import DiffGauge.Proofs.Attribution.Regions

/-!
# New files and deleted files

A file that is new as a whole has changes of one kind: all its lines are added, so every unit with a
line is new, however the units lie in one another, and no old unit has any. A deleted file has no
units on the new side, and its lines are all removed, so they go to old units and to regions, and
all of them are removals. As no removal counts as a unit, deleting a file never makes a diff larger
by the number of units.

* `removed_of_gives` and `added_of_gives` say what attributions with lines of one sort have;
* `kind_of_new` and `kind_of_gives_nil` give the kinds of both sorts of files;
* `changesOf_whole_files` says what such files have and what the latter count.
-/

namespace DiffGauge.Diff

/-- The hunk adds the lines from the first one to line `n`, and that is all it does. -/
structure Hunk.AddsFirst (h : Hunk) (n : Nat) : Prop where
  added : ∀ l ∈ h.lines, l.kind = .added
  numbers : h.lines.map (·.newNo) = (List.range' 1 n).map fun i : Nat => some (i : Int)

/-- The file has removed lines and no others. -/
def FileDiff.RemovesOnly (f : FileDiff) : Prop := ∀ h ∈ f.hunks, ∀ l ∈ h.lines, l.kind = .removed

instance (f : FileDiff) : Decidable f.RemovesOnly :=
  inferInstanceAs (Decidable (∀ h ∈ f.hunks, ∀ l ∈ h.lines, l.kind = .removed))

/-! ## Lines of one sort -/

/-- Such a hunk has as many lines as it adds. -/
theorem Hunk.AddsFirst.length {h : Hunk} {n : Nat} (ha : h.AddsFirst n) : h.lines.length = n := by
  have := congrArg List.length ha.numbers
  rwa [List.length_map, List.length_map, List.length_range'] at this

/-- Each of the first lines has its number. -/
theorem Hunk.AddsFirst.exists_line {h : Hunk} {n m : Nat} (ha : h.AddsFirst n) (hone : 1 ≤ m)
    (hm : m ≤ n) : ∃ l ∈ h.lines, l.kind = .added ∧ l.newNo = some (m : Int) := by
  have hmem : some (m : Int) ∈ h.lines.map (·.newNo) := by
    rw [ha.numbers]
    exact List.mem_map.2 ⟨m, List.mem_range'_1.2 ⟨hone, by omega⟩, rfl⟩
  obtain ⟨l, hl, hnumber⟩ := List.mem_map.1 hmem
  exact ⟨l, hl, ha.added l hl, hnumber⟩

/-- Its lines are numbered. -/
theorem Hunk.AddsFirst.isNumbered {h : Hunk} {n : Nat} (ha : h.AddsFirst n) :
    ∀ l ∈ h.lines, l.IsNumbered := by
  intro l hl
  have hmem : l.newNo ∈ (List.range' 1 n).map fun i : Nat => some (i : Int) := by
    rw [← ha.numbers]
    exact List.mem_map_of_mem hl
  obtain ⟨i, -, hi⟩ := List.mem_map.1 hmem
  rw [HunkLine.IsNumbered, HunkLine.number?, ha.added l hl]
  simp only [← hi, Option.isSome_some]

/-- A file without lines of a kind has none of them. -/
theorem FileDiff.count_eq_zero {f : FileDiff} {k : LineKind}
    (h : ∀ hunk ∈ f.hunks, ∀ l ∈ hunk.lines, l.kind ≠ k) : f.count k = 0 := by
  have hzero : f.hunks.map (·.count k) = f.hunks.map fun _ => 0 := by
    refine List.map_congr_left fun hunk hhunk => List.countP_eq_zero.2 fun l hl => ?_
    simpa using h hunk hhunk l hl
  rw [FileDiff.count, hzero, totalCount_eq_sum, List.sum_map_zero]

end DiffGauge.Diff

namespace DiffGauge.Attribution

open Diff

variable {a : Attributed} {rules : Rules} {file : String} {units : List CodeUnit}
  {olds : Option (List CodeUnit)} {c : Change} {o : Origin}

/-- Where no removed line has a target, no change has removed lines. -/
theorem removed_of_gives (hnone : a.blocks.flatMap (·.removed) = [])
    (h : a.Gives rules file units olds c o) : c.removed = 0 := by
  have hcount (t : Target) : a.removedFrom t = 0 := by
    rw [removedFrom_eq_count, hnone, List.count_nil]
  cases o with
  | unit i =>
      obtain ⟨-, -, -, hremoved, -⟩ := gives_unit h
      rw [hremoved, hcount]
      rfl
  | oldUnit o =>
      obtain ⟨-, -, -, hremoved, -⟩ := gives_oldUnit h
      rw [hremoved, hcount]
      rfl
  | block k =>
      obtain ⟨t, ht, -, -, -, hremoved, -⟩ := gives_block h
      rw [hremoved, List.flatMap_eq_nil_iff.1 hnone t (List.mem_of_getElem? ht)]
      rfl

/-- Where no added line has a target, no change has added lines. -/
theorem added_of_gives (hnone : a.blocks.flatMap (·.added) = [])
    (h : a.Gives rules file units olds c o) : c.added = 0 := by
  cases o with
  | unit i =>
      obtain ⟨-, -, hadded, -⟩ := gives_unit h
      rw [hadded, addedTo_eq_count, hnone, List.count_nil]
      rfl
  | oldUnit o =>
      obtain ⟨-, -, hadded, -⟩ := gives_oldUnit h
      exact hadded
  | block k =>
      obtain ⟨t, ht, -, -, hadded, -⟩ := gives_block h
      rw [hadded, List.flatMap_eq_nil_iff.1 hnone t (List.mem_of_getElem? ht)]
      rfl

/-! ## Kinds -/

/-- Where nothing is removed and all lines of the units are new, everything is new. -/
theorem kind_of_new (hnone : a.blocks.flatMap (·.removed) = [])
    (hnew : ∀ u ∈ units, allAmong a.addedLines u.span = true)
    (h : a.Gives rules file units olds c o) : c.kind = .added := by
  have hremoved := removed_of_gives hnone h
  cases o with
  | unit i =>
      obtain ⟨hu, -, -, heq, -, hkind, -⟩ := gives_unit h
      exact hkind.2 ⟨by omega, hnew _ (List.mem_of_getElem? hu)⟩
  | oldUnit o =>
      -- an old unit has a change for its removed lines only
      obtain ⟨-, -, -, heq, hsome, -⟩ := gives_oldUnit h
      omega
  | block k =>
      obtain ⟨t, -, hc⟩ := h
      exact (kind_of_strayChange? hc).1.2 hremoved

/-- Without units on the new side, a change is the removal of an old unit or one of a region, and a
    removal if it adds nothing. -/
theorem kind_of_gives_nil (h : a.Gives rules file [] olds c o) :
    (c.kind = .removed ∨ c.unit.isIdentified = false) ∧ (c.added = 0 → c.kind = .removed) := by
  cases o with
  | unit i =>
      obtain ⟨u, hu, -⟩ := h
      cases hu
  | oldUnit o =>
      obtain ⟨-, -, -, -, -, hkind⟩ := gives_oldUnit h
      exact ⟨.inl hkind, fun _ => hkind⟩
  | block k =>
      obtain ⟨-, -, hunit, -⟩ := gives_block h
      obtain ⟨t, -, hc⟩ := h
      exact ⟨.inr hunit, (kind_of_strayChange? hc).2.2⟩

end DiffGauge.Attribution

namespace DiffGauge.Gate

/-- The changes never add to the number of production units, whatever other changes there are. -/
def AddNoUnits (cs : List Change) : Prop :=
  ∀ (w : Weights) (before after : List Change),
    (summarize w (before ++ cs ++ after)).prodUnits = (summarize w (before ++ after)).prodUnits

private theorem addNoUnits_of_forall {cs : List Change} (h : ∀ c ∈ cs, countsAsUnit c = false) :
    AddNoUnits cs := by
  intro w before after
  have hnone : cs.countP countsAsUnit = 0 := List.countP_eq_zero.2 fun c hc => by simp [h c hc]
  simp only [summarize, List.countP_append, hnone, Nat.add_zero]

/-- A removal does not count as a unit, and neither does a region. -/
theorem countsAsUnit_eq_false {c : Change} (h : c.kind = .removed ∨ c.unit.isIdentified = false) :
    countsAsUnit c = false := by
  rw [countsAsUnit]
  rcases h with h | h
  · simp [h]
  · simp [h]

end DiffGauge.Gate

namespace DiffGauge.Analysis

open Diff Attribution Gate

/-! ## New files -/

/-- The changes of a file that is new as a whole are new, and they have all its lines. -/
theorem changesOf_newFile (rules : Rules) {f : FileDiff} {h : Hunk} {n : Nat}
    {units : List CodeUnit} (olds : Option (List CodeUnit)) (hbinary : f.isBinary = false)
    (hhunks : f.hunks = [h]) (hadds : h.AddsFirst n) (hunits : ∀ u ∈ units, u.span.last ≤ n) :
    ∃ cs, changesOf rules f units olds = .ok cs ∧
      (∀ c ∈ cs, c.kind = .added ∧ c.removed = 0) ∧ total (cs.map (·.added)) = (n : Int) := by
  have hadded : f.count .added = n := by
    have hall : h.count .added = h.lines.length :=
      List.countP_eq_length.2 fun l hl => by simp [hadds.added l hl]
    rw [FileDiff.count, hhunks, totalCount_eq_sum, List.map_singleton, List.sum_singleton, hall,
      hadds.length]
  have hn : f.IsNumbered := by
    rw [FileDiff.IsNumbered, hhunks]
    exact List.forall_mem_singleton.2 hadds.isNumbered
  have hremoved : f.count .removed = 0 := by
    refine FileDiff.count_eq_zero ?_
    rw [hhunks]
    exact List.forall_mem_singleton.2 fun l hl => by simp [hadds.added l hl]
  obtain ⟨bs, ts, hlines, -, -, ha⟩ := attributed_eq_ok units olds hn
  obtain ⟨a, ha', alen, rlen, arange, -⟩ := exists_attributed units olds hn
  cases ha.symm.trans ha'
  have hnone := List.length_eq_zero_iff.1 (rlen.trans hremoved)
  refine ⟨_, changesOf_eq_ok hbinary ha, fun c hc => ?_, ?_⟩
  · obtain ⟨o, ho⟩ := mem_changes_iff.1 (List.mem_mergeSort.1 hc)
    refine ⟨kind_of_new hnone (fun u hu => ?_) ho, removed_of_gives hnone ho⟩
    refine (allAmong_addedLines hlines u.span).2 fun m hfirst hlast => ?_
    have hone := u.span.one_le_first
    have hle := hunits u hu
    exact ⟨h, by rw [hhunks]; exact List.mem_singleton_self h,
      hadds.exists_line (by omega) (by omega)⟩
  · rw [total_mergeSort, total_added_changes _ rules f.path units olds arange, alen, hadded]

/-! ## Deleted files -/

/-- Without units on the new side, nothing counts as a unit. -/
theorem addNoUnits_of_changesOf_nil {rules : Rules} {f : FileDiff} {olds : Option (List CodeUnit)}
    {cs : List Change} (hcs : changesOf rules f [] olds = .ok cs) : AddNoUnits cs := by
  refine addNoUnits_of_forall fun c hc => ?_
  obtain ⟨a, o, -, ho⟩ := exists_gives_of_mem hcs hc
  exact countsAsUnit_eq_false (kind_of_gives_nil ho).1

/-- The changes of a file that removes lines only are removals. -/
theorem kind_of_removesOnly {rules : Rules} {f : FileDiff} {olds : Option (List CodeUnit)}
    {cs : List Change} (hn : f.IsNumbered) (hremoves : f.RemovesOnly)
    (hcs : changesOf rules f [] olds = .ok cs) : ∀ c ∈ cs, c.kind = .removed := by
  intro c hc
  have hadded : f.count .added = 0 :=
    FileDiff.count_eq_zero fun h hh l hl => by simp [hremoves h hh l hl]
  obtain ⟨a, o, ha, ho⟩ := exists_gives_of_mem hcs hc
  obtain ⟨a', ha', alen, -⟩ := exists_attributed [] olds hn
  cases ha.symm.trans ha'
  have hnone := List.length_eq_zero_iff.1 (alen.trans hadded)
  exact (kind_of_gives_nil ho).2 (added_of_gives hnone ho)

/-- What is found out about a deleted file is that it is passed over, or the changes that it has
    without units on the new side. -/
theorem changes_of_deleted {s : Setup} {f : FileDiff} {finding : FileFinding}
    (hdeleted : f.status = .deleted) (h : (analyzeFile s f).value = .ok finding) :
    finding.changes = [] ∨ ∃ olds, changesOf s.rules f [] olds = .ok finding.changes := by
  rw [analyzeFile, Setup.choosingObstacle?_eq_none] at h
  simp only at h
  split at h
  · cases h
    exact .inl rfl
  · rw [analyzeChosen, if_pos hdeleted] at h
    obtain ⟨olds, -, h⟩ := bind_eq_ok_iff.1 h
    obtain ⟨cs, hcs, h⟩ := bind_eq_ok_iff.1 h
    rw [Setup.placingObstacle?_eq_none] at h
    cases h
    exact .inr ⟨olds, mapError_eq_ok_iff.1 hcs⟩

/-- **New files are new and deleted files are removals**: a file whose only hunk adds the lines from
    1 to `n` has changes that are all new and have these lines, for whatever units in them and
    whatever old units. A file that removes lines only, and has no units, has removals only. And
    whatever is found out about a deleted file adds no production unit to a summary. -/
theorem changesOf_whole_files (rules : Rules) :
    (∀ (f : FileDiff) (h : Hunk) (n : Nat) (units : List CodeUnit) (olds : Option (List CodeUnit)),
      f.isBinary = false → f.hunks = [h] → h.AddsFirst n → (∀ u ∈ units, u.span.last ≤ n) →
        ∃ cs, changesOf rules f units olds = .ok cs ∧
          (∀ c ∈ cs, c.kind = .added ∧ c.removed = 0) ∧ total (cs.map (·.added)) = (n : Int)) ∧
    (∀ (f : FileDiff) (olds : Option (List CodeUnit)), f.IsNumbered → f.RemovesOnly →
      ∃ cs, changesOf rules f [] olds = .ok cs ∧ (∀ c ∈ cs, c.kind = .removed) ∧ AddNoUnits cs) ∧
    ∀ (s : Setup) (f : FileDiff) (finding : FileFinding), f.status = .deleted →
      (analyzeFile s f).value = .ok finding →
        (f.IsNumbered → f.RemovesOnly → ∀ c ∈ finding.changes, c.kind = .removed) ∧
          AddNoUnits finding.changes := by
  refine ⟨?_, ?_, ?_⟩
  · intro f h n units olds hbinary hhunks hadds hunits
    exact changesOf_newFile rules olds hbinary hhunks hadds hunits
  · intro f olds hn hremoves
    obtain ⟨cs, hcs⟩ := exists_changesOf_of_isNumbered rules [] olds hn
    exact ⟨cs, hcs, kind_of_removesOnly hn hremoves hcs, addNoUnits_of_changesOf_nil hcs⟩
  · intro s f finding hdeleted hfinding
    rcases changes_of_deleted hdeleted hfinding with hnone | ⟨olds, hcs⟩
    · rw [hnone]
      exact ⟨fun _ _ => List.forall_mem_nil _, addNoUnits_of_forall (List.forall_mem_nil _)⟩
    · exact ⟨fun hn hremoves => kind_of_removesOnly hn hremoves hcs,
        addNoUnits_of_changesOf_nil hcs⟩

/-- The hunk of a new file with a module of three lines. -/
def newModuleHunk : Hunk :=
  { oldStart := 0, oldCount := 0, newStart := 1, newCount := 3
    lines :=
      [⟨.added, "mod m \x7b", none, some 1⟩, ⟨.added, "    fn f() \x7b\x7d", none, some 2⟩,
       ⟨.added, "\x7d", none, some 3⟩] }

/-- A new file: a module of three lines with a function in it. -/
def newModule : FileDiff :=
  { oldPath := none
    newPath := some "src/m.rs"
    status := .added
    hunks := [newModuleHunk] }

/-- The units of `newModule`, the function inside the module. -/
def newModuleUnits : List CodeUnit :=
  [{ kind := some .moduleBlock, name := "m", visibility := .inside
     span := .clamped 1 3, purpose := .production },
   { kind := some .function, name := "f", visibility := .inside
     span := .clamped 2 2, purpose := .production }]

/-- A deleted file with a function. -/
def deletedFunction : FileDiff :=
  { oldPath := some "src/f.rs"
    newPath := none
    status := .deleted
    hunks :=
      [{ oldStart := 1, oldCount := 2, newStart := 0, newCount := 0
         lines := [⟨.removed, "fn f() \x7b", some 1, none⟩, ⟨.removed, "\x7d", some 2, none⟩] }] }

/-- A run that knows no sources. -/
def withoutSources : Setup :=
  { rules := {}, sources := fun _ => none, oldSources := none, isStrict := true }

/-- A new module of functions, and a file deleted with its function. -/
theorem changesOf_whole_files_of_functions :
    (newModule.isBinary = false ∧ newModule.hunks = [newModuleHunk] ∧ newModuleHunk.AddsFirst 3 ∧
      (∀ u ∈ newModuleUnits, u.span.last ≤ 3) ∧
        ∃ cs, changesOf {} newModule newModuleUnits (some newModuleUnits) = .ok cs ∧
          (∀ c ∈ cs, c.kind = .added ∧ c.removed = 0) ∧ total (cs.map (·.added)) = 3) ∧
    (deletedFunction.IsNumbered ∧ deletedFunction.RemovesOnly ∧
      ∃ cs, changesOf {} deletedFunction [] none = .ok cs ∧ (∀ c ∈ cs, c.kind = .removed) ∧
        AddNoUnits cs) ∧
    (deletedFunction.status = .deleted ∧
      ∃ finding, (analyzeFile withoutSources deletedFunction).value = .ok finding ∧
        (∀ c ∈ finding.changes, c.kind = .removed) ∧ AddNoUnits finding.changes) := by
  obtain ⟨hnew, hdeleted, hfound⟩ := changesOf_whole_files {}
  have hadds : newModuleHunk.AddsFirst 3 := ⟨by decide, by decide⟩
  have hunits : ∀ u ∈ newModuleUnits, u.span.last ≤ 3 := by decide
  have hn : deletedFunction.IsNumbered := by decide
  have hremoves : deletedFunction.RemovesOnly := by decide
  obtain ⟨finding, hfinding⟩ :
      ∃ finding, (analyzeFile withoutSources deletedFunction).value = .ok finding := by
    obtain ⟨cs, hcs⟩ := exists_changesOf_of_isNumbered {} [] none hn
    have hskip : skipReason? deletedFunction.path deletedFunction.isBinary
        withoutSources.rules.ignorePaths = none := by decide +kernel
    rw [analyzeFile, Setup.choosingObstacle?_eq_none, hskip]
    simp only [analyzeChosen, attributeFile, Setup.placingObstacle?_eq_none]
    show ∃ finding, ((changesOf {} deletedFunction [] none).mapError Failure.unnumbered >>= _)
      = .ok finding
    rw [hcs]
    exact ⟨_, rfl⟩
  obtain ⟨hkinds, hunitless⟩ := hfound withoutSources deletedFunction finding rfl hfinding
  exact ⟨⟨rfl, rfl, hadds, hunits,
      hnew newModule _ 3 newModuleUnits (some newModuleUnits) rfl rfl hadds hunits⟩,
    ⟨hn, hremoves, hdeleted deletedFunction none hn hremoves⟩,
    ⟨rfl, finding, hfinding, hkinds hn hremoves, hunitless⟩⟩

end DiffGauge.Analysis
