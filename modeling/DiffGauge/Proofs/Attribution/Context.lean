import DiffGauge.Proofs.Attribution.Blocks
import DiffGauge.Proofs.Diff.Sides
import Mathlib.Data.List.TakeWhile

/-!
# Context does not matter

A hunk can be cut down to its changed lines: each longest run of them becomes a hunk of its own,
and the context between the runs goes. `FileDiff.withoutContext` does this to a file. The cut
hunks are hunks like any other (`withoutContext_spec`), and they have the changed lines of the
first (`runHunks_lines`).

Main statement: a file has the same changes with and without its context. What has to agree is
the anchor of each block. In the first hunk it is the number after the last line of the new side
before the run; in the cut hunk it is read off a header that states the line before the run if
the run adds nothing.
-/

namespace DiffGauge.Attribution

open Diff

/-! ## Hunks without context -/

/-- The hunk of a run of changed lines; `old` and `new` are the numbers that the next lines of
    the two sides have where the run begins. A side without lines states the line before. -/
def hunkOfRun (heading : String) (old new : Int) (run : List HunkLine) : Hunk :=
  { oldStart := if oldSide run = [] then old - 1 else old
    oldCount := (oldSide run).length
    newStart := if newSide run = [] then new - 1 else new
    newCount := (newSide run).length
    heading
    lines := run }

/-- A hunk for each longest run of changed lines. -/
def runHunks (heading : String) (old new : Int) (lines : List HunkLine) : List Hunk :=
  match lines with
  | [] => []
  | line :: below =>
    if isChanged line then
      let run := line :: below.takeWhile isChanged
      have : (below.dropWhile isChanged).length < (line :: below).length :=
        Nat.lt_succ_of_le (List.dropWhile_suffix isChanged).length_le
      hunkOfRun heading old new run
        :: runHunks heading (old + (oldSide run).length) (new + (newSide run).length)
          (below.dropWhile isChanged)
    else runHunks heading (old + 1) (new + 1) below
  termination_by lines.length
  decreasing_by all_goals (simp only [List.length_cons] at *; omega)

/-- The number of the first line of the old side. A hunk that has none there states the line
    before it. -/
def firstOld (h : Hunk) : Int := if 0 < h.oldCount then h.oldStart else h.oldStart + 1

end DiffGauge.Attribution

namespace DiffGauge.Diff

open Attribution

/-- The hunks of the changed lines alone. -/
def Hunk.withoutContext (h : Hunk) : List Hunk :=
  runHunks h.heading (firstOld h) (firstNew h) h.lines

/-- The file with the changed lines alone. -/
def FileDiff.withoutContext (f : FileDiff) : FileDiff :=
  { f with hunks := f.hunks.flatMap Hunk.withoutContext }

end DiffGauge.Diff

namespace DiffGauge.Attribution

open Diff

/-! ## What the cut hunks are -/

/-- The lines of the cut hunks are the changed lines. -/
theorem runHunks_lines (heading : String) (old new : Int) (lines : List HunkLine) :
    (runHunks heading old new lines).flatMap (·.lines) = lines.filter isChanged := by
  fun_induction runHunks heading old new lines with
  | case1 => rfl
  | case2 old new line below hc run _ ih =>
      have hrun : run.filter isChanged = run :=
        List.filter_eq_self.2 (isChanged_of_mem_run hc)
      -- the rest begins behind the run, where the induction goes on
      rw [List.flatMap_cons, ih, ← run_append_rest line below, List.filter_append]
      exact congrArg (· ++ _) hrun.symm
  | case3 old new line below hc ih => rw [ih, List.filter_cons_of_neg hc]

/-- A context line takes one number on each side. -/
theorem numberedFrom_context {old new : Int} {line : HunkLine} {below : List HunkLine}
    (hk : line.kind = .context) (h : NumberedFrom old new (line :: below)) :
    line.number = .ok new ∧ NumberedFrom (old + 1) (new + 1) below := by
  have hold : oldSide [line] = [line] := by simp [oldSide, LineKind.onOld, hk]
  have hnew : newSide [line] = [line] := by simp [newSide, LineKind.onNew, hk]
  rw [← List.singleton_append, numberedFrom_append, hold, hnew] at h
  obtain ⟨⟨_, hn⟩, hbelow⟩ := h
  rw [hnew] at hn
  refine ⟨?_, hbelow⟩
  rw [HunkLine.number, HunkLine.number?, hk]
  simp only [hn.1]

/-- The numbers of a run and of what follows it. -/
theorem numberedFrom_run {old new : Int} {line : HunkLine} {below : List HunkLine}
    (h : NumberedFrom old new (line :: below)) :
    NumberedFrom old new (line :: below.takeWhile isChanged) ∧
      NumberedFrom (old + (oldSide (line :: below.takeWhile isChanged)).length)
        (new + (newSide (line :: below.takeWhile isChanged)).length)
        (below.dropWhile isChanged) := by
  rw [← run_append_rest, numberedFrom_append] at h
  exact h

/-- An exact hunk is numbered from the first line of each side, whatever its header states for a
    side without lines. -/
theorem numberedFrom_first {h : Hunk} (he : h.IsExact) (hc : h.IsConsecutive) :
    NumberedFrom (firstOld h) (firstNew h) h.lines := by
  constructor
  · rw [firstOld, he.oldCount]
    cases hs : oldSide h.lines with
    | nil => trivial
    | cons l ls =>
        rw [if_pos (by simp only [List.length_cons]; omega), ← hs]
        exact hc.oldNumbers
  · rw [firstNew, he.newCount]
    cases hs : newSide h.lines with
    | nil => trivial
    | cons l ls =>
        rw [if_pos (by simp only [List.length_cons]; omega), ← hs]
        exact hc.newNumbers

private theorem hunkOfRun_isConsecutive (heading : String) {old new : Int} {run : List HunkLine}
    (h : NumberedFrom old new run) : (hunkOfRun heading old new run).IsConsecutive := by
  constructor
  · show CountsUp (if oldSide run = [] then old - 1 else old) _
    by_cases hs : oldSide run = []
    · simp only [hunkOfRun, hs]
      trivial
    · rw [if_neg hs]
      exact h.oldNumbers
  · show CountsUp (if newSide run = [] then new - 1 else new) _
    by_cases hs : newSide run = []
    · simp only [hunkOfRun, hs]
      trivial
    · rw [if_neg hs]
      exact h.newNumbers

/-- The headers of the cut hunks state their counts and their numbers. -/
theorem runHunks_spec (heading : String) {old new : Int} {lines : List HunkLine}
    (h : NumberedFrom old new lines) :
    ∀ c ∈ runHunks heading old new lines, c.IsExact ∧ c.IsConsecutive := by
  fun_induction runHunks heading old new lines with
  | case1 => exact List.forall_mem_nil _
  | case2 old new line below _ run _ ih =>
      obtain ⟨hrun, hrest⟩ := numberedFrom_run h
      intro c hc
      rcases List.mem_cons.1 hc with rfl | hc
      · exact ⟨⟨rfl, rfl⟩, hunkOfRun_isConsecutive heading hrun⟩
      · exact ih hrest c hc
  | case3 old new line below hc ih => exact ih (numberedFrom_context (kind_eq_context hc) h).2

/-- Cut down, an exact and consecutive hunk makes exact and consecutive hunks of its changed
    lines. -/
theorem withoutContext_spec {h : Hunk} (he : h.IsExact) (hc : h.IsConsecutive) :
    h.withoutContext.flatMap (·.lines) = h.lines.filter isChanged ∧
      ∀ c ∈ h.withoutContext, c.IsExact ∧ c.IsConsecutive :=
  ⟨runHunks_lines _ _ _ _, runHunks_spec _ (numberedFrom_first he hc)⟩

example : Hunk.withoutContext
    { oldStart := 1, oldCount := 4, newStart := 1, newCount := 4
      lines :=
        [⟨.context, "fn a() \x7b", some 1, some 1⟩, ⟨.removed, "    b();", some 2, none⟩,
         ⟨.context, "\x7d", some 3, some 2⟩, ⟨.context, "", some 4, some 3⟩,
         ⟨.added, "fn c() {}", none, some 4⟩] }
    = [{ oldStart := 2, oldCount := 1, newStart := 1, newCount := 0
         lines := [⟨.removed, "    b();", some 2, none⟩] },
       { oldStart := 4, oldCount := 0, newStart := 4, newCount := 1
         lines := [⟨.added, "fn c() {}", none, some 4⟩] }] := by
  cbv

/-! ## The blocks of the cut hunks -/

/-- After a run the number of the next line is read off the context line that ends it. -/
theorem blocksFrom_dropWhile (m n : Int) (lines : List HunkLine) :
    blocksFrom m (lines.dropWhile isChanged) = blocksFrom n (lines.dropWhile isChanged) := by
  cases hd : lines.dropWhile isChanged with
  | nil => rw [blocksFrom, blocksFrom]
  | cons line below =>
      -- the next line is context, so what follows depends on its own number alone
      have hc : ¬isChanged line = true := by
        have := List.head?_dropWhile_not isChanged lines
        rw [hd] at this
        simpa using this
      rw [blocksFrom, blocksFrom, if_neg hc, if_neg hc]

/-- A run of numbered lines is the first block. -/
theorem blocksFrom_run {next : Int} {line : HunkLine} {below : List HunkLine}
    (hc : isChanged line = true)
    (hn : ∀ l ∈ line :: below.takeWhile isChanged, l.IsNumbered) :
    blocksFrom next (line :: below)
      = Block.ofRun next (line :: below.takeWhile isChanged)
        :: blocksFrom next (below.dropWhile isChanged) := by
  rw [blocksFrom, if_pos hc, ofRun_eq_ok next hn]

/-- The number that a cut hunk takes for the next line of the new side is the one that the run
    begins at. -/
theorem firstNew_hunkOfRun (heading : String) (old new : Int) (run : List HunkLine) :
    firstNew (hunkOfRun heading old new run) = new := by
  show (if (0 : Int) < ((newSide run).length : Int)
    then (if newSide run = [] then new - 1 else new)
    else (if newSide run = [] then new - 1 else new) + 1) = new
  by_cases hs : newSide run = []
  -- the header states the line before the run, and the anchor is the line after that one
  · rw [hs, if_neg (by simp), if_pos rfl]
    omega
  · rw [if_pos (by have := List.length_pos_of_ne_nil hs; omega), if_neg hs]

/-- The hunk of a run has one block, anchored where the run begins. -/
theorem blocks_hunkOfRun (heading : String) {old new : Int} {line : HunkLine}
    {below : List HunkLine} (hc : isChanged line = true)
    (hn : ∀ l ∈ line :: below.takeWhile isChanged, l.IsNumbered) :
    blocks (hunkOfRun heading old new (line :: below.takeWhile isChanged))
      = [Block.ofRun new (line :: below.takeWhile isChanged)] := by
  have htake : (below.takeWhile isChanged).takeWhile isChanged = below.takeWhile isChanged :=
    List.takeWhile_eq_self_iff.2 fun l hl => List.all_eq_true.1 List.all_takeWhile l hl
  have hdrop : (below.takeWhile isChanged).dropWhile isChanged = [] :=
    List.dropWhile_eq_nil_iff.2 fun l hl => List.all_eq_true.1 List.all_takeWhile l hl
  rw [blocks, firstNew_hunkOfRun]
  show blocksFrom new (line :: below.takeWhile isChanged) = _
  rw [blocksFrom_run hc (by rw [htake]; exact hn), htake, hdrop, blocksFrom]

/-- The cut hunks have the blocks of the lines that they were cut from. -/
theorem blocks_runHunks (heading : String) {old new : Int} {lines : List HunkLine}
    (h : NumberedFrom old new lines) :
    (runHunks heading old new lines).flatMap blocks = blocksFrom new lines := by
  fun_induction runHunks heading old new lines with
  | case1 => rw [blocksFrom, List.flatMap_nil]
  | case2 old new line below hc run _ ih =>
      obtain ⟨hrun, hrest⟩ := numberedFrom_run h
      -- uncut, the lines behind the run start from its anchor, cut from their own: all the same
      rw [List.flatMap_cons, ih hrest, blocks_hunkOfRun heading hc hrun.isNumbered,
        blocksFrom_run hc hrun.isNumbered, List.singleton_append, blocksFrom_dropWhile]
  | case3 old new line below hc ih =>
      obtain ⟨hnumber, hbelow⟩ := numberedFrom_context (kind_eq_context hc) h
      rw [ih hbelow, blocksFrom, if_neg hc, hnumber]

/-! ## Changes without context -/

/-- A file whose hunks are exact and consecutive has the same changes without its context: the hunks
    that are left are exact and consecutive hunks of its changed lines. -/
theorem changesOf_withoutContext (rules : Rules) (f : FileDiff) (units : List CodeUnit)
    (olds : Option (List CodeUnit)) (hexact : ∀ h ∈ f.hunks, h.IsExact)
    (hconsecutive : ∀ h ∈ f.hunks, h.IsConsecutive) :
    (∀ h ∈ f.hunks, h.withoutContext.flatMap (·.lines) = h.lines.filter isChanged ∧
      ∀ c ∈ h.withoutContext, c.IsExact ∧ c.IsConsecutive) ∧
    changesOf rules f.withoutContext units olds = changesOf rules f units olds := by
  refine ⟨fun h hh => withoutContext_spec (hexact h hh) (hconsecutive h hh), ?_⟩
  have hblocks : f.withoutContext.hunks.flatMap blocks = f.hunks.flatMap blocks := by
    show (f.hunks.flatMap Hunk.withoutContext).flatMap blocks = _
    rw [List.flatMap_assoc]
    apply List.flatMap_congr
    intro h hh
    exact blocks_runHunks _ (numberedFrom_first (hexact h hh) (hconsecutive h hh))
  have hattributed : attributed units olds f.withoutContext.hunks
      = attributed units olds f.hunks := by
    unfold attributed
    rw [hblocks]
  rw [changesOf, changesOf, hattributed]
  rfl

/-- A deletion between two context lines. -/
def deletionInContext : FileDiff :=
  { oldPath := some "src/lib.rs"
    newPath := some "src/lib.rs"
    hunks :=
      [{ oldStart := 1
         oldCount := 3
         newStart := 1
         newCount := 2
         lines :=
           [⟨.context, "fn a() \x7b", some 1, some 1⟩, ⟨.removed, "    b();", some 2, none⟩,
            ⟨.context, "\x7d", some 3, some 2⟩] }] }

/-- The function whose last line follows the deletion. -/
def aroundDeletion : CodeUnit :=
  { kind := some .function, name := "a", visibility := .inside
    span := .clamped 1 2, purpose := .production }

/-- A deletion between lines of context. -/
theorem changesOf_withoutContext_of_deletion :
    (∀ h ∈ deletionInContext.hunks, h.IsExact) ∧
      (∀ h ∈ deletionInContext.hunks, h.IsConsecutive) ∧
      changesOf {} deletionInContext.withoutContext [aroundDeletion] none
        = changesOf {} deletionInContext [aroundDeletion] none := by
  have hexact : ∀ h ∈ deletionInContext.hunks, h.IsExact := by
    intro h hh
    obtain rfl := List.mem_singleton.1 hh
    exact ⟨by decide, by decide⟩
  have hconsecutive : ∀ h ∈ deletionInContext.hunks, h.IsConsecutive := by
    intro h hh
    obtain rfl := List.mem_singleton.1 hh
    exact ⟨by decide, by decide⟩
  exact ⟨hexact, hconsecutive,
    (changesOf_withoutContext {} deletionInContext [aroundDeletion] none hexact hconsecutive).2⟩

end DiffGauge.Attribution
