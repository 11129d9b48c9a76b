import DiffGauge.Attribution.Changes
import DiffGauge.Proofs.Traversal

/-!
# The blocks of numbered lines

Lines that have their numbers divide into blocks without fault, and the blocks hold the changed
lines: their added numbers, one block after the other, are the numbers of the added lines, and
their removed lines are the removed lines, all in the order of the hunk.

* `blocksFrom_eq_ok` says this of a run of lines, `blocks_eq_ok` of the hunks of a file;
* `attributed_eq_ok` takes it to the attribution: every block has its targets.
-/

namespace DiffGauge.Attribution

open Diff

/-! ## The changed lines of a run -/

/-- The numbers of the added lines. -/
def addedNumbers (lines : List HunkLine) : List Int :=
  (lines.filter fun l => l.kind == .added).filterMap HunkLine.number?

/-- The removed lines. -/
def removedLines (lines : List HunkLine) : List HunkLine :=
  lines.filter fun l => l.kind == .removed

private theorem addedNumbers_append (xs ys : List HunkLine) :
    addedNumbers (xs ++ ys) = addedNumbers xs ++ addedNumbers ys := by
  rw [addedNumbers, List.filter_append, List.filterMap_append]
  rfl

private theorem removedLines_append (xs ys : List HunkLine) :
    removedLines (xs ++ ys) = removedLines xs ++ removedLines ys := by
  rw [removedLines, List.filter_append]
  rfl

/-- A line that is not changed is neither added nor removed. -/
theorem kind_eq_context {l : HunkLine} (h : ¬isChanged l = true) : l.kind = .context := by
  simpa [isChanged] using h

private theorem addedNumbers_context {l : HunkLine} (h : l.kind = .context) (ls : List HunkLine) :
    addedNumbers (l :: ls) = addedNumbers ls := by
  rw [addedNumbers, List.filter_cons_of_neg (by simp [h])]
  rfl

private theorem removedLines_context {l : HunkLine} (h : l.kind = .context) (ls : List HunkLine) :
    removedLines (l :: ls) = removedLines ls :=
  List.filter_cons_of_neg (by simp [h])

/-- No number of an added line is missing. -/
theorem length_addedNumbers {lines : List HunkLine} (hn : ∀ l ∈ lines, l.IsNumbered) :
    (addedNumbers lines).length = lines.countP fun l => l.kind == .added := by
  rw [addedNumbers, List.length_filterMap_eq_countP, List.countP_filter]
  apply List.countP_congr
  intro l hl
  have : l.number?.isSome = true := hn l hl
  simp [this]

/-! ## Blocks -/

/-- A run of changed lines and what follows it. -/
theorem run_append_rest (line : HunkLine) (below : List HunkLine) :
    (line :: below.takeWhile isChanged) ++ below.dropWhile isChanged = line :: below := by
  rw [List.cons_append, List.takeWhile_append_dropWhile]

/-- A run holds changed lines only. -/
theorem isChanged_of_mem_run {line : HunkLine} {below : List HunkLine}
    (hc : isChanged line = true) :
    ∀ l ∈ line :: below.takeWhile isChanged, isChanged l = true :=
  List.forall_mem_cons.2 ⟨hc, fun l hl => List.all_eq_true.1 List.all_takeWhile l hl⟩

/-- A run of numbered lines makes a block of its added numbers and its removed lines. -/
theorem ofRun_eq_ok (anchor : Int) {run : List HunkLine} (hn : ∀ l ∈ run, l.IsNumbered) :
    Block.ofRun anchor run
      = .ok { added := addedNumbers run, removed := removedLines run, anchor } := by
  have hadded : (run.filter fun l => l.kind == .added).mapM HunkLine.number
      = .ok (addedNumbers run) := by
    rw [mapM_eq_ok_iff, addedNumbers]
    have hf : ∀ l ∈ run.filter fun l => l.kind == .added, l.IsNumbered :=
      fun l hl => hn l (List.mem_filter.1 hl).1
    generalize run.filter (fun l => l.kind == .added) = ls at hf
    induction ls with
    | nil => exact .nil
    | cons l ls ih =>
        obtain ⟨hl, hls⟩ := List.forall_mem_cons.1 hf
        obtain ⟨n, hsome, hok⟩ := hl.number_eq_ok
        rw [List.filterMap_cons_some hsome]
        exact .cons hok (ih hls)
  rw [Block.ofRun, hadded]
  rfl

/-- The blocks of numbered lines hold the added numbers and the removed lines, in order. -/
theorem blocksFrom_eq_ok (next : Int) {lines : List HunkLine}
    (hn : ∀ l ∈ lines, l.IsNumbered) :
    ∃ bs : List Block, blocksFrom next lines = bs.map .ok ∧
      bs.flatMap (·.added) = addedNumbers lines ∧
      bs.flatMap (·.removed) = removedLines lines := by
  -- the cases are those of the cut: a run, with or without fault, and a context line likewise
  fun_induction blocksFrom next lines with
  | case1 => exact ⟨[], rfl, rfl, rfl⟩
  | case2 next line below hc _ e he =>
      rw [← run_append_rest] at hn
      rw [ofRun_eq_ok next (List.forall_mem_append.1 hn).1] at he
      cases he
  | case3 next line below hc _ block hb ih =>
      rw [← run_append_rest] at hn
      obtain ⟨hrun, hrest⟩ := List.forall_mem_append.1 hn
      obtain ⟨bs, hbs, hadded, hremoved⟩ := ih hrest
      rw [ofRun_eq_ok next hrun] at hb
      cases hb
      refine ⟨_ :: bs, by rw [hbs, List.map_cons], ?_, ?_⟩
      · rw [List.flatMap_cons, hadded, ← addedNumbers_append, run_append_rest]
      · rw [List.flatMap_cons, hremoved, ← removedLines_append, run_append_rest]
  | case4 next line below hc e he =>
      obtain ⟨n, _, hok⟩ := (hn line List.mem_cons_self).number_eq_ok
      rw [hok] at he
      cases he
  | case5 next line below hc n hl ih =>
      have hk := kind_eq_context hc
      obtain ⟨bs, hbs, hadded, hremoved⟩ := ih fun l h => hn l (List.mem_cons_of_mem _ h)
      refine ⟨bs, hbs, ?_, ?_⟩
      · rw [hadded, addedNumbers_context hk]
      · rw [hremoved, removedLines_context hk]

/-- The same of the hunks of a file, one after the other. -/
theorem blocks_eq_ok {hunks : List Hunk} (hn : ∀ h ∈ hunks, ∀ l ∈ h.lines, l.IsNumbered) :
    ∃ bs : List Block, hunks.flatMap blocks = bs.map .ok ∧
      bs.flatMap (·.added) = hunks.flatMap (addedNumbers ·.lines) ∧
      bs.flatMap (·.removed) = hunks.flatMap (removedLines ·.lines) := by
  induction hunks with
  | nil => exact ⟨[], rfl, rfl, rfl⟩
  | cons h hs ih =>
      obtain ⟨hh, hhs⟩ := List.forall_mem_cons.1 hn
      obtain ⟨bs, hbs, hadded, hremoved⟩ := blocksFrom_eq_ok (firstNew h) hh
      obtain ⟨cs, hcs, cadded, cremoved⟩ := ih hhs
      refine ⟨bs ++ cs, ?_, ?_, ?_⟩
      · rw [List.flatMap_cons, blocks, hbs, hcs, List.map_append]
      · rw [List.flatMap_append, hadded, cadded, List.flatMap_cons]
      · rw [List.flatMap_append, hremoved, cremoved, List.flatMap_cons]

/-! ## Targets -/

/-- A numbered line of a block has a target, with and without the old units. -/
theorem removedTarget_eq_ok (b : Block) (units : List CodeUnit) (olds : Option (List CodeUnit))
    (i : Nat) {l : HunkLine} (hn : l.IsNumbered) :
    ∃ t, b.removedTarget units olds i l = .ok t := by
  obtain ⟨n, _, hok⟩ := hn.number_eq_ok
  unfold Block.removedTarget
  rw [hok]
  cases olds with
  | some olds => exact ⟨_, rfl⟩
  | none =>
      cases b.holder? units i with
      | some u => exact ⟨_, rfl⟩
      | none => exact ⟨_, rfl⟩

/-- The targets of a block go with its lines one by one. -/
theorem targets_eq_ok_iff {b : Block} {units : List CodeUnit} {olds : Option (List CodeUnit)}
    {ts : Targets} :
    b.targets units olds = .ok ts ↔
      ts.added = b.added.map (addedTarget units) ∧
      List.Forall₂ (fun (l, i) t => b.removedTarget units olds i l = .ok t)
        b.removed.zipIdx ts.removed := by
  rw [← mapM_eq_ok_iff]
  show (b.removed.zipIdx.mapM fun (l, i) => b.removedTarget units olds i l).map
    (Targets.mk (b.added.map (addedTarget units))) = .ok ts ↔ _
  obtain ⟨added, removed⟩ := ts
  cases b.removed.zipIdx.mapM fun (l, i) => b.removedTarget units olds i l with
  | error e => simp [Except.map]
  | ok rs => simp [Except.map, eq_comm]

/-- The targets of a block, known one by one. -/
theorem targets_eq_ok_of_getElem {b : Block} {units : List CodeUnit}
    {olds : Option (List CodeUnit)} {ts : List Target} (hlen : ts.length = b.removed.length)
    (h : ∀ (i : Nat) (hi : i < b.removed.length),
      b.removedTarget units olds i b.removed[i] = .ok (ts.get ⟨i, hlen ▸ hi⟩)) :
    b.targets units olds = .ok ⟨b.added.map (addedTarget units), ts⟩ := by
  refine targets_eq_ok_iff.2 ⟨rfl, ?_⟩
  rw [List.forall₂_iff_get]
  refine ⟨by rw [List.length_zipIdx, hlen], fun i hi _ => ?_⟩
  rw [List.length_zipIdx] at hi
  simp only [List.get_eq_getElem, List.getElem_zipIdx, Nat.zero_add]
  exact h i hi

/-- A block of numbered lines has its targets. -/
theorem exists_targets_eq_ok {b : Block} (units : List CodeUnit) (olds : Option (List CodeUnit))
    (hn : ∀ l ∈ b.removed, l.IsNumbered) : ∃ ts, b.targets units olds = .ok ts := by
  have hall : ∀ x ∈ b.removed.zipIdx, ∃ t, b.removedTarget units olds x.2 x.1 = .ok t := by
    intro x hx
    exact removedTarget_eq_ok b units olds x.2 (hn x.1 (List.fst_mem_of_mem_zipIdx hx))
  obtain ⟨ts, -, hforall⟩ := exists_mapM_eq_ok hall
  exact ⟨⟨_, ts⟩, targets_eq_ok_iff.2 ⟨rfl, hforall⟩⟩

/-- The attribution of numbered lines: the blocks of all hunks, each with its targets. -/
theorem attributed_eq_ok (units : List CodeUnit) (olds : Option (List CodeUnit))
    {hunks : List Hunk} (hn : ∀ h ∈ hunks, ∀ l ∈ h.lines, l.IsNumbered) :
    ∃ (bs : List Block) (ts : List Targets),
      bs.flatMap (·.added) = hunks.flatMap (addedNumbers ·.lines) ∧
      bs.flatMap (·.removed) = hunks.flatMap (removedLines ·.lines) ∧
      List.Forall₂ (fun b t => b.targets units olds = .ok t) bs ts ∧
      attributed units olds hunks = .ok ⟨bs.flatMap (·.added), ts⟩ := by
  obtain ⟨bs, hbs, hadded, hremoved⟩ := blocks_eq_ok hn
  have htargets : ∀ b ∈ bs, ∃ t, b.targets units olds = .ok t := by
    intro b hb
    refine exists_targets_eq_ok units olds ?_
    intro l hl
    -- a removed line of a block is a line of some hunk
    have hmem : l ∈ hunks.flatMap (removedLines ·.lines) := by
      rw [← hremoved]
      exact List.mem_flatMap.2 ⟨b, hb, hl⟩
    obtain ⟨h, hh, hlh⟩ := List.mem_flatMap.1 hmem
    exact hn h hh l (List.mem_filter.1 hlh).1
  obtain ⟨ts, -, hforall⟩ := exists_mapM_eq_ok htargets
  refine ⟨bs, ts, hadded, hremoved, hforall, ?_⟩
  have hlen : (bs.map (·.added)).length = ts.length := by
    rw [List.length_map, hforall.length_eq]
  have hparts : (bs.map (Except.ok (ε := Unnumbered))).mapM (fun block? => do
        let block ← block?
        return (block.added, ← block.targets units olds))
      = .ok ((bs.map (·.added)).zip ts) := by
    rw [mapM_eq_ok_iff]
    clear hbs hadded hremoved htargets hlen
    induction hforall with
    | nil => exact .nil
    | @cons b t _ _ hb _ ih =>
        refine .cons ?_ ih
        show (b.targets units olds).map (fun t => (b.added, t)) = _
        rw [hb]
        rfl
  -- the numbers and the targets that went together come apart again
  unfold attributed
  rw [hbs, hparts]
  show Except.ok (Attributed.mk _ _) = _
  rw [List.flatMap_def, List.map_fst_zip (Nat.le_of_eq hlen),
    List.map_snd_zip (Nat.le_of_eq hlen.symm), List.flatMap_def]

end DiffGauge.Attribution
