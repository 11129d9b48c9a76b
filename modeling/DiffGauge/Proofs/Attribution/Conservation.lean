import DiffGauge.Proofs.Attribution.Blocks
import DiffGauge.Proofs.Sums

/-!
# No changed line is lost or counted twice

Every changed line has one target. The targets name units and old units that exist, so counting
them unit by unit, old unit by old unit and region by region counts each of them once. The
changes of a file therefore have as many added and removed lines as its hunks, however the spans
of the units lie.

* `length_eq_counts` counts a list of targets index by index;
* `total_added_changes` and `total_removed_changes` add up the changes after attribution;
* `added_targets` and `removed_targets` say that there are as many targets as lines.
-/

namespace DiffGauge.Attribution

open Diff

/-! ## Targets exist -/

/-- The best unit stands at its index and passes the test. -/
theorem best?_eq_some {p : CodeUnit → Bool} {keeps : CodeUnit → CodeUnit → Bool}
    {us : List CodeUnit} {i : Nat} {v : CodeUnit} (h : best? p keeps us = some (i, v)) :
    us[i]? = some v ∧ p v = true := by
  induction us generalizing i v with
  | nil => cases h
  | cons u us ih =>
      rw [best?] at h
      cases hb : best? p keeps us with
      -- no later unit passes the test, so `u` is the best if it does
      | none =>
          rw [hb] at h
          by_cases hp : p u = true
          · simp only [hp, if_true] at h
            cases h
            exact ⟨rfl, hp⟩
          · simp only [hp, Bool.false_eq_true, if_false] at h
            cases h
      -- a later unit is the best so far, and `u` takes its place or leaves it one further on
      | some jw =>
          obtain ⟨j, w⟩ := jw
          rw [hb] at h
          by_cases hk : (p u && keeps u w) = true
          · simp only [hk, if_true] at h
            cases h
            exact ⟨rfl, (Bool.and_eq_true _ _ ▸ hk).1⟩
          · simp only [hk, Bool.false_eq_true, if_false] at h
            cases h
            exact ih hb

private theorem lt_length_of_best? {p : CodeUnit → Bool} {keeps : CodeUnit → CodeUnit → Bool}
    {us : List CodeUnit} {i : Nat} (h : (best? p keeps us).map (·.1) = some i) :
    i < us.length := by
  obtain ⟨⟨j, v⟩, hb, rfl⟩ := Option.map_eq_some_iff.1 h
  exact (List.getElem?_eq_some_iff.1 (best?_eq_some hb).1).1

private theorem lt_length_of_counterpart? {units : List CodeUnit} {old : CodeUnit} {position : Int}
    {i : Nat} (h : counterpart? units old position = some i) : i < units.length := by
  rw [counterpart?] at h
  split at h
  · next j hj =>
      cases h
      exact lt_length_of_best? hj
  · exact lt_length_of_best? h

/-- The target is one of the first `n` units or of the first `m` old units, or no unit. -/
def Target.InRange (n m : Nat) : Target → Prop
  | .unit i => i < n
  | .oldUnit o => o < m
  | .stray _ => True

/-- An added line goes to a unit that exists, and never to an old one. -/
theorem addedTarget_inRange (units : List CodeUnit) (line : Int) :
    (addedTarget units line).InRange units.length 0 := by
  rw [addedTarget]
  cases h : innermost? units line with
  | none => trivial
  | some i => exact lt_length_of_best? h

/-- A removed line goes to a unit or an old unit that exists, if to any. -/
theorem removedTarget_inRange (units olds : List CodeUnit) (position line : Int) :
    (removedTarget units olds position line).InRange units.length olds.length := by
  unfold removedTarget
  cases ho : innermost? olds line with
  | none => trivial
  | some o =>
      have hlt : o < olds.length := lt_length_of_best? ho
      cases hc : (olds[o]?).bind fun old => counterpart? units old position with
      | none =>
          simp only [hc]
          exact hlt
      | some i =>
          simp only [hc]
          obtain ⟨old, _, hi⟩ := Option.bind_eq_some_iff.1 hc
          exact lt_length_of_counterpart? hi

/-- The same of the lines of a block, whether the old units are known or not. -/
theorem blockTarget_inRange {b : Block} {units : List CodeUnit} {olds : Option (List CodeUnit)}
    {i : Nat} {l : HunkLine} {t : Target} (h : b.removedTarget units olds i l = .ok t) :
    t.InRange units.length (olds.getD []).length := by
  unfold Block.removedTarget at h
  cases olds with
  | some olds =>
      cases hl : l.number with
      | error e =>
          rw [hl] at h
          cases h
      | ok n =>
          rw [hl] at h
          cases h
          exact removedTarget_inRange units olds _ n
  | none =>
      cases hu : b.holder? units i with
      | none =>
          rw [hu] at h
          cases hl : l.number with
          | error e =>
              rw [hl] at h
              cases h
          | ok n =>
              rw [hl] at h
              cases h
              trivial
      | some u =>
          rw [hu] at h
          cases h
          rw [Block.holder?] at hu
          split at hu
          · exact lt_length_of_best? hu
          · exact lt_length_of_best? hu

/-! ## Counting targets -/

/-- Targets counted by unit, by old unit and as strays are all targets. -/
theorem length_eq_counts {n m : Nat} {ts : List Target} (h : ∀ t ∈ ts, t.InRange n m) :
    totalCount ((List.range n).map fun i => ts.count (.unit i))
      + totalCount ((List.range m).map fun o => ts.count (.oldUnit o))
      + (ts.filterMap Target.stray?).length = ts.length := by
  simp only [totalCount_eq_sum]
  induction ts with
  | nil =>
      simp only [List.count_nil, List.sum_map_zero, List.filterMap_nil, List.length_nil, add_zero]
  | cons t ts ih =>
      obtain ⟨ht, hts⟩ := List.forall_mem_cons.1 h
      have := ih hts
      simp only [List.count_cons, List.sum_map_add, List.length_cons]
      -- `t` adds one to the sum of its own kind, at its own index, and nothing to the others
      cases t with
      | unit i =>
          have hi : i < n := ht
          rw [List.filterMap_cons_none rfl]
          simp only [beq_iff_eq, Target.unit.injEq, reduceCtorEq, if_false, List.sum_map_zero,
            sum_indicator, if_pos hi]
          omega
      | oldUnit o =>
          have ho : o < m := ht
          rw [List.filterMap_cons_none rfl]
          simp only [beq_iff_eq, Target.oldUnit.injEq, reduceCtorEq, if_false,
            List.sum_map_zero, sum_indicator, if_pos ho]
          omega
      | stray line =>
          rw [List.filterMap_cons_some (show Target.stray? (.stray line) = some line from rfl)]
          simp only [beq_iff_eq, reduceCtorEq, if_false, List.sum_map_zero, List.length_cons]
          omega

/-- The lines added to a target are those that the blocks credit it with. -/
theorem addedTo_eq_count (a : Attributed) (t : Target) :
    a.addedTo t = (a.blocks.flatMap (·.added)).count t := by
  rw [Attributed.addedTo, totalCount_eq_sum, List.count_flatMap]
  rfl

/-- So are the lines removed from it. -/
theorem removedFrom_eq_count (a : Attributed) (t : Target) :
    a.removedFrom t = (a.blocks.flatMap (·.removed)).count t := by
  rw [Attributed.removedFrom, totalCount_eq_sum, List.count_flatMap]
  rfl

/-! ## Adding up the changes -/

/-- Changes made index by index add up to what each index counts. -/
theorem total_indexed {f : CodeUnit × Nat → Option Change} {g : Change → Int} {k : Nat → Nat}
    (h : ∀ x, ((f x).map g).getD 0 = (k x.2 : Int)) (units : List CodeUnit) :
    total ((units.zipIdx.filterMap f).map g)
      = (totalCount ((List.range units.length).map k) : Int) := by
  -- the indices that the changes are made at are those of the list, each once
  have hsnd : (List.range units.length) = units.zipIdx.map (·.2) := by
    rw [List.zipIdx_map_snd, List.range_eq_range']
  rw [total_eq_sum, totalCount_eq_sum, sum_map_filterMap, hsnd, List.map_map, Nat.cast_list_sum,
    List.map_map]
  exact congrArg List.sum (List.map_congr_left fun x _ => h x)

/-- The change of a unit has the lines that went to the unit; where it is left out there are
    none. -/
theorem unitChange?_lines (a : Attributed) (file : String) (u : CodeUnit) (i : Nat) :
    ((a.unitChange? file u i).map (·.added)).getD 0 = (a.addedTo (.unit i) : Int) ∧
      ((a.unitChange? file u i).map (·.removed)).getD 0 = (a.removedFrom (.unit i) : Int) := by
  rw [Attributed.unitChange?]
  by_cases h : a.addedTo (.unit i) = 0 ∧ a.removedFrom (.unit i) = 0
  · rw [if_pos h, h.1, h.2]
    exact ⟨rfl, rfl⟩
  · rw [if_neg h]
    exact ⟨rfl, rfl⟩

/-- The removal of an old unit adds nothing. -/
theorem oldUnitChange?_lines (a : Attributed) (file : String) (u : CodeUnit) (o : Nat) :
    ((a.oldUnitChange? file u o).map (·.added)).getD 0 = 0 ∧
      ((a.oldUnitChange? file u o).map (·.removed)).getD 0
        = (a.removedFrom (.oldUnit o) : Int) := by
  rw [Attributed.oldUnitChange?]
  by_cases h : a.removedFrom (.oldUnit o) = 0
  · rw [if_pos h, h]
    exact ⟨rfl, rfl⟩
  · rw [if_neg h]
    exact ⟨rfl, rfl⟩

/-- The region of a block has its stray lines on both sides. -/
theorem strayChange?_lines (t : Targets) (rules : Rules) (file : String) :
    ((t.strayChange? rules file).map (·.added)).getD 0
        = ((t.added.filterMap Target.stray?).length : Int) ∧
      ((t.strayChange? rules file).map (·.removed)).getD 0
        = ((t.removed.filterMap Target.stray?).length : Int) := by
  rw [Targets.strayChange?]
  cases t.added.filterMap Target.stray? with
  | nil =>
      cases t.removed.filterMap Target.stray? with
      | nil => exact ⟨rfl, rfl⟩
      | cons n ns => exact ⟨rfl, rfl⟩
  | cons n ns => exact ⟨rfl, rfl⟩

/-- The regions of a file count the stray lines of its blocks. -/
theorem total_strays {g : Change → Int} {rules : Rules} {file : String}
    (side : Targets → List Target) (ts : List Targets)
    (h : ∀ t : Targets, ((t.strayChange? rules file).map g).getD 0
      = (((side t).filterMap Target.stray?).length : Int)) :
    total ((ts.filterMap (·.strayChange? rules file)).map g)
      = (((ts.flatMap side).filterMap Target.stray?).length : Int) := by
  rw [total_eq_sum, sum_map_filterMap]
  induction ts with
  | nil => rfl
  | cons t ts ih =>
      rw [List.map_cons, List.sum_cons, ih, h, List.flatMap_cons, List.filterMap_append,
        List.length_append]
      omega

/-- The changes add up to all added lines with a target. -/
theorem total_added_changes (a : Attributed) (rules : Rules) (file : String)
    (units : List CodeUnit) (olds : Option (List CodeUnit))
    (h : ∀ t ∈ a.blocks.flatMap (·.added), t.InRange units.length 0) :
    total ((a.changes rules file units olds).map (·.added))
      = ((a.blocks.flatMap (·.added)).length : Int) := by
  have hcount := length_eq_counts h
  rw [Attributed.changes, List.map_append, List.map_append, total_eq_sum, List.sum_append,
    List.sum_append, ← total_eq_sum, ← total_eq_sum, ← total_eq_sum,
    total_indexed (k := fun i => a.addedTo (.unit i))
      (fun x => (unitChange?_lines a file x.1 x.2).1),
    total_indexed (k := fun _ => 0) (fun x => (oldUnitChange?_lines a file x.1 x.2).1),
    total_strays (fun t => t.added) a.blocks
      (fun t => (strayChange?_lines t rules file).1), totalCount_eq_sum (.map (fun _ => 0) _),
    List.sum_map_zero]
  simp only [addedTo_eq_count]
  -- no added line goes to an old unit
  rw [List.range_zero, List.map_nil] at hcount
  change _ + 0 + _ = _ at hcount
  omega

/-- The changes add up to all removed lines with a target. -/
theorem total_removed_changes (a : Attributed) (rules : Rules) (file : String)
    (units : List CodeUnit) (olds : Option (List CodeUnit))
    (h : ∀ t ∈ a.blocks.flatMap (·.removed), t.InRange units.length (olds.getD []).length) :
    total ((a.changes rules file units olds).map (·.removed))
      = ((a.blocks.flatMap (·.removed)).length : Int) := by
  have hcount := length_eq_counts h
  rw [Attributed.changes, List.map_append, List.map_append, total_eq_sum, List.sum_append,
    List.sum_append, ← total_eq_sum, ← total_eq_sum, ← total_eq_sum,
    total_indexed (k := fun i => a.removedFrom (.unit i))
      (fun x => (unitChange?_lines a file x.1 x.2).2),
    total_indexed (k := fun o => a.removedFrom (.oldUnit o))
      (fun x => (oldUnitChange?_lines a file x.1 x.2).2),
    total_strays (fun t => t.removed) a.blocks
      (fun t => (strayChange?_lines t rules file).2)]
  simp only [removedFrom_eq_count]
  omega

/-- All changes are listed under the path of the file. -/
theorem file_of_mem_changes {a : Attributed} {rules : Rules} {file : String}
    {units : List CodeUnit} {olds : Option (List CodeUnit)} {c : Change}
    (hc : c ∈ a.changes rules file units olds) : c.file = file := by
  rw [Attributed.changes, List.mem_append, List.mem_append] at hc
  rcases hc with (hc | hc) | hc
  · obtain ⟨⟨u, i⟩, _, hu⟩ := List.mem_filterMap.1 hc
    simp only [Attributed.unitChange?] at hu
    split at hu
    · cases hu
    · cases hu
      rfl
  · obtain ⟨⟨u, o⟩, _, hu⟩ := List.mem_filterMap.1 hc
    simp only [Attributed.oldUnitChange?] at hu
    split at hu
    · cases hu
    · cases hu
      rfl
  · obtain ⟨t, _, ht⟩ := List.mem_filterMap.1 hc
    simp only [Targets.strayChange?] at ht
    split at ht
    · cases ht
    · cases ht
      rfl
    · cases ht
      rfl

/-! ## As many targets as lines -/

variable {units : List CodeUnit} {olds : Option (List CodeUnit)} {bs : List Block}
  {ts : List Targets}

/-- Where every block has as many targets as lines, all in range, so have all blocks together. -/
theorem targets_of_blocks {R : Block → Targets → Prop} {α : Type} {lines : Block → List α}
    {side : Targets → List Target} {n m : Nat} (h : List.Forall₂ R bs ts)
    (hlen : ∀ b t, R b t → (side t).length = (lines b).length)
    (hrange : ∀ b t, R b t → ∀ x ∈ side t, x.InRange n m) :
    (ts.flatMap side).length = (bs.flatMap lines).length ∧
      ∀ x ∈ ts.flatMap side, x.InRange n m := by
  induction h with
  | nil => exact ⟨rfl, List.forall_mem_nil _⟩
  | @cons b t bs ts hb _ ih =>
      obtain ⟨ihlen, ihrange⟩ := ih
      constructor
      · rw [List.flatMap_cons, List.flatMap_cons, List.length_append, List.length_append, ihlen,
          hlen b t hb]
      · intro x hx
        rw [List.flatMap_cons, List.mem_append] at hx
        rcases hx with hx | hx
        · exact hrange b t hb x hx
        · exact ihrange x hx

/-- Every added line of the blocks has one target, a unit or none. -/
theorem added_targets (h : List.Forall₂ (fun b t => b.targets units olds = .ok t) bs ts) :
    (ts.flatMap (·.added)).length = (bs.flatMap (·.added)).length ∧
      ∀ t ∈ ts.flatMap (·.added), t.InRange units.length 0 := by
  refine targets_of_blocks h ?_ ?_
  · intro b t hb
    rw [(targets_eq_ok_iff.1 hb).1, List.length_map]
  · intro b t hb x hx
    rw [(targets_eq_ok_iff.1 hb).1] at hx
    obtain ⟨line, _, rfl⟩ := List.mem_map.1 hx
    exact addedTarget_inRange units line

/-- Every removed line of the blocks has one target. -/
theorem removed_targets (h : List.Forall₂ (fun b t => b.targets units olds = .ok t) bs ts) :
    (ts.flatMap (·.removed)).length = (bs.flatMap (·.removed)).length ∧
      ∀ t ∈ ts.flatMap (·.removed), t.InRange units.length (olds.getD []).length := by
  refine targets_of_blocks h ?_ ?_
  · intro b t hb
    rw [← (targets_eq_ok_iff.1 hb).2.length_eq, List.length_zipIdx]
  · intro b t hb x hx
    obtain ⟨⟨l, i⟩, _, htarget⟩ := exists_of_mem_forall₂ (targets_eq_ok_iff.1 hb).2 hx
    exact blockTarget_inRange htarget

/-- The added lines of all hunks, by their numbers. -/
theorem count_added {f : FileDiff} (hn : f.IsNumbered) :
    f.count .added = (f.hunks.flatMap (addedNumbers ·.lines)).length := by
  rw [FileDiff.count, List.length_flatMap, totalCount_eq_sum]
  congr 1
  apply List.map_congr_left
  intro h hh
  exact (length_addedNumbers (hn h hh)).symm

private theorem count_removed (f : FileDiff) :
    f.count .removed = (f.hunks.flatMap (removedLines ·.lines)).length := by
  rw [FileDiff.count, List.length_flatMap, totalCount_eq_sum]
  congr 1
  apply List.map_congr_left
  intro h _
  exact List.countP_eq_length_filter

/-- Numbered lines are attributed: there are as many targets as changed lines on either side, all
    of them units and old units that exist or strays. -/
theorem exists_attributed {f : FileDiff} (units : List CodeUnit) (olds : Option (List CodeUnit))
    (hn : f.IsNumbered) :
    ∃ a, attributed units olds f.hunks = .ok a ∧
      (a.blocks.flatMap (·.added)).length = f.count .added ∧
      (a.blocks.flatMap (·.removed)).length = f.count .removed ∧
      (∀ t ∈ a.blocks.flatMap (·.added), t.InRange units.length 0) ∧
      ∀ t ∈ a.blocks.flatMap (·.removed), t.InRange units.length (olds.getD []).length := by
  obtain ⟨bs, ts, hadded, hremoved, hts, ha⟩ := attributed_eq_ok units olds hn
  obtain ⟨alen, arange⟩ := added_targets hts
  obtain ⟨rlen, rrange⟩ := removed_targets hts
  refine ⟨_, ha, ?_, ?_, arange, rrange⟩
  · rw [alen, hadded, count_added hn]
  · rw [rlen, hremoved, count_removed]

/-- The changes of a file are those after its attribution, sorted. -/
theorem changesOf_eq_ok {rules : Rules} {f : FileDiff} {units : List CodeUnit}
    {olds : Option (List CodeUnit)} {a : Attributed} (hbinary : f.isBinary = false)
    (ha : attributed units olds f.hunks = .ok a) :
    changesOf rules f units olds
      = .ok ((a.changes rules f.path units olds).mergeSort startsNoLater) := by
  rw [changesOf, hbinary, ha]
  rfl

/-- A file whose lines are numbered has its changes. A binary file has none. -/
theorem exists_changesOf_of_isNumbered (rules : Rules) {f : FileDiff} (units : List CodeUnit)
    (olds : Option (List CodeUnit)) (hn : f.IsNumbered) :
    ∃ cs, changesOf rules f units olds = .ok cs := by
  cases hbinary : f.isBinary with
  | true => exact ⟨[], by rw [changesOf, hbinary]; rfl⟩
  | false =>
      obtain ⟨a, ha, -⟩ := exists_attributed units olds hn
      exact ⟨_, changesOf_eq_ok hbinary ha⟩

/-- Sorting keeps what the changes add up to. -/
theorem total_mergeSort (g : Change → Int) (cs : List Change) :
    total ((cs.mergeSort startsNoLater).map g) = total (cs.map g) :=
  ((List.mergeSort_perm cs startsNoLater).map g).sum_eq

/-! ## Conservation -/

/-- The changes of a file whose lines are numbered have as many added lines as its hunks, and as
    many removed ones: every changed line counts once, for whatever units and old units. -/
theorem changesOf_conserves_lines (rules : Rules) (f : FileDiff) (units : List CodeUnit)
    (olds : Option (List CodeUnit)) (hbinary : f.isBinary = false) (hn : f.IsNumbered) :
    ∃ cs, changesOf rules f units olds = .ok cs ∧
      total (cs.map (·.added)) = (f.count .added : Int) ∧
      total (cs.map (·.removed)) = (f.count .removed : Int) := by
  obtain ⟨a, ha, alen, rlen, arange, rrange⟩ := exists_attributed units olds hn
  refine ⟨_, changesOf_eq_ok hbinary ha, ?_, ?_⟩
  · rw [total_mergeSort, total_added_changes a rules f.path units olds arange, alen]
  · rw [total_mergeSort, total_removed_changes a rules f.path units olds rrange, rlen]

/-- A line replaced by two. -/
def replacement : FileDiff :=
  { oldPath := some "src/lib.rs"
    newPath := some "src/lib.rs"
    hunks :=
      [{ oldStart := 1
         oldCount := 2
         newStart := 1
         newCount := 3
         lines :=
           [⟨.context, "mod m;", some 1, some 1⟩, ⟨.removed, "fn a() {}", some 2, none⟩,
            ⟨.added, "fn a() \x7b", none, some 2⟩, ⟨.added, "\x7d", none, some 3⟩] }] }

/-- Two functions that share line 2, neither of them inside the other. -/
def overlapping : List CodeUnit :=
  [{ kind := some .function, name := "a", visibility := .inside
     span := .clamped 1 2, purpose := .production },
   { kind := some .function, name := "b", visibility := .inside
     span := .clamped 2 4, purpose := .production }]

/-- One line replaced by two, where units overlap. -/
theorem changesOf_conserves_lines_of_replacement :
    replacement.isBinary = false ∧ replacement.IsNumbered ∧
      ∃ cs, changesOf {} replacement overlapping (some overlapping) = .ok cs ∧
        total (cs.map (·.added)) = 2 ∧ total (cs.map (·.removed)) = 1 :=
  ⟨rfl, by decide,
    changesOf_conserves_lines {} replacement overlapping (some overlapping) rfl (by decide)⟩

end DiffGauge.Attribution
