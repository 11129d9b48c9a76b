import DiffGauge.Proofs.Attribution.Kinds

/-!
# The order of the hunks does not matter

Attribution looks at the hunks of a file one after the other, but nothing is decided before it has
seen all of them. In another order the blocks come in another order, and that is all: every unit
and every old unit has the lines that it had, so it has the change that it had. Only the regions
come in another order, and as the changes are sorted, this shows among regions that begin on the
same line.

* `attributed_perm` says what another order does to the attribution;
* `Reorders.unitChange?_eq` and `Reorders.oldUnitChange?_eq` say that the units keep their changes;
* `Reorders.standAlike` says where the sorted entries agree, and `changesOf_perm_hunks` says all of
  this of a file.
-/

namespace DiffGauge.Attribution

open Diff

/-! ## Attributions in another order -/

/-- The two attributions have the same added lines and the same blocks, in whatever order. -/
structure Attributed.Reorders (a b : Attributed) : Prop where
  addedLines : a.addedLines.Perm b.addedLines
  blocks : a.blocks.Perm b.blocks

/-- In another order the hunks have the same attribution in another order. -/
theorem attributed_perm {units : List CodeUnit} {olds : Option (List CodeUnit)}
    {hs hs' : List Hunk} {a : Attributed} (hperm : hs'.Perm hs)
    (ha : attributed units olds hs = .ok a) :
    ∃ b, attributed units olds hs' = .ok b ∧ a.Reorders b := by
  obtain ⟨parts, hparts, hall⟩ := bind_eq_ok_iff.1 ha
  cases hall
  obtain ⟨parts', hparts', hsame⟩ := mapM_perm (hperm.flatMap_right blocks) hparts
  exact ⟨_, bind_eq_ok_iff.2 ⟨parts', hparts', rfl⟩,
    hsame.symm.flatMap_right _, hsame.symm.map _⟩

/-- The origin is a block, so its change is one of a region outside all units. -/
def Origin.isBlock : Origin → Bool
  | .block _ => true
  | .unit _ | .oldUnit _ => false

/-- The entries of the units and of the old units. -/
def Attributed.namedEntries (a : Attributed) (file : String) (units : List CodeUnit)
    (olds : Option (List CodeUnit)) : List Entry :=
  indexed .unit (a.unitChange? file) units
    ++ indexed .oldUnit (a.oldUnitChange? file) (olds.getD [])

/-- The entries of the regions. -/
def Attributed.regionEntries (a : Attributed) (rules : Rules) (file : String) : List Entry :=
  indexed .block (fun t _ => t.strayChange? rules file) a.blocks

private theorem Attributed.entries_eq (a : Attributed) (rules : Rules) (file : String)
    (units : List CodeUnit) (olds : Option (List CodeUnit)) :
    a.entries rules file units olds
      = a.namedEntries file units olds ++ a.regionEntries rules file := rfl

private theorem isBlock_of_mem_regionEntries
    {a : Attributed} {rules : Rules} {file : String} {e : Entry}
    (he : e ∈ a.regionEntries rules file) : e.origin.isBlock = true := by
  obtain ⟨i, ho, -⟩ := (mem_indexed ..).1 he
  rw [ho]
  rfl

/-- The two entries are one, or they are regions that begin on the same line. -/
def StandAlike (e e' : Entry) : Prop :=
  e = e' ∨ e.origin.isBlock = true ∧ e'.origin.isBlock = true ∧ e.first = e'.first

namespace Attributed.Reorders

variable {a b : Attributed} {rules : Rules} {file : String} {units : List CodeUnit}
  {olds : Option (List CodeUnit)}

private theorem addedTo_eq (h : a.Reorders b) (t : Target) : a.addedTo t = b.addedTo t := by
  rw [addedTo_eq_count, addedTo_eq_count]
  exact (h.blocks.flatMap_right _).count_eq t

private theorem removedFrom_eq (h : a.Reorders b) (t : Target) :
    a.removedFrom t = b.removedFrom t := by
  rw [removedFrom_eq_count, removedFrom_eq_count]
  exact (h.blocks.flatMap_right _).count_eq t

/-- The same lines are new. -/
theorem allAmong_eq (h : a.Reorders b) (s : LineSpan) :
    allAmong a.addedLines s = allAmong b.addedLines s := by
  rw [Bool.eq_iff_iff, allAmong_iff, allAmong_iff]
  exact forall_congr' fun n => imp_congr_right fun _ => imp_congr_right fun _ =>
    h.addedLines.mem_iff

/-- The change of a unit does not depend on the order of the hunks. -/
theorem unitChange?_eq (h : a.Reorders b) (unit : CodeUnit) (i : Nat) :
    a.unitChange? file unit i = b.unitChange? file unit i := by
  rw [unitChange?, unitChange?, h.addedTo_eq, h.removedFrom_eq, h.allAmong_eq]

/-- Neither does that of an old unit. -/
theorem oldUnitChange?_eq (h : a.Reorders b) (unit : CodeUnit) (o : Nat) :
    a.oldUnitChange? file unit o = b.oldUnitChange? file unit o := by
  rw [oldUnitChange?, oldUnitChange?, h.removedFrom_eq]

/-- The units and the old units have the same changes. -/
theorem namedEntries_eq (h : a.Reorders b) :
    a.namedEntries file units olds = b.namedEntries file units olds := by
  have hunit : a.unitChange? file = b.unitChange? file :=
    funext₂ fun unit i => h.unitChange?_eq unit i
  have hold : a.oldUnitChange? file = b.oldUnitChange? file :=
    funext₂ fun unit o => h.oldUnitChange?_eq unit o
  rw [namedEntries, namedEntries, hunit, hold]

/-- The regions have the same changes, in another order. -/
theorem regionChanges_perm (h : a.Reorders b) :
    ((a.regionEntries rules file).map (·.change)).Perm
      ((b.regionEntries rules file).map (·.change)) := by
  rw [regionEntries, regionEntries, map_change_indexed_fst, map_change_indexed_fst]
  exact h.blocks.filterMap _

/-- There are as many regions that begin on a line. -/
theorem length_regionsOn_eq (h : a.Reorders b) (line : Nat) :
    ((a.regionEntries rules file).filter fun e => e.first == line).length
      = ((b.regionEntries rules file).filter fun e => e.first == line).length := by
  have hcount (c : Attributed) :
      ((c.regionEntries rules file).filter fun e => e.first == line).length
        = ((c.regionEntries rules file).map (·.change)).countP
            fun d => d.unit.span.first == line := by
    rw [List.countP_map, List.countP_eq_length_filter]
    rfl
  rw [hcount, hcount]
  exact h.regionChanges_perm.countP_eq _

private theorem changes_perm (h : a.Reorders b) :
    ((a.sortedEntries rules file units olds).map (·.change)).Perm
      ((b.sortedEntries rules file units olds).map (·.change)) := by
  have hsorted (c : Attributed) :
      ((c.sortedEntries rules file units olds).map (·.change)).Perm
        ((c.namedEntries file units olds).map (·.change)
          ++ (c.regionEntries rules file).map (·.change)) := by
    rw [← List.map_append]
    exact (List.mergeSort_perm _ _).map _
  refine (hsorted a).trans (.trans ?_ (hsorted b).symm)
  rw [h.namedEntries_eq]
  exact h.regionChanges_perm.append_left _

/-- The sorted entries agree, but for regions that begin on the same line. -/
theorem standAlike (h : a.Reorders b) :
    List.Forall₂ StandAlike (a.sortedEntries rules file units olds)
      (b.sortedEntries rules file units olds) := by
  refine forall₂_mergeSort fun line => ?_
  -- of the entries that begin on one line those of the units come first, and they are the same
  rw [entries_eq, entries_eq, List.filter_append, List.filter_append, h.namedEntries_eq]
  refine List.rel_append (List.forall₂_same.2 fun e _ => .inl rfl) ?_
  refine forall₂_of_length_eq (h.length_regionsOn_eq line) fun e he e' he' => .inr ?_
  obtain ⟨he, hfirst⟩ := List.mem_filter.1 he
  obtain ⟨he', hfirst'⟩ := List.mem_filter.1 he'
  exact ⟨isBlock_of_mem_regionEntries he, isBlock_of_mem_regionEntries he',
    (eq_of_beq hfirst).trans (eq_of_beq hfirst').symm⟩

end Attributed.Reorders

/-! ## Changes in another order -/

/-- The entries come from the changes of a file: they are its changes, in their order, each with
    the origin that it has in the attribution. -/
structure ListsChanges (rules : Rules) (f : FileDiff) (units : List CodeUnit)
    (olds : Option (List CodeUnit)) (es : List Entry) : Prop where
  changes : changesOf rules f units olds = .ok (es.map (·.change))
  origins : ∀ e ∈ es, ∃ a, attributed units olds f.hunks = .ok a ∧
    a.Gives rules f.path units olds e.change e.origin

/-- The two lists have the same changes, and they differ at most in the order of regions that begin
    on the same line. The changes of units and of old units come in the same order. -/
structure SameUpToRegions (es es' : List Entry) : Prop where
  changes : (es.map (·.change)).Perm (es'.map (·.change))
  named : (es.filter fun e => !e.origin.isBlock) = es'.filter fun e => !e.origin.isBlock
  standAlike : List.Forall₂ StandAlike es es'

/-- Where the entries agree but for regions, those of units and old units agree. -/
theorem named_eq_of_standAlike {es es' : List Entry} (h : List.Forall₂ StandAlike es es') :
    (es.filter fun e => !e.origin.isBlock) = es'.filter fun e => !e.origin.isBlock := by
  induction h with
  | nil => rfl
  | @cons e e' es es' hee' _ ih =>
      rcases hee' with rfl | ⟨he, he', -⟩
      · rw [List.filter_cons, List.filter_cons, ih]
      · rw [List.filter_cons_of_neg (by simp [he]), List.filter_cons_of_neg (by simp [he']), ih]

private theorem listsChanges_sortedEntries (rules : Rules) {f : FileDiff} {units : List CodeUnit}
    {olds : Option (List CodeUnit)} {a : Attributed} (hbinary : f.isBinary = false)
    (ha : attributed units olds f.hunks = .ok a) :
    ListsChanges rules f units olds (a.sortedEntries rules f.path units olds) :=
  ⟨changesOf_eq_sortedEntries rules hbinary ha, fun _ he => ⟨a, ha, mem_sortedEntries.1 he⟩⟩

private theorem changesOf_eq_error (rules : Rules) {f : FileDiff} {units : List CodeUnit}
    {olds : Option (List CodeUnit)} {e : Unnumbered} (hbinary : f.isBinary = false)
    (he : attributed units olds f.hunks = .error e) :
    changesOf rules f units olds = .error e := by
  rw [changesOf, hbinary, he]
  rfl

/-- **The order of the hunks does not matter**: with its hunks in another order a file has the same
    changes, in the same order but for regions that begin on the same line. If a line without its
    number keeps it from having changes, it has none in the other order either. -/
theorem changesOf_perm_hunks (rules : Rules) (f : FileDiff) (hunks : List Hunk)
    (units : List CodeUnit) (olds : Option (List CodeUnit)) (hperm : hunks.Perm f.hunks) :
    (¬f.IsNumbered ∧ ∃ e e', changesOf rules f units olds = .error e ∧
        changesOf rules { f with hunks } units olds = .error e') ∨
      ∃ es es', ListsChanges rules f units olds es ∧
        ListsChanges rules { f with hunks } units olds es' ∧ SameUpToRegions es es' := by
  rcases Bool.eq_false_or_eq_true f.isBinary with hbinary | hbinary
  · have hnone (hs : List Hunk) : ListsChanges rules { f with hunks := hs } units olds [] := by
      refine ⟨?_, List.forall_mem_nil _⟩
      rw [changesOf, hbinary]
      rfl
    exact .inr ⟨[], [], hnone f.hunks, hnone hunks, ⟨.nil, rfl, .nil⟩⟩
  · cases ha : attributed units olds f.hunks with
    | error e =>
        refine .inl ⟨fun hn => ?_, e, ?_⟩
        · obtain ⟨a, ha', -⟩ := exists_attributed units olds hn
          rw [ha] at ha'
          cases ha'
        · cases hb : attributed units olds hunks with
          | error e' =>
              exact ⟨e', changesOf_eq_error rules hbinary ha,
                changesOf_eq_error (f := { f with hunks }) rules hbinary hb⟩
          | ok b =>
              -- put back in order, the hunks would have an attribution
              obtain ⟨a, ha', -⟩ := attributed_perm hperm.symm hb
              rw [ha] at ha'
              cases ha'
    | ok a =>
        obtain ⟨b, hb, hreorders⟩ := attributed_perm hperm ha
        exact .inr ⟨_, _, listsChanges_sortedEntries rules hbinary ha,
          listsChanges_sortedEntries (f := { f with hunks }) rules hbinary hb,
          hreorders.changes_perm, named_eq_of_standAlike hreorders.standAlike,
          hreorders.standAlike⟩

/-- Two deletions that begin on the same line of the old side, and a line that is added below. -/
def deletionsOnOneLine : FileDiff :=
  { oldPath := some "src/lib.rs"
    newPath := some "src/lib.rs"
    hunks :=
      [{ oldStart := 1, oldCount := 1, newStart := 0, newCount := 0
         lines := [⟨.removed, "// a", some 1, none⟩] },
       { oldStart := 1, oldCount := 2, newStart := 0, newCount := 0
         lines := [⟨.removed, "// a", some 1, none⟩, ⟨.removed, "// b", some 2, none⟩] },
       { oldStart := 4, oldCount := 0, newStart := 2, newCount := 1
         lines := [⟨.added, "    c();", none, some 2⟩] }] }

/-- A function around the line that is added. -/
def aroundAddition : CodeUnit :=
  { kind := some .function, name := "c", visibility := .inside
    span := .clamped 1 3, purpose := .production }

/-- Two deletions on one line, in either order. -/
theorem changesOf_perm_hunks_of_deletionsOnOneLine :
    deletionsOnOneLine.hunks.reverse.Perm deletionsOnOneLine.hunks ∧
      ∃ es es', ListsChanges {} deletionsOnOneLine [aroundAddition] none es ∧
        ListsChanges {} { deletionsOnOneLine with hunks := deletionsOnOneLine.hunks.reverse }
          [aroundAddition] none es' ∧ SameUpToRegions es es' := by
  have hperm : deletionsOnOneLine.hunks.reverse.Perm deletionsOnOneLine.hunks :=
    List.reverse_perm _
  have hn : deletionsOnOneLine.IsNumbered := by decide
  have horders := changesOf_perm_hunks {} deletionsOnOneLine _ [aroundAddition] none hperm
  exact ⟨hperm, horders.resolve_left fun h => h.1 hn⟩

end DiffGauge.Attribution
