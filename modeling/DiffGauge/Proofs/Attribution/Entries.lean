import DiffGauge.Proofs.Attribution.Conservation
import DiffGauge.Proofs.Sorting
import Mathlib.Data.List.Nodup

/-!
# Where changes come from

Every change of a file comes from one place: from a unit, from an old unit, or from the lines of
a block that belong to no unit. An entry is a change with its origin, and no two entries have the
same one.

* `mem_entries` says which entries there are;
* `nodup_origins` says that no unit, no old unit and no block has two changes;
* `changesOf_eq_sortedEntries` finds the changes of a file as entries, and `exists_entries` says
  what these are.
-/

namespace DiffGauge.Attribution

open Diff

/-- Where a change comes from: the unit or the old unit with an index, or the lines outside all
    units in the block with an index. -/
inductive Origin where
  | unit (index : Nat)
  | oldUnit (index : Nat)
  | block (index : Nat)
  deriving DecidableEq, Repr

/-- A change with its origin. -/
structure Entry where
  origin : Origin
  change : Change
  deriving DecidableEq, Repr

/-! ## Entries index by index -/

/-- The entries that are made from the items of a list. -/
def indexed {α : Type} (origin : Nat → Origin) (make : α → Nat → Option Change) (xs : List α) :
    List Entry :=
  xs.zipIdx.filterMap fun x => (make x.1 x.2).map (Entry.mk (origin x.2))

section Indexed

variable {α : Type} (origin : Nat → Origin) (make : α → Nat → Option Change) (xs : List α)

private theorem map_change_indexed :
    (indexed origin make xs).map (·.change) = xs.zipIdx.filterMap fun x => make x.1 x.2 := by
  rw [indexed, List.map_filterMap]
  apply List.filterMap_congr
  intro x _
  rw [Option.map_map]
  exact Option.map_id'

/-- Items whose indices do not matter. -/
theorem map_change_indexed_fst (make : α → Option Change) :
    (indexed origin (fun x _ => make x) xs).map (·.change) = xs.filterMap make := by
  rw [map_change_indexed]
  calc xs.zipIdx.filterMap (fun x => make x.1) = (xs.zipIdx.map (·.1)).filterMap make :=
        (List.filterMap_map ..).symm
    _ = xs.filterMap make := by rw [List.zipIdx_map_fst]

/-- An item gives an entry with its own index. -/
theorem mem_indexed {e : Entry} :
    e ∈ indexed origin make xs ↔
      ∃ i, e.origin = origin i ∧ ∃ x, xs[i]? = some x ∧ make x i = some e.change := by
  rw [indexed, List.mem_filterMap]
  constructor
  · rintro ⟨⟨x, i⟩, hx, he⟩
    obtain ⟨c, hc, rfl⟩ := Option.map_eq_some_iff.1 he
    exact ⟨i, rfl, x, List.mem_zipIdx_iff_getElem?.1 hx, hc⟩
  · rintro ⟨i, ho, x, hx, hc⟩
    refine ⟨(x, i), List.mem_zipIdx_iff_getElem?.2 hx, ?_⟩
    show (make x i).map _ = some e
    rw [hc, ← ho]
    rfl

/-- The origins of entries are those of some of the items, in their order. -/
theorem origins_sublist :
    ((indexed origin make xs).map (·.origin)).Sublist (xs.zipIdx.map fun x => origin x.2) := by
  rw [indexed]
  induction xs.zipIdx with
  | nil => exact .slnil
  | cons y ys ih =>
      cases hm : make y.1 y.2 with
      | none =>
          rw [List.filterMap_cons_none (by rw [hm]; rfl)]
          exact ih.cons _
      | some c =>
          rw [List.filterMap_cons_some (b := ⟨origin y.2, c⟩) (by rw [hm]; rfl)]
          exact ih.cons_cons _

/-- Each item has an origin of its own. -/
theorem nodup_indexed (h : Function.Injective origin) :
    ((indexed origin make xs).map (·.origin)).Nodup := by
  refine (origins_sublist origin make xs).nodup ?_
  have hmap : (xs.zipIdx.map fun x => origin x.2) = (xs.zipIdx.map (·.2)).map origin :=
    (List.map_map ..).symm
  rw [hmap, List.zipIdx_map_snd]
  exact List.Nodup.map h List.nodup_range'

end Indexed

/-! ## The entries of a file -/

/-- The changes after attribution, each with its origin. -/
def Attributed.entries (a : Attributed) (rules : Rules) (file : String) (units : List CodeUnit)
    (olds : Option (List CodeUnit)) : List Entry :=
  indexed .unit (a.unitChange? file) units
    ++ indexed .oldUnit (a.oldUnitChange? file) (olds.getD [])
    ++ indexed .block (fun t _ => t.strayChange? rules file) a.blocks

/-- The change that an origin has after attribution. -/
def Attributed.Gives (a : Attributed) (rules : Rules) (file : String) (units : List CodeUnit)
    (olds : Option (List CodeUnit)) (c : Change) : Origin → Prop
  | .unit i => ∃ u, units[i]? = some u ∧ a.unitChange? file u i = some c
  | .oldUnit o => ∃ u, (olds.getD [])[o]? = some u ∧ a.oldUnitChange? file u o = some c
  | .block k => ∃ t, a.blocks[k]? = some t ∧ t.strayChange? rules file = some c

variable {a : Attributed} {rules : Rules} {file : String} {units : List CodeUnit}
  {olds : Option (List CodeUnit)}

private theorem map_change_entries :
    (a.entries rules file units olds).map (·.change) = a.changes rules file units olds := by
  rw [Attributed.entries, List.map_append, List.map_append, map_change_indexed,
    map_change_indexed, map_change_indexed_fst, Attributed.changes]

/-- An entry is a change that its origin has. -/
theorem mem_entries {e : Entry} :
    e ∈ a.entries rules file units olds ↔ a.Gives rules file units olds e.change e.origin := by
  rw [Attributed.entries, List.mem_append, List.mem_append, mem_indexed, mem_indexed, mem_indexed]
  cases e.origin with
  | unit i => simp [Attributed.Gives]
  | oldUnit o => simp [Attributed.Gives]
  | block k => simp [Attributed.Gives]

/-- A change after attribution is one that some origin has. -/
theorem mem_changes_iff {c : Change} :
    c ∈ a.changes rules file units olds ↔ ∃ o, a.Gives rules file units olds c o := by
  rw [← map_change_entries, List.mem_map]
  constructor
  · rintro ⟨e, he, rfl⟩
    exact ⟨e.origin, mem_entries.1 he⟩
  · rintro ⟨o, ho⟩
    exact ⟨⟨o, c⟩, mem_entries.2 ho, rfl⟩

/-- A unit that a line was removed from has a change. -/
theorem exists_gives_unit {i : Nat} (hi : i < units.length) (h : a.removedFrom (.unit i) ≠ 0) :
    ∃ c, a.Gives rules file units olds c (.unit i) := by
  have hchange : ∃ c, a.unitChange? file units[i] i = some c := by
    rw [Attributed.unitChange?]
    exact ⟨_, if_neg fun hnone => h hnone.2⟩
  obtain ⟨c, hc⟩ := hchange
  exact ⟨c, units[i], List.getElem?_eq_getElem hi, hc⟩

/-- An old unit that a line went to has a change. -/
theorem exists_gives_oldUnit {o : Nat} (ho : o < (olds.getD []).length)
    (h : a.removedFrom (.oldUnit o) ≠ 0) : ∃ c, a.Gives rules file units olds c (.oldUnit o) := by
  have hchange : ∃ c, a.oldUnitChange? file (olds.getD [])[o] o = some c := by
    rw [Attributed.oldUnitChange?]
    exact ⟨_, if_neg h⟩
  obtain ⟨c, hc⟩ := hchange
  exact ⟨c, (olds.getD [])[o], List.getElem?_eq_getElem ho, hc⟩

/-- A block with a stray removed line has a change. -/
theorem exists_gives_block {k : Nat} {t : Targets} (ht : a.blocks[k]? = some t)
    (h : (t.removed.filterMap Target.stray?).length ≠ 0) :
    ∃ c, a.Gives rules file units olds c (.block k) := by
  cases hc : t.strayChange? rules file with
  | some c => exact ⟨c, t, ht, hc⟩
  | none =>
      have hlines := (strayChange?_lines t rules file).2
      rw [hc] at hlines
      exact absurd (Int.natCast_eq_zero.1 hlines.symm) h

/-- No unit, no old unit and no block has two changes. -/
theorem nodup_origins : ((a.entries rules file units olds).map (·.origin)).Nodup := by
  have hunits := nodup_indexed .unit (a.unitChange? file) units fun _ _ h => Origin.unit.inj h
  have holds := nodup_indexed .oldUnit (a.oldUnitChange? file) (olds.getD [])
    fun _ _ h => Origin.oldUnit.inj h
  have hblocks := nodup_indexed .block (fun t _ => Targets.strayChange? t rules file) a.blocks
    fun _ _ h => Origin.block.inj h
  rw [Attributed.entries, List.map_append, List.map_append]
  refine (hunits.append holds ?_).append hblocks ?_
  -- origins of different kinds differ
  · intro o ho ho'
    obtain ⟨e, he, rfl⟩ := List.mem_map.1 ho
    obtain ⟨e', he', heq⟩ := List.mem_map.1 ho'
    obtain ⟨i, hi, -⟩ := (mem_indexed ..).1 he
    obtain ⟨j, hj, -⟩ := (mem_indexed ..).1 he'
    rw [hi, hj] at heq
    cases heq
  · intro o ho ho'
    obtain ⟨e', he', rfl⟩ := List.mem_map.1 ho'
    obtain ⟨k, hk, -⟩ := (mem_indexed ..).1 he'
    rw [hk] at ho
    rcases List.mem_append.1 ho with ho | ho
    · obtain ⟨e, he, heq⟩ := List.mem_map.1 ho
      obtain ⟨i, hi, -⟩ := (mem_indexed ..).1 he
      rw [hi] at heq
      cases heq
    · obtain ⟨e, he, heq⟩ := List.mem_map.1 ho
      obtain ⟨i, hi, -⟩ := (mem_indexed ..).1 he
      rw [hi] at heq
      cases heq

/-- The line that the unit of an entry begins on. -/
def Entry.first (e : Entry) : Nat := e.change.unit.span.first

/-- The entries of a file, by the first line of their span. -/
def Attributed.sortedEntries (a : Attributed) (rules : Rules) (file : String)
    (units : List CodeUnit) (olds : Option (List CodeUnit)) : List Entry :=
  (a.entries rules file units olds).mergeSort fun e e' => e.first ≤ e'.first

/-- The changes of a file are those of its sorted entries. -/
theorem changesOf_eq_sortedEntries (rules : Rules) {f : FileDiff} (hbinary : f.isBinary = false)
    (ha : attributed units olds f.hunks = .ok a) :
    changesOf rules f units olds
      = .ok ((a.sortedEntries rules f.path units olds).map (·.change)) := by
  have hsort : (a.sortedEntries rules f.path units olds).map (·.change)
      = ((a.entries rules f.path units olds).map (·.change)).mergeSort startsNoLater :=
    List.map_mergeSort fun _ _ _ _ => rfl
  rw [changesOf_eq_ok hbinary ha, hsort, map_change_entries]

/-- The sorted entries are what the attribution gives. -/
theorem mem_sortedEntries {e : Entry} :
    e ∈ a.sortedEntries rules file units olds
      ↔ a.Gives rules file units olds e.change e.origin := by
  rw [Attributed.sortedEntries, List.mem_mergeSort, mem_entries]

/-- A change of a file is one that some origin has in its attribution. -/
theorem exists_gives_of_mem {rules : Rules} {f : FileDiff} {cs : List Change} {c : Change}
    (hcs : changesOf rules f units olds = .ok cs) (hc : c ∈ cs) :
    ∃ a o, attributed units olds f.hunks = .ok a ∧ a.Gives rules f.path units olds c o := by
  rw [changesOf] at hcs
  split at hcs
  · cases hcs
    cases hc
  · obtain ⟨a, ha, hsorted⟩ := bind_eq_ok_iff.1 hcs
    cases hsorted
    obtain ⟨o, ho⟩ := mem_changes_iff.1 (List.mem_mergeSort.1 hc)
    exact ⟨a, o, ha, ho⟩

/-- The changes of a file are entries, each with its own origin, sorted by the first line of their
    span. -/
theorem exists_entries (rules : Rules) {f : FileDiff} (hbinary : f.isBinary = false)
    (ha : attributed units olds f.hunks = .ok a) :
    ∃ es : List Entry, changesOf rules f units olds = .ok (es.map (·.change)) ∧
      (es.map (·.origin)).Nodup ∧
      (es.map (·.change)).Pairwise (fun c d => c.unit.span.first ≤ d.unit.span.first) ∧
      ∀ e, e ∈ es ↔ a.Gives rules f.path units olds e.change e.origin := by
  refine ⟨_, changesOf_eq_sortedEntries rules hbinary ha, ?_, ?_, fun e => mem_sortedEntries⟩
  · exact ((List.mergeSort_perm _ _).map _).nodup_iff.2 nodup_origins
  · exact List.pairwise_map.2 (pairwise_mergeSort Entry.first _)

end DiffGauge.Attribution
