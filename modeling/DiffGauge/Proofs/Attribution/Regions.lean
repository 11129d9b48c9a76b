import DiffGauge.Proofs.Attribution.Kinds
import DiffGauge.Proofs.Diff.Numbering

/-!
# Regions outside all units

The lines of a block that belong to no unit make one region. It spans the stray added lines, or the
stray removed ones if none is added, and as a diff may number its lines from zero, both bounds are
raised to the first line. These bounds are always in order.

* `isHullOf_covering` says that the bounds of a region pass the check of a span;
* `span_of_strayChange?` and `kind_of_strayChange?` say what the change of a region is;
* `changesOf_read` says that every file of a diff has its changes: no line is asked for a number
  that it does not have, and every region has a span.
-/

namespace DiffGauge

/-- The span goes from the least to the greatest of some lines, both raised to the first line of a
    file, and as bounds of a span these are in order. -/
def LineSpan.IsHullOf (s : LineSpan) (lines : List Int) : Prop :=
  ∃ least greatest, lines.min? = some least ∧ lines.max? = some greatest ∧
    LineSpan.ofBounds? (max least 1) (max greatest 1) = .ok s

/-- The covering span of some lines is their hull. -/
theorem LineSpan.isHullOf_covering (line : Int) (lines : List Int) :
    (LineSpan.covering line lines).IsHullOf (line :: lines) := by
  have hmin : (line :: lines).min? = some (lines.foldl min line) := List.min?_cons'
  have hmax : (line :: lines).max? = some (lines.foldl max line) := List.max?_cons'
  refine ⟨_, _, hmin, hmax, LineSpan.ofBounds?_eq_ok_iff.2 ?_⟩
  -- the first of the lines is between the bounds
  have hle := (List.min?_eq_some_iff.1 hmin).2 line List.mem_cons_self
  have hge := (List.max?_eq_some_iff.1 hmax).2 line List.mem_cons_self
  simp only [LineSpan.covering, LineSpan.clamped]
  omega

end DiffGauge

namespace DiffGauge.Attribution

open Diff

/-- The lines that the region of a block is placed by: the stray added lines, or the stray removed
    ones if there are none. -/
def Targets.strays (t : Targets) : List Int :=
  match t.added.filterMap Target.stray? with
  | [] => t.removed.filterMap Target.stray?
  | line :: lines => line :: lines

/-- A block with stray lines has the change of a region, which spans them. -/
theorem span_of_strayChange? {t : Targets} (rules : Rules) (file : String) (h : t.strays ≠ []) :
    ∃ c, t.strayChange? rules file = some c ∧ c.unit = region rules file c.unit.span ∧
      c.unit.span.IsHullOf t.strays := by
  rw [Targets.strays] at h ⊢
  rw [Targets.strayChange?]
  cases hadded : t.added.filterMap Target.stray? with
  | cons line lines =>
      exact ⟨_, rfl, rfl, LineSpan.isHullOf_covering line lines⟩
  | nil =>
      rw [hadded] at h
      cases hremoved : t.removed.filterMap Target.stray? with
      | cons line lines => exact ⟨_, rfl, rfl, LineSpan.isHullOf_covering line lines⟩
      | nil => exact absurd hremoved h

/-- A region is new if no stray line was removed, and a removal if none was added. -/
theorem kind_of_strayChange? {t : Targets} {rules : Rules} {file : String} {c : Change}
    (h : t.strayChange? rules file = some c) :
    (c.kind = .added ↔ c.removed = 0) ∧ (c.kind = .removed ↔ c.added = 0) := by
  simp only [Targets.strayChange?] at h
  split at h
  · cases h
  · next line lines _ =>
      cases h
      have hadded : ((lines.length : Int) + 1) ≠ 0 := by omega
      cases t.removed.filterMap Target.stray? with
      | nil => simp [hadded]
      | cons gone more =>
          have hremoved : ((more.length : Int) + 1) ≠ 0 := by omega
          simp [hadded, hremoved]
  · next line lines _ _ =>
      cases h
      have hremoved : ((lines.length : Int) + 1) ≠ 0 := by omega
      simp [hremoved]

/-- **Every file of a diff has its changes**, whatever its hunks state, and for whatever units and
    old units: all its lines have their numbers, its lines are attributed, and every block with
    stray lines has a region among the changes, the bounds of which are in order. -/
theorem changesOf_read (rules : Rules) (text : String) (files : List FileDiff) (f : FileDiff)
    (units : List CodeUnit) (olds : Option (List CodeUnit)) (hread : read text = .ok files)
    (hf : f ∈ files) :
    f.IsNumbered ∧ ∃ a cs, attributed units olds f.hunks = .ok a ∧
      changesOf rules f units olds = .ok cs ∧
      ∀ t ∈ a.blocks, t.strays ≠ [] →
        ∃ c ∈ cs, t.strayChange? rules f.path = some c ∧ c.unit.span.IsHullOf t.strays := by
  have hn := read_numbered hread f hf
  obtain ⟨a, ha, -⟩ := exists_attributed units olds hn
  refine ⟨hn, a, ?_⟩
  cases hbinary : f.isBinary with
  | true =>
      -- without hunks there are no blocks
      have hhunks := read_hunks_of_binary hread f hf hbinary
      rw [hhunks] at ha
      cases ha
      refine ⟨[], by rw [hhunks]; rfl, by rw [changesOf, hbinary]; rfl, ?_⟩
      exact List.forall_mem_nil _
  | false =>
      refine ⟨_, ha, changesOf_eq_ok hbinary ha, fun t ht hstrays => ?_⟩
      obtain ⟨c, hc, -, hspan⟩ := span_of_strayChange? rules f.path hstrays
      refine ⟨c, List.mem_mergeSort.2 ?_, hc, hspan⟩
      exact List.mem_append_right _ (List.mem_filterMap.2 ⟨t, ht, hc⟩)

/-- A diff with a line that is numbered from zero, and with a deletion that is cut short. -/
def zeroText : String :=
  "--- a/src/lib.rs\n+++ b/src/lib.rs\n@@ -0,0 +0,1 @@\n+// a\n@@ -3,2 +1,0 @@\n-// b\n"

/-- The file of `zeroText`. -/
def zeroFile : FileDiff :=
  { oldPath := some "src/lib.rs"
    newPath := some "src/lib.rs"
    hunks :=
      [{ oldStart := 0, oldCount := 0, newStart := 0, newCount := 1
         lines := [⟨.added, "// a", none, some 0⟩] },
       { oldStart := 3, oldCount := 2, newStart := 1, newCount := 0
         lines := [⟨.removed, "// b", some 3, none⟩] }] }

/-- A diff with a line that is numbered from zero. -/
theorem changesOf_read_of_zeroText :
    read zeroText = .ok [zeroFile] ∧ zeroFile ∈ [zeroFile] ∧
      zeroFile.IsNumbered ∧ ∃ a cs, attributed overlapping none zeroFile.hunks = .ok a ∧
        changesOf {} zeroFile overlapping none = .ok cs ∧
        ∀ t ∈ a.blocks, t.strays ≠ [] →
          ∃ c ∈ cs, t.strayChange? {} zeroFile.path = some c ∧
            c.unit.span.IsHullOf t.strays := by
  have hread : read zeroText = .ok [zeroFile] := by decide +kernel
  have hmem : zeroFile ∈ [zeroFile] := List.mem_singleton_self zeroFile
  exact ⟨hread, hmem, changesOf_read {} zeroText _ zeroFile overlapping none hread hmem⟩

end DiffGauge.Attribution
