import DiffGauge.Proofs.Attribution.Entries
import Mathlib.Data.List.Perm.Subperm

/-!
# What the kind of a change says

A unit is new if all its lines are, and nothing was removed from it; any other unit with a changed
line is modified. An old unit with a line of its own is removed. The region of a block is what its
stray lines are. So a new unit has no removed line, a removed one no added line, and every change
has some line.

* `allAmong_iff` reads the test on the span of a unit without its shortcut;
* `gives_unit`, `gives_oldUnit` and `gives_block` say what the change of each origin is;
* `changesOf_kinds` puts them together for a file.
-/

namespace DiffGauge.Diff

/-- Every line of a span is an added line of some hunk. -/
def FileDiff.AddsAll (f : FileDiff) (s : LineSpan) : Prop :=
  ∀ n : Nat, s.first ≤ n → n ≤ s.last →
    ∃ h ∈ f.hunks, ∃ l ∈ h.lines, l.kind = .added ∧ l.newNo = some (n : Int)

end DiffGauge.Diff

namespace DiffGauge.Attribution

open Diff

/-! ## Spans of added lines -/

/-- A span is among some lines if each of its lines is. That there are enough of them follows. -/
theorem allAmong_iff {lines : List Int} {s : LineSpan} :
    allAmong lines s = true ↔ ∀ n : Nat, s.first ≤ n → n ≤ s.last → (n : Int) ∈ lines := by
  have hlast : s.first + s.length = s.last + 1 := by
    have := s.first_le_last
    rw [LineSpan.length]
    omega
  have hall : ((List.range' s.first s.length).all fun n => lines.contains (n : Int)) = true ↔
      ∀ n : Nat, s.first ≤ n → n ≤ s.last → (n : Int) ∈ lines := by
    rw [List.all_eq_true]
    constructor
    · intro h n hfirst hle
      have hn : n ∈ List.range' s.first s.length := List.mem_range'_1.2 ⟨hfirst, by omega⟩
      exact List.contains_iff_mem.1 (h n hn)
    · intro h n hn
      obtain ⟨hfirst, hlt⟩ := List.mem_range'_1.1 hn
      exact List.contains_iff_mem.2 (h n hfirst (by omega))
  rw [allAmong, Bool.and_eq_true, hall, and_iff_right_iff_imp]
  -- the lines of the span are different ones, so there are at least as many lines as that
  intro h
  have hnodup : ((List.range' s.first s.length).map fun n : Nat => (n : Int)).Nodup :=
    List.Nodup.map (fun _ _ hcast => Int.ofNat.inj hcast) List.nodup_range'
  have hsub : ((List.range' s.first s.length).map fun n : Nat => (n : Int)) ⊆ lines := by
    intro m hm
    obtain ⟨n, hn, rfl⟩ := List.mem_map.1 hm
    obtain ⟨hfirst, hlt⟩ := List.mem_range'_1.1 hn
    exact h n hfirst (by omega)
  have hlen := (hnodup.subperm hsub).length_le
  rw [List.length_map, List.length_range'] at hlen
  exact decide_eq_true hlen

/-- A number is one of the added numbers if an added line has it. -/
theorem mem_addedNumbers {lines : List HunkLine} {n : Int} :
    n ∈ addedNumbers lines ↔ ∃ l ∈ lines, l.kind = .added ∧ l.newNo = some n := by
  rw [addedNumbers, List.mem_filterMap]
  constructor
  · rintro ⟨l, hl, hn⟩
    obtain ⟨hmem, hkind⟩ := List.mem_filter.1 hl
    have hkind : l.kind = .added := eq_of_beq hkind
    rw [HunkLine.number?, hkind] at hn
    exact ⟨l, hmem, hkind, hn⟩
  · rintro ⟨l, hl, hkind, hn⟩
    refine ⟨l, List.mem_filter.2 ⟨hl, by rw [hkind]; rfl⟩, ?_⟩
    rw [HunkLine.number?, hkind]
    exact hn

/-- The lines after attribution that are new are the added lines of the file. -/
theorem allAmong_addedLines {f : FileDiff} {a : Attributed}
    (ha : a.addedLines = f.hunks.flatMap (addedNumbers ·.lines)) (s : LineSpan) :
    allAmong a.addedLines s = true ↔ f.AddsAll s := by
  rw [allAmong_iff, ha]
  simp only [List.mem_flatMap, mem_addedNumbers]
  rfl

/-! ## The change of an origin -/

variable {a : Attributed} {rules : Rules} {file : String} {units : List CodeUnit}
  {olds : Option (List CodeUnit)} {c : Change}

/-- The change of a unit has the lines that went to it. -/
theorem gives_unit {i : Nat} (h : a.Gives rules file units olds c (.unit i)) :
    units[i]? = some c.unit ∧ c.file = file ∧
      c.added = a.addedTo (.unit i) ∧ c.removed = a.removedFrom (.unit i) ∧
      ¬(a.addedTo (.unit i) = 0 ∧ a.removedFrom (.unit i) = 0) ∧
      (c.kind = .added ↔
        a.removedFrom (.unit i) = 0 ∧ allAmong a.addedLines c.unit.span = true) ∧
      (c.kind = .added ∨ c.kind = .modified) := by
  obtain ⟨u, hu, hc⟩ := h
  simp only [Attributed.unitChange?] at hc
  by_cases hnone : a.addedTo (.unit i) = 0 ∧ a.removedFrom (.unit i) = 0
  · rw [if_pos hnone] at hc
    cases hc
  · rw [if_neg hnone] at hc
    cases hc
    refine ⟨hu, rfl, rfl, rfl, hnone, ?_⟩
    by_cases hnew : a.removedFrom (.unit i) = 0 ∧ allAmong a.addedLines u.span = true
    · simp [hnew]
    · simp [hnew]

/-- The change of an old unit is its removal, with the lines that went to it. -/
theorem gives_oldUnit {o : Nat} (h : a.Gives rules file units olds c (.oldUnit o)) :
    (olds.getD [])[o]? = some c.unit ∧ c.file = file ∧
      c.added = 0 ∧ c.removed = a.removedFrom (.oldUnit o) ∧
      a.removedFrom (.oldUnit o) ≠ 0 ∧ c.kind = .removed := by
  obtain ⟨u, hu, hc⟩ := h
  simp only [Attributed.oldUnitChange?] at hc
  by_cases hnone : a.removedFrom (.oldUnit o) = 0
  · rw [if_pos hnone] at hc
    cases hc
  · rw [if_neg hnone] at hc
    cases hc
    exact ⟨hu, rfl, rfl, rfl, hnone, rfl⟩

/-- The change of a block is a region without a name, with the stray lines. -/
theorem gives_block {k : Nat} (h : a.Gives rules file units olds c (.block k)) :
    ∃ t, a.blocks[k]? = some t ∧ c.unit.isIdentified = false ∧ c.file = file ∧
      c.added = (t.added.filterMap Target.stray?).length ∧
      c.removed = (t.removed.filterMap Target.stray?).length ∧ 0 < c.added + c.removed ∧
      (c.kind = .added → c.removed = 0) ∧ (c.kind = .removed → c.added = 0) := by
  obtain ⟨t, ht, hc⟩ := h
  refine ⟨t, ht, ?_⟩
  simp only [Targets.strayChange?] at hc
  split at hc
  · cases hc
  · next n ns hadded =>
      cases hc
      rw [hadded]
      refine ⟨rfl, rfl, rfl, rfl, ?_, ?_, ?_⟩
      · dsimp only
        omega
      -- a region with added lines is new unless it has removed ones as well
      · intro hkind
        by_cases hempty : (t.removed.filterMap Target.stray?).isEmpty = true
        · simp [List.isEmpty_iff.1 hempty]
        · simp [hempty] at hkind
      · intro hkind
        dsimp only at hkind
        split at hkind
        · cases hkind
        · cases hkind
  · next n ns hadded hremoved =>
      cases hc
      rw [hadded, hremoved]
      refine ⟨rfl, rfl, rfl, rfl, ?_, ?_, fun _ => rfl⟩
      · dsimp only
        omega
      · intro hkind
        cases hkind

/-! ## Kinds -/

/-- What the change of an origin is. That of a unit has the lines that went to the unit, and says
    that it is new if nothing was removed from it and all its lines are added ones, and modified
    otherwise. That of an old unit is its removal. That of a block is a region without a name. -/
def FitsOrigin (f : FileDiff) (a : Attributed) (units olds : List CodeUnit) (c : Change) :
    Origin → Prop
  | .unit i =>
    units[i]? = some c.unit ∧ c.added = a.addedTo (.unit i) ∧
      c.removed = a.removedFrom (.unit i) ∧
      (c.kind = .added ↔ a.removedFrom (.unit i) = 0 ∧ f.AddsAll c.unit.span) ∧
      (c.kind = .added ∨ c.kind = .modified)
  | .oldUnit o =>
    olds[o]? = some c.unit ∧ c.removed = a.removedFrom (.oldUnit o) ∧ c.kind = .removed
  | .block k => k < a.blocks.length ∧ c.unit.isIdentified = false

/-- A change has some line, if it is new no removed one, and if it is a removal no added one. A new
    unit with a name has added lines only. -/
structure Coherent (f : FileDiff) (c : Change) : Prop where
  added_nonneg : 0 ≤ c.added
  removed_nonneg : 0 ≤ c.removed
  some_line : 0 < c.added + c.removed
  removed_of_added : c.kind = .added → c.removed = 0
  addsAll_of_added : c.kind = .added → c.unit.isIdentified = true → f.AddsAll c.unit.span
  added_of_removed : c.kind = .removed → c.added = 0

/-- A change that the attribution gives is coherent and fits its origin. -/
theorem coherent_of_gives {f : FileDiff}
    (ha : a.addedLines = f.hunks.flatMap (addedNumbers ·.lines)) {o : Origin}
    (h : a.Gives rules file units olds c o) :
    Coherent f c ∧ FitsOrigin f a units (olds.getD []) c o := by
  cases o with
  | unit i =>
      obtain ⟨hu, -, hadded, hremoved, hsome, hkind, hor⟩ := gives_unit h
      rw [allAmong_addedLines ha] at hkind
      refine ⟨⟨by omega, by omega, by omega, ?_, fun hk _ => (hkind.1 hk).2, ?_⟩,
        hu, hadded, hremoved, hkind, hor⟩
      · intro hk
        rw [hremoved, (hkind.1 hk).1]
        rfl
      · intro hk
        rw [hk] at hor
        rcases hor with hor | hor
        · cases hor
        · cases hor
  | oldUnit o =>
      obtain ⟨hu, -, hadded, hremoved, hsome, hkind⟩ := gives_oldUnit h
      have hnot : c.kind ≠ .added := by
        rw [hkind]
        decide
      exact ⟨⟨by omega, by omega, by omega, fun hk => absurd hk hnot,
        fun hk => absurd hk hnot, fun _ => hadded⟩, hu, hremoved, hkind⟩
  | block k =>
      obtain ⟨t, ht, hunit, -, hadded, hremoved, hsome, hnew, hgone⟩ := gives_block h
      refine ⟨⟨by omega, by omega, hsome, hnew, ?_, hgone⟩,
        (List.getElem?_eq_some_iff.1 ht).1, hunit⟩
      intro _ hid
      rw [hunit] at hid
      cases hid

/-- The changes of a file whose lines are numbered are sorted by the first line of their span and
    come from as many different units, old units and blocks. Each of them has some line, and its
    kind says what happened to the unit that it names. -/
theorem changesOf_kinds (rules : Rules) (f : FileDiff) (units : List CodeUnit)
    (olds : Option (List CodeUnit)) (hn : f.IsNumbered) :
    ∃ (a : Attributed) (es : List Entry), attributed units olds f.hunks = .ok a ∧
      changesOf rules f units olds = .ok (es.map (·.change)) ∧
      (es.map (·.origin)).Nodup ∧
      (es.map (·.change)).Pairwise (fun c d => c.unit.span.first ≤ d.unit.span.first) ∧
      ∀ e ∈ es, Coherent f e.change ∧ FitsOrigin f a units (olds.getD []) e.change e.origin := by
  obtain ⟨bs, ts, hadded, -, -, ha⟩ := attributed_eq_ok units olds hn
  cases hbinary : f.isBinary with
  | true =>
      refine ⟨_, [], ha, ?_, .nil, .nil, List.forall_mem_nil _⟩
      rw [changesOf, hbinary]
      rfl
  | false =>
      obtain ⟨es, hchanges, hnodup, hsorted, hes⟩ := exists_entries rules hbinary ha
      refine ⟨_, es, ha, hchanges, hnodup, hsorted, fun e he => ?_⟩
      exact coherent_of_gives hadded ((hes e).1 he)

/-- One line replaced by two, where units overlap. -/
theorem changesOf_kinds_of_replacement :
    replacement.IsNumbered ∧
      ∃ (a : Attributed) (es : List Entry),
        attributed overlapping (some overlapping) replacement.hunks = .ok a ∧
        changesOf {} replacement overlapping (some overlapping) = .ok (es.map (·.change)) ∧
        (es.map (·.origin)).Nodup ∧
        (es.map (·.change)).Pairwise (fun c d => c.unit.span.first ≤ d.unit.span.first) ∧
        ∀ e ∈ es, Coherent replacement e.change ∧
          FitsOrigin replacement a overlapping overlapping e.change e.origin :=
  ⟨by decide, changesOf_kinds {} replacement overlapping (some overlapping) (by decide)⟩

end DiffGauge.Attribution
