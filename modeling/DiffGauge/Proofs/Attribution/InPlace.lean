import DiffGauge.Proofs.Attribution.Credit

/-!
# Lines that are edited in place

A file is edited in place if every block adds as many lines as it removes, each of them with the
number of the removed line that it replaces. The units then stand where they stood before, so they
can serve as the old units as well, and it makes no difference whether they do.

The old unit of a removed line is the innermost unit at the line that replaces it, and its
counterpart is that unit again (`counterpart?_self`): a smaller namesake around the same line would
be further inside, and one of the same size, if spans are nested or apart, would be the same unit.
So the removed lines of a block go where its added lines go (`targets_of_isInPlace`).
-/

namespace DiffGauge

/-- One of the spans lies in the other, or they share no line. -/
def LineSpan.NestedOrApart (s t : LineSpan) : Prop :=
  s.containsSpan t = true ∨ t.containsSpan s = true ∨ s.overlaps t = false

instance (s t : LineSpan) : Decidable (s.NestedOrApart t) :=
  inferInstanceAs (Decidable (_ ∨ _ ∨ _))

/-- Two such spans of one length around one line are the same. -/
theorem LineSpan.NestedOrApart.eq_of_length {s t : LineSpan} {line : Int} (h : s.NestedOrApart t)
    (hs : s.contains line = true) (ht : t.contains line = true)
    (hlen : s.length = t.length) : s = t := by
  obtain ⟨sfirst, slast, _, hsle⟩ := s
  obtain ⟨tfirst, tlast, _, htle⟩ := t
  simp only [NestedOrApart, containsSpan, overlaps, contains, length, Bool.and_eq_true,
    Bool.and_eq_false_iff, decide_eq_true_eq, decide_eq_false_iff_not] at h hs ht hlen
  simp only [LineSpan.mk.injEq]
  omega

/-- What tells units apart. -/
def CodeUnit.identity (u : CodeUnit) : Option UnitKind × String × LineSpan :=
  (u.kind, u.name, u.span)

private theorem CodeUnit.isNamesake_iff {u v : CodeUnit} :
    u.isNamesake v = true ↔ u.kind = v.kind ∧ u.name = v.name := by
  rw [isNamesake, Bool.and_eq_true, beq_iff_eq, beq_iff_eq]

end DiffGauge

namespace DiffGauge.Attribution

open Diff

/-- Each removed line has the number of the added line that takes its place, and there are as many
    added lines as removed ones. -/
def Block.IsInPlace (b : Block) : Prop := b.removed.map (·.oldNo) = b.added.map some

instance (b : Block) : Decidable b.IsInPlace := inferInstanceAs (Decidable (_ = _))

end DiffGauge.Attribution

namespace DiffGauge.Diff

open Attribution

/-- All blocks of the file are edited in place. -/
def FileDiff.IsInPlace (f : FileDiff) : Prop :=
  ∀ b ∈ (f.hunks.flatMap blocks).filterMap Except.toOption, b.IsInPlace

instance (f : FileDiff) : Decidable f.IsInPlace :=
  inferInstanceAs (Decidable (∀ b ∈ _, _))

end DiffGauge.Diff

namespace DiffGauge.Attribution

open Diff

/-! ## A unit as its own counterpart -/

section Units

variable {units : List CodeUnit} (hdistinct : (units.map CodeUnit.identity).Nodup)
  (hnested : units.Pairwise fun u v => u.span.NestedOrApart v.span)

include hdistinct hnested

/-- Around one line there is one unit with a kind, a name and a length. -/
theorem eq_of_isNamesake {line : Int} {i j : Nat} {u v : CodeUnit} (hu : units[i]? = some u)
    (hv : units[j]? = some v) (hname : v.isNamesake u = true)
    (hucontains : u.span.contains line = true) (hvcontains : v.span.contains line = true)
    (hlen : u.span.length = v.span.length) : i = j := by
  obtain ⟨hi, rfl⟩ := List.getElem?_eq_some_iff.1 hu
  obtain ⟨hj, rfl⟩ := List.getElem?_eq_some_iff.1 hv
  have hspan : units[i].span = units[j].span := by
    rcases Nat.lt_trichotomy i j with hlt | rfl | hgt
    · exact (List.pairwise_iff_getElem.1 hnested i j hi hj hlt).eq_of_length hucontains
        hvcontains hlen
    · rfl
    · exact ((List.pairwise_iff_getElem.1 hnested j i hj hi hgt).eq_of_length hvcontains
        hucontains hlen.symm).symm
  obtain ⟨hkind, hn⟩ := CodeUnit.isNamesake_iff.1 hname
  have hidentity : units[i].identity = units[j].identity := by
    rw [CodeUnit.identity, CodeUnit.identity, hkind, hn, hspan]
  refine (List.getElem?_inj (by rwa [List.length_map]) hdistinct).1 ?_
  rw [List.getElem?_map, List.getElem?_map, hu, hv]
  exact congrArg some hidentity

/-- The innermost unit around a line is its own counterpart there. -/
theorem counterpart?_self {line : Int} {i : Nat} {u : CodeUnit} (h : IsInnermost units line i)
    (hu : units[i]? = some u) : counterpart? units u line = some i := by
  obtain ⟨u', hu', hcontains, hbest⟩ := h
  obtain rfl : u' = u := Option.some.inj (hu'.symm.trans hu)
  have hself : (u'.isNamesake u' && u'.span.contains line) = true := by
    rw [hcontains, Bool.and_true, CodeUnit.isNamesake_iff]
    exact ⟨rfl, rfl⟩
  have hfirst : first? (·.span.length) (fun v => v.isNamesake u' && v.span.contains line) units
      = some i := by
    cases hb : best? (fun v => v.isNamesake u' && v.span.contains line)
        (fun v w => v.span.length ≤ w.span.length) units with
    | none =>
        have := best?_eq_none_iff.1 hb u' (List.mem_of_getElem? hu)
        rw [hself] at this
        cases this
    | some jw =>
        obtain ⟨j, w⟩ := jw
        obtain ⟨hw, hpasses⟩ := best?_eq_some hb
        rw [Bool.and_eq_true] at hpasses
        have hle := (hbest j w hw hpasses.2).1
        have hspec := best?_spec (by simp only [decide_eq_true_eq]; omega)
          (by simp only [decide_eq_true_eq, decide_eq_false_iff_not]; omega) hb i u' hu hself
        simp only [decide_eq_true_eq, decide_eq_false_iff_not] at hspec
        -- `w` is as small as `u'`, and so the same unit
        have hij : i = j := by
          rcases Nat.lt_trichotomy i j with hlt | rfl | hgt
          · have := hspec.1 hlt
            omega
          · rfl
          · have := hspec.2 hgt
            exact eq_of_isNamesake hdistinct hnested hu hw hpasses.1 hcontains hpasses.2
              (by omega)
        rw [first?, hb, hij]
        rfl
  rw [counterpart?, hfirst]

/-! ## Targets -/

/-- With the units as old units, a removed line goes where the added line in its place goes. -/
theorem removedTarget_self (line : Int) :
    removedTarget units units line line = addedTarget units line := by
  rw [removedTarget, addedTarget]
  cases hi : innermost? units line with
  | none => rfl
  | some i =>
      have hinner := innermost?_eq_some_iff.1 hi
      obtain ⟨u, hu, -⟩ := id hinner
      have hbind : ((units[i]?).bind fun old => counterpart? units old line) = some i := by
        rw [hu, Option.bind_some, counterpart?_self hdistinct hnested hinner hu]
      simp only [hbind]

/-- In a block that is edited in place, a removed line goes where the added line in its place goes,
    whether the units serve as the old ones or not. -/
theorem blockTarget_of_isInPlace {b : Block} {i : Nat} {l : HunkLine} {n : Int}
    (hkind : l.kind = .removed) (hold : l.oldNo = some n) (hadded : b.added[i]? = some n)
    {olds : Option (List CodeUnit)} (holds : ∀ us ∈ olds, us = units) :
    b.removedTarget units olds i l = .ok (addedTarget units n) := by
  have hnumber : l.number = .ok n := by
    rw [HunkLine.number, HunkLine.number?, hkind]
    simp only [hold]
  have hposition : b.position i = n := by
    rw [Block.position, hadded]
  cases olds with
  | some us =>
      obtain rfl : us = units := holds us rfl
      rw [Block.removedTarget, hnumber, hposition]
      exact congrArg Except.ok (removedTarget_self hdistinct hnested n)
  | none =>
      have hne : b.added.isEmpty = false := by
        rw [List.isEmpty_eq_false_iff_exists_mem]
        exact ⟨n, List.mem_of_getElem? hadded⟩
      have hholder : b.holder? units i = innermost? units n := by
        rw [Block.holder?, hne, hposition]
        rfl
      rw [Block.removedTarget, hholder, hnumber, addedTarget]
      cases innermost? units n with
      | none => rfl
      | some u => rfl

/-- The removed lines of a block that is edited in place go where its added lines go. -/
theorem targets_of_isInPlace {b : Block} (hkind : ∀ l ∈ b.removed, l.kind = .removed)
    (hplace : b.IsInPlace) {olds : Option (List CodeUnit)} (holds : ∀ us ∈ olds, us = units) :
    b.targets units olds
      = .ok ⟨b.added.map (addedTarget units), b.added.map (addedTarget units)⟩ := by
  have hlen : b.removed.length = b.added.length := by
    simpa using congrArg List.length hplace
  refine targets_eq_ok_of_getElem (by rw [List.length_map, hlen]) fun i hi => ?_
  have hold : b.removed[i].oldNo = some b.added[i] := by
    have := List.getElem_of_eq hplace (i := i) (by simpa using hi)
    simpa using this
  rw [List.get_eq_getElem, List.getElem_map]
  exact blockTarget_of_isInPlace hdistinct hnested (hkind _ (List.getElem_mem hi)) hold
    (List.getElem?_eq_getElem (hlen ▸ hi)) holds

end Units

/-! ## Files -/

section File

variable {f : FileDiff} {units : List CodeUnit} (hplace : f.IsInPlace)
  (hdistinct : (units.map CodeUnit.identity).Nodup)
  (hnested : units.Pairwise fun u v => u.span.NestedOrApart v.span)

include hplace hdistinct hnested

/-- The blocks of a file that is edited in place send their removed lines where they send their
    added lines. -/
theorem targets_of_mem_blocks {b : Block} (hb : .ok b ∈ f.hunks.flatMap blocks)
    (olds : Option (List CodeUnit)) (holds : ∀ us ∈ olds, us = units) :
    b.targets units olds
      = .ok ⟨b.added.map (addedTarget units), b.added.map (addedTarget units)⟩ := by
  obtain ⟨h, -, hmem⟩ := List.mem_flatMap.1 hb
  exact targets_of_isInPlace hdistinct hnested (kind_of_mem_block hmem)
    (hplace b (List.mem_filterMap.2 ⟨_, hb, rfl⟩)) holds

/-- The lines of the file go to the same targets with the units as old units and without any. -/
theorem attributed_self :
    attributed units (some units) f.hunks = attributed units none f.hunks := by
  unfold attributed
  rw [mapM_congr]
  intro item hitem
  cases item with
  | error e => rfl
  | ok b =>
      have hself : ∀ us ∈ some units, us = units := fun us hus => (Option.some.inj hus).symm
      have hsome := targets_of_mem_blocks hplace hdistinct hnested hitem (some units) hself
      have hnone := targets_of_mem_blocks hplace hdistinct hnested hitem none nofun
      show (b.targets units (some units)).map (b.added, ·)
        = (b.targets units none).map (b.added, ·)
      rw [hsome, hnone]

/-- After attribution, every target has as many removed lines as added ones. -/
theorem removedFrom_eq_addedTo {a : Attributed} (ha : attributed units none f.hunks = .ok a) :
    (∀ t ∈ a.blocks, t.removed = t.added) ∧
      ∀ target, a.removedFrom target = a.addedTo target := by
  obtain ⟨bs, hbs, htargets⟩ := blocks_of_attributed ha
  have htwins : ∀ t ∈ a.blocks, t.removed = t.added := by
    intro t ht
    obtain ⟨b, hb, hbt⟩ := exists_of_mem_forall₂ htargets ht
    have hmem : .ok b ∈ f.hunks.flatMap blocks := hbs ▸ List.mem_map_of_mem hb
    have hnone := targets_of_mem_blocks hplace hdistinct hnested hmem none nofun
    cases hnone.symm.trans hbt
    rfl
  refine ⟨htwins, fun target => ?_⟩
  rw [Attributed.removedFrom, Attributed.addedTo]
  exact congrArg totalCount
    (List.map_congr_left fun t ht => congrArg (List.count target) (htwins t ht))

/-- No line goes to an old unit, so the changes with old units are those without. -/
theorem changes_self {a : Attributed} (ha : attributed units none f.hunks = .ok a) (rules : Rules)
    (file : String) :
    a.changes rules file units (some units) = a.changes rules file units none := by
  obtain ⟨bs, -, htargets⟩ := blocks_of_attributed ha
  have hnone (u : CodeUnit) (o : Nat) : a.oldUnitChange? file u o = none := by
    rw [Attributed.oldUnitChange?, (removedFrom_eq_addedTo hplace hdistinct hnested ha).2,
      addedTo_eq_count]
    refine if_pos (List.count_eq_zero.2 fun hmem => ?_)
    exact absurd ((added_targets htargets).2 _ hmem) (Nat.not_lt_zero o)
  rw [Attributed.changes, Attributed.changes]
  simp only [hnone, List.filterMap_none]

end File

/-- A change that counts as many removed lines as added ones is a modification. -/
theorem modified_of_gives {a : Attributed} (htwins : ∀ t ∈ a.blocks, t.removed = t.added)
    (hcounts : ∀ target, a.removedFrom target = a.addedTo target) {rules : Rules} {file : String}
    {units : List CodeUnit} {c : Change} {o : Origin}
    (h : a.Gives rules file units none c o) : c.kind = .modified ∧ c.added = c.removed := by
  cases o with
  | unit i =>
      obtain ⟨-, -, hadded, hremoved, hsome, hkind, hor⟩ := gives_unit h
      have hsame := hcounts (.unit i)
      refine ⟨hor.resolve_left fun hnew => ?_, by omega⟩
      have := (hkind.1 hnew).1
      omega
  | oldUnit o =>
      obtain ⟨u, hu, -⟩ := h
      cases hu
  | block k =>
      obtain ⟨t, ht, -, -, hadded, hremoved, hsome, hnew, hgone⟩ := gives_block h
      rw [htwins t (List.mem_of_getElem? ht)] at hremoved
      refine ⟨?_, by omega⟩
      cases hkind : c.kind with
      | modified => rfl
      | added =>
          have := hnew hkind
          omega
      | removed =>
          have := hgone hkind
          omega

/-- A file that is edited in place, with units that are nested or apart and no two of one identity,
    has the same changes with its units as old units and without old units: there are changes if its
    lines are numbered, and all of them are modifications with as many removed lines as added
    ones. -/
theorem changesOf_of_isInPlace (rules : Rules) (f : FileDiff) (units : List CodeUnit)
    (hplace : f.IsInPlace) (hdistinct : (units.map CodeUnit.identity).Nodup)
    (hnested : units.Pairwise fun u v => u.span.NestedOrApart v.span) :
    changesOf rules f units (some units) = changesOf rules f units none ∧
      (f.IsNumbered → ∃ cs, changesOf rules f units none = .ok cs) ∧
      ∀ cs, changesOf rules f units none = .ok cs →
        ∀ c ∈ cs, c.kind = .modified ∧ c.added = c.removed := by
  refine ⟨?_, fun hn => ?_, fun cs hcs => ?_⟩
  · rw [changesOf, changesOf, attributed_self hplace hdistinct hnested]
    cases ha : attributed units none f.hunks with
    | error e => rfl
    | ok a =>
        have hsame := changes_self hplace hdistinct hnested ha rules f.path
        show (if f.isBinary then _ else Except.ok _) = if f.isBinary then _ else Except.ok _
        rw [hsame]
  · obtain ⟨a, es, -, hchanges, -⟩ := changesOf_kinds rules f units none hn
    exact ⟨_, hchanges⟩
  · cases hbinary : f.isBinary with
    | true =>
        rw [changesOf, hbinary] at hcs
        cases hcs
        exact List.forall_mem_nil _
    | false =>
        cases ha : attributed units none f.hunks with
        | error e =>
            rw [changesOf, hbinary, ha] at hcs
            cases hcs
        | ok a =>
            obtain ⟨htwins, hcounts⟩ := removedFrom_eq_addedTo hplace hdistinct hnested ha
            obtain ⟨es, hchanges, -, -, hes⟩ := exists_entries rules hbinary ha
            cases hchanges.symm.trans hcs
            intro c hc
            obtain ⟨e, he, rfl⟩ := List.mem_map.1 hc
            exact modified_of_gives htwins hcounts ((hes e).1 he)

/-- One line inside a function is rewritten, and two lines behind it. -/
def rewritten : FileDiff :=
  { oldPath := some "src/lib.rs"
    newPath := some "src/lib.rs"
    hunks :=
      [{ oldStart := 4
         oldCount := 5
         newStart := 4
         newCount := 5
         lines :=
           [⟨.context, "impl B \x7b", some 4, some 4⟩,
            ⟨.removed, "    fn new() {}", some 5, none⟩,
            ⟨.added, "    fn new() \x7b b() \x7d", none, some 5⟩,
            ⟨.context, "\x7d", some 6, some 6⟩, ⟨.removed, "// a", some 7, none⟩,
            ⟨.removed, "// b", some 8, none⟩, ⟨.added, "// c", none, some 7⟩,
            ⟨.added, "// d", none, some 8⟩] }] }

/-- Two blocks, each with a function of the same name on its only inner line. -/
def twoBlocks : List CodeUnit :=
  [{ functionAt "A" 1 3 with kind := some .implementationBlock }, functionAt "new" 2 2,
   { functionAt "B" 4 6 with kind := some .implementationBlock }, functionAt "new" 5 5]

/-- A file in which a line inside a function is rewritten, and two lines behind it. -/
theorem changesOf_of_isInPlace_of_rewritten :
    rewritten.IsInPlace ∧ (twoBlocks.map CodeUnit.identity).Nodup ∧
      (twoBlocks.Pairwise fun u v => u.span.NestedOrApart v.span) ∧ rewritten.IsNumbered ∧
      ∃ cs, changesOf {} rewritten twoBlocks (some twoBlocks) = .ok cs ∧
        changesOf {} rewritten twoBlocks none = .ok cs ∧
        ∀ c ∈ cs, c.kind = .modified ∧ c.added = c.removed := by
  have hplace : rewritten.IsInPlace := by decide +kernel
  have hdistinct : (twoBlocks.map CodeUnit.identity).Nodup := by decide
  have hnested : twoBlocks.Pairwise fun u v => u.span.NestedOrApart v.span := by decide
  have hn : rewritten.IsNumbered := by decide
  obtain ⟨hsame, hsome, hall⟩ :=
    changesOf_of_isInPlace {} rewritten twoBlocks hplace hdistinct hnested
  obtain ⟨cs, hcs⟩ := hsome hn
  exact ⟨hplace, hdistinct, hnested, hn, cs, hsame.trans hcs, hcs, hall cs hcs⟩

end DiffGauge.Attribution
