import DiffGauge.Proofs.Attribution.Innermost
import DiffGauge.Proofs.Attribution.Kinds
import DiffGauge.Proofs.Attribution.Removals

/-!
# Where removed lines are counted

With the old units at hand, a removed line belongs to the innermost old unit around it. If that
unit is gone, the line is counted in its removal; if it lives on, in the change of a unit that it
has become; and a line outside all old units is counted in the region of its block.

* `credit` is the origin of the change that a removal is counted in; `credit_outside`,
  `credit_gone` and `credit_kept` say which one that is;
* `removed_eq_countP` says that every change counts the removals that go to its origin, and
  `exists_gives_credit` that there is such a change;
* `ReportsRemovals` is what the changes of a file say of its removals.
-/

namespace DiffGauge.Attribution

open Diff

variable {units olds : List CodeUnit}

/-! ## The target of a removal -/

/-- The origin of the change that a target is counted in, for a line of the block `k`. -/
def Target.origin (k : Nat) : Target → Origin
  | .unit i => .unit i
  | .oldUnit o => .oldUnit o
  | .stray _ => .block k

/-- The target of a removal when the old units are known. -/
def Removal.target (units olds : List CodeUnit) (r : Removal) : Target :=
  removedTarget units olds r.position r.line

/-- The origin of the change that a removal is counted in when the old units are known. -/
def credit (units olds : List CodeUnit) (r : Removal) : Origin :=
  (r.target units olds).origin r.block

/-- The removed lines of a block have the targets of its removals. -/
theorem targets_removed {b : Block} {t : Targets} (k : Nat)
    (hkind : ∀ l ∈ b.removed, l.kind = .removed) (h : b.targets units (some olds) = .ok t) :
    t.removed = (b.removals k).map (·.target units olds) := by
  have hall := (targets_eq_ok_iff.1 h).2
  have hkinds : ∀ x ∈ b.removed.zipIdx, x.1.kind = .removed :=
    fun x hx => hkind x.1 (List.fst_mem_of_mem_zipIdx hx)
  rw [Block.removals]
  generalize b.removed.zipIdx = xs at hall hkinds
  generalize t.removed = ts at hall
  induction hall with
  | nil => rfl
  | @cons x target xs ts hx _ ih =>
      obtain ⟨hl, hls⟩ := List.forall_mem_cons.1 hkinds
      obtain ⟨n, hn, rfl⟩ := map_eq_ok hx
      have hold : x.1.oldNo = some n := by
        rw [HunkLine.number, HunkLine.number?, hl] at hn
        cases ho : x.1.oldNo with
        | none =>
            rw [ho] at hn
            cases hn
        | some m =>
            rw [ho] at hn
            cases hn
            rfl
      rw [List.filterMap_cons_some (by rw [hold]; rfl), List.map_cons, ih hls]
      rfl

/-- The same of all blocks. -/
theorem flatMap_targets_removed {bs : List Block} {ts : List Targets} (k : Nat)
    (hkind : ∀ l ∈ bs.flatMap (·.removed), l.kind = .removed)
    (h : List.Forall₂ (fun b t => b.targets units (some olds) = .ok t) bs ts) :
    ts.flatMap (·.removed) = (removalsFrom k bs).map (·.target units olds) := by
  induction h generalizing k with
  | nil => rfl
  | @cons b t bs ts hb _ ih =>
      rw [List.flatMap_cons] at hkind
      obtain ⟨hl, hls⟩ := List.forall_mem_append.1 hkind
      rw [List.flatMap_cons, removalsFrom, List.map_append, targets_removed k hl hb,
        ih (k + 1) hls]

/-! ## Where a removal is counted -/

variable {r : Removal}

private theorem origin_eq_unit_iff {t : Target} {k i : Nat} :
    t.origin k = .unit i ↔ t = .unit i := by
  cases t with
  | unit j => simp [Target.origin]
  | oldUnit o => simp [Target.origin]
  | stray line => simp [Target.origin]

private theorem origin_eq_oldUnit_iff {t : Target} {k o : Nat} :
    t.origin k = .oldUnit o ↔ t = .oldUnit o := by
  cases t with
  | unit j => simp [Target.origin]
  | oldUnit o => simp [Target.origin]
  | stray line => simp [Target.origin]

private theorem origin_eq_block_iff {t : Target} {j k : Nat} :
    t.origin j = .block k ↔ t.stray?.isSome = true ∧ j = k := by
  cases t with
  | unit j => simp [Target.origin, Target.stray?]
  | oldUnit o => simp [Target.origin, Target.stray?]
  | stray line => simp [Target.origin, Target.stray?]

/-- A removal outside all old units is counted in the region of its block. -/
theorem credit_outside (h : ∀ old ∈ olds, old.span.contains r.line = false) :
    credit units olds r = .block r.block := by
  rw [credit, Removal.target, removedTarget, innermost?_eq_none_iff.2 h]
  rfl

variable {o : Nat} {old : CodeUnit}

/-- The target of a removal inside an old unit. -/
theorem target_inside (hr : IsInnermost olds r.line o) (ho : olds[o]? = some old) :
    r.target units olds = (counterpart? units old r.position).elim (.oldUnit o) .unit := by
  rw [Removal.target, removedTarget, innermost?_eq_some_iff.2 hr]
  simp only [ho, Option.bind_some]
  cases counterpart? units old r.position with
  | none => rfl
  | some i => rfl

/-- A removal inside an old unit that is gone is counted in the removal of that unit. -/
theorem credit_gone (hr : IsInnermost olds r.line o) (ho : olds[o]? = some old)
    (hgone : IsGone units old) : credit units olds r = .oldUnit o := by
  rw [credit, target_inside hr ho, counterpart?_eq_none_iff.2 hgone]
  rfl

/-- A removal inside an old unit that lives on is counted in the change of a namesake, and of one at
    the position of the removal if there is one. -/
theorem credit_kept (hr : IsInnermost olds r.line o) (ho : olds[o]? = some old)
    (hkept : ¬IsGone units old) :
    ∃ i u, credit units olds r = .unit i ∧ units[i]? = some u ∧ u.isNamesake old = true ∧
      ((∃ v ∈ units, v.isNamesake old = true ∧ v.span.contains r.position = true) →
        u.span.contains r.position = true) := by
  cases hc : counterpart? units old r.position with
  | none => exact absurd (counterpart?_eq_none_iff.1 hc) hkept
  | some i =>
      obtain ⟨u, hu, hname, hat⟩ := counterpart?_eq_some hc
      refine ⟨i, u, ?_, hu, hname, hat⟩
      rw [credit, target_inside hr ho, hc]
      rfl

/-- Counted in the removal of an old unit are the removals inside it, if it is gone. -/
theorem credit_eq_oldUnit_iff :
    credit units olds r = .oldUnit o ↔
      IsInnermost olds r.line o ∧ ∃ old, olds[o]? = some old ∧ IsGone units old := by
  constructor
  · intro h
    cases hi : innermost? olds r.line with
    | none =>
        rw [credit_outside (innermost?_eq_none_iff.1 hi)] at h
        cases h
    | some j =>
        have hj := innermost?_eq_some_iff.1 hi
        obtain ⟨old, hold, -⟩ := id hj
        by_cases hgone : IsGone units old
        · rw [credit_gone hj hold hgone] at h
          cases h
          exact ⟨hj, old, hold, hgone⟩
        · obtain ⟨i, u, hi, -⟩ := credit_kept hj hold hgone
          rw [hi] at h
          cases h
  · rintro ⟨hr, old, hold, hgone⟩
    exact credit_gone hr hold hgone

/-! ## Counting removals -/

variable {a : Attributed} {bs : List Block} {rules : Rules} {file : String} {c : Change}

section Counted

variable (hkind : ∀ l ∈ bs.flatMap (·.removed), l.kind = .removed)
  (htargets : List.Forall₂ (fun b t => b.targets units (some olds) = .ok t) bs a.blocks)

include hkind htargets

/-- The removed lines with a target are the removals with it. -/
theorem removedFrom_eq_countP (t : Target) :
    a.removedFrom t = (removalsFrom 0 bs).countP fun r => r.target units olds == t := by
  rw [removedFrom_eq_count, flatMap_targets_removed 0 hkind htargets, List.count,
    List.countP_map]
  rfl

/-- The stray removed lines of a block are its removals that are counted in its region. -/
theorem strays_eq_countP {k : Nat} {t : Targets} (ht : a.blocks[k]? = some t) :
    (t.removed.filterMap Target.stray?).length
      = (removalsFrom 0 bs).countP fun r => decide (credit units olds r = .block k) := by
  obtain ⟨b, hb, hbt⟩ := exists_getElem?_of_forall₂ htargets ht
  have hbkind : ∀ l ∈ b.removed, l.kind = .removed :=
    fun l hl => hkind l (List.mem_flatMap.2 ⟨b, List.mem_of_getElem? hb, hl⟩)
  have hown : (removalsFrom 0 bs).filter (fun r => r.block == k) = b.removals k := by
    have := filter_removalsFrom (k := 0) hb
    rwa [Nat.zero_add] at this
  rw [targets_removed k hbkind hbt, List.length_filterMap_eq_countP, List.countP_map, ← hown,
    List.countP_filter]
  apply List.countP_congr
  intro r _
  simp only [Function.comp_apply, Bool.and_eq_true, beq_iff_eq, decide_eq_true_eq, credit,
    origin_eq_block_iff]

/-- Every change counts the removals that go to its origin. -/
theorem removed_eq_countP {origin : Origin}
    (h : a.Gives rules file units (some olds) c origin) :
    c.removed = ((removalsFrom 0 bs).countP fun r =>
      decide (credit units olds r = origin) : Nat) := by
  cases origin with
  | unit i =>
      obtain ⟨-, -, -, hremoved, -⟩ := gives_unit h
      rw [hremoved, removedFrom_eq_countP hkind htargets]
      congr 2
      funext r
      rw [Bool.eq_iff_iff, beq_iff_eq, decide_eq_true_eq, credit, origin_eq_unit_iff]
  | oldUnit o =>
      obtain ⟨-, -, -, hremoved, -⟩ := gives_oldUnit h
      rw [hremoved, removedFrom_eq_countP hkind htargets]
      congr 2
      funext r
      rw [Bool.eq_iff_iff, beq_iff_eq, decide_eq_true_eq, credit, origin_eq_oldUnit_iff]
  | block k =>
      obtain ⟨t, ht, -, -, -, hremoved, -⟩ := gives_block h
      rw [hremoved, strays_eq_countP hkind htargets ht]

/-- Every removal is counted in a change. -/
theorem exists_gives_credit (rules : Rules) (file : String) (hr : r ∈ removalsFrom 0 bs) :
    ∃ c, a.Gives rules file units (some olds) c (credit units olds r) := by
  have hpos : a.removedFrom (r.target units olds) ≠ 0 := by
    rw [removedFrom_eq_countP hkind htargets]
    exact Nat.ne_of_gt (List.countP_pos_iff.2 ⟨r, hr, beq_self_eq_true _⟩)
  have hrange := removedTarget_inRange units olds r.position r.line
  rw [credit]
  rw [← Removal.target] at hrange
  cases ht : r.target units olds with
  | unit i =>
      rw [ht] at hpos hrange
      exact exists_gives_unit hrange hpos
  | oldUnit o =>
      rw [ht] at hpos hrange
      exact exists_gives_oldUnit hrange hpos
  | stray line =>
      have hlt : r.block < a.blocks.length := by
        rw [← htargets.length_eq]
        have := (block_of_mem_removalsFrom hr).2
        omega
      refine exists_gives_block (List.getElem?_eq_getElem hlt) ?_
      rw [strays_eq_countP hkind htargets (List.getElem?_eq_getElem hlt)]
      refine Nat.ne_of_gt (List.countP_pos_iff.2 ⟨r, hr, ?_⟩)
      rw [credit, ht]
      exact decide_eq_true rfl

end Counted

/-! ## Reports of removals -/

/-- What the changes of a file say of its removals. Every change counts those that go to its origin.
    The removals of old units are those of the gone ones with a removal inside, each with the number
    of these; any other change of that kind is a region. A removal in an old unit that lives on is
    counted in a modified namesake, at its position if there is one there, and a removal outside all
    old units in the region of its block. -/
structure ReportsRemovals (file : String) (units olds : List CodeUnit) (rs : List Removal)
    (es : List Entry) : Prop where
  counted : ∀ e ∈ es, e.change.removed
    = (rs.countP fun r => decide (credit units olds r = e.origin) : Nat)
  gone : ∀ o c, ⟨.oldUnit o, c⟩ ∈ es ↔
    ∃ old, olds[o]? = some old ∧ IsGone units old ∧ (∃ r ∈ rs, IsInnermost olds r.line o) ∧
      c = { file, unit := old, kind := .removed, added := 0
            removed := (rs.countP fun r => decide (IsInnermost olds r.line o) : Nat) }
  removal : ∀ e ∈ es, e.change.kind = .removed →
    (∃ o, e.origin = .oldUnit o) ∨
      ∃ k, e.origin = .block k ∧ e.change.unit.isIdentified = false
  kept : ∀ r ∈ rs, ∀ o old, IsInnermost olds r.line o → olds[o]? = some old →
    ¬IsGone units old →
      ∃ i c, credit units olds r = .unit i ∧ ⟨.unit i, c⟩ ∈ es ∧ units[i]? = some c.unit ∧
        c.unit.isNamesake old = true ∧
        ((∃ v ∈ units, v.isNamesake old = true ∧ v.span.contains r.position = true) →
          c.unit.span.contains r.position = true) ∧
        c.kind = .modified
  outside : ∀ r ∈ rs, (∀ old ∈ olds, old.span.contains r.line = false) →
    credit units olds r = .block r.block ∧
      ∃ c, ⟨.block r.block, c⟩ ∈ es ∧ c.unit.isIdentified = false

/-- Where nothing is removed there is nothing to report. -/
theorem reportsRemovals_nil : ReportsRemovals file units olds [] [] := by
  constructor
  · exact List.forall_mem_nil _
  · intro o c
    simp
  · exact List.forall_mem_nil _
  · exact List.forall_mem_nil _
  · exact List.forall_mem_nil _

section Reports

variable (hkind : ∀ l ∈ bs.flatMap (·.removed), l.kind = .removed)
  (htargets : List.Forall₂ (fun b t => b.targets units (some olds) = .ok t) bs a.blocks)

include hkind htargets

/-- The change of an old unit is the removal of a gone unit, with the removals inside it. -/
theorem eq_removal_of_gives {o : Nat} (h : a.Gives rules file units (some olds) c (.oldUnit o)) :
    ∃ old, olds[o]? = some old ∧ IsGone units old ∧
      (∃ r ∈ removalsFrom 0 bs, IsInnermost olds r.line o) ∧
      c = { file, unit := old, kind := .removed, added := 0
            removed := ((removalsFrom 0 bs).countP fun r =>
              decide (IsInnermost olds r.line o) : Nat) } := by
  have hcount := removed_eq_countP hkind htargets h
  obtain ⟨hold, hfile, hadded, hremoved, hsome, hkindc⟩ := gives_oldUnit h
  have hpos : 0 < (removalsFrom 0 bs).countP fun r =>
      decide (credit units olds r = .oldUnit o) := by omega
  obtain ⟨r, hr, hcredit⟩ := List.countP_pos_iff.1 hpos
  obtain ⟨hinside, old, ho, hgone⟩ := credit_eq_oldUnit_iff.1 (of_decide_eq_true hcredit)
  refine ⟨old, ho, hgone, ⟨r, hr, hinside⟩, ?_⟩
  -- as the unit is gone, all removals inside it are counted here
  have hall : ((removalsFrom 0 bs).countP fun r => decide (credit units olds r = .oldUnit o))
      = (removalsFrom 0 bs).countP fun r => decide (IsInnermost olds r.line o) := by
    apply List.countP_congr
    intro r _
    rw [decide_eq_true_eq, decide_eq_true_eq, credit_eq_oldUnit_iff]
    exact and_iff_left ⟨old, ho, hgone⟩
  obtain rfl : c.unit = old := Option.some.inj (hold.symm.trans ho)
  rw [← hall, ← hcount, ← hadded, ← hkindc, ← hfile]

/-- The changes of a file report its removals. -/
theorem reportsRemovals_of_entries {es : List Entry}
    (hes : ∀ e, e ∈ es ↔ a.Gives rules file units (some olds) e.change e.origin) :
    ReportsRemovals file units olds (removalsFrom 0 bs) es := by
  constructor
  · intro e he
    exact removed_eq_countP hkind htargets ((hes e).1 he)
  · intro o c
    constructor
    · intro he
      exact eq_removal_of_gives hkind htargets ((hes _).1 he)
    · rintro ⟨old, ho, hgone, ⟨r, hr, hinside⟩, rfl⟩
      -- the change in which the removal is counted is the only one that there can be
      obtain ⟨c, hc⟩ := exists_gives_credit hkind htargets rules file hr
      rw [credit_gone hinside ho hgone] at hc
      obtain ⟨old', ho', -, -, rfl⟩ := eq_removal_of_gives hkind htargets hc
      obtain rfl : old = old' := Option.some.inj (ho.symm.trans ho')
      exact (hes _).2 hc
  · intro e he hremoval
    have hgives := (hes e).1 he
    cases ho : e.origin with
    | unit i =>
        rw [ho] at hgives
        obtain ⟨-, -, -, -, -, -, hor⟩ := gives_unit hgives
        rw [hremoval] at hor
        rcases hor with hor | hor
        · cases hor
        · cases hor
    | oldUnit o => exact .inl ⟨o, rfl⟩
    | block k =>
        rw [ho] at hgives
        obtain ⟨t, -, hunit, -⟩ := gives_block hgives
        exact .inr ⟨k, rfl, hunit⟩
  · intro r hr o old hinside ho hkept
    obtain ⟨i, u, hcredit, hu, hname, hat⟩ := credit_kept hinside ho hkept
    obtain ⟨c, hc⟩ := exists_gives_credit hkind htargets rules file hr
    rw [hcredit] at hc
    obtain ⟨hunit, -, -, hremoved, -, hnew, hor⟩ := gives_unit hc
    obtain rfl : c.unit = u := Option.some.inj (hunit.symm.trans hu)
    refine ⟨i, c, hcredit, (hes _).2 hc, hunit, hname, hat, ?_⟩
    -- the removal itself is a line that was removed from the unit
    have hpos : 0 < (removalsFrom 0 bs).countP fun r =>
        decide (credit units olds r = .unit i) :=
      List.countP_pos_iff.2 ⟨r, hr, decide_eq_true hcredit⟩
    have hcount := removed_eq_countP hkind htargets hc
    refine hor.resolve_left fun hadded => ?_
    have := (hnew.1 hadded).1
    omega
  · intro r hr houtside
    have hcredit : credit units olds r = .block r.block := credit_outside houtside
    obtain ⟨c, hc⟩ := exists_gives_credit hkind htargets rules file hr
    rw [hcredit] at hc
    obtain ⟨t, -, hunit, -⟩ := gives_block hc
    exact ⟨hcredit, c, (hes _).2 hc, hunit⟩

end Reports

/-- With the old units at hand, a file has changes exactly if its lines are numbered. They come from
    as many different origins, and they report the removals of the file, which are its removed
    lines. A binary file is taken to have no hunks, as every one has that is read. -/
theorem changesOf_reports_removals (rules : Rules) (f : FileDiff) (units olds : List CodeUnit)
    (hbinary : f.isBinary = true → f.hunks = []) :
    ((∃ cs, changesOf rules f units (some olds) = .ok cs) ↔ f.IsNumbered) ∧
      ∀ cs, changesOf rules f units (some olds) = .ok cs →
        f.removals.map (fun r => some r.line)
          = (f.hunks.flatMap (removedLines ·.lines)).map (·.oldNo) ∧
        ∃ es : List Entry, cs = es.map (·.change) ∧ (es.map (·.origin)).Nodup ∧
          ReportsRemovals f.path units olds f.removals es := by
  refine ⟨exists_changesOf_iff hbinary, fun cs hcs => ?_⟩
  have hn : f.IsNumbered := (exists_changesOf_iff hbinary).1 ⟨cs, hcs⟩
  refine ⟨map_line_fileRemovals hn, ?_⟩
  cases hb : f.isBinary with
  | true =>
      rw [changesOf, hb] at hcs
      cases hcs
      refine ⟨[], rfl, .nil, ?_⟩
      rw [FileDiff.removals, hbinary hb]
      exact reportsRemovals_nil
  | false =>
      obtain ⟨a, ha, -⟩ := exists_attributed units (some olds) hn
      obtain ⟨bs, hbs, htargets⟩ := blocks_of_attributed ha
      obtain ⟨es, hchanges, hnodup, -, hes⟩ := exists_entries rules hb ha
      rw [hchanges] at hcs
      cases hcs
      refine ⟨es, rfl, hnodup, ?_⟩
      rw [removals_eq hbs]
      exact reportsRemovals_of_entries (kind_of_mem_removed hbs) htargets hes

/-- A function is rewritten, and the one behind it goes with the empty line that follows. -/
def shortened : FileDiff :=
  { oldPath := some "src/lib.rs"
    newPath := some "src/lib.rs"
    hunks :=
      [{ oldStart := 1
         oldCount := 4
         newStart := 1
         newCount := 1
         lines :=
           [⟨.removed, "fn a() \x7b b() \x7d", some 1, none⟩, ⟨.removed, "fn b() \x7b", some 2, none⟩,
            ⟨.removed, "\x7d", some 3, none⟩, ⟨.removed, "", some 4, none⟩,
            ⟨.added, "fn a() {}", none, some 1⟩] }] }

/-- A function with a name and the lines that it takes. -/
def functionAt (name : String) (first last : Int) : CodeUnit :=
  { kind := some .function, name, visibility := .inside
    span := .clamped first last, purpose := .production }

/-- A file that loses the second one of its two functions. -/
theorem changesOf_reports_removals_of_shortened :
    (shortened.isBinary = true → shortened.hunks = []) ∧
      ∃ es : List Entry,
        changesOf {} shortened [functionAt "a" 1 1]
            (some [functionAt "a" 1 1, functionAt "b" 2 3])
          = .ok (es.map (·.change)) ∧
        ⟨.oldUnit 1, { file := "src/lib.rs", unit := functionAt "b" 2 3, kind := .removed
                       added := 0, removed := 2 }⟩ ∈ es := by
  have hbinary : shortened.isBinary = true → shortened.hunks = [] := nofun
  have hremovals : shortened.removals = [⟨0, 1, 1⟩, ⟨0, 1, 2⟩, ⟨0, 1, 3⟩, ⟨0, 1, 4⟩] := by
    decide +kernel
  obtain ⟨hsome, hall⟩ := changesOf_reports_removals {} shortened [functionAt "a" 1 1]
    [functionAt "a" 1 1, functionAt "b" 2 3] hbinary
  obtain ⟨cs, hcs⟩ := hsome.2 (by decide)
  obtain ⟨-, es, rfl, -, hreports⟩ := hall cs hcs
  rw [hremovals] at hreports
  refine ⟨hbinary, es, hcs, (hreports.gone 1 _).2 ⟨functionAt "b" 2 3, rfl, by decide, ?_, ?_⟩⟩
  · exact ⟨⟨0, 1, 2⟩, by decide, by decide⟩
  · decide

end DiffGauge.Attribution
