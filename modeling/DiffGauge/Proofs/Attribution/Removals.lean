import DiffGauge.Diff.Body
import DiffGauge.Proofs.Attribution.Conservation

/-!
# The removed lines of a file

A removal is a removed line where it stands: in a block, at a position of the new side, with its
own number on the old side. With the old units at hand a file has changes only if its lines are
numbered, and then its removals are its removed lines.

* `filter_removalsFrom` finds the removals of a block among those of a file;
* `blocks_of_attributed` says what an attribution stands on, and `isNumbered_of_attributed` that
  all lines are numbered; `exists_changesOf_iff` says this of the changes;
* `map_line_fileRemovals` says that no removed line is left out.
-/

namespace DiffGauge.Attribution

open Diff

/-! ## Removals -/

/-- A removed line where it stands: the index of its block, the line of the new side at which it is
    taken to sit, and its own number. -/
structure Removal where
  block : Nat
  position : Int
  line : Int
  deriving DecidableEq, Repr

/-- The removals of a block. -/
def Block.removals (b : Block) (k : Nat) : List Removal :=
  b.removed.zipIdx.filterMap fun x => x.1.oldNo.map fun n => ⟨k, b.position x.2, n⟩

/-- The removals of some blocks, of which the first one has the index `k`. -/
def removalsFrom (k : Nat) : List Block → List Removal
  | [] => []
  | b :: bs => b.removals k ++ removalsFrom (k + 1) bs

private theorem block_of_mem_removals {b : Block} {k : Nat} {r : Removal} (h : r ∈ b.removals k) :
    r.block = k := by
  obtain ⟨x, -, hx⟩ := List.mem_filterMap.1 h
  obtain ⟨n, -, rfl⟩ := Option.map_eq_some_iff.1 hx
  rfl

/-- A removal has the index of one of the blocks. -/
theorem block_of_mem_removalsFrom {k : Nat} {bs : List Block} {r : Removal}
    (h : r ∈ removalsFrom k bs) : k ≤ r.block ∧ r.block < k + bs.length := by
  induction bs generalizing k with
  | nil => cases h
  | cons b bs ih =>
      rw [List.length_cons]
      rcases List.mem_append.1 h with h | h
      · have := block_of_mem_removals h
        omega
      · have := ih h
        omega

/-- The removals that a block has among all of them are its own. -/
theorem filter_removalsFrom {k j : Nat} {bs : List Block} {b : Block} (hb : bs[j]? = some b) :
    (removalsFrom k bs).filter (fun r => r.block == k + j) = b.removals (k + j) := by
  induction bs generalizing k j with
  | nil => cases hb
  | cons c bs ih =>
      rw [removalsFrom, List.filter_append]
      cases j with
      | zero =>
          obtain rfl : c = b := Option.some.inj hb
          have hown : (c.removals k).filter (fun r => r.block == k + 0) = c.removals k :=
            List.filter_eq_self.2 fun r hr => by simp [block_of_mem_removals hr]
          have hrest : (removalsFrom (k + 1) bs).filter (fun r => r.block == k + 0) = [] :=
            List.filter_eq_nil_iff.2 fun r hr => by
              have := block_of_mem_removalsFrom hr
              simp only [Nat.add_zero, beq_iff_eq]
              omega
          rw [hown, hrest, List.append_nil]
          rfl
      | succ j =>
          have hother : (c.removals k).filter (fun r => r.block == k + (j + 1)) = [] :=
            List.filter_eq_nil_iff.2 fun r hr => by
              simp only [block_of_mem_removals hr, beq_iff_eq]
              omega
          rw [hother, List.nil_append, show k + (j + 1) = k + 1 + j by omega]
          exact ih hb

end DiffGauge.Attribution

namespace DiffGauge.Diff

open Attribution

/-- The removed lines of a file, block by block. -/
def FileDiff.removals (f : FileDiff) : List Removal :=
  removalsFrom 0 ((f.hunks.flatMap blocks).filterMap Except.toOption)

end DiffGauge.Diff

namespace DiffGauge.Attribution

open Diff

/-! ## What attribution stands on -/

variable {units olds : List CodeUnit}

/-- Where a file is attributed, its hunks have blocks without fault, each with its targets. -/
theorem blocks_of_attributed {olds : Option (List CodeUnit)} {hunks : List Hunk} {a : Attributed}
    (h : attributed units olds hunks = .ok a) :
    ∃ bs : List Block, hunks.flatMap blocks = bs.map .ok ∧
      List.Forall₂ (fun b t => b.targets units olds = .ok t) bs a.blocks := by
  obtain ⟨parts, hparts, ha⟩ := bind_eq_ok_iff.1 h
  cases ha
  have hall := mapM_eq_ok_iff.1 hparts
  show ∃ bs : List Block, _ ∧ List.Forall₂ _ bs (parts.map (·.2))
  generalize hunks.flatMap blocks = items at hall
  clear hparts h
  induction hall with
  | nil => exact ⟨[], rfl, .nil⟩
  | @cons item part items parts hitem _ ih =>
      obtain ⟨bs, hbs, htargets⟩ := ih
      obtain ⟨b, rfl, hb⟩ := bind_eq_ok_iff.1 hitem
      obtain ⟨t, ht, hpart⟩ := bind_eq_ok_iff.1 hb
      cases hpart
      exact ⟨b :: bs, by rw [hbs, List.map_cons], .cons ht htargets⟩

/-- The block of a run has its removed lines, and the run has its added numbers. -/
theorem isNumbered_of_ofRun {anchor : Int} {run : List HunkLine} {b : Block}
    (h : Block.ofRun anchor run = .ok b) :
    b.removed = removedLines run ∧ ∀ l ∈ run, l.kind = .added → l.IsNumbered := by
  obtain ⟨added, hadded, hb⟩ := bind_eq_ok_iff.1 h
  cases hb
  refine ⟨rfl, fun l hl hkind => ?_⟩
  have hmem : l ∈ run.filter fun l => l.kind == .added :=
    List.mem_filter.2 ⟨hl, by rw [hkind]; rfl⟩
  obtain ⟨n, -, hn⟩ := exists_of_mem_forall₂ (mapM_eq_ok_iff.1 hadded).flip hmem
  exact HunkLine.isNumbered_of_number hn

/-- With the old units at hand, a removed line is asked for its number. -/
theorem isNumbered_of_targets {b : Block} {t : Targets}
    (h : b.targets units (some olds) = .ok t) : ∀ l ∈ b.removed, l.IsNumbered := by
  intro l hl
  obtain ⟨i, hi, rfl⟩ := List.mem_iff_getElem.1 hl
  have hmem : (b.removed[i], i) ∈ b.removed.zipIdx :=
    List.mem_zipIdx_iff_getElem?.2 (List.getElem?_eq_getElem hi)
  obtain ⟨x, -, hx⟩ := exists_of_mem_forall₂ (targets_eq_ok_iff.1 h).2.flip hmem
  obtain ⟨n, hn, -⟩ := map_eq_ok hx
  exact HunkLine.isNumbered_of_number hn

/-- Lines whose blocks all have targets are numbered. -/
theorem isNumbered_of_blocksFrom {next : Int} {lines : List HunkLine}
    (h : ∀ item ∈ blocksFrom next lines,
      ∃ b t, item = .ok b ∧ b.targets units (some olds) = .ok t) :
    ∀ l ∈ lines, l.IsNumbered := by
  fun_induction blocksFrom next lines with
  | case1 => exact List.forall_mem_nil _
  | case2 next line below hc _ e he =>
      obtain ⟨b, t, hb, -⟩ := h _ (List.mem_singleton_self _)
      cases hb
  | case3 next line below hc _ b hb ih =>
      obtain ⟨⟨b, t, heq, ht⟩, hrest⟩ := List.forall_mem_cons.1 h
      cases heq
      obtain ⟨hremoved, hadded⟩ := isNumbered_of_ofRun hb
      rw [← run_append_rest]
      refine List.forall_mem_append.2 ⟨fun l hl => ?_, ih hrest⟩
      cases hkind : l.kind with
      | added => exact hadded l hl hkind
      | removed =>
          refine isNumbered_of_targets ht l ?_
          rw [hremoved]
          exact List.mem_filter.2 ⟨hl, by rw [hkind]; rfl⟩
      | context =>
          have hchanged := isChanged_of_mem_run hc l hl
          rw [isChanged, hkind] at hchanged
          cases hchanged
  | case4 next line below hc e he =>
      obtain ⟨b, t, hb, -⟩ := h _ (List.mem_singleton_self _)
      cases hb
  | case5 next line below hc n hl ih =>
      exact List.forall_mem_cons.2 ⟨HunkLine.isNumbered_of_number hl, ih h⟩

/-- With the old units at hand, only numbered lines are attributed. -/
theorem isNumbered_of_attributed {f : FileDiff} {a : Attributed}
    (h : attributed units (some olds) f.hunks = .ok a) : f.IsNumbered := by
  obtain ⟨bs, hbs, htargets⟩ := blocks_of_attributed h
  intro hunk hhunk
  have hitems : ∀ item ∈ blocksFrom (firstNew hunk) hunk.lines,
      ∃ b t, item = .ok b ∧ b.targets units (some olds) = .ok t := by
    intro item hitem
    have hmem : item ∈ f.hunks.flatMap blocks := List.mem_flatMap.2 ⟨hunk, hhunk, hitem⟩
    rw [hbs] at hmem
    obtain ⟨b, hb, rfl⟩ := List.mem_map.1 hmem
    obtain ⟨t, -, ht⟩ := exists_of_mem_forall₂ htargets.flip hb
    exact ⟨b, t, rfl, ht⟩
  exact isNumbered_of_blocksFrom hitems

/-- With the old units at hand, a file has changes exactly if its lines are numbered. A binary file
    has no hunks. -/
theorem exists_changesOf_iff {rules : Rules} {f : FileDiff}
    (hbinary : f.isBinary = true → f.hunks = []) :
    (∃ cs, changesOf rules f units (some olds) = .ok cs) ↔ f.IsNumbered := by
  constructor
  · rintro ⟨cs, hcs⟩
    cases hb : f.isBinary with
    | true =>
        intro h hh
        rw [hbinary hb] at hh
        cases hh
    | false =>
        rw [changesOf, hb] at hcs
        obtain ⟨a, ha, -⟩ := bind_eq_ok_iff.1 hcs
        exact isNumbered_of_attributed ha
  · exact exists_changesOf_of_isNumbered rules units (some olds)

/-! ## The lines of the removals -/

/-- A removed line with its number is a removal. -/
theorem map_line_removals {b : Block} {k : Nat}
    (h : ∀ l ∈ b.removed, l.oldNo.isSome = true) :
    (b.removals k).map (fun r => some r.line) = b.removed.map (·.oldNo) := by
  rw [Block.removals]
  generalize b.removed = ls at h
  generalize 0 = first
  induction ls generalizing first with
  | nil => rfl
  | cons l ls ih =>
      obtain ⟨hl, hls⟩ := List.forall_mem_cons.1 h
      obtain ⟨n, hn⟩ := Option.isSome_iff_exists.1 hl
      rw [List.zipIdx_cons, List.filterMap_cons_some (by rw [hn]; rfl), List.map_cons,
        List.map_cons, ih hls, hn]

private theorem map_line_removalsFrom {bs : List Block} {k : Nat}
    (h : ∀ l ∈ bs.flatMap (·.removed), l.oldNo.isSome = true) :
    (removalsFrom k bs).map (fun r => some r.line)
      = (bs.flatMap (·.removed)).map (·.oldNo) := by
  induction bs generalizing k with
  | nil => rfl
  | cons b bs ih =>
      rw [List.flatMap_cons] at h ⊢
      obtain ⟨hb, hbs⟩ := List.forall_mem_append.1 h
      rw [removalsFrom, List.map_append, map_line_removals hb, ih hbs, List.map_append]

/-- The blocks of a file without fault give its removals. -/
theorem removals_eq {f : FileDiff} {bs : List Block} (hbs : f.hunks.flatMap blocks = bs.map .ok) :
    f.removals = removalsFrom 0 bs := by
  rw [FileDiff.removals, hbs, List.filterMap_map]
  exact congrArg _ List.filterMap_some

/-- The removals of a file are its removed lines, in their order. -/
theorem map_line_fileRemovals {f : FileDiff} (hn : f.IsNumbered) :
    f.removals.map (fun r => some r.line)
      = (f.hunks.flatMap (removedLines ·.lines)).map (·.oldNo) := by
  obtain ⟨bs, hbs, -, hremoved⟩ := blocks_eq_ok hn
  rw [removals_eq hbs, map_line_removalsFrom, hremoved]
  intro l hl
  rw [hremoved] at hl
  obtain ⟨h, hh, hl⟩ := List.mem_flatMap.1 hl
  obtain ⟨hl, hkind⟩ := List.mem_filter.1 hl
  have hnumber : l.number?.isSome = true := hn h hh l hl
  rw [HunkLine.number?, eq_of_beq hkind] at hnumber
  exact hnumber

/-- The removed lines of a block are removed lines, whatever the other blocks are. -/
theorem kind_of_mem_block {next : Int} {lines : List HunkLine} {b : Block}
    (hb : .ok b ∈ blocksFrom next lines) : ∀ l ∈ b.removed, l.kind = .removed := by
  fun_induction blocksFrom next lines with
  | case1 => cases hb
  | case2 next line below hc _ e he => simp at hb
  | case3 next line below hc _ block hblock ih =>
      rcases List.mem_cons.1 hb with heq | hb
      · cases heq
        intro l hl
        rw [(isNumbered_of_ofRun hblock).1] at hl
        exact eq_of_beq (List.mem_filter.1 hl).2
      · exact ih hb
  | case4 next line below hc e he => simp at hb
  | case5 next line below hc n hl ih => exact ih hb

/-- The removed lines of the blocks are removed lines. -/
theorem kind_of_mem_removed {hunks : List Hunk} {bs : List Block}
    (hbs : hunks.flatMap blocks = bs.map .ok) :
    ∀ l ∈ bs.flatMap (·.removed), l.kind = .removed := by
  intro l hl
  obtain ⟨b, hb, hl⟩ := List.mem_flatMap.1 hl
  have hmem : .ok b ∈ hunks.flatMap blocks := hbs ▸ List.mem_map_of_mem hb
  obtain ⟨h, -, hblock⟩ := List.mem_flatMap.1 hmem
  exact kind_of_mem_block hblock l hl

end DiffGauge.Attribution
