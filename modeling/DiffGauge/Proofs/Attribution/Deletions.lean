import DiffGauge.Proofs.Attribution.Context
import DiffGauge.Proofs.Attribution.Credit

/-!
# Deletions

A deletion is a longest run of changed lines that adds nothing. It has no line of the new side to
stand at; it stands behind one, the line before it (`Hunk.lineBefore`). Without old units its lines
go to the smallest unit that has both this line and the next one, so to none that ends at the first
or begins at the second. If there is no such unit they are the region of their block.

* `blocks_deletion` finds the block of a deletion among those of its hunk, anchored at the line
  behind the one before it;
* `targets_deletion` says where the lines of that block go;
* `changesOf_deletion` says which changes of a file they are counted in.
-/

namespace DiffGauge.Diff

open Attribution

/-- The lines `run` of a hunk are a deletion: removed lines and nothing else, between the context
    lines that end `before` and begin `after`. -/
structure Hunk.Deletes (h : Hunk) (before run after : List HunkLine) : Prop where
  lines : h.lines = before ++ (run ++ after)
  ne_nil : run ≠ []
  removed : ∀ l ∈ run, l.kind = .removed
  behind_context : ∀ l ∈ before.getLast?, l.kind = .context
  before_context : ∀ l ∈ after.head?, l.kind = .context

/-- The line of the new side behind which a place in a hunk lies; `before` are the lines in front of
    the place. A hunk without lines of the new side states that line. -/
def Hunk.lineBefore (h : Hunk) (before : List HunkLine) : Int :=
  if 0 < h.newCount then h.newStart - 1 + (newSide before).length else h.newStart

end DiffGauge.Diff

namespace DiffGauge.Attribution

open Diff

/-! ## The block of a deletion -/

/-- A run that context ends goes no further when more lines are behind it. -/
theorem run_of_context {line : HunkLine} {below : List HunkLine} (hc : isChanged line = true)
    (hcontext : ∀ l ∈ (line :: below).getLast?, l.kind = .context) (rest : List HunkLine) :
    (below ++ rest).takeWhile isChanged = below.takeWhile isChanged ∧
      (below ++ rest).dropWhile isChanged = below.dropWhile isChanged ++ rest ∧
      (below.dropWhile isChanged).getLast? = (line :: below).getLast? := by
  have hne : below.dropWhile isChanged ≠ [] := by
    intro hnil
    have hall : ∀ l ∈ line :: below, isChanged l = true :=
      List.forall_mem_cons.2 ⟨hc, List.dropWhile_eq_nil_iff.1 hnil⟩
    have hlast : (line :: below).getLast (List.cons_ne_nil _ _) ∈ line :: below :=
      List.getLast_mem _
    have hchanged := hall _ hlast
    rw [isChanged, hcontext _ (List.getLast?_eq_some_getLast (List.cons_ne_nil _ _))] at hchanged
    cases hchanged
  have hlen : (below.takeWhile isChanged).length ≠ below.length := by
    have hsum := congrArg List.length (List.takeWhile_append_dropWhile (p := isChanged) (l := below))
    have hpos := List.length_pos_of_ne_nil hne
    rw [List.length_append] at hsum
    omega
  refine ⟨?_, ?_, ?_⟩
  · rw [List.takeWhile_append, if_neg hlen]
  · rw [List.dropWhile_append, if_neg (by rwa [List.isEmpty_iff])]
  · rw [← run_append_rest line below, List.getLast?_append_of_ne_nil _ hne]

/-- The blocks of some lines and of those behind them, where the first end in context. -/
theorem blocksFrom_append {old new : Int} {before rest : List HunkLine}
    (hn : NumberedFrom old new (before ++ rest))
    (hcontext : ∀ l ∈ before.getLast?, l.kind = .context) :
    blocksFrom new (before ++ rest)
      = blocksFrom new before ++ blocksFrom (new + (newSide before).length) rest := by
  -- of the cut into hunks only the recursion is wanted, which counts the numbers on both sides
  fun_induction runHunks "" old new before with
  | case1 old new =>
      rw [blocksFrom, List.nil_append, List.nil_append]
      simp [newSide]
  | case2 old new line below hc run _ ih =>
      obtain ⟨htake, hdrop, hlast⟩ := run_of_context hc hcontext rest
      have hnumbers := @numberedFrom_run old new line (below ++ rest) hn
      rw [htake, hdrop] at hnumbers
      have hrun : ∀ l ∈ line :: below.takeWhile isChanged, l.IsNumbered :=
        hnumbers.1.isNumbered
      have hside : (newSide (line :: below)).length
          = (newSide run).length + (newSide (below.dropWhile isChanged)).length := by
        rw [← run_append_rest line below, newSide_append, List.length_append]
      rw [List.cons_append, blocksFrom_run hc (by rwa [htake]), blocksFrom_run hc hrun, htake,
        blocksFrom_dropWhile new (new + (newSide run).length), hdrop,
        blocksFrom_dropWhile new (new + (newSide run).length) below,
        ih hnumbers.2 (by rwa [hlast]), List.cons_append, hside]
      congr 3
      omega
  | case3 old new line below hc ih =>
      obtain ⟨hnumber, hbelow⟩ := numberedFrom_context (kind_eq_context hc) hn
      have hbehind : ∀ l ∈ below.getLast?, l.kind = .context := by
        intro l hl
        cases below with
        | nil => cases hl
        | cons b below => exact hcontext l (by rwa [List.getLast?_cons_cons])
      have hside : (newSide (line :: below)).length = (newSide below).length + 1 := by
        rw [length_newSide_cons, kind_eq_context hc]
        rfl
      rw [List.cons_append, blocksFrom, blocksFrom, if_neg hc, if_neg hc, hnumber]
      simp only
      rw [ih hbelow hbehind, hside]
      congr 2
      omega

/-- A run of removed lines up to a context line is a block that adds nothing. -/
theorem blocksFrom_removed (anchor : Int) {run after : List HunkLine} (hne : run ≠ [])
    (hremoved : ∀ l ∈ run, l.kind = .removed) (hn : ∀ l ∈ run, l.IsNumbered)
    (hcontext : ∀ l ∈ after.head?, l.kind = .context) :
    blocksFrom anchor (run ++ after)
      = .ok { added := [], removed := run, anchor } :: blocksFrom anchor after := by
  obtain ⟨line, below, rfl⟩ := List.exists_cons_of_ne_nil hne
  have hchanged : ∀ l ∈ line :: below, isChanged l = true := by
    intro l hl
    rw [isChanged, hremoved l hl]
    rfl
  obtain ⟨hc, hbelow⟩ := List.forall_mem_cons.1 hchanged
  have hstop : after.takeWhile isChanged = [] ∧ after.dropWhile isChanged = after := by
    cases after with
    | nil => exact ⟨rfl, rfl⟩
    | cons l ls =>
        have hl : ¬isChanged l = true := by
          rw [isChanged, hcontext l rfl]
          decide
        exact ⟨List.takeWhile_cons_of_neg hl, List.dropWhile_cons_of_neg hl⟩
  have htake : (below ++ after).takeWhile isChanged = below := by
    rw [List.takeWhile_append_of_pos hbelow, hstop.1, List.append_nil]
  have hdrop : (below ++ after).dropWhile isChanged = after := by
    rw [List.dropWhile_append_of_pos hbelow, hstop.2]
  have hadded : addedNumbers (line :: below) = [] := by
    rw [addedNumbers, List.filter_eq_nil_iff.2, List.filterMap_nil]
    intro l hl
    rw [hremoved l hl]
    decide
  have hall : removedLines (line :: below) = line :: below :=
    List.filter_eq_self.2 fun l hl => by
      rw [hremoved l hl]
      rfl
  rw [List.cons_append, blocksFrom_run hc (by rwa [htake]), htake, hdrop,
    ofRun_eq_ok anchor hn, hadded, hall]

variable {h : Hunk} {before run after : List HunkLine}

/-- Behind the line before a deletion the next one of the new side follows. -/
theorem firstNew_add_length (he : h.IsExact) (hd : h.Deletes before run after) :
    firstNew h + (newSide before).length = h.lineBefore before + 1 := by
  rw [firstNew, Hunk.lineBefore]
  by_cases hpos : 0 < h.newCount
  · rw [if_pos hpos, if_pos hpos]
    omega
  -- a hunk without lines of the new side has none in front of the deletion
  · have hcount := he.newCount
    rw [hd.lines, newSide_append, List.length_append] at hcount
    rw [if_neg hpos, if_neg hpos]
    omega

/-- The block of a deletion comes behind those of the lines in front, anchored at the line of the
    new side that follows the one before it. -/
theorem blocks_deletion (he : h.IsExact) (hc : h.IsConsecutive)
    (hd : h.Deletes before run after) :
    blocks h = blocksFrom (firstNew h) before
      ++ .ok { added := [], removed := run, anchor := h.lineBefore before + 1 }
        :: blocksFrom (h.lineBefore before + 1) after := by
  have hnumbers := numberedFrom_first he hc
  rw [hd.lines] at hnumbers
  have hrun : ∀ l ∈ run, l.IsNumbered := fun l hl =>
    hnumbers.isNumbered l (List.mem_append_right _ (List.mem_append_left _ hl))
  rw [blocks, hd.lines, blocksFrom_append hnumbers hd.behind_context, firstNew_add_length he hd,
    blocksFrom_removed _ hd.ne_nil hd.removed hrun hd.before_context]

/-! ## The numbers of a deletion -/

private theorem countsUp_eq {first : Int} {ns : List (Option Int)} (h : CountsUp first ns) :
    ns = (List.range ns.length).map fun i : Nat => some (first + i) := by
  induction ns generalizing first with
  | nil => rfl
  | cons n ns ih =>
      obtain ⟨rfl, hns⟩ := h
      rw [List.length_cons, List.range_succ_eq_map, List.map_cons, List.map_map]
      conv => lhs; rw [ih hns]
      congr 1
      · simp
      · apply List.map_congr_left
        intro i _
        show some _ = some _
        congr 1
        push_cast
        omega

/-- The old numbers of a deletion count up. -/
theorem oldNo_deletion (hc : h.IsConsecutive) (hd : h.Deletes before run after) :
    ∃ first : Int, run.map (·.oldNo)
      = (List.range run.length).map fun i : Nat => some (first + i) := by
  have hside : oldSide run = run := List.filter_eq_self.2 fun l hl => by
    rw [hd.removed l hl]
    rfl
  have hnumbers : NumberedFrom h.oldStart h.newStart h.lines := hc
  rw [hd.lines, numberedFrom_append, numberedFrom_append] at hnumbers
  have hcounts := hnumbers.2.1.oldNumbers
  rw [hside] at hcounts
  have heq := countsUp_eq hcounts
  rw [List.length_map] at heq
  exact ⟨_, heq⟩

/-- The least span around lines that count up is from the first to the last. -/
theorem covering_range (first : Int) (n : Nat) :
    LineSpan.covering first ((List.range n).map fun i : Nat => first + (i + 1))
      = .clamped first (first + n) := by
  have hbounds : ((List.range n).map fun i : Nat => first + (i + 1)).foldl min first = first ∧
      ((List.range n).map fun i : Nat => first + (i + 1)).foldl max first = first + n := by
    induction n with
    | zero => simp
    | succ n ih =>
        simp only [List.range_succ, List.map_append, List.foldl_append, ih, List.map_cons,
          List.map_nil, List.foldl_cons, List.foldl_nil]
        omega
  rw [LineSpan.covering, hbounds.1, hbounds.2]

/-! ## Where the lines of a deletion go -/

variable {units : List CodeUnit}

/-- The unit that surrounds a place has the line before it and the line behind it. -/
theorem surrounding?_eq (units : List CodeUnit) (line : Int) :
    surrounding? units (line + 1)
      = smallest? (fun u => u.span.contains line && u.span.contains (line + 1)) units := by
  rw [surrounding?]
  congr 1
  funext u
  rw [Bool.eq_iff_iff]
  simp only [LineSpan.contains, Bool.and_eq_true, decide_eq_true_eq]
  omega

/-- All lines of a deletion go to the unit that surrounds it. -/
theorem targets_of_surrounding? {anchor : Int} {i : Nat}
    (hi : surrounding? units anchor = some i) :
    ({ added := [], removed := run, anchor } : Block).targets units none
      = .ok ⟨[], List.replicate run.length (.unit i)⟩ := by
  refine targets_eq_ok_of_getElem List.length_replicate fun k hk => ?_
  have hholder : ({ added := [], removed := run, anchor } : Block).holder? units k = some i := hi
  rw [Block.removedTarget, hholder, List.get_eq_getElem, List.getElem_replicate]

/-- Where no unit surrounds a deletion, its lines go nowhere. -/
theorem targets_of_no_surrounding? {anchor first : Int}
    (hnone : surrounding? units anchor = none) (hremoved : ∀ l ∈ run, l.kind = .removed)
    (hnumbers : run.map (·.oldNo)
      = (List.range run.length).map fun i : Nat => some (first + i)) :
    ({ added := [], removed := run, anchor } : Block).targets units none
      = .ok ⟨[], (List.range run.length).map fun i : Nat => .stray (first + i)⟩ := by
  refine targets_eq_ok_of_getElem (by rw [List.length_map, List.length_range]) fun k hk => ?_
  have hholder : ({ added := [], removed := run, anchor } : Block).holder? units k = none := hnone
  have hold : run[k].oldNo = some (first + k) := by
    have := List.getElem_of_eq hnumbers (i := k) (by simpa using hk)
    simpa using this
  have hnumber : run[k].number = .ok (first + k) := by
    rw [HunkLine.number, HunkLine.number?, hremoved _ (List.getElem_mem hk)]
    simp only [hold]
  rw [Block.removedTarget, hholder, hnumber, List.get_eq_getElem, List.getElem_map,
    List.getElem_range]
  rfl

/-- The lines of a deletion go to a smallest unit around the line before it and the next one, or
    nowhere if there is none. -/
theorem targets_deletion {line : Int} {t : Targets} (hremoved : ∀ l ∈ run, l.kind = .removed)
    (hnumbers : ∃ first : Int, run.map (·.oldNo)
      = (List.range run.length).map fun i : Nat => some (first + i))
    (ht : ({ added := [], removed := run, anchor := line + 1 } : Block).targets units none
      = .ok t) :
    (∃ i, IsSmallest (fun u => u.span.contains line && u.span.contains (line + 1)) units i ∧
        t = ⟨[], List.replicate run.length (.unit i)⟩) ∨
      (∀ u ∈ units, ¬(u.span.contains line = true ∧ u.span.contains (line + 1) = true)) ∧
        ∃ first : Int, run.map (·.oldNo)
            = ((List.range run.length).map fun i : Nat => some (first + i)) ∧
          t = ⟨[], (List.range run.length).map fun i : Nat => .stray (first + i)⟩ := by
  cases hsurrounding : surrounding? units (line + 1) with
  | some i =>
      rw [targets_of_surrounding? hsurrounding] at ht
      cases ht
      rw [surrounding?_eq] at hsurrounding
      exact .inl ⟨i, isSmallest_of_smallest? hsurrounding, rfl⟩
  | none =>
      obtain ⟨first, hfirst⟩ := hnumbers
      rw [targets_of_no_surrounding? hsurrounding hremoved hfirst] at ht
      cases ht
      refine .inr ⟨fun u hu hboth => ?_, first, hfirst, rfl⟩
      rw [surrounding?_eq, smallest?_eq_none_iff] at hsurrounding
      have := hsurrounding u hu
      rw [hboth.1, hboth.2] at this
      cases this

/-- The region of a deletion has all its lines, from the first to the last. -/
theorem strayChange?_deletion (rules : Rules) (file : String) (first : Int) (n : Nat) :
    (Targets.mk [] ((List.range (n + 1)).map fun i : Nat => .stray (first + i))).strayChange?
        rules file
      = some { file
               unit := region rules file (.clamped first (first + n))
               kind := .removed
               added := 0
               removed := n + 1 } := by
  have hlines : ((List.range (n + 1)).map fun i : Nat => Target.stray (first + i)).filterMap
      Target.stray? = first :: (List.range n).map fun i : Nat => first + (i + 1) := by
    rw [List.filterMap_map]
    show (List.range (n + 1)).filterMap (some ∘ fun i : Nat => first + i) = _
    rw [List.filterMap_eq_map, List.range_succ_eq_map, List.map_cons, List.map_map]
    simp [Function.comp_def]
  rw [Targets.strayChange?]
  simp only [List.filterMap_nil, hlines, covering_range, List.length_map, List.length_range]

/-! ## Where they are counted -/

/-- The number of blocks in front of a place: those of the hunks `hs`, and those of the lines
    `before` of the hunk behind them. -/
def blocksBefore (hs : List Hunk) (h : Hunk) (before : List HunkLine) : Nat :=
  (hs.flatMap blocks).length + (blocksFrom (firstNew h) before).length

/-- What the changes `es` of a file say of a deletion without old units. The block of the deletion
    has the index `k`, and it lies behind the line `line`. All its lines are counted in the change
    of a smallest unit around this line and the next one. If there is none, they are a region of
    their own, from the first to the last of them. Other units have no line of it. -/
structure CountsDeletion (a : Attributed) (rules : Rules) (file : String) (units : List CodeUnit)
    (es : List Entry) (run : List HunkLine) (k : Nat) (line : Int) : Prop where
  held : (∃ u ∈ units, u.span.contains line = true ∧ u.span.contains (line + 1) = true) →
    ∃ i c, IsSmallest (fun u => u.span.contains line && u.span.contains (line + 1)) units i ∧
      a.blocks[k]? = some ⟨[], List.replicate run.length (.unit i)⟩ ∧
      ⟨.unit i, c⟩ ∈ es ∧ c.kind = .modified
  stray : (¬∃ u ∈ units, u.span.contains line = true ∧ u.span.contains (line + 1) = true) →
    ∃ first last, run.head?.map (·.oldNo) = some (some first) ∧
      run.getLast?.map (·.oldNo) = some (some last) ∧
      ⟨.block k, { file
                   unit := region rules file (.clamped first last)
                   kind := .removed
                   added := 0
                   removed := run.length }⟩ ∈ es
  spared : ∀ i u, units[i]? = some u →
    ¬(u.span.contains line = true ∧ u.span.contains (line + 1) = true) →
    ∀ t, a.blocks[k]? = some t → .unit i ∉ t.removed

/-- The unit that all lines of a block go to has a change, which is a modification. -/
theorem exists_modified {a : Attributed} {rules : Rules} {file : String} {es : List Entry}
    (hes : ∀ e, e ∈ es ↔ a.Gives rules file units none e.change e.origin) (hne : run ≠ [])
    {i k : Nat} (hi : i < units.length)
    (hk : a.blocks[k]? = some ⟨[], List.replicate run.length (.unit i)⟩) :
    ∃ c, ⟨.unit i, c⟩ ∈ es ∧ c.kind = .modified := by
  have hmem : .unit i ∈ a.blocks.flatMap (·.removed) := by
    refine List.mem_flatMap.2 ⟨_, List.mem_of_getElem? hk, List.mem_replicate.2 ⟨?_, rfl⟩⟩
    exact Nat.ne_of_gt (List.length_pos_of_ne_nil hne)
  have hremoved : a.removedFrom (.unit i) ≠ 0 := by
    rw [removedFrom_eq_count]
    exact Nat.ne_of_gt (List.count_pos_iff.2 hmem)
  have hsome : ∃ c, a.Gives rules file units none c (.unit i) := exists_gives_unit hi hremoved
  obtain ⟨c, hc⟩ := hsome
  obtain ⟨-, -, -, -, -, hkind, hor⟩ := gives_unit hc
  exact ⟨c, (hes _).2 hc, hor.resolve_left fun hnew => hremoved (hkind.1 hnew).1⟩

private theorem countsDeletion_of_entries {a : Attributed} {rules : Rules} {file : String}
    {es : List Entry} (hes : ∀ e, e ∈ es ↔ a.Gives rules file units none e.change e.origin)
    (hc : h.IsConsecutive) (hd : h.Deletes before run after) {k : Nat} {line : Int} {t : Targets}
    (hk : a.blocks[k]? = some t)
    (ht : ({ added := [], removed := run, anchor := line + 1 } : Block).targets units none
      = .ok t) : CountsDeletion a rules file units es run k line := by
  rcases targets_deletion hd.removed (oldNo_deletion hc hd) ht with
    ⟨i, hsmallest, rfl⟩ | ⟨hnone, first, hfirst, rfl⟩
  · obtain ⟨u, hu, hboth, -⟩ := id hsmallest
    rw [Bool.and_eq_true] at hboth
    constructor
    · intro _
      have hi := (List.getElem?_eq_some_iff.1 hu).1
      obtain ⟨c, hmem, hkind⟩ := exists_modified hes hd.ne_nil hi hk
      exact ⟨i, c, hsmallest, hk, hmem, hkind⟩
    · exact fun hnone => absurd ⟨u, List.mem_of_getElem? hu, hboth⟩ hnone
    · intro j v hv hnot t' ht' hmem
      obtain rfl := Option.some.inj (ht'.symm.trans hk)
      obtain rfl : j = i := Target.unit.inj (List.mem_replicate.1 hmem).2
      obtain rfl : v = u := Option.some.inj (hv.symm.trans hu)
      exact hnot hboth
  · constructor
    · rintro ⟨u, hu, hboth⟩
      exact absurd hboth (hnone u hu)
    · intro _
      obtain ⟨n, hn⟩ := Nat.exists_eq_succ_of_ne_zero
        (Nat.ne_of_gt (List.length_pos_of_ne_nil hd.ne_nil))
      rw [hn] at hfirst hk
      refine ⟨first, first + n, ?_, ?_, (hes _).2 ⟨_, hk, ?_⟩⟩
      · rw [← List.head?_map, hfirst]
        simp [List.range_succ_eq_map]
      · rw [← List.getLast?_map, hfirst]
        simp [List.range_succ]
      · rw [strayChange?_deletion, hn]
        simp
    · intro j v hv hnot t' ht' hmem
      obtain rfl := Option.some.inj (ht'.symm.trans hk)
      obtain ⟨n, -, hstray⟩ := List.mem_map.1 hmem
      cases hstray

/-- Without old units, the lines of a deletion in an exact and consecutive hunk are counted in the
    change of a smallest unit around the line before it and the next one, or in a region of their
    own if there is no such unit. Every change of the file has the lines that went to its origin. -/
theorem changesOf_deletion (rules : Rules) (f : FileDiff) (units : List CodeUnit)
    {hs hs' : List Hunk} (hbinary : f.isBinary = false) (hn : f.IsNumbered)
    (hhunks : f.hunks = hs ++ h :: hs') (he : h.IsExact) (hc : h.IsConsecutive)
    (hd : h.Deletes before run after) :
    ∃ (a : Attributed) (es : List Entry), attributed units none f.hunks = .ok a ∧
      changesOf rules f units none = .ok (es.map (·.change)) ∧
      (es.map (·.origin)).Nodup ∧
      (∀ e ∈ es, FitsOrigin f a units [] e.change e.origin) ∧
      CountsDeletion a rules f.path units es run (blocksBefore hs h before)
        (h.lineBefore before) := by
  obtain ⟨bs, ts, hadded, -, -, ha⟩ := attributed_eq_ok units none hn
  obtain ⟨bs, hbs, htargets⟩ := blocks_of_attributed ha
  obtain ⟨es, hchanges, hnodup, -, hes⟩ := exists_entries rules hbinary ha
  refine ⟨_, es, ha, hchanges, hnodup, fun e he' => ?_, ?_⟩
  · exact (coherent_of_gives hadded ((hes e).1 he')).2
  · have hblock : bs[blocksBefore hs h before]?
        = some { added := [], removed := run, anchor := h.lineBefore before + 1 } := by
      have hitem : (bs.map (Except.ok (ε := Unnumbered)))[blocksBefore hs h before]?
          = some (.ok { added := [], removed := run, anchor := h.lineBefore before + 1 }) := by
        rw [← hbs, hhunks, List.flatMap_append, List.flatMap_cons, blocks_deletion he hc hd,
          blocksBefore, List.getElem?_append_right (Nat.le_add_right _ _), List.append_assoc,
          Nat.add_sub_cancel_left, List.getElem?_append_right (Nat.le_refl _), Nat.sub_self]
        rfl
      rw [List.getElem?_map, Option.map_eq_some_iff] at hitem
      obtain ⟨b, hb, heq⟩ := hitem
      cases heq
      exact hb
    obtain ⟨t, ht, hbt⟩ := exists_getElem?_of_forall₂ htargets.flip hblock
    exact countsDeletion_of_entries hes hc hd ht hbt

/-- A comment between two functions goes. -/
def commentRemoved : Hunk :=
  { oldStart := 1
    oldCount := 5
    newStart := 1
    newCount := 4
    lines :=
      [⟨.context, "fn a() \x7b", some 1, some 1⟩, ⟨.context, "\x7d", some 2, some 2⟩,
       ⟨.removed, "// b", some 3, none⟩, ⟨.context, "fn b() \x7b", some 4, some 3⟩,
       ⟨.context, "\x7d", some 5, some 4⟩] }

/-- A file in which the comment between two functions is removed. -/
def withCommentRemoved : FileDiff :=
  { oldPath := some "src/lib.rs", newPath := some "src/lib.rs", hunks := [commentRemoved] }

/-- Two functions that meet where the comment was, in one block. -/
def neighbours : List CodeUnit :=
  [functionAt "a" 1 2, functionAt "b" 3 4,
   { functionAt "A" 1 4 with kind := some .implementationBlock }]

/-- The comment belongs to the block; neither function has a line of it. -/
theorem changesOf_deletion_of_commentRemoved :
    withCommentRemoved.isBinary = false ∧ withCommentRemoved.IsNumbered ∧
      withCommentRemoved.hunks = [] ++ commentRemoved :: [] ∧ commentRemoved.IsExact ∧
      commentRemoved.IsConsecutive ∧
      commentRemoved.Deletes (commentRemoved.lines.take 2) [⟨.removed, "// b", some 3, none⟩]
        (commentRemoved.lines.drop 3) ∧
      ∃ (a : Attributed) (es : List Entry) (c : Change),
        attributed neighbours none withCommentRemoved.hunks = .ok a ∧
        a.blocks[0]? = some ⟨[], [.unit 2]⟩ ∧
        changesOf {} withCommentRemoved neighbours none = .ok (es.map (·.change)) ∧
        ⟨.unit 2, c⟩ ∈ es ∧ c.kind = .modified := by
  have hn : withCommentRemoved.IsNumbered := by decide
  have he : commentRemoved.IsExact := ⟨by decide, by decide⟩
  have hc : commentRemoved.IsConsecutive := ⟨by decide, by decide⟩
  have hd : commentRemoved.Deletes (commentRemoved.lines.take 2)
      [⟨.removed, "// b", some 3, none⟩] (commentRemoved.lines.drop 3) :=
    ⟨by decide, by decide, by decide, by decide, by decide⟩
  have hhunks : withCommentRemoved.hunks = [] ++ commentRemoved :: [] := rfl
  obtain ⟨a, es, ha, hes, -, -, hcounts⟩ :=
    changesOf_deletion {} withCommentRemoved neighbours rfl hn hhunks he hc hd
  have hline : commentRemoved.lineBefore (commentRemoved.lines.take 2) = 2 := by decide
  have hblocks : blocksBefore [] commentRemoved (commentRemoved.lines.take 2) = 0 := by
    decide +kernel
  rw [hline, hblocks] at hcounts
  obtain ⟨i, c, ⟨u, hu, hboth, -⟩, hblock, hmem, hkind⟩ :=
    hcounts.held ⟨{ functionAt "A" 1 4 with kind := some .implementationBlock },
      by decide, by decide, by decide⟩
  -- only the block has line 2 and line 3
  have hi : i = 2 := by
    match i with
    | 0 => cases hu; revert hboth; decide
    | 1 => cases hu; revert hboth; decide
    | 2 => rfl
    | _ + 3 => cases hu
  subst hi
  exact ⟨rfl, hn, hhunks, he, hc, hd, a, es, c, ha, hblock, hes, hmem, hkind⟩

end DiffGauge.Attribution
