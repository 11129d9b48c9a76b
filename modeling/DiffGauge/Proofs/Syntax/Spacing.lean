import DiffGauge.Proofs.Syntax.Nesting

/-!
# Units beside one another

Of two items of which neither is inside the other, the first one ends before the second one begins,
attributes and comments included: a node that belongs to an item holds no item. But a unit takes
whole lines, so two such units share a line when the second one begins on the line on which the
first one ends.

* `visits_spaced` says this of the visits of a tree;
* `comesBefore_of_endsBefore` takes it to the lines of two units;
* `units_nested_or_spaced` says which lines any two units of a tree share.
-/

namespace DiffGauge.Syntax

/-! ## The visits -/

/-- The item of the one visit ends before the first node of the other one begins. -/
def Visit.EndsBefore (s : Source) (v w : Visit) : Prop :=
  v.item.label.stop ≤ (s.firstNode w.before w.item).label.start

/-- The one visit ends before the other one begins, unless the other one is inside it. -/
def Visit.Spaced (s : Source) (v w : Visit) : Prop :=
  ¬v.address <+: w.address → v.EndsBefore s w

private theorem isClosed_of_isLeading {t : SyntaxTree} (h : isLeading t = true) :
    isClosed t = true := by
  simp only [isLeading, Bool.or_eq_true, beq_iff_eq] at h
  rcases h with (h | h) | h
  all_goals
    rw [isClosed, h]
    decide

variable (st : Setting)

/-- A node that belongs to an item after it holds no item. -/
theorem Setting.isLeading_of_mem_visits {scope : Scope} {atRoot : Bool} {address : Address}
    {before : List SyntaxTree} {t : SyntaxTree} {v : Visit}
    (hv : v ∈ st.visitsAmong scope atRoot address before [t]) : isLeading t = false := by
  rw [← Bool.not_eq_true]
  intro hleading
  have hpassed : isPassedOver t = true := by
    rw [isPassedOver, isClosed_of_isLeading hleading, Bool.or_true]
  rw [st.visitsAmong_passed hpassed] at hv
  cases hv

/-- Of the visits to nodes side by side the first one ends before the second one begins, unless the
    second one is inside it. -/
theorem Setting.visitsAmong_spaced (scope : Scope) (atRoot : Bool) (address : Address)
    (before ts : List SyntaxTree) {middle stop : Nat}
    (hbefore : ∀ t ∈ before.takeWhile isLeading, t.label.start ≤ middle)
    (hts : InOrderBetween middle stop ts) :
    (st.visitsAmong scope atRoot address before ts).Pairwise (Visit.Spaced st.source) := by
  induction scope, atRoot, address, before, ts using st.visits_induction
    generalizing middle stop with
  | nil =>
      rw [visitsAmong_nil]
      exact .nil
  | cons scope atRoot address before t ts here rest =>
      obtain ⟨hone, hts⟩ := inOrderBetween_cons.1 hts
      have hstop := hone.2.1.spread.start_le_stop
      have hnext : ∀ b ∈ (t :: before).takeWhile isLeading, b.label.start ≤ t.label.stop := by
        intro b hb
        rcases eq_or_mem_of_mem_leading hb with rfl | hb
        · exact hstop
        · exact Nat.le_trans (hbefore b hb) (Nat.le_trans hone.1 hstop)
      rw [visitsAmong_cons]
      refine List.pairwise_append.2 ⟨here hbefore hone, rest hnext hts, fun v hv w hw _ => ?_⟩
      have hhere := st.visitsAmong_walked scope atRoot address before [t] (Nat.zero_le _)
        (fun b hb => ⟨Nat.zero_le _, hbefore b hb⟩) hone
      -- `t` holds an item, so no attribute or comment before `t` belongs to an item after it
      have hnone : (t :: before).takeWhile isLeading = [] := by
        rw [List.takeWhile_cons, st.isLeading_of_mem_visits hv]
        rfl
      have hrest := st.visitsAmong_walked scope atRoot address (t :: before) ts
        (Nat.le_refl t.label.stop) (by rw [hnone]; exact List.forall_mem_nil _) hts
      exact Nat.le_trans (hhere.between v hv).item_stop_le (hrest.between w hw).start_le_first
  | passed scope atRoot address before t hpassed =>
      rw [st.visitsAmong_passed hpassed]
      exact .nil
  | other scope atRoot address before t hpassed hkind below =>
      rw [st.visitsAmong_other hpassed hkind]
      exact below (List.forall_mem_nil _) hts.2.1.children
  | item scope atRoot address before t kind hpassed hkind inside =>
      rw [st.visitsAmong_item hpassed hkind]
      obtain ⟨first, last, -, hnodes, -⟩ := hts.2.1.bodyNodes
      refine List.pairwise_cons.2 ⟨fun w hw hnot => ?_, inside (List.forall_mem_nil _) hnodes⟩
      -- the visits in the body are inside the item
      obtain ⟨j, -, -, hw⟩ := st.visitsAmong_address _ _ _ _ _ w hw
      exact absurd ((List.prefix_append _ _).trans ((List.prefix_append _ _).trans hw)) hnot

/-- Of two visits of a tree the first one ends before the second one begins, unless the second one
    is inside it. -/
theorem Setting.visits_spaced {root : SyntaxTree} (h : root.InOrder) :
    (st.visits root).Pairwise (Visit.Spaced st.source) := by
  exact st.visitsAmong_spaced _ true [] [] _ (List.forall_mem_nil _) h.children

/-! ## The lines -/

/-- The rows from one offset to another are as many as the line breaks between them. -/
theorem Source.row_eq_add_count (s : Source) {a b : Nat} (h : a ≤ b) :
    s.row b = s.row a + (s.slice a b).count lineBreak := by
  obtain ⟨n, rfl⟩ := Nat.exists_eq_add_of_le h
  rw [row, row, slice, List.take_add, List.count_append, Nat.add_sub_cancel_left]

/-- The unit of the one visit comes before that of the other one. They share a line only if the
    one ends where the other begins, and then just this line. -/
structure Setting.ComesBefore (p q : Visit × CodeUnit) : Prop where
  last_le_first : p.2.span.last ≤ q.2.span.first
  overlaps_iff : p.2.span.overlaps q.2.span = true ↔
    Source.lineBreak ∉ st.source.slice (p.1.item.label.stop - 1)
      (st.source.firstNode q.1.before q.1.item).label.start

/-- An item that ends before another one begins has its unit before that of the other one. -/
theorem Setting.comesBefore_of_endsBefore {p q : Visit × CodeUnit} {start stop : Nat}
    (hstop : stop ≤ st.source.bytes.length) (hp : st.unitAt p.1 = .ok p.2)
    (hq : st.unitAt q.1 = .ok q.2) (hbetween : p.1.LiesBetween st.source start stop)
    (hbetween' : q.1.LiesBetween st.source start stop) (h : p.1.EndsBefore st.source q.1) :
    st.ComesBefore p q := by
  obtain ⟨u, hu, hfirst, hlast⟩ := st.unitAt_spans hbetween hstop
  obtain ⟨u', hu', hfirst', hlast'⟩ := st.unitAt_spans hbetween' hstop
  cases hp.symm.trans hu
  cases hq.symm.trans hu'
  have hrow := st.source.row_eq_add_count (Nat.le_trans (Nat.sub_le _ 1) h)
  have hcount := List.count_eq_zero (a := Source.lineBreak)
    (l := st.source.slice (p.1.item.label.stop - 1)
      (st.source.firstNode q.1.before q.1.item).label.start)
  have hspan := p.2.span.first_le_last
  have hspan' := q.2.span.first_le_last
  constructor
  · omega
  · rw [← hcount, LineSpan.overlaps, Bool.and_eq_true, decide_eq_true_iff, decide_eq_true_iff]
    omega

/-! ## The units of a tree -/

/-- The second unit is inside the first one, with no line outside it, or comes after it. -/
def Setting.NestedOrSpaced (p q : Visit × CodeUnit) : Prop :=
  (q.1.IsInside p.1 ∧ p.2.span.containsSpan q.2.span = true)
    ∨ (¬q.1.IsInside p.1 ∧ ¬p.1.IsInside q.1 ∧ st.ComesBefore p q)

private theorem Setting.nestedOrSpaced_of_visits {p q : Visit × CodeUnit} {start stop : Nat}
    (hstop : stop ≤ st.source.bytes.length) (hp : st.unitAt p.1 = .ok p.2)
    (hq : st.unitAt q.1 = .ok q.2) (hbetween : p.1.LiesBetween st.source start stop)
    (hbetween' : q.1.LiesBetween st.source start stop) (hprecedes : p.1.Precedes st.source q.1)
    (hspaced : p.1.Spaced st.source q.1) : st.NestedOrSpaced p q := by
  by_cases hinside : p.1.address <+: q.1.address
  · refine .inl ⟨⟨hinside, fun h => hprecedes.1 (h ▸ List.prefix_refl _)⟩, ?_⟩
    exact st.containsSpan_of_liesBetween hstop hbetween (hprecedes.2 hinside) hp hq
  · exact .inr ⟨fun h => hinside h.1, fun h => hprecedes.1 h.1,
      st.comesBefore_of_endsBefore hstop hp hq hbetween hbetween' (hspaced hinside)⟩

/-- The walk comes to the units in the order of their first lines. -/
theorem Setting.NestedOrSpaced.comesNoLater {p q : Visit × CodeUnit}
    (h : st.NestedOrSpaced p q) : comesNoLater p q = true := by
  rcases h with ⟨-, hcontains⟩ | ⟨-, -, hbefore⟩
  · exact (Bool.and_eq_true_iff.1 hcontains).1
  · exact decide_eq_true (Nat.le_trans p.2.span.first_le_last hbefore.last_le_first)

/-- **Units are nested or come one after the other**: every tree of a source without a fault has
    its units. Of two units of which neither is inside the other, the second one begins no earlier
    than the first one ends, and they share a line exactly if no line break stands between the
    last byte of the first one and the first byte of the second one. -/
theorem Setting.units_nested_or_spaced {root : SyntaxTree} (htree : root.IsTreeOf st.source)
    (hfault : root.hasFault = false) :
    ∃ listing, st.units root = .ok (listing.map Prod.snd) ∧ st.IsListing root listing ∧
      listing.Pairwise st.NestedOrSpaced := by
  have hwalked := st.visits_walked htree.inOrder
  obtain ⟨us, hus⟩ := st.exists_mapM_unitAt htree
  obtain ⟨hlength, hunit⟩ := List.forall₂_iff_zip.1 (mapM_eq_ok_iff.1 hus)
  have hpairs : ((st.visits root).zip us).Pairwise st.NestedOrSpaced := by
    have hvisits : ((st.visits root).zip us).map Prod.fst = st.visits root :=
      List.map_fst_zip hlength.le
    have hboth := hwalked.precedes.and (st.visits_spaced htree.inOrder)
    rw [← hvisits] at hboth
    refine (List.pairwise_map.1 hboth).imp_of_mem fun {p q} hp hq h => ?_
    exact st.nestedOrSpaced_of_visits htree.stop_le (hunit hp) (hunit hq)
      (hwalked.between p.1 (List.of_mem_zip hp).1) (hwalked.between q.1 (List.of_mem_zip hq).1)
      h.1 h.2
  -- the walk is sorted already
  have hsorted : ((st.visits root).zip us).mergeSort comesNoLater = (st.visits root).zip us :=
    List.mergeSort_of_pairwise (hpairs.imp fun h => Setting.NestedOrSpaced.comesNoLater st h)
  have hlisting := st.isListing_mergeSort htree hus
  have hunits := Setting.units_eq_ok hfault hus
  rw [← (Setting.isCatalogue_mergeSort hus).units_eq, hsorted] at hunits
  exact ⟨_, hunits, hsorted ▸ hlisting, hpairs⟩

/-- Two functions, of which the second one begins on the line on which the first one ends. -/
def sharedLineText : String := "fn a() \x7b\n\x7d fn b() \x7b\n\x7d\n"

/-- The file of `sharedLineText`. -/
def sharedLineSetting : Setting := ⟨{}, "src/s.rs", .ofString sharedLineText⟩

/-- A function without parameters: its bytes, those of its name, and those of its body. -/
def plainFunction (start name body stop : Nat) : SyntaxTree :=
  .node { kind := "function_item", start, stop }
    [.node { kind := "fn", start, stop := name - 1, isNamed := false } [],
     .node { kind := "identifier", start := name, stop := name + 1, role := some "name" } [],
     .node { kind := "parameters", start := name + 1, stop := body - 1,
             role := some "parameters" } [],
     .node { kind := "block", start := body, stop, role := some "body" } []]

/-- The tree of `sharedLineText`. -/
def sharedLineTree : SyntaxTree :=
  .node { kind := "source_file", start := 0, stop := 22 }
    [plainFunction 0 3 7 10, plainFunction 11 14 18 21]

/-- The units of `sharedLineTree`: the second line belongs to both. -/
def sharedLineUnits : List CodeUnit :=
  [{ kind := some .function, name := "a", visibility := .inside, span := .clamped 1 2
     purpose := .production },
   { kind := some .function, name := "b", visibility := .inside, span := .clamped 2 3
     purpose := .production }]

private theorem isTreeOf_sharedLineTree : sharedLineTree.IsTreeOf sharedLineSetting.source :=
  ⟨by decide +kernel, by decide +kernel⟩

private theorem units_sharedLineTree :
    sharedLineSetting.units sharedLineTree = .ok sharedLineUnits := by
  have hvisits : (sharedLineSetting.visits sharedLineTree).mapM sharedLineSetting.unitAt
      = .ok sharedLineUnits := by decide +kernel
  rw [Setting.units_eq_ok (by decide +kernel) hvisits,
    List.mergeSort_of_pairwise (by decide +kernel)]

/-- Two functions that share a line. -/
theorem units_nested_or_spaced_of_sharedLineTree :
    sharedLineTree.IsTreeOf sharedLineSetting.source ∧ sharedLineTree.hasFault = false ∧
      ∃ listing, listing.map Prod.snd = sharedLineUnits ∧
        sharedLineSetting.IsListing sharedLineTree listing ∧
        listing.Pairwise sharedLineSetting.NestedOrSpaced := by
  have hfault : sharedLineTree.hasFault = false := by decide +kernel
  obtain ⟨listing, hunits, hlisting, hpairs⟩ :=
    sharedLineSetting.units_nested_or_spaced isTreeOf_sharedLineTree hfault
  refine ⟨isTreeOf_sharedLineTree, hfault, listing, ?_, hlisting, hpairs⟩
  exact (Except.ok.inj (units_sharedLineTree.symm.trans hunits)).symm

/-- The spans of two functions side by side may overlap with neither inside the other. -/
theorem exists_units_overlap_not_nested :
    ¬∀ (st : Setting) (root : SyntaxTree), root.IsTreeOf st.source → root.hasFault = false →
      ∀ us, st.units root = .ok us → us.Pairwise fun u v =>
        u.span.overlaps v.span = false ∨ u.span.containsSpan v.span = true
          ∨ v.span.containsSpan u.span = true := by
  intro h
  have hpair := h sharedLineSetting sharedLineTree isTreeOf_sharedLineTree (by decide +kernel) _
    units_sharedLineTree
  revert hpair
  decide +kernel

end DiffGauge.Syntax
