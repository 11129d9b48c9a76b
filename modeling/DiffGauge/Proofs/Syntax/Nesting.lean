import DiffGauge.Proofs.Syntax.Catalogue
import Mathlib

/-!
# Units inside one another

A unit takes the lines from the first attribute or documenting comment before its item to the last
byte of the item, and all of these stand between the same offsets in the node around them. So the
lines of an item hold those of every item inside it, and the walk comes to the outer item first,
where the sorting leaves it.

* `visits_walked` says where the visits of a tree stand and in which order they come;
* `units_nested` says this of the units, with their lines.
-/

namespace DiffGauge.Syntax

/-! ## The lines of a visit -/

/-- The item and the attributes and comments that belong to it stand between two offsets. -/
structure Visit.LiesBetween (s : Source) (start stop : Nat) (v : Visit) : Prop where
  start_le_first : start ≤ (s.firstNode v.before v.item).label.start
  first_le_item : (s.firstNode v.before v.item).label.start ≤ v.item.label.start
  item_start_lt_stop : v.item.label.start < v.item.label.stop
  item_stop_le : v.item.label.stop ≤ stop

private theorem Visit.LiesBetween.mono {s : Source} {v : Visit} {start stop start' stop' : Nat}
    (h : v.LiesBetween s start stop) (hstart : start' ≤ start) (hstop : stop ≤ stop') :
    v.LiesBetween s start' stop' :=
  { h with
    start_le_first := Nat.le_trans hstart h.start_le_first
    item_stop_le := Nat.le_trans h.item_stop_le hstop }

/-- The first node of an item is the item, or a leading node before it. -/
theorem Source.firstNode_eq_or_mem (s : Source) (before : List SyntaxTree) (item : SyntaxTree) :
    s.firstNode before item = item ∨ s.firstNode before item ∈ before.takeWhile isLeading := by
  rw [firstNode]
  cases hlast : ((before.takeWhile isLeading).filter fun t =>
      t.kind == outerAttributeKind || s.isOuterDoc t).getLast? with
  | none => exact .inl rfl
  | some t => exact .inr (List.mem_filter.1 (List.mem_of_getLast? hlast)).1

/-- The leading nodes after a node are the node and those before it. -/
theorem eq_or_mem_of_mem_leading {t b : SyntaxTree} {before : List SyntaxTree}
    (h : b ∈ (t :: before).takeWhile isLeading) : b = t ∨ b ∈ before.takeWhile isLeading := by
  rw [List.takeWhile_cons] at h
  split at h
  · exact List.mem_cons.1 h
  · cases h

/-- An item stands with its attributes and comments where the leading nodes before it stand. -/
theorem Visit.liesBetween_of_before {s : Source} {v : Visit} {start stop : Nat}
    (hstart : start ≤ v.item.label.start)
    (hbefore : ∀ t ∈ v.before.takeWhile isLeading,
      start ≤ t.label.start ∧ t.label.start ≤ v.item.label.start)
    (hitem : v.item.label.start < v.item.label.stop) (hstop : v.item.label.stop ≤ stop) :
    v.LiesBetween s start stop := by
  rcases s.firstNode_eq_or_mem v.before v.item with hfirst | hfirst
  · have hsame : (s.firstNode v.before v.item).label.start = v.item.label.start := by
      rw [hfirst]
    exact ⟨hsame ▸ hstart, Nat.le_of_eq hsame, hitem, hstop⟩
  · obtain ⟨hle, hge⟩ := hbefore _ hfirst
    exact ⟨hle, hge, hitem, hstop⟩

/-- The rows of an item go from that of its first byte to that of its last one: where it ends at
    the begin of a line, its last byte ends the line before. -/
theorem Source.rows_eq (s : Source) {before : List SyntaxTree} {item : SyntaxTree}
    (hfirst : (s.firstNode before item).label.start < item.label.stop)
    (hstop : item.label.stop ≤ s.bytes.length) :
    s.rows before item
      = (s.row (s.firstNode before item).label.start, s.row (item.label.stop - 1)) := by
  obtain ⟨last, hlast⟩ : ∃ last, item.label.stop = last + 1 :=
    ⟨item.label.stop - 1, by omega⟩
  rw [hlast] at hfirst hstop
  have hrow := s.row_succ hstop
  have hmono := s.row_mono (Nat.le_of_lt_succ hfirst)
  rw [rows, hlast, Nat.add_sub_cancel]
  by_cases hcolumn : s.column (last + 1) = 0
  · rw [if_pos hcolumn] at hrow
    rw [if_pos ⟨hcolumn, by omega⟩, hrow, Nat.add_sub_cancel]
  · rw [if_neg hcolumn] at hrow
    rw [if_neg fun h => hcolumn h.1, hrow]
    rfl

/-- Rows in order make a span. -/
theorem exists_span_of_rows {first last : Nat} (h : first ≤ last) :
    ∃ span, LineSpan.ofBounds? (first + 1) (last + 1) = .ok span
      ∧ span.first = first + 1 ∧ span.last = last + 1 := by
  refine ⟨⟨first + 1, last + 1, by omega, by omega⟩, ?_, rfl, rfl⟩
  exact LineSpan.ofBounds?_eq_ok_iff.2 ⟨by simp, by simp⟩

variable (st : Setting)

/-- A visit in the source gives a unit with the lines from its first byte to its last one. -/
theorem Setting.unitAt_spans {v : Visit} {start stop : Nat}
    (h : v.LiesBetween st.source start stop) (hstop : stop ≤ st.source.bytes.length) :
    ∃ u, st.unitAt v = .ok u
      ∧ u.span.first = st.source.row (st.source.firstNode v.before v.item).label.start + 1
      ∧ u.span.last = st.source.row (v.item.label.stop - 1) + 1 := by
  have hfirst := Nat.lt_of_le_of_lt h.first_le_item h.item_start_lt_stop
  have hrows := st.source.rows_eq hfirst (Nat.le_trans h.item_stop_le hstop)
  have hmono := st.source.row_mono (Nat.le_sub_one_of_lt hfirst)
  obtain ⟨span, hspan, hspanFirst, hspanLast⟩ := exists_span_of_rows hmono
  rw [unitAt_eq, Source.span?, hrows, hspan]
  exact ⟨_, rfl, hspanFirst, hspanLast⟩

/-! ## The order of the visits -/

/-- The one visit may come before the other one: it is not inside it, and if the other one is
    inside it then it stands inside its item. -/
def Visit.Precedes (s : Source) (v w : Visit) : Prop :=
  ¬w.address <+: v.address
    ∧ (v.address <+: w.address → w.LiesBetween s v.item.label.start v.item.label.stop)

private theorem Visit.isInside_of_child
    {v w : Visit} {i : Nat} (h : v.address ++ [i] <+: w.address) :
    w.IsInside v := by
  refine ⟨(List.prefix_append _ _).trans h, fun heq => ?_⟩
  have := h.length_le
  rw [← heq, List.length_append] at this
  exact Nat.not_succ_le_self _ this

/-- The visits stand between two offsets, and an outer one comes before those inside it. -/
structure Walked (s : Source) (start stop : Nat) (vs : List Visit) : Prop where
  between : ∀ v ∈ vs, v.LiesBetween s start stop
  precedes : vs.Pairwise (Visit.Precedes s)

section Walked

variable {s : Source} {start stop : Nat}

/-- No visits at all. -/
theorem Walked.nil : Walked s start stop [] := ⟨fun _ h => (nomatch h), .nil⟩

private theorem Walked.mono {vs : List Visit} {start' stop' : Nat} (h : Walked s start stop vs)
    (hstart : start' ≤ start) (hstop : stop ≤ stop') : Walked s start' stop' vs :=
  ⟨fun v hv => (h.between v hv).mono hstart hstop, h.precedes⟩

/-- Visits of which none is inside one of the others may follow each other. -/
theorem Walked.append {vs ws : List Visit} (hvs : Walked s start stop vs)
    (hws : Walked s start stop ws)
    (happart : ∀ v ∈ vs, ∀ w ∈ ws, ¬v.address <+: w.address ∧ ¬w.address <+: v.address) :
    Walked s start stop (vs ++ ws) := by
  constructor
  · exact List.forall_mem_append.2 ⟨hvs.between, hws.between⟩
  · refine List.pairwise_append.2 ⟨hvs.precedes, hws.precedes, fun v hv w hw => ?_⟩
    obtain ⟨hvw, hwv⟩ := happart v hv w hw
    exact ⟨hwv, fun h => absurd h hvw⟩

/-- The visits inside an item may follow the visit to it. -/
theorem Walked.cons {v : Visit} {vs : List Visit} (hv : v.LiesBetween s start stop)
    (hvs : Walked s v.item.label.start v.item.label.stop vs)
    (hinside : ∀ w ∈ vs, w.IsInside v) : Walked s start stop (v :: vs) := by
  constructor
  · refine List.forall_mem_cons.2 ⟨hv, fun w hw => (hvs.between w hw).mono ?_ hv.item_stop_le⟩
    exact Nat.le_trans hv.start_le_first hv.first_le_item
  · refine List.pairwise_cons.2 ⟨fun w hw => ⟨fun h => ?_, fun _ => hvs.between w hw⟩,
      hvs.precedes⟩
    obtain ⟨habove, hne⟩ := hinside w hw
    exact hne (habove.eq_of_length_le h.length_le)

end Walked

/-- The visits to nodes side by side, where the leading nodes before them stand in order too. -/
theorem Setting.visitsAmong_walked (scope : Scope) (atRoot : Bool) (address : Address)
    (before ts : List SyntaxTree) {start middle stop : Nat} (hmiddle : start ≤ middle)
    (hbefore : ∀ t ∈ before.takeWhile isLeading,
      start ≤ t.label.start ∧ t.label.start ≤ middle) (hts : InOrderBetween middle stop ts) :
    Walked st.source start stop (st.visitsAmong scope atRoot address before ts) := by
  induction scope, atRoot, address, before, ts using st.visits_induction
    generalizing start middle stop with
  | nil =>
      rw [visitsAmong_nil]
      exact .nil
  | cons scope atRoot address before t ts here rest =>
      obtain ⟨hone, hts⟩ := inOrderBetween_cons.1 hts
      have hle := Nat.le_trans hmiddle hone.1
      have hstop := hone.2.1.spread.start_le_stop
      -- the node itself is before those after it
      have hnext : ∀ b ∈ (t :: before).takeWhile isLeading,
          start ≤ b.label.start ∧ b.label.start ≤ t.label.stop := by
        intro b hb
        rcases eq_or_mem_of_mem_leading hb with rfl | hb
        · exact ⟨hle, hstop⟩
        · obtain ⟨hbegin, hend⟩ := hbefore b hb
          exact ⟨hbegin, Nat.le_trans hend (Nat.le_trans hone.1 hstop)⟩
      rw [visitsAmong_cons]
      refine ((here hmiddle hbefore hone).mono (Nat.le_refl _) hts.spread.start_le_stop).append
        (rest (Nat.le_trans hle hstop) hnext hts) fun v hv w hw => ?_
      obtain ⟨j, hj, -, hw⟩ := st.visitsAmong_address _ _ _ _ _ w hw
      have hv := st.visitsAmong_singleton_address hv
      have hne : before.length ≠ j := Nat.ne_of_lt hj
      exact ⟨not_prefix_of_siblings hne hv hw, not_prefix_of_siblings hne.symm hw hv⟩
  | passed scope atRoot address before t hpassed =>
      rw [st.visitsAmong_passed hpassed]
      exact .nil
  | other scope atRoot address before t hpassed hkind below =>
      obtain ⟨hstart, ht, hstop⟩ := hts
      rw [st.visitsAmong_other hpassed hkind]
      exact (below (Nat.le_refl _) (List.forall_mem_nil _) ht.children).mono
        (Nat.le_trans hmiddle hstart) hstop
  | item scope atRoot address before t kind hpassed hkind inside =>
      obtain ⟨hstart, ht, hstop⟩ := hts
      obtain ⟨first, last, hfirst, hnodes, hlast⟩ := ht.bodyNodes
      rw [st.visitsAmong_item hpassed hkind]
      refine .cons ?_ ((inside (Nat.le_refl _) (List.forall_mem_nil _) hnodes).mono hfirst hlast)
        fun w hw => ?_
      · refine Visit.liesBetween_of_before (Nat.le_trans hmiddle hstart) (fun b hb => ?_)
          (ht.start_lt_stop (isItem_of_not_passed hpassed hkind)) hstop
        exact ⟨(hbefore b hb).1, Nat.le_trans (hbefore b hb).2 hstart⟩
      · obtain ⟨j, -, -, hw⟩ := st.visitsAmong_address _ _ _ _ _ w hw
        exact Visit.isInside_of_child ((List.prefix_append _ _).trans hw)

/-- Where the visits of a tree stand and in which order they come. -/
theorem Setting.visits_walked {root : SyntaxTree} (h : root.InOrder) :
    Walked st.source root.label.start root.label.stop (st.visits root) := by
  exact st.visitsAmong_walked _ true [] [] _ (Nat.le_refl _) (List.forall_mem_nil _) h.children

/-! ## The units -/

/-- A unit has the lines of a unit whose item stands inside its item. -/
theorem Setting.containsSpan_of_liesBetween {v w : Visit} {outer inner : CodeUnit}
    {start stop : Nat} (hstop : stop ≤ st.source.bytes.length)
    (hv : v.LiesBetween st.source start stop)
    (hw : w.LiesBetween st.source v.item.label.start v.item.label.stop)
    (houter : st.unitAt v = .ok outer) (hinner : st.unitAt w = .ok inner) :
    outer.span.containsSpan inner.span = true := by
  obtain ⟨u, hu, hfirst, hlast⟩ := st.unitAt_spans hv hstop
  obtain ⟨u', hu', hfirst', hlast'⟩ :=
    st.unitAt_spans hw (Nat.le_trans hv.item_stop_le hstop)
  cases houter.symm.trans hu
  cases hinner.symm.trans hu'
  have hbegin := st.source.row_mono (Nat.le_trans hv.first_le_item hw.start_le_first)
  have hend := st.source.row_mono (Nat.sub_le_sub_right hw.item_stop_le 1)
  rw [LineSpan.containsSpan_iff]
  omega

/-- What holds of two items of a list that keep their order under the sort, and of two that
    change it, holds of the items of the sorted list. -/
theorem pairwise_mergeSort_of_kept {α : Type} {le : α → α → Bool} {S : α → α → Prop}
    (trans : ∀ a b c, le a b = true → le b c = true → le a c = true)
    (total : ∀ a b, (le a b || le b a) = true) {xs : List α}
    (h : xs.Pairwise fun a b => (le a b = true → S a b) ∧ (le a b = false → S b a)) :
    (xs.mergeSort le).Pairwise S := by
  induction xs with
  | nil =>
      rw [List.mergeSort_nil]
      exact .nil
  | cons x xs ih =>
      obtain ⟨hx, hxs⟩ := List.pairwise_cons.1 h
      obtain ⟨front, back, hsorted, hrest, hfront⟩ := List.mergeSort_cons trans total x xs
      have hmem : ∀ y ∈ front ++ back, y ∈ xs := fun y hy =>
        (List.mergeSort_perm xs le).mem_iff.1 (hrest ▸ hy)
      have hback : ∀ y ∈ back, le x y = true := by
        have hall := List.pairwise_mergeSort trans total (x :: xs)
        rw [hsorted] at hall
        exact (List.pairwise_cons.1 (List.pairwise_append.1 hall).2.1).1
      have hkept := ih hxs
      rw [hrest] at hkept
      obtain ⟨hkeptFront, hkeptBack, hkeptAcross⟩ := List.pairwise_append.1 hkept
      rw [hsorted]
      refine List.pairwise_append.2 ⟨hkeptFront, List.pairwise_cons.2 ⟨?_, hkeptBack⟩, ?_⟩
      · intro y hy
        exact (hx y (hmem y (List.mem_append_right _ hy))).1 (hback y hy)
      · intro y hy
        refine List.forall_mem_cons.2 ⟨?_, hkeptAcross y hy⟩
        have hlater : le x y = false := by simpa using hfront y hy
        exact (hx y (hmem y (List.mem_append_left _ hy))).2 hlater

/-- Two visits in the order of the walk make units that may come in the order of their lines. -/
theorem Setting.encloses_of_precedes {p q : Visit × CodeUnit} {start stop : Nat}
    (hstop : stop ≤ st.source.bytes.length) (hp : st.unitAt p.1 = .ok p.2)
    (hq : st.unitAt q.1 = .ok q.2) (hbetween : p.1.LiesBetween st.source start stop)
    (h : p.1.Precedes st.source q.1) :
    (comesNoLater p q = true → Encloses p q) ∧ (comesNoLater p q = false → Encloses q p) := by
  have hnot : ¬p.1.IsInside q.1 := fun hinside => h.1 hinside.1
  have hcontains : q.1.IsInside p.1 → p.2.span.containsSpan q.2.span = true := fun hinside =>
    st.containsSpan_of_liesBetween hstop hbetween (h.2 hinside.1) hp hq
  refine ⟨fun _ => ⟨hnot, hcontains⟩, fun hlater => ⟨fun hinside => ?_, fun hinside => ?_⟩⟩
  · -- an inner unit does not begin before the outer one
    have hfirst := (Bool.and_eq_true_iff.1 (hcontains hinside)).1
    rw [comesNoLater, startsNoLater, hfirst] at hlater
    cases hlater
  · exact absurd hinside hnot

/-- Every item of a source makes a unit. -/
theorem Setting.exists_mapM_unitAt {root : SyntaxTree} (htree : root.IsTreeOf st.source) :
    ∃ us, (st.visits root).mapM st.unitAt = .ok us := by
  have hwalked := st.visits_walked htree.inOrder
  obtain ⟨us, hus, -⟩ := exists_mapM_eq_ok (f := st.unitAt) fun v hv =>
    (st.unitAt_spans (hwalked.between v hv) htree.stop_le).imp fun _ h => h.1
  exact ⟨us, hus⟩

/-- The units of the visits, sorted by their first lines. -/
theorem Setting.isListing_mergeSort {root : SyntaxTree} (htree : root.IsTreeOf st.source)
    {us : List CodeUnit} (hus : (st.visits root).mapM st.unitAt = .ok us) :
    st.IsListing root (((st.visits root).zip us).mergeSort comesNoLater) := by
  have hwalked := st.visits_walked htree.inOrder
  obtain ⟨hlength, hunit⟩ := List.forall₂_iff_zip.1 (mapM_eq_ok_iff.1 hus)
  have hprecedes : ((st.visits root).zip us).Pairwise fun p q => p.1.Precedes st.source q.1 := by
    refine List.pairwise_map.1 ?_
    rw [List.map_fst_zip hlength.le]
    exact hwalked.precedes
  have hcatalogue := Setting.isCatalogue_mergeSort hus
  refine Setting.isListing_iff.2 ⟨hcatalogue.units_eq ▸ hcatalogue,
    List.pairwise_mergeSort comesNoLater_trans comesNoLater_total _, ?_⟩
  refine pairwise_mergeSort_of_kept comesNoLater_trans comesNoLater_total ?_
  refine hprecedes.imp_of_mem fun {p q} hp hq h => ?_
  exact st.encloses_of_precedes htree.stop_le (hunit hp) (hunit hq)
    (hwalked.between p.1 (List.of_mem_zip hp).1) h

/-- **Units are nested as their items are**: every tree of a source without a fault has its units,
    sorted by their first lines; of two of which one is inside the body of the other, the outer one
    comes first and has the lines of the inner one. -/
theorem Setting.units_nested {root : SyntaxTree} (htree : root.IsTreeOf st.source)
    (hfault : root.hasFault = false) :
    ∃ listing, st.units root = .ok (listing.map Prod.snd) ∧ st.IsListing root listing := by
  obtain ⟨us, hus⟩ := st.exists_mapM_unitAt htree
  refine ⟨_, ?_, st.isListing_mergeSort htree hus⟩
  rw [Setting.units_eq_ok hfault hus, (Setting.isCatalogue_mergeSort hus).units_eq]

/-- A module with an attribute, and in it a function with a comment. -/
def attributedText : String := "#[test]\nmod m \x7b\n/// d\nfn f() \x7b\x7d\n\x7d\n"

/-- The file of `attributedText`. -/
def attributedSetting : Setting := ⟨{}, "src/m.rs", .ofString attributedText⟩

/-- A tree of `attributedText`. The module ends at the begin of the line after it. -/
def attributedTree : SyntaxTree :=
  .node { kind := "source_file", start := 0, stop := 34 }
    [.node { kind := outerAttributeKind, start := 0, stop := 7 }
      [.node { kind := "attribute", start := 2, stop := 6 }
        [.node { kind := "identifier", start := 2, stop := 6 } []]],
     .node { kind := "mod_item", start := 8, stop := 34 }
      [.node { kind := "identifier", start := 12, stop := 13, role := some "name" } [],
       .node { kind := "declaration_list", start := 14, stop := 34, role := some "body" }
        [.node { kind := lineCommentKind, start := 16, stop := 22 } [],
         .node { kind := "function_item", start := 22, stop := 31 }
          [.node { kind := "identifier", start := 25, stop := 26, role := some "name" } [],
           .node { kind := "parameters", start := 26, stop := 28, role := some "parameters" } [],
           .node { kind := "block", start := 29, stop := 31, role := some "body" } []]]]]

/-- The units of `attributedTree`: the module has all lines, the function those from its comment
    on. -/
def attributedUnits : List CodeUnit :=
  [{ kind := some .moduleBlock, name := "m", visibility := .inside, span := .clamped 1 5
     purpose := .test },
   { kind := some .function, name := "f", visibility := .inside, span := .clamped 3 4
     purpose := .testUtility }]

/-- A function with a comment, in a module with an attribute. -/
theorem units_nested_of_attributedTree :
    attributedTree.IsTreeOf attributedSetting.source ∧ attributedTree.hasFault = false ∧
      ∃ listing, listing.map Prod.snd = attributedUnits ∧
        attributedSetting.IsListing attributedTree listing := by
  have htree : attributedTree.IsTreeOf attributedSetting.source :=
    ⟨by decide +kernel, by decide +kernel⟩
  have hfault : attributedTree.hasFault = false := by decide +kernel
  have hamong : attributedSetting.unitsAmong (attributedSetting.rootScope attributedTree) true []
      attributedTree.children = .ok attributedUnits := by decide +kernel
  have hsorted : attributedUnits.mergeSort startsNoLater = attributedUnits :=
    List.mergeSort_of_pairwise (by decide +kernel)
  obtain ⟨listing, hunits, hlisting⟩ := attributedSetting.units_nested htree hfault
  refine ⟨htree, hfault, listing, ?_, hlisting⟩
  rw [Setting.units, SyntaxTree.fault?, hfault, hamong] at hunits
  exact (Except.ok.inj hunits).symm.trans hsorted

end DiffGauge.Syntax
