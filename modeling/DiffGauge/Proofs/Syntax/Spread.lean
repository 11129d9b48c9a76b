import DiffGauge.Proofs.Syntax.Nesting

/-!
# Trees that are spread out

In a tree that is spread out the children of a node stand one after the other inside its range.
Nothing is said of nodes that are empty, nor of the source.

* the laws of `SpreadBetween` put nodes together and take them apart;
* `unitAt_eq_ok` says that the rows of an item in such a tree make a span;
* `units_ne_invalidSpan` says that such a tree is never refused for a span that does not exist.
-/

namespace DiffGauge.Syntax

/-! ## Nodes side by side -/

/-- A node without children that does not end before it begins. -/
theorem SyntaxTree.spread_leaf {l : Label} (h : l.start ≤ l.stop) :
    (SyntaxTree.node l []).Spread := h

/-- Nodes in two parts stand one after the other exactly if each part does, up to an offset between
    them. -/
theorem spreadBetween_append {start stop : Nat} {ts us : List SyntaxTree} :
    SpreadBetween start stop (ts ++ us)
      ↔ ∃ middle, SpreadBetween start middle ts ∧ SpreadBetween middle stop us := by
  induction ts generalizing start with
  | nil =>
      constructor
      · exact fun h => ⟨start, Nat.le_refl _, h⟩
      · rintro ⟨middle, hle, hus⟩
        cases us with
        | nil => exact Nat.le_trans hle hus
        | cons u us => exact ⟨Nat.le_trans hle hus.1, hus.2⟩
  | cons t ts ih =>
      constructor
      · rintro ⟨hstart, ht, hts⟩
        obtain ⟨middle, hts, hus⟩ := ih.1 hts
        exact ⟨middle, ⟨hstart, ht, hts⟩, hus⟩
      · rintro ⟨middle, ⟨hstart, ht, hts⟩, hus⟩
        exact ⟨hstart, ht, ih.2 ⟨middle, hts, hus⟩⟩

/-- Two parts, one after the other. -/
theorem SpreadBetween.append {start middle stop : Nat} {ts us : List SyntaxTree}
    (hts : SpreadBetween start middle ts) (hus : SpreadBetween middle stop us) :
    SpreadBetween start stop (ts ++ us) := spreadBetween_append.2 ⟨middle, hts, hus⟩

/-- Nodes that follow each other go from the begin of the first to the end of the last. -/
theorem SpreadBetween.narrow {start stop : Nat} {ts : List SyntaxTree} {first last : SyntaxTree}
    (h : SpreadBetween start stop ts) (hfirst : ts.head? = some first)
    (hlast : ts.getLast? = some last) :
    start ≤ first.label.start ∧ SpreadBetween first.label.start last.label.stop ts
      ∧ last.label.stop ≤ stop := by
  obtain ⟨front, rfl⟩ := List.getLast?_eq_some_iff.1 hlast
  obtain ⟨middle, hfront, hbegin, hspread, hend⟩ := spreadBetween_append.1 h
  have hback : SpreadBetween middle last.label.stop [last] := ⟨hbegin, hspread, Nat.le_refl _⟩
  have hwhole := hfront.append hback
  cases front with
  | nil =>
      cases hfirst
      exact ⟨hwhole.1, ⟨Nat.le_refl _, hwhole.2⟩, hend⟩
  | cons t front =>
      cases hfirst
      exact ⟨hwhole.1, ⟨Nat.le_refl _, hwhole.2⟩, hend⟩

/-- A node begins before a later one ends. -/
theorem SpreadBetween.start_le_of_mem {start stop : Nat} {ts us : List SyntaxTree}
    {b t : SyntaxTree} (h : SpreadBetween start stop (ts ++ t :: us)) (hb : b ∈ ts) :
    b.label.start ≤ t.label.stop := by
  induction ts generalizing start with
  | nil => cases hb
  | cons c ts ih =>
      rcases List.mem_cons.1 hb with rfl | hb
      · obtain ⟨middle, hts, hbegin, ht, -⟩ := spreadBetween_append.1 h.2.2
        exact Nat.le_trans h.2.1.start_le_stop
          (Nat.le_trans hts.start_le_stop (Nat.le_trans hbegin ht.start_le_stop))
      · exact ih h.2.2 hb

/-- The children of a node that is spread out are. -/
theorem SpreadBetween.of_mem {start stop : Nat} {ts : List SyntaxTree} {t : SyntaxTree}
    (h : SpreadBetween start stop ts) (ht : t ∈ ts) : t.Spread := by
  induction ts generalizing start with
  | nil => cases ht
  | cons u ts ih =>
      rcases List.mem_cons.1 ht with rfl | ht
      · exact h.2.1
      · exact ih h.2.2 ht

/-- The children of such a node stand one after the other inside it. -/
theorem SyntaxTree.Spread.children {t : SyntaxTree} (h : t.Spread) :
    SpreadBetween t.label.start t.label.stop t.children := by
  obtain ⟨l, ts⟩ := t
  exact h

/-- The nodes of a tree that is spread out are. -/
theorem SyntaxTree.Spread.at? {address : Address} {root t : SyntaxTree} (h : root.Spread)
    (ht : SyntaxTree.at? address root = some t) : t.Spread := by
  induction address generalizing root with
  | nil =>
      cases ht
      exact h
  | cons i address ih =>
      obtain ⟨child, hchild, ht⟩ := Option.bind_eq_some_iff.1 ht
      exact ih (h.children.of_mem (List.mem_of_getElem? hchild)) ht

/-! ## The units -/

variable (st : Setting)

/-- An item in a tree that is spread out makes a unit. -/
theorem Setting.unitAt_eq_ok {root : SyntaxTree} (h : root.Spread) {v : Visit}
    (hv : v.StandsIn root) : ∃ u, st.unitAt v = .ok u := by
  obtain ⟨above, parent, after, -, hparent, hchildren⟩ := hv.place
  have hspread := (h.at? hparent).children
  rw [hchildren] at hspread
  have hle : (st.source.firstNode v.before v.item).label.start ≤ v.item.label.stop := by
    rcases st.source.firstNode_eq_or_mem v.before v.item with hfirst | hfirst
    · rw [hfirst]
      exact (hspread.of_mem (List.mem_append_right _ List.mem_cons_self)).start_le_stop
    · exact hspread.start_le_of_mem (List.mem_reverse.2 (List.takeWhile_subset _ hfirst))
  have hrows : (st.source.rows v.before v.item).1 ≤ (st.source.rows v.before v.item).2 := by
    have hmono := st.source.row_mono hle
    rw [Source.rows]
    split
    · next hcut => exact Nat.le_sub_one_of_lt hcut.2
    · exact hmono
  obtain ⟨span, hspan, -, -⟩ := exists_span_of_rows hrows
  rw [unitAt_eq, Source.span?, hspan]
  exact ⟨_, rfl⟩

/-- A tree that is spread out gives its units, or has a fault. -/
theorem Setting.units_ne_invalidSpan {root : SyntaxTree} (hspread : root.Spread)
    (span : InvalidSpan) : st.units root ≠ .error (.invalidSpan span) := by
  obtain ⟨us, hus, -⟩ := exists_mapM_eq_ok (f := st.unitAt) fun v hv =>
    st.unitAt_eq_ok hspread (st.visits_standIn v hv)
  intro h
  cases hfault : root.fault? st.source with
  | some fault =>
      rw [units, hfault] at h
      cases h
  | none =>
      rw [st.units_eq_visits hfault, hus] at h
      cases h

/-- A parser makes trees that are spread out, as the pieces of a text are. -/
def ParsesSpread (parse : String → Except SyntaxFault SyntaxTree) : Prop :=
  ∀ text root, parse text = .ok root → root.Spread

/-- A parser of this kind leaves no source without units but one at fault. -/
theorem unitsBy_ne_invalidSpan {parse : String → Except SyntaxFault SyntaxTree}
    (h : ParsesSpread parse) (rules : Rules) (path text : String) (span : InvalidSpan) :
    unitsBy parse rules path text ≠ .error (.invalidSpan span) := by
  rw [unitsBy]
  cases hroot : parse text with
  | error fault => exact nofun
  | ok root => exact Setting.units_ne_invalidSpan _ (h text root hroot) span

end DiffGauge.Syntax
