import DiffGauge.Syntax.Units

/-!
# Trees in source order

In a tree that is spread out the children of a node stand one after the other inside its range.
The tree of a source is so, its items are not empty (`InOrder.spread`), and the range of the root
lies in the source.

The rows of offsets go up with them (`row_mono`), by one where a line begins and nowhere else
(`row_succ`).
-/

namespace DiffGauge.Syntax

mutual

/-- The nodes below the node stand one after the other inside its range. -/
def SyntaxTree.Spread : SyntaxTree → Prop
  | .node l ts => SpreadBetween l.start l.stop ts

/-- The nodes stand one after the other between two offsets, and so do the nodes below them. -/
def SpreadBetween (start stop : Nat) : List SyntaxTree → Prop
  | [] => start ≤ stop
  | t :: ts => start ≤ t.label.start ∧ t.Spread ∧ SpreadBetween t.label.stop stop ts

end

mutual

/-- A node that is spread out does not end before it begins. -/
theorem SyntaxTree.Spread.start_le_stop :
    {t : SyntaxTree} → t.Spread → t.label.start ≤ t.label.stop
  | .node _ _, h => SpreadBetween.start_le_stop h

/-- The nodes between two offsets do not end before they begin. -/
theorem SpreadBetween.start_le_stop {start stop : Nat} :
    {ts : List SyntaxTree} → SpreadBetween start stop ts → start ≤ stop
  | [], h => h
  | _ :: _, ⟨hstart, ht, hts⟩ =>
    Nat.le_trans hstart (Nat.le_trans ht.start_le_stop hts.start_le_stop)

end

/-- The node is an item. -/
def Label.isItem (l : Label) : Bool := l.isNamed && (unitKind? l.kind).isSome

mutual

/-- The node is not empty if it is an item, and the nodes below it stand in order inside its
    range. -/
def SyntaxTree.InOrder : SyntaxTree → Prop
  | .node l ts => (l.isItem = true → l.start < l.stop) ∧ InOrderBetween l.start l.stop ts

/-- The nodes stand one after the other between two offsets, the nodes below them in order. -/
def InOrderBetween (start stop : Nat) : List SyntaxTree → Prop
  | [] => start ≤ stop
  | t :: ts => start ≤ t.label.start ∧ t.InOrder ∧ InOrderBetween t.label.stop stop ts

end

mutual

/-- Whether a tree is in order can be told. -/
def SyntaxTree.decidableInOrder : (t : SyntaxTree) → Decidable t.InOrder
  | .node l ts =>
    have := decidableInOrderBetween l.start l.stop ts
    inferInstanceAs (Decidable ((l.isItem = true → l.start < l.stop) ∧ _))

/-- Whether nodes stand in order can be told. -/
def decidableInOrderBetween (start stop : Nat) :
    (ts : List SyntaxTree) → Decidable (InOrderBetween start stop ts)
  | [] => inferInstanceAs (Decidable (start ≤ stop))
  | t :: ts =>
    have := t.decidableInOrder
    have := decidableInOrderBetween t.label.stop stop ts
    inferInstanceAs (Decidable (start ≤ t.label.start ∧ _ ∧ _))

end

instance (t : SyntaxTree) : Decidable t.InOrder := t.decidableInOrder

/-- The tree is one of the source. -/
structure SyntaxTree.IsTreeOf (s : Source) (t : SyntaxTree) : Prop where
  inOrder : t.InOrder
  stop_le : t.label.stop ≤ s.bytes.length

mutual

/-- A tree in order is spread out. -/
theorem SyntaxTree.InOrder.spread : {t : SyntaxTree} → t.InOrder → t.Spread
  | .node _ _, h => h.2.spread

/-- Nodes in order are spread out. -/
theorem InOrderBetween.spread {start stop : Nat} :
    {ts : List SyntaxTree} → InOrderBetween start stop ts → SpreadBetween start stop ts
  | [], h => h
  | _ :: _, ⟨hstart, ht, hts⟩ => ⟨hstart, ht.spread, hts.spread⟩

end

/-- The first one of some nodes in order, and those after it. -/
theorem inOrderBetween_cons {start stop : Nat} {t : SyntaxTree} {ts : List SyntaxTree} :
    InOrderBetween start stop (t :: ts)
      ↔ InOrderBetween start t.label.stop [t] ∧ InOrderBetween t.label.stop stop ts :=
  ⟨fun ⟨hstart, ht, hts⟩ => ⟨⟨hstart, ht, Nat.le_refl _⟩, hts⟩,
    fun ⟨⟨hstart, ht, _⟩, hts⟩ => ⟨hstart, ht, hts⟩⟩

/-- The children of a node in order stand in it. -/
theorem SyntaxTree.InOrder.children {t : SyntaxTree} (h : t.InOrder) :
    InOrderBetween t.label.start t.label.stop t.children := by
  obtain ⟨l, ts⟩ := t
  exact h.2

/-- An item in order is not empty. -/
theorem SyntaxTree.InOrder.start_lt_stop {t : SyntaxTree} (h : t.InOrder)
    (hitem : t.label.isItem = true) : t.label.start < t.label.stop := by
  obtain ⟨l, ts⟩ := t
  exact h.1 hitem

/-- A node among nodes in order. -/
theorem InOrderBetween.of_mem {start stop : Nat} {ts : List SyntaxTree} {t : SyntaxTree}
    (h : InOrderBetween start stop ts) (ht : t ∈ ts) :
    start ≤ t.label.start ∧ t.InOrder ∧ t.label.stop ≤ stop := by
  induction ts generalizing start with
  | nil => cases ht
  | cons u ts ih =>
      obtain ⟨hstart, hu, hts⟩ := h
      rcases List.mem_cons.1 ht with rfl | ht
      · exact ⟨hstart, hu, hts.spread.start_le_stop⟩
      · obtain ⟨hle, hinOrder, hstop⟩ := ih hts ht
        exact ⟨Nat.le_trans hstart (Nat.le_trans hu.spread.start_le_stop hle), hinOrder, hstop⟩

/-- A later offset is on no earlier row. -/
theorem Source.row_mono (s : Source) {a b : Nat} (h : a ≤ b) : s.row a ≤ s.row b :=
  (List.take_prefix_take_left h).sublist.count_le lineBreak

/-- After a byte the row is the one of the byte, or the next one if a line begins there. -/
theorem Source.row_succ (s : Source) {a : Nat} (ha : a < s.bytes.length) :
    s.row (a + 1) = s.row a + if s.column (a + 1) = 0 then 1 else 0 := by
  have htake : s.bytes.take (a + 1) = s.bytes.take a ++ [s.bytes[a]] :=
    (List.take_append_getElem ha).symm
  rw [row, row, column, htake, List.count_append, List.reverse_append, List.reverse_singleton,
    List.singleton_append, List.takeWhile_cons]
  by_cases hbreak : s.bytes[a] = lineBreak
  · rw [hbreak]
    simp
  · rw [if_pos (bne_iff_ne.2 hbreak)]
    simp [hbreak]

end DiffGauge.Syntax
