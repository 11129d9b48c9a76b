import DiffGauge.Syntax.Units

/-!
# The first fault of a tree

The search for the first fault goes down only where a node says that there is a fault at it or
below it. What it passes over has none, so it finds what going through all nodes would find, each
before those below it (`firstFault?_eq_find?`). A flag that is raised without a fault leads it
astray at most into a part of the tree where it finds nothing.

If no flag is raised without a fault, then a tree that has a fault shows where it is, and the whole
tree is never itself given as the fault (`units_locate_first_fault`).
-/

namespace DiffGauge.Syntax

/-! ## All nodes of a tree -/

mutual

/-- The nodes of a tree, each before those below it. -/
def SyntaxTree.nodes : SyntaxTree → List SyntaxTree
  | .node l ts => .node l ts :: nodesAmong ts

/-- The nodes of some trees, one tree after the other. -/
def nodesAmong : List SyntaxTree → List SyntaxTree
  | [] => []
  | t :: ts => t.nodes ++ nodesAmong ts

end

mutual

/-- A node that marks a fault gives the tree one. -/
theorem SyntaxTree.hasFault_of_mem_nodes : (t : SyntaxTree) → ∀ u ∈ t.nodes,
    u.label.isFault = true → t.hasFault = true
  | .node l ts, u, hu, hmarks => by
      rw [SyntaxTree.nodes] at hu
      rw [SyntaxTree.hasFault]
      rcases List.mem_cons.1 hu with rfl | hu
      · have hl : l.isFault = true := hmarks
        rw [hl, Bool.or_true, Bool.true_or]
      · rw [anyHasFault_of_mem_nodesAmong ts u hu hmarks, Bool.or_true]

/-- A node that marks a fault gives one of the trees one. -/
theorem anyHasFault_of_mem_nodesAmong : (ts : List SyntaxTree) → ∀ u ∈ nodesAmong ts,
    u.label.isFault = true → anyHasFault ts = true
  | [], u, hu, _ => by
      rw [nodesAmong] at hu
      cases hu
  | t :: ts, u, hu, hmarks => by
      rw [nodesAmong] at hu
      rw [anyHasFault]
      rcases List.mem_append.1 hu with hu | hu
      · rw [t.hasFault_of_mem_nodes u hu hmarks, Bool.true_or]
      · rw [anyHasFault_of_mem_nodesAmong ts u hu hmarks, Bool.or_true]

end

/-- A tree without a fault has no node that marks one. -/
theorem SyntaxTree.find?_nodes_eq_none {t : SyntaxTree} (h : ¬t.hasFault = true) :
    t.nodes.find? (·.label.isFault) = none := by
  rw [List.find?_eq_none]
  intro u hu hmarks
  exact h (t.hasFault_of_mem_nodes u hu hmarks)

/-! ## The search -/

mutual

/-- The search finds the first of all nodes that marks a fault. -/
theorem SyntaxTree.firstFault?_eq_find? :
    (t : SyntaxTree) → t.firstFault? = t.nodes.find? (·.label.isFault)
  | .node l ts => by
      rw [SyntaxTree.firstFault?, SyntaxTree.nodes, List.find?_cons]
      cases hl : (SyntaxTree.node l ts).label.isFault with
      | true => exact if_pos hl
      | false => exact (if_neg (Bool.eq_false_iff.1 hl)).trans (firstFaultAmong?_eq_find? ts)

/-- Children that are passed over have no node that marks a fault. -/
theorem firstFaultAmong?_eq_find? :
    (ts : List SyntaxTree) → firstFaultAmong? ts = (nodesAmong ts).find? (·.label.isFault)
  | [] => by
      rw [firstFaultAmong?, nodesAmong, List.find?_nil]
  | t :: ts => by
      have hfirst : (if t.hasFault then t.firstFault? else none)
          = t.nodes.find? (·.label.isFault) := by
        by_cases hfault : t.hasFault = true
        · rw [if_pos hfault, t.firstFault?_eq_find?]
        · rw [if_neg hfault, SyntaxTree.find?_nodes_eq_none hfault]
      rw [firstFaultAmong?, nodesAmong, List.find?_append, hfirst, firstFaultAmong?_eq_find? ts]
      cases t.nodes.find? (·.label.isFault) with
      | none => rfl
      | some bad => rfl

end

/-! ## The fault that is reported -/

/-- Every node of the tree says that it has a fault exactly if it, or a node below it, marks one. -/
def SyntaxTree.FlagsTruly (root : SyntaxTree) : Prop :=
  ∀ t ∈ root.nodes, t.hasFault = true ↔ ∃ u ∈ t.nodes, u.label.isFault = true

instance (root : SyntaxTree) : Decidable root.FlagsTruly :=
  inferInstanceAs (Decidable (∀ t ∈ root.nodes, _ ↔ ∃ u ∈ t.nodes, _))

/-- The fault that a node marks: something missing or out of place, at the line and the column,
    both counted from one, where the node begins. -/
def Source.faultAt (s : Source) (t : SyntaxTree) : SyntaxFault :=
  let line := s.row t.label.start + 1
  let column := s.column t.label.start + 1
  if t.label.isMissing then .missing t.kind line column else .unexpected line column

private theorem SyntaxTree.mem_nodes_self : (t : SyntaxTree) → t ∈ t.nodes
  | .node l ts => by
      rw [nodes]
      exact List.mem_cons_self

/-- A tree with a fault, whose flags are true, has a node that marks the first one. -/
theorem SyntaxTree.FlagsTruly.exists_find? {root : SyntaxTree} (h : root.FlagsTruly)
    (hfault : root.hasFault = true) :
    ∃ bad, root.nodes.find? (·.label.isFault) = some bad := by
  obtain ⟨u, hu, hmarks⟩ := (h root root.mem_nodes_self).1 hfault
  exact Option.isSome_iff_exists.1 (List.find?_isSome.2 ⟨u, hu, hmarks⟩)

/-- **The search that passes children over finds the first fault of all nodes**, and nothing
    exactly if no node marks a fault. A tree with a fault, whose flags are true, is refused for the
    first node that marks one, and for where that very node begins. -/
theorem Setting.units_locate_first_fault (st : Setting) {root : SyntaxTree}
    (h : root.FlagsTruly) :
    root.firstFault? = root.nodes.find? (·.label.isFault)
      ∧ (root.firstFault? = none ↔ ∀ t ∈ root.nodes, t.label.isFault = false)
      ∧ (root.hasFault = true →
          ∃ bad, root.nodes.find? (·.label.isFault) = some bad
            ∧ st.units root = .error (.syntaxFault (st.source.faultAt bad))) := by
  have hfirst := root.firstFault?_eq_find?
  refine ⟨hfirst, ?_, fun hfault => ?_⟩
  · rw [hfirst, List.find?_eq_none]
    simp only [Bool.not_eq_true]
  · obtain ⟨bad, hbad⟩ := h.exists_find? hfault
    refine ⟨bad, hbad, ?_⟩
    have hfound : root.fault? st.source = some (st.source.faultAt bad) := by
      rw [SyntaxTree.fault?, if_pos hfault, hfirst, hbad]
      rfl
    rw [units, hfound]

/-- A function without a name behind one that is whole. -/
def namelessText : String := "fn a() {}\nfn ( ,) {}\n"

/-- The file of `namelessText`. -/
def namelessSetting : Setting := ⟨{}, "src/lib.rs", .ofString namelessText⟩

/-- The name that the second function of `namelessText` ought to have. -/
def missingName : SyntaxTree :=
  .node { kind := "identifier", start := 12, stop := 12, role := some "name", isMissing := true } []

/-- A tree of `namelessText`: a comma that fits nowhere comes after the missing name. -/
def namelessTree : SyntaxTree :=
  .node { kind := "source_file", start := 0, stop := 21 }
    [.node { kind := "function_item", start := 0, stop := 9 }
      [.node { kind := "identifier", start := 3, stop := 4, role := some "name" } [],
       .node { kind := "parameters", start := 4, stop := 6, role := some "parameters" } [],
       .node { kind := "block", start := 7, stop := 9, role := some "body" } []],
     .node { kind := "function_item", start := 10, stop := 20 }
      [missingName,
       .node { kind := "parameters", start := 13, stop := 17, role := some "parameters" }
        [.node { kind := faultKind, start := 15, stop := 16 }
          [.node { kind := faultKind, start := 15, stop := 16 } []]],
       .node { kind := "block", start := 18, stop := 20, role := some "body" } []]]

/-- A function without a name after one that has one. -/
theorem units_locate_first_fault_of_namelessTree :
    namelessTree.FlagsTruly ∧ namelessTree.hasFault = true ∧
      namelessTree.nodes.find? (·.label.isFault) = some missingName ∧
      namelessSetting.units namelessTree
        = .error (.syntaxFault (.missing "identifier" 2 3)) := by
  have hflags : namelessTree.FlagsTruly := by decide +kernel
  have hfault : namelessTree.hasFault = true := by decide +kernel
  have hfind : namelessTree.nodes.find? (·.label.isFault) = some missingName := rfl
  have hat : namelessSetting.source.faultAt missingName = .missing "identifier" 2 3 := by
    decide +kernel
  obtain ⟨-, -, hunits⟩ := namelessSetting.units_locate_first_fault hflags
  obtain ⟨bad, hbad, hrefused⟩ := hunits hfault
  obtain rfl : missingName = bad := Option.some.inj (hfind.symm.trans hbad)
  exact ⟨hflags, hfault, hfind, hat ▸ hrefused⟩

/-- Where no node bears a flag out, the whole tree is given as the fault. -/
example :
    let root := SyntaxTree.node { kind := "block", start := 18, stop := 20, isFlagged := true } []
    root.firstFault? = none
      ∧ namelessSetting.units root = .error (.syntaxFault (.unexpected 2 9)) :=
  ⟨rfl, rfl⟩

end DiffGauge.Syntax
