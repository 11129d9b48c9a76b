import DiffGauge.Proofs.Purpose.Inheritance
import DiffGauge.Proofs.Syntax.Catalogue

/-!
# Units inside test code

The walk takes the attributes and the modules of an item along into its body, and adds to them on
the way down. So the scope of every visit inside an item holds what is known inside the item, and
its unit is handed down the purpose of the outer one.

* `visits_inBody` says that the visits inside an item are those in its body;
* `visitsAmong_isWithin` says that the scope of a visit holds the one that the walk set out with;
* `units_hand_down` takes both to the units of a tree.
-/

namespace DiffGauge.Syntax

/-! ## Scopes inside one another -/

/-- The scope holds what the outer one holds, and perhaps more. -/
structure Scope.IsWithin (inner outer : Scope) : Prop where
  enclosing : outer.enclosing <+: inner.enclosing
  modules : outer.modules <+: inner.modules

/-- A scope holds what it holds. -/
theorem Scope.IsWithin.refl (s : Scope) : s.IsWithin s :=
  ⟨List.prefix_refl _, List.prefix_refl _⟩

/-- A scope within a scope that is within a third one. -/
theorem Scope.IsWithin.trans {s t u : Scope} (hst : s.IsWithin t) (htu : t.IsWithin u) :
    s.IsWithin u :=
  ⟨htu.enclosing.trans hst.enclosing, htu.modules.trans hst.modules⟩

variable (st : Setting)

/-- The attributes of an item are around everything inside it. -/
theorem Setting.scopeInside_isWithin (scope : Scope) (before : List SyntaxTree)
    (item : SyntaxTree) :
    (st.scopeInside scope before item).IsWithin
      ⟨scope.enclosing ++ st.source.outerAttributes before, scope.modules⟩ := by
  rw [scopeInside]
  split
  · refine ⟨?_, List.prefix_append _ _⟩
    dsimp only
    split
    · exact List.prefix_append _ _
    · exact List.prefix_refl _
  · exact .refl _

/-- The scope inside an item holds the one around it. -/
theorem Setting.scopeInside_isWithin_scope (scope : Scope) (before : List SyntaxTree)
    (item : SyntaxTree) : (st.scopeInside scope before item).IsWithin scope :=
  (st.scopeInside_isWithin scope before item).trans ⟨List.prefix_append _ _, List.prefix_refl _⟩

/-- The visits to nodes side by side are within the scope around these. -/
theorem Setting.visitsAmong_isWithin (scope : Scope) (atRoot : Bool) (address : Address)
    (before ts : List SyntaxTree) :
    ∀ v ∈ st.visitsAmong scope atRoot address before ts, v.scope.IsWithin scope := by
  induction scope, atRoot, address, before, ts using st.visits_induction with
  | nil =>
      rw [visitsAmong_nil]
      exact List.forall_mem_nil _
  | cons scope atRoot address before t ts here rest =>
      rw [visitsAmong_cons]
      exact List.forall_mem_append.2 ⟨here, rest⟩
  | passed scope atRoot address before t hpassed =>
      rw [st.visitsAmong_passed hpassed]
      exact List.forall_mem_nil _
  | other scope atRoot address before t hpassed hkind below =>
      rw [st.visitsAmong_other hpassed hkind]
      exact below
  | item scope atRoot address before t kind hpassed hkind inside =>
      rw [st.visitsAmong_item hpassed hkind]
      exact List.forall_mem_cons.2
        ⟨.refl _, fun v hv => (inside v hv).trans (st.scopeInside_isWithin_scope scope before t)⟩

/-! ## The visits inside an item -/

/-- The visits in the body of the item that is visited. -/
def Setting.visitsInside (st : Setting) (v : Visit) : List Visit :=
  st.visitsInBody (st.scopeInside v.scope v.before v.item) v.address 0 v.item.children

/-- They are the visits to the children of the body. -/
theorem Setting.visitsInside_eq (v : Visit) :
    st.visitsInside v = st.visitsAmong (st.scopeInside v.scope v.before v.item) false
      (v.address ++ [bodyPlace v.item.children]) [] (bodyNodes v.item.children) := by
  rw [visitsInside, visitsInBody_eq, Nat.zero_add]

private theorem Visit.IsInside.not_prefix {v w : Visit} (h : w.IsInside v) :
    ¬w.address <+: v.address :=
  fun habove => h.2 (h.1.eq_of_length_le habove.length_le)

/-- What goes on from a node is not inside what goes on from a sibling of it. -/
theorem not_isInside_of_siblings {v w : Visit} {address : Address} {i j : Nat} (hne : i ≠ j)
    (hv : address ++ [i] <+: v.address) (hw : address ++ [j] <+: w.address) : ¬w.IsInside v :=
  fun h => not_prefix_of_siblings hne hv hw h.1

/-- Among the visits to nodes side by side those inside an item are the ones in its body. -/
theorem Setting.visitsAmong_inBody (scope : Scope) (atRoot : Bool) (address : Address)
    (before ts : List SyntaxTree) :
    ∀ v ∈ st.visitsAmong scope atRoot address before ts,
    ∀ w ∈ st.visitsAmong scope atRoot address before ts,
      w.IsInside v → w ∈ st.visitsInside v := by
  induction scope, atRoot, address, before, ts using st.visits_induction with
  | nil =>
      rw [visitsAmong_nil]
      exact List.forall_mem_nil _
  | cons scope atRoot address before t ts here rest =>
      -- nothing from one node is inside what comes from another one
      have hapart : ∀ v ∈ st.visitsAmong scope atRoot address before [t],
          ∀ w ∈ st.visitsAmong scope atRoot address (t :: before) ts,
            ¬w.IsInside v ∧ ¬v.IsInside w := by
        intro v hv w hw
        obtain ⟨j, hj, -, haddress⟩ := st.visitsAmong_address _ _ _ _ _ w hw
        have hv := st.visitsAmong_singleton_address hv
        exact ⟨not_isInside_of_siblings (Nat.ne_of_lt hj) hv haddress,
          not_isInside_of_siblings (Nat.ne_of_gt hj) haddress hv⟩
      rw [visitsAmong_cons]
      refine List.forall_mem_append.2 ⟨fun v hv => ?_, fun v hv => ?_⟩
      · exact List.forall_mem_append.2
          ⟨here v hv, fun w hw h => absurd h (hapart v hv w hw).1⟩
      · exact List.forall_mem_append.2
          ⟨fun w hw h => absurd h (hapart w hw v hv).2, rest v hv⟩
  | passed scope atRoot address before t hpassed =>
      rw [st.visitsAmong_passed hpassed]
      exact List.forall_mem_nil _
  | other scope atRoot address before t hpassed hkind below =>
      rw [st.visitsAmong_other hpassed hkind]
      exact below
  | item scope atRoot address before t kind hpassed hkind inside =>
      rw [st.visitsAmong_item hpassed hkind]
      refine List.forall_mem_cons.2 ⟨?_, fun v hv => List.forall_mem_cons.2 ⟨?_, inside v hv⟩⟩
      · refine List.forall_mem_cons.2 ⟨fun h => absurd rfl h.2, fun w hw _ => ?_⟩
        rw [visitsInside_eq]
        exact hw
      · -- the item itself is inside nothing in its body
        obtain ⟨j, -, -, haddress⟩ := st.visitsAmong_address _ _ _ _ _ v hv
        exact fun h => absurd
          ((List.prefix_append _ _).trans ((List.prefix_append _ _).trans haddress)) h.not_prefix

/-- The visits inside an item of a tree are those in its body. -/
theorem Setting.visits_inBody {root : SyntaxTree} {v w : Visit} (hv : v ∈ st.visits root)
    (hw : w ∈ st.visits root) (h : w.IsInside v) : w ∈ st.visitsInside v :=
  st.visitsAmong_inBody _ true [] [] root.children v hv w hw h

/-! ## The units inside an item -/

/-- The unit of a visit has the purpose that its attributes, its scope and the file give. -/
theorem Setting.purpose_of_unitAt {v : Visit} {u : CodeUnit} (h : st.unitAt v = .ok u) :
    u.purpose = .of st.rules (st.source.outerAttributes v.before) v.scope.enclosing
      v.scope.modules st.path := by
  rw [unitAt_eq] at h
  obtain ⟨span, -, rfl⟩ := map_eq_ok_iff.1 h
  rfl

/-- An item hands its purpose down to the items inside it. -/
theorem Setting.handsDown_of_isInside {root : SyntaxTree} {v w : Visit} {outer inner : CodeUnit}
    (hv : v ∈ st.visits root) (hw : w ∈ st.visits root) (hinside : w.IsInside v)
    (houter : st.unitAt v = .ok outer) (hinner : st.unitAt w = .ok inner) :
    Purpose.HandsDown outer.purpose inner.purpose := by
  have hscope : w.scope.IsWithin
      ⟨v.scope.enclosing ++ st.source.outerAttributes v.before, v.scope.modules⟩ := by
    have hinBody := st.visits_inBody hv hw hinside
    rw [visitsInside_eq] at hinBody
    exact (st.visitsAmong_isWithin _ _ _ _ _ w hinBody).trans (st.scopeInside_isWithin _ _ _)
  rw [st.purpose_of_unitAt houter, st.purpose_of_unitAt hinner]
  refine Purpose.handsDown_of (fun a ha => ?_) hscope.modules.subset
  exact hscope.enclosing.subset (List.perm_append_comm.mem_iff.1 ha)

/-- **Test code stays test code inside**: in every tree that has units, what is inside the body of
    test code is a test, test utility or benchmark, and no shipping code; what is inside a unit of a
    build script or an example is of the same purpose. -/
theorem Setting.units_hand_down {root : SyntaxTree} {units : List CodeUnit}
    (h : st.units root = .ok units) :
    ∃ catalogue, st.IsCatalogue root units catalogue ∧
      ∀ p ∈ catalogue, ∀ q ∈ catalogue, q.1.IsInside p.1 →
        Purpose.HandsDown p.2.purpose q.2.purpose := by
  obtain ⟨catalogue, hcatalogue⟩ := Setting.exists_catalogue h
  refine ⟨catalogue, hcatalogue, fun p hp q hq hinside => ?_⟩
  exact st.handsDown_of_isInside (hcatalogue.mem_visits hp) (hcatalogue.mem_visits hq) hinside
    (hcatalogue.unit p hp) (hcatalogue.unit q hq)

/-- A module for tests, in it a benchmark, and in that a function without an attribute. -/
def benchmarkText : String := "#[cfg(test)]\nmod m \x7b\n#[bench]\nfn f() \x7b fn g() \x7b\x7d \x7d\n\x7d\n"

/-- The file of `benchmarkText`. -/
def benchmarkSetting : Setting := ⟨{}, "src/lib.rs", .ofString benchmarkText⟩

/-- A function in `benchmarkText` with what is in its body. -/
def benchmarkFunction (start body stop : Nat) (inside : List SyntaxTree) : SyntaxTree :=
  .node { kind := "function_item", start, stop }
    [.node { kind := "identifier", start := start + 3, stop := start + 4, role := some "name" } [],
     .node { kind := "block", start := body, stop, role := some "body" } inside]

/-- A tree of `benchmarkText`. -/
def benchmarkTree : SyntaxTree :=
  .node { kind := "source_file", start := 0, stop := 53 }
    [.node { kind := outerAttributeKind, start := 0, stop := 12 }
      [.node { kind := "attribute", start := 2, stop := 11 }
        [.node { kind := "identifier", start := 2, stop := 5 } [],
         .node { kind := tokenTreeKind, start := 5, stop := 11, role := some "arguments" }
          [.node { kind := "(", start := 5, stop := 6, isNamed := false } [],
           .node { kind := "identifier", start := 6, stop := 10 } [],
           .node { kind := ")", start := 10, stop := 11, isNamed := false } []]]],
     .node { kind := "mod_item", start := 13, stop := 52 }
      [.node { kind := "identifier", start := 17, stop := 18, role := some "name" } [],
       .node { kind := "declaration_list", start := 19, stop := 52, role := some "body" }
        [.node { kind := outerAttributeKind, start := 21, stop := 29 }
          [.node { kind := "attribute", start := 23, stop := 28 }
            [.node { kind := "identifier", start := 23, stop := 28 } []]],
         benchmarkFunction 30 37 50 [benchmarkFunction 39 46 48 []]]]]

/-- The units of `benchmarkTree`. -/
def benchmarkUnits : List CodeUnit :=
  [{ kind := some .moduleBlock, name := "m", visibility := .inside, span := .clamped 1 5
     purpose := .test },
   { kind := some .function, name := "f", visibility := .inside, span := .clamped 3 4
     purpose := .benchmark },
   { kind := some .function, name := "g", visibility := .inside, span := .clamped 4 4
     purpose := .test }]

private theorem units_benchmarkTree :
    benchmarkSetting.units benchmarkTree = .ok benchmarkUnits := by
  have hfault : benchmarkTree.fault? benchmarkSetting.source = none := by decide +kernel
  have hamong : benchmarkSetting.unitsAmong (benchmarkSetting.rootScope benchmarkTree) true []
      benchmarkTree.children = .ok benchmarkUnits := by decide +kernel
  have hsorted : benchmarkUnits.mergeSort startsNoLater = benchmarkUnits :=
    List.mergeSort_of_pairwise (by decide +kernel)
  rw [Setting.units, hfault, hamong]
  exact congrArg Except.ok hsorted

/-- A benchmark in a module for tests, with a function in it. -/
theorem units_hand_down_of_benchmarkTree :
    benchmarkSetting.units benchmarkTree = .ok benchmarkUnits ∧
      ∃ catalogue, benchmarkSetting.IsCatalogue benchmarkTree benchmarkUnits catalogue ∧
        ∀ p ∈ catalogue, ∀ q ∈ catalogue, q.1.IsInside p.1 →
          Purpose.HandsDown p.2.purpose q.2.purpose :=
  ⟨units_benchmarkTree, benchmarkSetting.units_hand_down units_benchmarkTree⟩

end DiffGauge.Syntax
