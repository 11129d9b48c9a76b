import DiffGauge.Proofs.Syntax.Spread

/-!
# What the path and the rules decide

The walk over a tree takes the path and the rules along in the scope of each visit, but it goes
where the tree leads. So in every file the same source has the same units, or the same fault. They
decide the purpose of each unit, and whether a function is the entry of a build script, which a
child of the root alone can be.

* `visits_samePlace` says that the visits differ in nothing but their scopes;
* `isMain_of_isEntry` says which functions may be the entry of a build script;
* `twins_spec` puts the units of two files side by side, in the order of the walk;
* `units_elsewhere` does so for the units of the whole trees.
-/

namespace DiffGauge.Syntax

/-! ## The visits of two files -/

/-- The visit without the scope around its item. -/
def Visit.unscoped (v : Visit) : Visit := { v with scope := ⟨[], []⟩ }

/-- The visits differ in nothing but their scopes. -/
def Visit.SamePlace (v w : Visit) : Prop := ∃ scope, w = { v with scope }

private theorem Visit.samePlace_of_unscoped_eq {v w : Visit} (h : v.unscoped = w.unscoped) :
    v.SamePlace w := by
  refine ⟨w.scope, ?_⟩
  calc w = { w.unscoped with scope := w.scope } := rfl
    _ = { v.unscoped with scope := w.scope } := by rw [h]

/-- The file with the same source at another path and under other rules. -/
def Setting.elsewhere (st : Setting) (rules : Rules) (path : String) : Setting :=
  { st with rules, path }

variable (st st' : Setting)

/-- The visits to nodes side by side differ in nothing but their scopes, whatever these are. -/
theorem Setting.visitsAmong_unscoped (scope scope' : Scope) (atRoot : Bool) (address : Address)
    (before ts : List SyntaxTree) :
    (st.visitsAmong scope atRoot address before ts).map Visit.unscoped
      = (st'.visitsAmong scope' atRoot address before ts).map Visit.unscoped := by
  induction scope, atRoot, address, before, ts using st.visits_induction generalizing scope' with
  | nil => rw [visitsAmong_nil, visitsAmong_nil]
  | cons scope atRoot address before t ts here rest =>
      rw [st.visitsAmong_cons, st'.visitsAmong_cons, List.map_append, List.map_append,
        here scope', rest scope']
  | passed scope atRoot address before t hpassed =>
      rw [st.visitsAmong_passed hpassed, st'.visitsAmong_passed hpassed]
  | other scope atRoot address before t hpassed hkind below =>
      rw [st.visitsAmong_other hpassed hkind, st'.visitsAmong_other hpassed hkind]
      exact below scope'
  | item scope atRoot address before t kind hpassed hkind inside =>
      rw [st.visitsAmong_item hpassed hkind, st'.visitsAmong_item hpassed hkind]
      exact congrArg (List.cons _) (inside _)

/-- The walk comes to the same items in every file, in the same order. -/
theorem Setting.visits_samePlace (root : SyntaxTree) :
    List.Forall₂ Visit.SamePlace (st.visits root) (st'.visits root) := by
  have h := st.visitsAmong_unscoped st' (st.rootScope root) (st'.rootScope root) true [] []
    root.children
  rw [← List.forall₂_eq_eq_eq, List.forall₂_map_left_iff, List.forall₂_map_right_iff] at h
  exact h.imp fun _ _ => Visit.samePlace_of_unscoped_eq

/-! ## The children of the root -/

/-- What stands at the root among nodes side by side is one of them. -/
theorem Setting.visitsAmong_atRoot (scope : Scope) (atRoot : Bool) (address : Address)
    (before ts : List SyntaxTree) :
    ∀ v ∈ st.visitsAmong scope atRoot address before ts, v.atRoot = true →
      atRoot = true ∧ ∃ j, v.address = address ++ [j] := by
  induction scope, atRoot, address, before, ts using st.visits_induction with
  | nil =>
      rw [visitsAmong_nil]
      exact List.forall_mem_nil _
  | cons scope atRoot address before t ts here rest =>
      rw [visitsAmong_cons]
      exact List.forall_mem_append.2 ⟨here, rest⟩
  | passed scope atRoot address before t hpassed =>
      rw [st.visitsAmong_passed hpassed]
      exact List.forall_mem_nil _
  | other scope atRoot address before t hpassed hkind below =>
      rw [st.visitsAmong_other hpassed hkind]
      exact fun v hv hroot => absurd (below v hv hroot).1 Bool.false_ne_true
  | item scope atRoot address before t kind hpassed hkind inside =>
      rw [st.visitsAmong_item hpassed hkind]
      refine List.forall_mem_cons.2 ⟨fun hroot => ⟨hroot, _, rfl⟩, fun v hv hroot => ?_⟩
      exact absurd (inside v hv hroot).1 Bool.false_ne_true

/-- An item that stands at the root is a child of it. -/
theorem Setting.exists_child_of_atRoot {root : SyntaxTree} {v : Visit} (hv : v ∈ st.visits root)
    (hroot : v.atRoot = true) : ∃ i, v.address = [i] ∧ root.children[i]? = some v.item := by
  obtain ⟨-, i, haddress⟩ := st.visitsAmong_atRoot _ true [] [] root.children v hv hroot
  have hitem := (st.visits_standIn v hv).place.at?_eq
  rw [haddress] at hitem
  obtain ⟨child, hchild, hitem⟩ := Option.bind_eq_some_iff.1 hitem
  cases hitem
  exact ⟨i, haddress, hchild⟩

/-! ## The units of an item -/

/-- The item is a function `main` and a child of the root. -/
structure Visit.IsMain (s : Source) (root : SyntaxTree) (v : Visit) : Prop where
  child : ∃ i, v.address = [i] ∧ root.children[i]? = some v.item
  function : v.kind = .function
  name : s.unitName v.item = "main"

/-- The entry of a build script is a function `main` and a child of the root. -/
theorem Setting.isMain_of_isEntry {root : SyntaxTree} {v : Visit} (hv : v ∈ st.visits root)
    {s : Source} (h : st'.isEntry v.atRoot v.kind (s.unitName v.item) = true) :
    v.IsMain s root := by
  simp only [isEntry, Bool.and_eq_true, beq_iff_eq] at h
  obtain ⟨⟨⟨hkind, hroot⟩, hname⟩, -⟩ := h
  exact ⟨st.exists_child_of_atRoot hv hroot, hkind, hname⟩

/-- The units of one item in two files. -/
structure Twins where
  visit : Visit
  first : CodeUnit
  second : CodeUnit

variable (rules : Rules) (path : String)

/-- The units of an item in a file and elsewhere: they differ in their purpose at most, but `main`
    may be a function in one of the files and the entry of a build script in the other. -/
structure Setting.AreTwins (root : SyntaxTree) (t : Twins) : Prop where
  first : st.unitAt t.visit = .ok t.first
  second : ∃ scope, (st.elsewhere rules path).unitAt { t.visit with scope } = .ok t.second
  name : t.second.name = t.first.name
  visibility : t.second.visibility = t.first.visibility
  span : t.second.span = t.first.span
  kind : t.second.kind = t.first.kind ∨ t.visit.IsMain st.source root ∧
    (t.first.kind = some .function ∧ t.second.kind = some .buildScriptEntry
      ∨ t.first.kind = some .buildScriptEntry ∧ t.second.kind = some .function)

/-- The units of an item that is visited in two files. -/
def Setting.twinsAt (st st' : Setting) (p : Visit × Visit) : Except InvalidSpan Twins :=
  (st.source.span? p.1).map fun span => ⟨p.1, st.unitWith p.1 span, st'.unitWith p.2 span⟩

private theorem Setting.map_first_twinsAt (p : Visit × Visit) :
    (st.twinsAt st' p).map Twins.first = st.unitAt p.1 := by
  rw [unitAt_eq, twinsAt]
  cases st.source.span? p.1 with
  | error e => rfl
  | ok span => rfl

private theorem Setting.map_second_twinsAt {p : Visit × Visit} (hsame : p.1.SamePlace p.2) :
    (st.twinsAt (st.elsewhere rules path) p).map Twins.second
      = (st.elsewhere rules path).unitAt p.2 := by
  obtain ⟨v, w⟩ := p
  obtain ⟨scope, rfl⟩ : ∃ scope, w = { v with scope } := hsame
  -- neither the path nor the scope is looked at for the span
  have hspan : (st.elsewhere rules path).source.span? { v with scope } = st.source.span? v := rfl
  rw [unitAt_eq, twinsAt, hspan]
  cases st.source.span? v with
  | error e => rfl
  | ok span => rfl

/-- What an item counts as in two files, where the entry of a build script is `main`. -/
theorem kind_alike {s : Source} {root : SyntaxTree} {v : Visit} {entry entry' : Bool}
    (h : entry = true → v.IsMain s root) (h' : entry' = true → v.IsMain s root)
    {k k' : Option UnitKind} (hk : k = some (if entry then .buildScriptEntry else v.kind))
    (hk' : k' = some (if entry' then .buildScriptEntry else v.kind)) :
    k' = k ∨ v.IsMain s root ∧ (k = some .function ∧ k' = some .buildScriptEntry
      ∨ k = some .buildScriptEntry ∧ k' = some .function) := by
  cases entry with
  | false =>
      cases entry' with
      | false => exact .inl (hk'.trans hk.symm)
      | true => exact .inr ⟨h' rfl, .inl ⟨hk.trans (congrArg some (h' rfl).function), hk'⟩⟩
  | true =>
      cases entry' with
      | false => exact .inr ⟨h rfl, .inr ⟨hk, hk'.trans (congrArg some (h rfl).function)⟩⟩
      | true => exact .inl (hk'.trans hk.symm)

/-- The units of a visit in two files are twins. -/
theorem Setting.areTwins_of_twinsAt {root : SyntaxTree} {p : Visit × Visit} {t : Twins}
    (hvisit : p.1 ∈ st.visits root) (hsame : p.1.SamePlace p.2)
    (ht : st.twinsAt (st.elsewhere rules path) p = .ok t) :
    p.1 = t.visit ∧ st.AreTwins rules path root t := by
  have hfirst := st.map_first_twinsAt (st.elsewhere rules path) p
  have hsecond := st.map_second_twinsAt rules path hsame
  rw [ht] at hfirst hsecond
  obtain ⟨v, w⟩ := p
  obtain ⟨scope, rfl⟩ : ∃ scope, w = { v with scope } := hsame
  obtain ⟨span, -, rfl⟩ := map_eq_ok_iff.1 ht
  exact ⟨rfl, hfirst.symm, ⟨scope, hsecond.symm⟩, rfl, rfl, rfl,
    kind_alike (st.isMain_of_isEntry st hvisit)
      (st.isMain_of_isEntry (st.elsewhere rules path) hvisit) rfl rfl⟩

/-! ## The units of two files -/

/-- The visits of two files, item by item. -/
def Setting.visitsInBoth (st st' : Setting) (root : SyntaxTree) : List (Visit × Visit) :=
  (st.visits root).zip (st'.visits root)

private theorem Setting.map_fst_visitsInBoth (root : SyntaxTree) :
    (st.visitsInBoth st' root).map Prod.fst = st.visits root :=
  List.map_fst_zip (st.visits_samePlace st' root).length_eq.le

private theorem Setting.map_snd_visitsInBoth (root : SyntaxTree) :
    (st.visitsInBoth st' root).map Prod.snd = st'.visits root :=
  List.map_snd_zip (st.visits_samePlace st' root).length_eq.ge

private theorem Setting.visitsInBoth_spec {root : SyntaxTree} {p : Visit × Visit}
    (hp : p ∈ st.visitsInBoth st' root) : p.1 ∈ st.visits root ∧ p.1.SamePlace p.2 :=
  ⟨(List.of_mem_zip hp).1, (List.forall₂_iff_zip.1 (st.visits_samePlace st' root)).2 hp⟩

/-- The units of all items in two files, in the order of the walk. -/
def Setting.twins (st st' : Setting) (root : SyntaxTree) : Except InvalidSpan (List Twins) :=
  (st.visitsInBoth st' root).mapM (st.twinsAt st')

private theorem Setting.map_first_twins (root : SyntaxTree) :
    (st.twins st' root).map (List.map Twins.first) = (st.visits root).mapM st.unitAt := by
  rw [← st.map_fst_visitsInBoth st' root]
  exact mapM_view fun p _ => st.map_first_twinsAt st' p

private theorem Setting.map_second_twins (root : SyntaxTree) :
    (st.twins (st.elsewhere rules path) root).map (List.map Twins.second)
      = ((st.elsewhere rules path).visits root).mapM (st.elsewhere rules path).unitAt := by
  rw [← st.map_snd_visitsInBoth (st.elsewhere rules path) root]
  exact mapM_view fun p hp =>
    st.map_second_twinsAt rules path (st.visitsInBoth_spec _ hp).2

/-- There are twins for every visit. -/
theorem Setting.twins_spec {root : SyntaxTree} {ts : List Twins}
    (h : st.twins (st.elsewhere rules path) root = .ok ts) :
    ts.map Twins.visit = st.visits root ∧ ∀ t ∈ ts, st.AreTwins rules path root t := by
  have htwins : List.Forall₂ (fun p t => p.1 = t.visit ∧ st.AreTwins rules path root t)
      (st.visitsInBoth (st.elsewhere rules path) root) ts := by
    refine ((List.forall₂_and_left _ _).2 ⟨fun p hp => st.visitsInBoth_spec _ hp,
      mapM_eq_ok_iff.1 h⟩).imp fun p t hpt => ?_
    exact st.areTwins_of_twinsAt rules path hpt.1.1 hpt.1.2 hpt.2
  constructor
  · have hsame : List.Forall₂ (· = ·) ((st.visitsInBoth (st.elsewhere rules path) root).map
        Prod.fst) (ts.map Twins.visit) :=
      List.forall₂_map_left_iff.2 (List.forall₂_map_right_iff.2 (htwins.imp fun _ _ h => h.1))
    rw [List.forall₂_eq_eq_eq, map_fst_visitsInBoth] at hsame
    exact hsame.symm
  · intro t ht
    obtain ⟨p, -, -, hp⟩ := exists_of_mem_forall₂ htwins ht
    exact hp

/-- The one item begins no later than the other one. -/
def Twins.comesNoLater (t t' : Twins) : Bool := startsNoLater t.first t'.first

/-- **The path and the rules do not decide what the units of a source are**: at another path and
    under other rules a tree has the same fault, or the same units in the same order, with the same
    names, visibilities and spans. Only their purposes may be other ones, and a function `main` that
    is a child of the root may be the entry of a build script in one of the files. A tree that is
    not spread out may be refused for a span that does not exist, and then it is in both files. -/
theorem Setting.units_elsewhere (root : SyntaxTree) :
    (∃ fault, st.units root = .error (.syntaxFault fault)
        ∧ (st.elsewhere rules path).units root = .error (.syntaxFault fault))
      ∨ (¬root.Spread ∧ ∃ span, st.units root = .error (.invalidSpan span)
        ∧ (st.elsewhere rules path).units root = .error (.invalidSpan span))
      ∨ ∃ ts : List Twins, st.units root = .ok (ts.map Twins.first)
        ∧ (st.elsewhere rules path).units root = .ok (ts.map Twins.second)
        ∧ (ts.map Twins.visit).Perm (st.visits root)
        ∧ ∀ t ∈ ts, st.AreTwins rules path root t := by
  cases hfault : root.fault? st.source with
  | some fault =>
      have hthere : root.fault? (st.elsewhere rules path).source = some fault := hfault
      exact .inl ⟨fault, by rw [units, hfault], by rw [units, hthere]⟩
  | none =>
      have hthere : root.fault? (st.elsewhere rules path).source = none := hfault
      have hfirst := st.map_first_twins (st.elsewhere rules path) root
      have hsecond := st.map_second_twins rules path root
      rw [st.units_eq_visits hfault, (st.elsewhere rules path).units_eq_visits hthere, ← hfirst,
        ← hsecond]
      cases htwins : st.twins (st.elsewhere rules path) root with
      | error span =>
          refine .inr (.inl ⟨fun hspread => ?_, span, rfl, rfl⟩)
          refine st.units_ne_invalidSpan hspread span ?_
          rw [st.units_eq_visits hfault, ← hfirst, htwins]
          rfl
      | ok ts =>
          obtain ⟨hvisits, halike⟩ := st.twins_spec rules path htwins
          have hperm := List.mergeSort_perm ts Twins.comesNoLater
          refine .inr (.inr ⟨ts.mergeSort Twins.comesNoLater, ?_, ?_, ?_, ?_⟩)
          · refine congrArg Except.ok (List.map_mergeSort fun t _ t' _ => ?_).symm
            rfl
          · -- the spans are the same in both files, so the units are sorted alike
            refine congrArg Except.ok (List.map_mergeSort fun t ht t' ht' => ?_).symm
            rw [Twins.comesNoLater, startsNoLater, startsNoLater, (halike t ht).span,
              (halike t' ht').span]
          · exact hvisits ▸ hperm.map Twins.visit
          · exact fun t ht => halike t (hperm.mem_iff.1 ht)

/-- A function `main`. -/
def mainText : String := "fn main() {}"

/-- A tree of `mainText`. -/
def mainTree : SyntaxTree :=
  .node { kind := "source_file", start := 0, stop := 12 }
    [.node { kind := "function_item", start := 0, stop := 12 }
      [.node { kind := "identifier", start := 3, stop := 7, role := some "name" } []]]

/-- The units of `main` in a program and in a build script. -/
example :
    let program : Setting := ⟨{}, "src/main.rs", .ofString mainText⟩
    let unit : CodeUnit := ⟨some .function, "main", .inside, .clamped 1 1, .production⟩
    (program.twins (program.elsewhere {} "build.rs") mainTree).map (List.map Twins.first)
        = .ok [unit]
      ∧ (program.twins (program.elsewhere {} "build.rs") mainTree).map (List.map Twins.second)
        = .ok [{ unit with kind := some .buildScriptEntry, purpose := .buildScript }] := by
  decide +kernel

end DiffGauge.Syntax
