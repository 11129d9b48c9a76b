import DiffGauge.Proofs.Traversal
import DiffGauge.Proofs.Syntax.Order
import DiffGauge.Syntax.Visits

/-!
# The items that a walk comes to

The walk over a tree makes a unit of every item that it comes to. Apart from that, it is a list of
visits, each to an item at an address. An item lies in the body of another one if its address goes
on from there.

Whatever is said of the visits is proved by one induction, `visits_induction`: there are nodes that
the walk passes over, items, and nodes that lead to those below them.

* `unitAt_eq` says what the unit of a visit is;
* `unitsAmong_eq_mapM` says that the units are those of the visits, in the same order, and
  `units_eq_visits` that those of a tree are these, sorted;
* `visitsAmong_address` says that the visits below a node go on from its address;
* `visits_standIn` says that a visit is to the item at its address, after the nodes before it.
-/

namespace DiffGauge.Syntax

/-- The node at an address below a node. -/
def SyntaxTree.at? : Address → SyntaxTree → Option SyntaxTree
  | [], t => some t
  | i :: address, t => t.children[i]?.bind (SyntaxTree.at? address)

/-- The visit is to an item inside that of the other one. -/
def Visit.IsInside (inner outer : Visit) : Prop :=
  outer.address <+: inner.address ∧ outer.address ≠ inner.address

/-- The span of the unit of an item, if it has one. -/
def Source.span? (s : Source) (v : Visit) : Except InvalidSpan LineSpan :=
  LineSpan.ofBounds? ((s.rows v.before v.item).1 + 1) ((s.rows v.before v.item).2 + 1)

/-- The unit of an item that has a span. -/
def Setting.unitWith (st : Setting) (v : Visit) (span : LineSpan) : CodeUnit where
  kind := some (if st.isEntry v.atRoot v.kind (st.source.unitName v.item) then .buildScriptEntry
    else v.kind)
  name := st.source.unitName v.item
  visibility := st.source.visibility v.item
  span := span
  purpose := .of st.rules (st.source.outerAttributes v.before) v.scope.enclosing v.scope.modules
    st.path

/-- The source decides whether an item has a unit, and the span of the unit. -/
theorem Setting.unitAt_eq (st : Setting) (v : Visit) :
    st.unitAt v = (st.source.span? v).map (st.unitWith v) := by
  rw [unitAt, unitOf, Source.span?]
  obtain ⟨first, last⟩ := st.source.rows v.before v.item
  dsimp only
  cases LineSpan.ofBounds? (first + 1) (last + 1) with
  | error e => rfl
  | ok span => rfl

/-! ## The walk, step by step -/

/-- The walk does not look into the node: a piece of punctuation, an attribute or a comment. -/
def isPassedOver (t : SyntaxTree) : Bool := !t.label.isNamed || isClosed t

/-- The place of the first body among some nodes. -/
def bodyPlace (ts : List SyntaxTree) : Nat := ts.findIdx (·.label.role == some "body")

/-- The nodes in the first body among some nodes. -/
def bodyNodes (ts : List SyntaxTree) : List SyntaxTree :=
  match SyntaxTree.child? "body" ts with
  | some body => body.children
  | none => []

/-- The nodes in a body are those below the node at its place. -/
theorem bodyNodes_spec (ts : List SyntaxTree) :
    bodyNodes ts = [] ∨ ∃ body, ts[bodyPlace ts]? = some body ∧ bodyNodes ts = body.children := by
  rw [bodyNodes]
  cases hbody : SyntaxTree.child? "body" ts with
  | none => exact .inl rfl
  | some body =>
      refine .inr ⟨body, ?_, rfl⟩
      rw [SyntaxTree.child?, List.find?_eq_getElem?_findIdx] at hbody
      exact hbody

private theorem bodyNodes_cons (t : SyntaxTree) (ts : List SyntaxTree) :
    bodyNodes (t :: ts) = if t.label.role == some "body" then t.children else bodyNodes ts := by
  rw [bodyNodes, bodyNodes, SyntaxTree.child?, SyntaxTree.child?, List.find?_cons]
  cases t.label.role == some "body" with
  | true => rfl
  | false => rfl

/-- The nodes in the body of a node in order stand in it. -/
theorem SyntaxTree.InOrder.bodyNodes {t : SyntaxTree} (h : t.InOrder) :
    ∃ start stop, t.label.start ≤ start ∧ InOrderBetween start stop (bodyNodes t.children)
      ∧ stop ≤ t.label.stop := by
  rcases bodyNodes_spec t.children with hnone | ⟨body, hbody, hnodes⟩
  · refine ⟨t.label.start, t.label.start, Nat.le_refl _, ?_, h.spread.start_le_stop⟩
    rw [hnone]
    exact Nat.le_refl _
  · obtain ⟨hstart, hinOrder, hstop⟩ := h.children.of_mem (List.mem_of_getElem? hbody)
    refine ⟨body.label.start, body.label.stop, hstart, ?_, hstop⟩
    rw [hnodes]
    exact hinOrder.children

/-- What holds of a node if it holds of its children holds of every tree. -/
@[elab_as_elim]
theorem SyntaxTree.induction {motive : SyntaxTree → Prop}
    (node : ∀ l ts, (∀ t ∈ ts, motive t) → motive (.node l ts)) (t : SyntaxTree) : motive t :=
  @SyntaxTree.rec motive (fun ts => ∀ t ∈ ts, motive t) node (List.forall_mem_nil _)
    (fun _ _ ht hts => List.forall_mem_cons.2 ⟨ht, hts⟩) t

variable (st : Setting)

/-- **Induction along the walk** over some nodes that stand side by side: it comes to one node after
    the other, and passes over a node, goes on to the nodes below it, or to those in its body if it
    is an item. -/
@[elab_as_elim]
theorem Setting.visits_induction
    {motive : Scope → Bool → Address → List SyntaxTree → List SyntaxTree → Prop}
    (nil : ∀ scope atRoot address before, motive scope atRoot address before [])
    (cons : ∀ scope atRoot address before t ts, motive scope atRoot address before [t] →
      motive scope atRoot address (t :: before) ts → motive scope atRoot address before (t :: ts))
    (passed : ∀ scope atRoot address before t, isPassedOver t = true →
      motive scope atRoot address before [t])
    (other : ∀ scope atRoot address before t, isPassedOver t = false → unitKind? t.kind = none →
      motive scope false (address ++ [before.length]) [] t.children →
      motive scope atRoot address before [t])
    (item : ∀ scope atRoot address before t kind, isPassedOver t = false →
      unitKind? t.kind = some kind →
      motive (st.scopeInside scope before t) false
        (address ++ [before.length] ++ [bodyPlace t.children]) [] (bodyNodes t.children) →
      motive scope atRoot address before [t])
    (scope : Scope) (atRoot : Bool) (address : Address) (before ts : List SyntaxTree) :
    motive scope atRoot address before ts := by
  have hamong : ∀ ts : List SyntaxTree,
      (∀ t ∈ ts, ∀ scope atRoot address before, motive scope atRoot address before [t]) →
      ∀ scope atRoot address before, motive scope atRoot address before ts := by
    intro ts hts scope atRoot address before
    induction ts generalizing before with
    | nil => exact nil scope atRoot address before
    | cons t ts ih =>
        exact cons scope atRoot address before t ts (hts t List.mem_cons_self _ _ _ _)
          (ih (fun u hu => hts u (List.mem_cons_of_mem t hu)) _)
  -- the walk comes to the children of a body without coming to the body
  have hnode : ∀ t : SyntaxTree,
      (∀ scope atRoot address before, motive scope atRoot address before [t]) ∧
      ∀ scope atRoot address before, motive scope atRoot address before t.children := by
    intro t
    induction t using SyntaxTree.induction with
    | node l ts ih =>
        have hbelow := hamong ts fun t ht => (ih t ht).1
        refine ⟨fun scope atRoot address before => ?_, hbelow⟩
        cases hpassed : isPassedOver (.node l ts) with
        | true => exact passed _ _ _ _ _ hpassed
        | false =>
            cases hkind : unitKind? l.kind with
            | none => exact other _ _ _ _ _ hpassed hkind (hbelow _ _ _ _)
            | some kind =>
                refine item _ _ _ _ _ kind hpassed hkind ?_
                rcases bodyNodes_spec ts with hnone | ⟨body, hbody, hnodes⟩
                · exact (congrArg (motive _ _ _ _) hnone).mpr (nil _ _ _ _)
                · exact (congrArg (motive _ _ _ _) hnodes).mpr
                    ((ih body (List.mem_of_getElem? hbody)).2 _ _ _ _)
  exact hamong ts (fun t _ => (hnode t).1) scope atRoot address before

section Steps

variable {scope : Scope} {atRoot : Bool} {address : Address} {before : List SyntaxTree}
  {t : SyntaxTree}

/-- Without nodes there is nothing to visit. -/
@[simp] theorem Setting.visitsAmong_nil : st.visitsAmong scope atRoot address before [] = [] := by
  rw [visitsAmong]

/-- The visits to a node, and those to the nodes after it. -/
theorem Setting.visitsAmong_cons {ts : List SyntaxTree} :
    st.visitsAmong scope atRoot address before (t :: ts)
      = st.visitsAmong scope atRoot address before [t]
        ++ st.visitsAmong scope atRoot address (t :: before) ts := by
  simp only [visitsAmong, List.append_nil]

/-- A node that is passed over is not visited. -/
theorem Setting.visitsAmong_passed (hpassed : isPassedOver t = true) :
    st.visitsAmong scope atRoot address before [t] = [] := by
  obtain ⟨l, ts⟩ := t
  rw [visitsAmong, visitsAmong_nil, List.append_nil, visitsFrom]
  exact if_pos hpassed

/-- A node that is no item leads to the nodes below it. -/
theorem Setting.visitsAmong_other (hpassed : isPassedOver t = false)
    (hkind : unitKind? t.kind = none) :
    st.visitsAmong scope atRoot address before [t]
      = st.visitsAmong scope false (address ++ [before.length]) [] t.children := by
  obtain ⟨l, ts⟩ := t
  have hkind : unitKind? l.kind = none := hkind
  rw [visitsAmong, visitsAmong_nil, List.append_nil, visitsFrom, hkind]
  exact if_neg (ne_true_of_eq_false hpassed)

/-- The visits in a body are those to its children. -/
theorem Setting.visitsInBody_eq (i : Nat) (ts : List SyntaxTree) :
    st.visitsInBody scope address i ts
      = st.visitsAmong scope false (address ++ [i + bodyPlace ts]) [] (bodyNodes ts) := by
  induction ts generalizing i with
  | nil =>
      rw [visitsInBody]
      exact st.visitsAmong_nil.symm
  | cons t ts ih =>
      rw [visitsInBody, bodyNodes_cons, bodyPlace, List.findIdx_cons]
      cases hbody : t.label.role == some "body" with
      | true =>
          obtain ⟨l, us⟩ := t
          rw [if_pos rfl, if_pos rfl, visitsBelow]
          rfl
      | false =>
          rw [if_neg Bool.false_ne_true, if_neg Bool.false_ne_true, ih, Nat.add_assoc,
            Nat.add_comm 1]
          rfl

/-- An item is visited, and then what is in its body. -/
theorem Setting.visitsAmong_item {kind : UnitKind} (hpassed : isPassedOver t = false)
    (hkind : unitKind? t.kind = some kind) :
    st.visitsAmong scope atRoot address before [t]
      = { address := address ++ [before.length], scope, atRoot, before, item := t, kind }
        :: st.visitsAmong (st.scopeInside scope before t) false
            (address ++ [before.length] ++ [bodyPlace t.children]) [] (bodyNodes t.children) := by
  obtain ⟨l, ts⟩ := t
  have hkind : unitKind? l.kind = some kind := hkind
  rw [visitsAmong, visitsAmong_nil, List.append_nil, visitsFrom, hkind]
  refine (if_neg (ne_true_of_eq_false hpassed)).trans (congrArg (List.cons _) ?_)
  rw [visitsInBody_eq, Nat.zero_add]
  rfl

/-- Without nodes there are no units. -/
@[simp] theorem Setting.unitsAmong_nil :
    st.unitsAmong scope atRoot before [] = .ok [] := by
  rw [unitsAmong]

/-- The units of a node side by side with no other one are those of the node. -/
theorem Setting.unitsAmong_singleton :
    st.unitsAmong scope atRoot before [t] = st.unitsFrom scope atRoot before t := by
  rw [unitsAmong, unitsAmong_nil]
  cases st.unitsFrom scope atRoot before t with
  | error e => rfl
  | ok units => exact congrArg Except.ok (List.append_nil units)

/-- The units of a node, and those of the nodes after it. -/
theorem Setting.unitsAmong_cons {ts : List SyntaxTree} :
    st.unitsAmong scope atRoot before (t :: ts) = do
      let units ← st.unitsAmong scope atRoot before [t]
      return units ++ (← st.unitsAmong scope atRoot (t :: before) ts) := by
  rw [unitsAmong_singleton, unitsAmong]

/-- The units in a body are those of its children. -/
theorem Setting.unitsInBody_eq (ts : List SyntaxTree) :
    st.unitsInBody scope ts = st.unitsAmong scope false [] (bodyNodes ts) := by
  induction ts with
  | nil =>
      rw [unitsInBody]
      exact st.unitsAmong_nil.symm
  | cons t ts ih =>
      rw [unitsInBody, bodyNodes_cons, ih]
      split
      · obtain ⟨l, us⟩ := t
        rw [unitsBelow]
        rfl
      · rfl

end Steps

/-! ## The units of the visits -/

/-- The units of nodes side by side are those of the visits to them. -/
theorem Setting.unitsAmong_eq_mapM (scope : Scope) (atRoot : Bool) (address : Address)
    (before ts : List SyntaxTree) :
    st.unitsAmong scope atRoot before ts
      = (st.visitsAmong scope atRoot address before ts).mapM st.unitAt := by
  induction scope, atRoot, address, before, ts using st.visits_induction with
  | nil =>
      rw [unitsAmong_nil, visitsAmong_nil, List.mapM_nil]
      rfl
  | cons scope atRoot address before t ts here after =>
      rw [unitsAmong_cons, visitsAmong_cons, List.mapM_append, here, after]
  | passed scope atRoot address before t hpassed =>
      obtain ⟨l, ts⟩ := t
      rw [unitsAmong_singleton, st.visitsAmong_passed hpassed, List.mapM_nil, unitsFrom]
      exact if_pos hpassed
  | other scope atRoot address before t hpassed hkind below =>
      obtain ⟨l, ts⟩ := t
      have hkind' : unitKind? l.kind = none := hkind
      rw [unitsAmong_singleton, st.visitsAmong_other hpassed hkind, ← below, unitsFrom, hkind']
      exact if_neg (ne_true_of_eq_false hpassed)
  | item scope atRoot address before t kind hpassed hkind inside =>
      obtain ⟨l, ts⟩ := t
      have hkind' : unitKind? l.kind = some kind := hkind
      rw [unitsAmong_singleton, st.visitsAmong_item hpassed hkind, List.mapM_cons, ← inside,
        unitsFrom, hkind', unitsInBody_eq]
      exact if_neg (ne_true_of_eq_false hpassed)

/-- The units of a tree without a fault are those of its visits, sorted. -/
theorem Setting.units_eq_visits {root : SyntaxTree} (hfault : root.fault? st.source = none) :
    st.units root =
      match (st.visits root).mapM st.unitAt with
      | .error span => .error (.invalidSpan span)
      | .ok units => .ok (units.mergeSort startsNoLater) := by
  rw [units, hfault, st.unitsAmong_eq_mapM _ _ []]
  rfl

/-! ## Addresses -/

private theorem SyntaxTree.at?_append (front back : Address) (t : SyntaxTree) :
    SyntaxTree.at? (front ++ back) t = (SyntaxTree.at? front t).bind (SyntaxTree.at? back) := by
  induction front generalizing t with
  | nil => rfl
  | cons i front ih =>
      rw [List.cons_append, SyntaxTree.at?, SyntaxTree.at?]
      cases t.children[i]? with
      | none => rfl
      | some u => exact ih u

/-- What goes on from a child does not go on from another one. -/
theorem not_prefix_of_siblings {address a b : Address} {i j : Nat} (hne : i ≠ j)
    (ha : address ++ [i] <+: a) (hb : address ++ [j] <+: b) : ¬a <+: b := by
  intro hab
  have hlength : (address ++ [i]).length ≤ (address ++ [j]).length := by simp
  have hsame := (List.prefix_of_prefix_length_le (ha.trans hab) hb hlength).eq_of_length
    (by simp)
  exact hne (List.singleton_inj.1 (List.append_cancel_left hsame))

/-- The visits to nodes side by side go on from those nodes. -/
theorem Setting.visitsAmong_address (scope : Scope) (atRoot : Bool) (address : Address)
    (before ts : List SyntaxTree) :
    ∀ v ∈ st.visitsAmong scope atRoot address before ts,
      ∃ j, before.length ≤ j ∧ j < before.length + ts.length ∧ address ++ [j] <+: v.address := by
  induction scope, atRoot, address, before, ts using st.visits_induction with
  | nil =>
      rw [visitsAmong_nil]
      exact List.forall_mem_nil _
  | cons scope atRoot address before t ts here after =>
      rw [visitsAmong_cons]
      rw [List.length_cons] at *
      refine List.forall_mem_append.2 ⟨fun v hv => ?_, fun v hv => ?_⟩
      · obtain ⟨j, hle, hlt, haddress⟩ := here v hv
        exact ⟨j, hle, Nat.lt_of_lt_of_le hlt (by simp), haddress⟩
      · obtain ⟨j, hle, hlt, haddress⟩ := after v hv
        exact ⟨j, Nat.le_of_succ_le hle, by omega, haddress⟩
  | passed scope atRoot address before t hpassed =>
      rw [st.visitsAmong_passed hpassed]
      exact List.forall_mem_nil _
  | other scope atRoot address before t hpassed hkind below =>
      rw [st.visitsAmong_other hpassed hkind]
      intro v hv
      obtain ⟨j, -, -, haddress⟩ := below v hv
      exact ⟨_, Nat.le_refl _, Nat.lt_succ_self _, (List.prefix_append _ _).trans haddress⟩
  | item scope atRoot address before t kind hpassed hkind inside =>
      rw [st.visitsAmong_item hpassed hkind]
      refine List.forall_mem_cons.2
        ⟨⟨_, Nat.le_refl _, Nat.lt_succ_self _, List.prefix_refl _⟩, fun v hv => ?_⟩
      obtain ⟨j, -, -, haddress⟩ := inside v hv
      exact ⟨_, Nat.le_refl _, Nat.lt_succ_self _,
        (List.prefix_append _ _).trans ((List.prefix_append _ _).trans haddress)⟩

/-- The visits to a node and below it go on from its address. -/
theorem Setting.visitsAmong_singleton_address {scope : Scope} {atRoot : Bool} {address : Address}
    {before : List SyntaxTree} {t : SyntaxTree} {v : Visit}
    (hv : v ∈ st.visitsAmong scope atRoot address before [t]) :
    address ++ [before.length] <+: v.address := by
  obtain ⟨j, hle, hlt, haddress⟩ := st.visitsAmong_address _ _ _ _ _ v hv
  exact Nat.le_antisymm (Nat.le_of_lt_succ hlt) hle ▸ haddress

/-! ## Where the visits are -/

/-- The node stands at an address below the root, after the given siblings, the nearest first. -/
def SyntaxTree.StandsAt (root : SyntaxTree) (address : Address) (before : List SyntaxTree)
    (t : SyntaxTree) : Prop :=
  ∃ above parent after, address = above ++ [before.length] ∧
    SyntaxTree.at? above root = some parent ∧ parent.children = before.reverse ++ t :: after

/-- The visit is to an item of the tree, at its address and after the nodes before it. -/
structure Visit.StandsIn (root : SyntaxTree) (v : Visit) : Prop where
  place : root.StandsAt v.address v.before v.item
  isItem : v.item.label.isItem = true
  kind : unitKind? v.item.kind = some v.kind

/-- A node that the walk looks at and that has the kind of a unit is an item. -/
theorem isItem_of_not_passed {t : SyntaxTree} {kind : UnitKind} (hpassed : isPassedOver t = false)
    (hkind : unitKind? t.kind = some kind) : t.label.isItem = true := by
  have hkind : unitKind? t.label.kind = some kind := hkind
  rw [isPassedOver, Bool.or_eq_false_iff, Bool.not_eq_false'] at hpassed
  rw [Label.isItem, hpassed.1, hkind]
  rfl

/-- The node that stands at an address is found there. -/
theorem SyntaxTree.StandsAt.at?_eq {root t : SyntaxTree} {address : Address}
    {before : List SyntaxTree} (h : root.StandsAt address before t) :
    SyntaxTree.at? address root = some t := by
  obtain ⟨above, parent, after, rfl, hparent, hchildren⟩ := h
  rw [at?_append, hparent]
  show (parent.children[before.length]?).bind some = some t
  rw [hchildren, List.getElem?_append_right (by simp), List.length_reverse, Nat.sub_self]
  rfl

variable {root : SyntaxTree}

/-- The visits to children of a node stand below it. -/
theorem Setting.visitsAmong_standIn (scope : Scope) (atRoot : Bool) (address : Address)
    (before ts : List SyntaxTree) (parent : SyntaxTree) (after : List SyntaxTree)
    (hparent : SyntaxTree.at? address root = some parent)
    (hchildren : parent.children = before.reverse ++ ts ++ after) :
    ∀ v ∈ st.visitsAmong scope atRoot address before ts, v.StandsIn root := by
  induction scope, atRoot, address, before, ts using st.visits_induction
    generalizing parent after with
  | nil =>
      rw [visitsAmong_nil]
      exact List.forall_mem_nil _
  | cons scope atRoot address before t ts here rest =>
      rw [visitsAmong_cons]
      refine List.forall_mem_append.2 ⟨here parent (ts ++ after) hparent ?_,
        rest parent after hparent ?_⟩
      · rw [hchildren]; simp
      · rw [hchildren]; simp
  | passed scope atRoot address before t hpassed =>
      rw [st.visitsAmong_passed hpassed]
      exact List.forall_mem_nil _
  | other scope atRoot address before t hpassed hkind below =>
      have hplace : root.StandsAt (address ++ [before.length]) before t :=
        ⟨address, parent, after, rfl, hparent, by simp [hchildren]⟩
      rw [st.visitsAmong_other hpassed hkind]
      exact below t [] hplace.at?_eq (List.append_nil _).symm
  | item scope atRoot address before t kind hpassed hkind inside =>
      have hplace : root.StandsAt (address ++ [before.length]) before t :=
        ⟨address, parent, after, rfl, hparent, by simp [hchildren]⟩
      rw [st.visitsAmong_item hpassed hkind]
      refine List.forall_mem_cons.2
        ⟨⟨hplace, isItem_of_not_passed hpassed hkind, hkind⟩, ?_⟩
      rcases bodyNodes_spec t.children with hnone | ⟨body, hbody, hnodes⟩
      · rw [hnone, visitsAmong_nil]
        exact List.forall_mem_nil _
      · refine inside body [] ?_ (by simp [hnodes])
        rw [SyntaxTree.at?_append, hplace.at?_eq]
        show (t.children[bodyPlace t.children]?).bind some = some body
        rw [hbody]
        rfl

/-- The visits of a tree are to items of the tree. -/
theorem Setting.visits_standIn : ∀ v ∈ st.visits root, v.StandsIn root :=
  st.visitsAmong_standIn _ _ [] [] root.children root [] rfl (List.append_nil _).symm

end DiffGauge.Syntax
