import DiffGauge.Syntax.Units

/-!
# Visits

The items that the walk over a tree comes to, one after another. Each is visited at an address, the
way down to it from the root, with the nodes before it and the scope around it.
-/

namespace DiffGauge.Syntax

/-- The way down to a node: which child to take, step by step. -/
abbrev Address := List Nat

/-- A visit to an item: where it stands, what is known of its place, the nodes before it, the
    nearest first, and the kind of its unit. -/
structure Visit where
  address : Address
  scope : Scope
  atRoot : Bool
  before : List SyntaxTree
  item : SyntaxTree
  kind : UnitKind

/-- The unit of the item that is visited. -/
def Setting.unitAt (st : Setting) (v : Visit) : Except InvalidSpan CodeUnit :=
  st.unitOf v.scope v.atRoot v.before v.item v.kind

mutual

/-- The visits to some nodes that stand side by side below an address. -/
def Setting.visitsAmong (st : Setting) (scope : Scope) (atRoot : Bool) (address : Address)
    (before : List SyntaxTree) : List SyntaxTree → List Visit
  | [] => []
  | t :: ts =>
    st.visitsFrom scope atRoot (address ++ [before.length]) before t
      ++ st.visitsAmong scope atRoot address (t :: before) ts

/-- The visits to a node at an address: to the item that it is and to those inside its body, or to
    those below it. -/
def Setting.visitsFrom (st : Setting) (scope : Scope) (atRoot : Bool) (address : Address)
    (before : List SyntaxTree) : SyntaxTree → List Visit
  | .node l ts =>
    if !l.isNamed || isClosed (.node l ts) then []
    else
      match unitKind? l.kind with
      | none => st.visitsAmong scope false address [] ts
      | some kind =>
        { address, scope, atRoot, before, item := .node l ts, kind }
          :: st.visitsInBody (st.scopeInside scope before (.node l ts)) address 0 ts

/-- The visits below the first of some nodes that is a body; the first of the nodes is child `i`
    of the node at the address. -/
def Setting.visitsInBody (st : Setting) (scope : Scope) (address : Address) (i : Nat) :
    List SyntaxTree → List Visit
  | [] => []
  | t :: ts =>
    if t.label.role == some "body" then st.visitsBelow scope (address ++ [i]) t
    else st.visitsInBody scope address (i + 1) ts

/-- The visits below a node. -/
def Setting.visitsBelow (st : Setting) (scope : Scope) (address : Address) :
    SyntaxTree → List Visit
  | .node _ ts => st.visitsAmong scope false address [] ts

end

/-- The visits of a whole tree. -/
def Setting.visits (st : Setting) (root : SyntaxTree) : List Visit :=
  st.visitsAmong (st.rootScope root) true [] [] root.children

end DiffGauge.Syntax
