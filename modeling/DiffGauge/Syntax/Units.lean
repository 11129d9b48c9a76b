import DiffGauge.Purpose
import DiffGauge.Syntax.Attributes

/-!
# The units of a tree

Walking a tree from its root, every item becomes a unit, an outer one before those inside it. A
unit takes the lines from the first attribute or documenting comment before it to its end; its
purpose follows from its attributes, from those of the scopes around it and from its place.
-/

namespace DiffGauge.Syntax

open Text

/-- The unit that an item of a kind makes. -/
def unitKind? (kind : String) : Option UnitKind :=
  match kind with
  | "function_item" | "function_signature_item" => some .function
  | "struct_item" | "enum_item" | "union_item" | "type_item" => some .typeDefinition
  | "trait_item" => some .interfaceDeclaration
  | "impl_item" => some .implementationBlock
  | "mod_item" => some .moduleBlock
  | _ => none

/-- The item is a module. -/
def isModule (t : SyntaxTree) : Bool := t.kind == "mod_item"

/-- The kinds of nodes that hold no items. -/
def isClosed (t : SyntaxTree) : Bool :=
  [outerAttributeKind, innerAttributeKind, tokenTreeKind, lineCommentKind,
    blockCommentKind].contains t.kind

/-- The kinds of types that give an implementation block a name. -/
def namedTypes : List String :=
  ["type_identifier", "generic_type", "scoped_type_identifier", "primitive_type"]

/-- The name of an implementation block: its type, after the trait that it implements. A block
    for a type of another shape has no name. -/
def Source.implName (s : Source) (children : List SyntaxTree) : String :=
  match SyntaxTree.child? "type" children with
  | none => ""
  | some self =>
    if namedTypes.contains self.kind then
      let name := squeezed " " (s.text self)
      match SyntaxTree.child? "trait" children with
      | none => name
      | some implemented =>
        (if children.any (·.kind == "!") then "!" else "")
          ++ squeezed " " (s.text implemented) ++ " for " ++ name
    else ""

/-- The name of an item. -/
def Source.unitName (s : Source) (item : SyntaxTree) : String :=
  if item.kind = "impl_item" then s.implName item.children
  else
    match SyntaxTree.child? "name" item.children with
    | some name => s.text name
    | none => ""

/-- Who may name an item, by its modifier. -/
def Source.visibility (s : Source) (item : SyntaxTree) : Visibility :=
  match (SyntaxTree.namedOnly item.children).find? (·.kind == "visibility_modifier") with
  | none => .inside
  | some modifier =>
    let text := squeezed "" (s.text modifier)
    if text = "pub" then .everyone
    else if hasLead "pub(" text.toList || text = "crate" then .moduleScoped
    else .everyone

/-- The rows of an item, counted from zero: from its first node to its end. An item that ends
    where a line begins ends with the line before. -/
def Source.rows (s : Source) (before : List SyntaxTree) (item : SyntaxTree) : Nat × Nat :=
  let first := s.row (s.firstNode before item).label.start
  let last := s.row item.label.stop
  if s.column item.label.stop = 0 ∧ first < last then (first, last - 1) else (first, last)

/-- What is known of the file that a tree belongs to. -/
structure Setting where
  rules : Rules
  path : String
  source : Source
  deriving Repr

/-- What is known of the place of a node: the attributes of the scopes around it and the modules
    that it lies in. -/
structure Scope where
  enclosing : List Attribute
  modules : List String
  deriving Repr

/-- The function is the entry of a build script. -/
def Setting.isEntry (st : Setting) (atRoot : Bool) (kind : UnitKind) (name : String) : Bool :=
  kind == .function && atRoot && name == "main" && Path.isBuildScript st.rules st.path

/-- The unit of an item. `before` are the nodes before it, the nearest first. -/
def Setting.unitOf (st : Setting) (scope : Scope) (atRoot : Bool) (before : List SyntaxTree)
    (item : SyntaxTree) (kind : UnitKind) : Except InvalidSpan CodeUnit := do
  let name := st.source.unitName item
  let own := st.source.outerAttributes before
  let (first, last) := st.source.rows before item
  let span ← LineSpan.ofBounds? (first + 1) (last + 1)
  return {
    kind := some (if st.isEntry atRoot kind name then .buildScriptEntry else kind)
    name
    visibility := st.source.visibility item
    span
    purpose := .of st.rules own scope.enclosing scope.modules st.path }

/-- The scope inside an item. -/
def Setting.scopeInside (st : Setting) (scope : Scope) (before : List SyntaxTree)
    (item : SyntaxTree) : Scope :=
  let own := scope.enclosing ++ st.source.outerAttributes before
  if isModule item then
    { enclosing :=
        match SyntaxTree.child? "body" item.children with
        | some body => own ++ st.source.innerAttributes body.children
        | none => own
      modules := scope.modules ++ [st.source.unitName item] }
  else { enclosing := own, modules := scope.modules }

mutual

/-- The units of some nodes that stand side by side. -/
def Setting.unitsAmong (st : Setting) (scope : Scope) (atRoot : Bool)
    (before : List SyntaxTree) : List SyntaxTree → Except InvalidSpan (List CodeUnit)
  | [] => .ok []
  | t :: ts => do
    let units ← st.unitsFrom scope atRoot before t
    return units ++ (← st.unitsAmong scope atRoot (t :: before) ts)

/-- The units of a node: the item that it is with those inside its body, or those below it. -/
def Setting.unitsFrom (st : Setting) (scope : Scope) (atRoot : Bool)
    (before : List SyntaxTree) : SyntaxTree → Except InvalidSpan (List CodeUnit)
  | .node l ts =>
    if !l.isNamed || isClosed (.node l ts) then .ok []
    else
      match unitKind? l.kind with
      | none => st.unitsAmong scope false [] ts
      | some kind => do
        let unit ← st.unitOf scope atRoot before (.node l ts) kind
        let inner ← st.unitsInBody (st.scopeInside scope before (.node l ts)) ts
        return unit :: inner

/-- The units below the first of some nodes that is a body. -/
def Setting.unitsInBody (st : Setting) (scope : Scope) :
    List SyntaxTree → Except InvalidSpan (List CodeUnit)
  | [] => .ok []
  | t :: ts =>
    if t.label.role == some "body" then st.unitsBelow scope t else st.unitsInBody scope ts

/-- The units below a node. -/
def Setting.unitsBelow (st : Setting) (scope : Scope) :
    SyntaxTree → Except InvalidSpan (List CodeUnit)
  | .node _ ts => st.unitsAmong scope false [] ts

end

/-- Why a tree gives no units. -/
inductive Refusal where
  | syntaxFault (fault : SyntaxFault)
  | invalidSpan (span : InvalidSpan)
  deriving DecidableEq, Repr

/-- The unit begins no later than the other one. -/
def startsNoLater (u v : CodeUnit) : Bool := u.span.first ≤ v.span.first

/-- The scope of the whole file. -/
def Setting.rootScope (st : Setting) (root : SyntaxTree) : Scope :=
  { enclosing := st.source.innerAttributes root.children, modules := Path.moduleOf st.path }

/-- The units of a whole tree, by their first line. A tree with a fault has none. -/
def Setting.units (st : Setting) (root : SyntaxTree) : Except Refusal (List CodeUnit) :=
  match root.fault? st.source with
  | some fault => .error (.syntaxFault fault)
  | none =>
    match st.unitsAmong (st.rootScope root) true [] root.children with
    | .error span => .error (.invalidSpan span)
    | .ok units => .ok (units.mergeSort startsNoLater)

/-- The units of the source `text` of the file at `path`. A parser makes a tree of the source, or
    finds a fault in it. -/
def unitsBy (parse : String → Except SyntaxFault SyntaxTree) (rules : Rules) (path text : String) :
    Except Refusal (List CodeUnit) :=
  match parse text with
  | .error fault => .error (.syntaxFault fault)
  | .ok root => Setting.units ⟨rules, path, .ofString text⟩ root

end DiffGauge.Syntax
