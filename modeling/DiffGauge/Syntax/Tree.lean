import DiffGauge.Text.Digit
import DiffGauge.Text.Utf8

/-!
# Syntax trees

A node of a syntax tree has a kind, a range of bytes of the source, perhaps a role in its parent,
and children in source order. A node can mark a fault: a stretch that fits nowhere, or a piece
that ought to be there and is not.
-/

namespace DiffGauge.Syntax

/-- The source that a tree describes, as bytes. -/
structure Source where
  bytes : List UInt8
  deriving DecidableEq, Repr

/-- The source of a text. -/
def Source.ofString (text : String) : Source := ⟨Text.Utf8.encodeString text⟩

/-- What a node says about itself, without its children. A node that is not named is a piece of
    punctuation or a keyword. -/
structure Label where
  kind : String
  start : Nat
  stop : Nat
  role : Option String := none
  isNamed : Bool := true
  isMissing : Bool := false
  isTextless : Bool := false
  isFlagged : Bool := false
  deriving DecidableEq, Repr

/-- A node of a syntax tree with its children. -/
inductive SyntaxTree where
  | node (label : Label) (children : List SyntaxTree)
  deriving Repr

namespace SyntaxTree

/-- The label of a node. -/
def label : SyntaxTree → Label
  | node l _ => l

/-- The children of a node. -/
def children : SyntaxTree → List SyntaxTree
  | node _ ts => ts

/-- The kind of a node. -/
def kind (t : SyntaxTree) : String := t.label.kind

/-- The first child with a role. -/
def child? (role : String) (ts : List SyntaxTree) : Option SyntaxTree :=
  ts.find? fun t => t.label.role == some role

/-- The children that are more than punctuation. -/
def namedOnly (ts : List SyntaxTree) : List SyntaxTree := ts.filter (·.label.isNamed)

end SyntaxTree

namespace Source

/-- The bytes from one offset up to another. -/
def slice (s : Source) (start stop : Nat) : List UInt8 :=
  (s.bytes.drop start).take (stop - start)

/-- The text of a node. -/
def text (s : Source) (t : SyntaxTree) : String :=
  if t.label.isTextless then ""
  else Text.Utf8.decodeString (s.slice t.label.start t.label.stop)

/-- The byte that ends a line. -/
def lineBreak : UInt8 := 10

/-- The number of line breaks before an offset. -/
def row (s : Source) (offset : Nat) : Nat := (s.bytes.take offset).count lineBreak

/-- The number of bytes between the last line break before an offset and the offset. -/
def column (s : Source) (offset : Nat) : Nat :=
  ((s.bytes.take offset).reverse.takeWhile (· != lineBreak)).length

end Source

/-! ## Faults -/

/-- The kind of a node that stands for a stretch that fits nowhere. -/
def faultKind : String := "ERROR"

/-- The node itself marks a fault. -/
def Label.isFault (l : Label) : Bool := l.kind == faultKind || l.isMissing

mutual

/-- The node or one below it marks a fault, or says that it does. -/
def SyntaxTree.hasFault : SyntaxTree → Bool
  | .node l ts => l.isFlagged || l.isFault || anyHasFault ts

/-- One of the nodes has a fault. -/
def anyHasFault : List SyntaxTree → Bool
  | [] => false
  | t :: ts => t.hasFault || anyHasFault ts

end

mutual

/-- The first node that marks a fault, of a node and those below it. Children without a fault
    are passed over. -/
def SyntaxTree.firstFault? : SyntaxTree → Option SyntaxTree
  | .node l ts => if l.isFault then some (.node l ts) else firstFaultAmong? ts

/-- The first node that marks a fault, of some nodes and those below them. -/
def firstFaultAmong? : List SyntaxTree → Option SyntaxTree
  | [] => none
  | t :: ts =>
    match if t.hasFault then t.firstFault? else none with
    | some bad => some bad
    | none => firstFaultAmong? ts

end

/-- Why a source is refused: it is no Rust at all, or its tree marks a fault at a line and a
    column, both counted from one. -/
inductive SyntaxFault where
  | unreadable
  | missing (kind : String) (line column : Nat)
  | unexpected (line column : Nat)
  deriving DecidableEq, Repr

/-- The wording of a fault in the file at `path`. -/
def SyntaxFault.message (path : String) : SyntaxFault → String
  | .unreadable => "failed to parse '" ++ path ++ "': syntax error"
  | .missing kind line column =>
    "failed to parse '" ++ path ++ "' at " ++ Text.natText line ++ ":" ++ Text.natText column
      ++ ": missing '" ++ kind ++ "'"
  | .unexpected line column =>
    "failed to parse '" ++ path ++ "' at " ++ Text.natText line ++ ":" ++ Text.natText column
      ++ ": unexpected syntax"

/-- The fault of a tree that has one. A tree that has none to show is itself the fault. -/
def SyntaxTree.fault? (source : Source) (t : SyntaxTree) : Option SyntaxFault :=
  if t.hasFault then
    let bad := t.firstFault?.getD t
    let line := source.row bad.label.start + 1
    let column := source.column bad.label.start + 1
    some (if bad.label.isMissing then .missing bad.kind line column
      else .unexpected line column)
  else none

end DiffGauge.Syntax
