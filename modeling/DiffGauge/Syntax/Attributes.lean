import DiffGauge.Attribute
import DiffGauge.Syntax.Tree
import DiffGauge.Text.Pieces

/-!
# Reading attributes from a tree

The arguments of an attribute are trees of raw tokens. They are divided at their commas, and each
group is read as a predicate: a name, a name with a value, or an operator with a tree of
arguments. Attributes before an item belong to it, and so do comments that document it.
-/

namespace DiffGauge.Syntax

open Text

/-! ## Predicates -/

/-- The kinds of bracket tokens. -/
def brackets : List String := ["(", ")", "[", "]", "\x7b", "\x7d"]

/-- The kind of a tree of raw tokens. -/
def tokenTreeKind : String := "token_tree"

/-- A token of an argument list: its kind, its text, and the predicates that the tokens below it
    read as. -/
structure Token where
  kind : String
  text : String
  isNamed : Bool
  args : List CfgPredicate
  deriving Repr

/-- The token divides arguments: a comma, alone or with other punctuation. -/
def Token.divides (t : Token) : Bool := !t.isNamed && holdsString "," t.text

/-- The groups of tokens between the commas of an argument list, without brackets and without
    empty groups. -/
def argumentGroups (ts : List Token) : List (List Token) :=
  (divideAt Token.divides (ts.filter fun t => !brackets.contains t.kind)).filter
    fun group => !group.isEmpty

/-- A text without the double quotes at its ends. -/
def withoutQuotes (s : String) : String :=
  let front := s.toList.dropWhile (· == '"')
  String.ofList (front.reverse.dropWhile (· == '"')).reverse

/-- The predicate that an operator makes of its arguments, if the name is one of an operator. -/
def operator? (name : String) (args : List CfgPredicate) : Option CfgPredicate :=
  if name = "all" then some (.all args)
  else if name = "any" then some (.any args)
  else if name = "not" then some (.not args)
  else none

/-- The predicate that a name makes with the tokens after it when it is no operator. -/
def valued (name : String) : List Token → CfgPredicate
  | eq :: value :: _ =>
    if eq.text = "=" then .option name (some (withoutQuotes value.text)) else .unknown name
  | _ => .unknown name

/-- The predicate of a group of tokens. -/
def predicateOf : List Token → CfgPredicate
  | [] => .unknown ""
  | [name] => .option name.text none
  | name :: second :: more =>
    let operated :=
      if second.kind = tokenTreeKind then operator? name.text second.args else none
    operated.getD (valued name.text (second :: more))

mutual

/-- A node as a token. -/
def Source.token (s : Source) : SyntaxTree → Token
  | .node l ts =>
    { kind := l.kind
      text := s.text (.node l [])
      isNamed := l.isNamed
      args := (argumentGroups (s.tokens ts)).map predicateOf }

/-- Nodes as tokens. -/
def Source.tokens (s : Source) : List SyntaxTree → List Token
  | [] => []
  | t :: ts => s.token t :: s.tokens ts

end

/-! ## Attributes -/

/-- The predicate of the arguments of a configuration attribute. It has one argument. -/
def Source.configuration (s : Source) (arguments : SyntaxTree) : CfgPredicate :=
  match argumentGroups (s.tokens arguments.children) with
  | [group] => predicateOf group
  | _ => .unknown ""

/-- The attribute that an attribute item holds. -/
def Source.attribute? (s : Source) (item : SyntaxTree) : Option Attribute := do
  let inside ← (SyntaxTree.namedOnly item.children).find? (·.kind == "attribute")
  let first ← (SyntaxTree.namedOnly inside.children).head?
  let path := squeezed "" (s.text first)
  let arguments := SyntaxTree.child? "arguments" inside.children
  return {
    path
    cfg :=
      if String.ofList (lastPathSegment path.toList) = "cfg" then arguments.map s.configuration
      else none }

/-- The kind of an attribute before an item. -/
def outerAttributeKind : String := "attribute_item"

/-- The kind of an attribute inside the scope that it belongs to. -/
def innerAttributeKind : String := "inner_attribute_item"

/-- The kind of a comment to the end of a line. -/
def lineCommentKind : String := "line_comment"

/-- The kind of a comment between marks. -/
def blockCommentKind : String := "block_comment"

/-- The node is a comment that documents the item after it. -/
def Source.isOuterDoc (s : Source) (t : SyntaxTree) : Bool :=
  let text := (s.text t).toList
  if t.kind = lineCommentKind then hasLead "///" text && !hasLead "////" text
  else if t.kind = blockCommentKind then
    hasLead "/**" text && !hasLead "/***" text && text != "/**/".toList
  else false

/-- The node may stand between an item and an attribute before it. -/
def isLeading (t : SyntaxTree) : Bool :=
  t.kind == outerAttributeKind || t.kind == lineCommentKind || t.kind == blockCommentKind

/-- The attributes before an item, in source order; `before` are the nodes before it, the nearest
    first. -/
def Source.outerAttributes (s : Source) (before : List SyntaxTree) : List Attribute :=
  (((before.takeWhile isLeading).filter fun t => t.kind == outerAttributeKind).filterMap
    s.attribute?).reverse

/-- The node of which an item's lines begin: the farthest attribute or documenting comment before
    it, else the item itself. -/
def Source.firstNode (s : Source) (before : List SyntaxTree) (item : SyntaxTree) : SyntaxTree :=
  ((before.takeWhile isLeading).filter fun t =>
    t.kind == outerAttributeKind || s.isOuterDoc t).getLast?.getD item

/-- The attributes that stand inside a scope and belong to it. -/
def Source.innerAttributes (s : Source) (children : List SyntaxTree) : List Attribute :=
  ((SyntaxTree.namedOnly children).filter fun t => t.kind == innerAttributeKind).filterMap
    s.attribute?

end DiffGauge.Syntax
