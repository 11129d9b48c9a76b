import DiffGauge.Rust.Rules
import DiffGauge.Syntax.Units

/-!
# Reading Rust

A source is cut into lexemes, the lexemes are matched against the grammar of a file, and what is
matched becomes the children of the root. A source that is not matched to its end has no tree.
The analysis can be given another reader.
-/

namespace DiffGauge.Rust

open Syntax

/-- A bound on the depth of a match of so many lexemes, far above what any match needs. -/
def depthFor (lexemes : Nat) : Nat := 1000 * (lexemes + 10)

/-- The tree of a source, if the source is Rust. -/
def read? (text : String) : Option SyntaxTree := do
  let source ← Lexemes.read? text.toList
  match Grammar.run G.of (depthFor source.lexemes.length) (.rule .file) source.lexemes with
  | .found trees [] =>
    let trees := trees ++ source.trailing.map Comment.leaf
    return .node
      { kind := "source_file"
        start := (trees.head?.map (·.label.start)).getD 0
        stop := (trees.getLast?.map (·.label.stop)).getD 0 }
      trees
  | _ => none

/-- The tree of a source, which is at fault if it is not Rust. -/
def parse (text : String) : Except SyntaxFault SyntaxTree :=
  match read? text with
  | some root => .ok root
  | none => .error .unreadable

/-- The units of the Rust source `text` of the file at `path`. -/
def unitsOf (rules : Rules) (path text : String) : Except Refusal (List CodeUnit) :=
  unitsBy parse rules path text

end DiffGauge.Rust
