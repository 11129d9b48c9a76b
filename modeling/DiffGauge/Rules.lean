import DiffGauge.Text.Pieces

/-!
# Classification rules

The names that decide what a piece of code is for: attributes, features, directories, module
names and file names. A rule usually lists its names; a rule given as one text has every part
of that text.
-/

namespace DiffGauge

/-- A collection of names: a list of them, or every part of one text. -/
inductive Names where
  | each (names : List String)
  | partsOf (text : String)
  deriving DecidableEq, Repr

namespace Names

/-- The name belongs to the collection. -/
def has : Names → String → Bool
  | each names, n => names.contains n
  | partsOf text, n => Text.holdsString n text

/-- The patterns of a collection that is gone through one by one. A text is gone through
    character by character. -/
def patterns : Names → List String
  | each names => names
  | partsOf text => text.toList.map fun c => String.ofList [c]

end Names

/-- The names that classification goes by. -/
structure Rules where
  testAttributes : Names := .each ["test", "rstest", "test_case"]
  testFeatures : Names := .each ["test-utils", "testing"]
  testDirs : Names := .each ["tests"]
  testModuleNames : Names := .each ["tests"]
  benchmarkDirs : Names := .each ["benches"]
  exampleDirs : Names := .each ["examples"]
  buildScripts : Names := .each ["build.rs"]
  ignorePaths : Names := .each []
  deriving DecidableEq, Repr

end DiffGauge
