import DiffGauge.LineSpan

/-!
# Code units

A unit is a declaration of a source file: what it is, what it is called, who may see it, which
lines it takes and which purpose it serves. A region without a kind stands for lines outside
every declaration.
-/

namespace DiffGauge

/-- Who may name a declaration. -/
inductive Visibility where
  | everyone
  | moduleScoped
  | inside
  deriving DecidableEq, Repr

/-- What a declaration is. -/
inductive UnitKind where
  | function
  | typeDefinition
  | interfaceDeclaration
  | implementationBlock
  | moduleBlock
  | buildScriptEntry
  deriving DecidableEq, Repr

/-- What a piece of code is for. -/
inductive Purpose where
  | production
  | test
  | testUtility
  | benchmark
  | exampleCode
  | buildScript
  deriving DecidableEq, Repr

/-- What happened to a unit. -/
inductive ChangeKind where
  | added
  | modified
  | removed
  deriving DecidableEq, Repr

/-- The name of a visibility in reports. -/
def Visibility.text : Visibility → String
  | .everyone => "public"
  | .moduleScoped => "module_scoped"
  | .inside => "private"

/-- The name of a kind in reports. -/
def UnitKind.text : UnitKind → String
  | .function => "function"
  | .typeDefinition => "type_definition"
  | .interfaceDeclaration => "interface_declaration"
  | .implementationBlock => "implementation_block"
  | .moduleBlock => "module"
  | .buildScriptEntry => "build_script_entry"

/-- The name of a purpose in reports and settings. -/
def Purpose.text : Purpose → String
  | .production => "production"
  | .test => "test"
  | .testUtility => "test_utility"
  | .benchmark => "benchmark"
  | .exampleCode => "example"
  | .buildScript => "build_script"

/-- The name of a change kind in reports. -/
def ChangeKind.text : ChangeKind → String
  | .added => "added"
  | .modified => "modified"
  | .removed => "removed"

/-- Every visibility. -/
def Visibility.all : List Visibility := [.everyone, .moduleScoped, .inside]

/-- Every kind of unit. -/
def UnitKind.all : List UnitKind :=
  [.function, .typeDefinition, .interfaceDeclaration, .implementationBlock, .moduleBlock,
   .buildScriptEntry]

/-- Every purpose, in the order in which reports list them. -/
def Purpose.all : List Purpose :=
  [.production, .test, .testUtility, .benchmark, .exampleCode, .buildScript]

/-- Every change kind, in the order in which reports list them. -/
def ChangeKind.all : List ChangeKind := [.added, .modified, .removed]

/-- Code that ships. -/
def Purpose.isProduction (p : Purpose) : Bool := p == .production

/-- Code that only tests or measures. -/
def Purpose.isTestRelated : Purpose → Bool
  | .test | .testUtility | .benchmark => true
  | .production | .exampleCode | .buildScript => false

/-- A declaration, or a region outside every declaration when it has no kind. -/
structure CodeUnit where
  kind : Option UnitKind
  name : String
  visibility : Visibility
  span : LineSpan
  purpose : Purpose
  deriving DecidableEq, Repr

/-- The unit is a declaration and not a region outside them. -/
def CodeUnit.isIdentified (u : CodeUnit) : Bool := u.kind.isSome

/-- Two units that have the same kind and the same name. -/
def CodeUnit.isNamesake (u v : CodeUnit) : Bool := u.kind == v.kind && u.name == v.name

/-- A unit touched by a diff, with the lines attributed to it. -/
structure Change where
  file : String
  unit : CodeUnit
  kind : ChangeKind
  added : Int
  removed : Int
  deriving DecidableEq, Repr

/-- All lines attributed to a change. -/
def Change.total (c : Change) : Int := c.added + c.removed

/-- The list of purposes has all of them. -/
theorem Purpose.mem_all (p : Purpose) : p ∈ Purpose.all := by
  cases p <;> decide

/-- The list of kinds has all of them. -/
theorem ChangeKind.mem_all (k : ChangeKind) : k ∈ ChangeKind.all := by
  cases k <;> decide

end DiffGauge
