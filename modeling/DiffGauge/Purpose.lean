import DiffGauge.Attribute
import DiffGauge.CodeUnit
import DiffGauge.Path
import DiffGauge.Rules

/-!
# The purpose of a piece of code

What code is for follows from where its file lies, from its own attributes and from those of
the scopes around it. The first rule that applies decides: build scripts, benchmark
directories, example directories, benchmark attributes, tests, test-only surroundings, and
production code as the rest.
-/

namespace DiffGauge

/-- The option `test`. -/
def isTestOption : OptionTest := fun name value => name == "test" && value.isNone

/-- The option `test`, or one of the features that only tests enable. -/
def isTestFeature (rules : Rules) : OptionTest := fun name value =>
  isTestOption name value ||
    (name == "feature" && match value with
      | some v => rules.testFeatures.has v
      | none => false)

namespace Path

/-- The file is a build script: it has the name of one and does not lie inside `src`. -/
def isBuildScript (rules : Rules) (path : String) : Bool :=
  let path := normal path
  rules.buildScripts.has (name path) && !(dirs path).contains "src"

/-- What follows the last `src` among the directories of the parts of a path. -/
def belowSource? : List String → Option (List String)
  | [] => none
  | [_] => none
  | p :: ps =>
    match belowSource? ps with
    | some rest => some rest
    | none => if p = "src" then some ps else none

/-- The file names that stand for the module of their directory. -/
def moduleRootStems : List String := ["lib", "main", "mod"]

/-- The module that the file at `path` holds, from the crate root down. Outside `src` only
    the name of the file counts. -/
def moduleOf (path : String) : List String :=
  let ps := parts (normal path)
  match (belowSource? ps).getD (ps.getLast?.toList) with
  | [] => []
  | rel =>
    let last := stem (rel.getLast?.getD "")
    if moduleRootStems.contains last then rel.dropLast else rel.dropLast ++ [last]

end Path

namespace Purpose

/-- The attribute of a benchmark. -/
def benchmarkAttribute : String := "bench"

/-- What a file is for by its place alone, if its place decides. -/
def ofPlace? (rules : Rules) (path : String) : Option Purpose :=
  let path := Path.normal path
  let dirs := Path.dirs path
  if Path.isBuildScript rules path then some .buildScript
  else if dirs.any rules.benchmarkDirs.has then some .benchmark
  else if dirs.any rules.exampleDirs.has then some .exampleCode
  else none

/-- What a unit is for: `own` are its attributes, `enclosing` those of the scopes around it,
    `modules` the names of the modules it lies in. -/
def of (rules : Rules) (own enclosing : List Attribute) (modules : List String)
    (path : String) : Purpose :=
  match ofPlace? rules path with
  | some p => p
  | none =>
    let cfgs := (own ++ enclosing).filterMap Attribute.cfg
    if own.any fun a => a.name == benchmarkAttribute then .benchmark
    else if own.any fun a => rules.testAttributes.has a.name then .test
    else if cfgs.any (CfgPredicate.requires isTestOption) then .test
    else if cfgs.any (CfgPredicate.requires (isTestFeature rules)) then .testUtility
    else if (Path.dirs (Path.normal path)).any rules.testDirs.has then .testUtility
    else if modules.any rules.testModuleNames.has then .testUtility
    else if enclosing.any fun a => rules.testAttributes.has a.name then .testUtility
    else .production

end Purpose

end DiffGauge
