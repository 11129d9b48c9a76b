import DiffGauge.Glob
import DiffGauge.Settings.Checked
import DiffGauge.Syntax.Visits

/-!
# Classification by unchecked fields

The fields of the classification section are not checked, so any value may stand in them. A field
is asked once a decision depends on it, and not before; a value that holds no names has no answer
then, and there is no decision. Where there is one, it is that of the names that the fields hold.
-/

namespace DiffGauge

/-- A name, or the lack of one, is among some names. Whether there are parts of a text that have no
    name has no answer. -/
def Names.has? : Names → Option String → Option Bool
  | names, some n => some (names.has n)
  | .each _, none => some false
  | .partsOf _, none => none

namespace CfgPredicate

mutual

/-- The predicate can only hold when an option that passes the test is set, if the test has an
    answer for each option that is looked at. -/
def requires? (p : String → Option String → Option Bool) : CfgPredicate → Option Bool
  | .option name value => p name value
  | .all args => someRequires? p args
  | .any args => if args.isEmpty then some false else everyRequires? p args
  | .not _ => some false
  | .unknown _ => some false

/-- One of the predicates requires such an option. None is looked at after it. -/
def someRequires? (p : String → Option String → Option Bool) : List CfgPredicate → Option Bool
  | [] => some false
  | a :: as => do if ← requires? p a then return true else someRequires? p as

/-- Each of the predicates requires such an option. None is looked at after one that does not. -/
def everyRequires? (p : String → Option String → Option Bool) : List CfgPredicate → Option Bool
  | [] => some true
  | a :: as => do if ← requires? p a then everyRequires? p as else return false

end

end CfgPredicate

namespace Settings

/-- The names in a field. A field that holds none has no names. -/
def Fields.names (fields : Fields) (field : String) : Names :=
  (names? (fields.get field)).getD (.each [])

/-- The rules that the names in the fields make. -/
def Fields.rules (fields : Fields) : Rules where
  testAttributes := fields.names "test_attributes"
  testFeatures := fields.names "test_features"
  testDirs := fields.names "test_dirs"
  testModuleNames := fields.names "test_module_names"
  benchmarkDirs := fields.names "benchmark_dirs"
  exampleDirs := fields.names "example_dirs"
  buildScripts := fields.names "build_scripts"
  ignorePaths := fields.names "ignore_paths"

/-- A name, or the lack of one, is among the names in a field. -/
def Fields.has? (fields : Fields) (field : String) (name : Option String) : Option Bool :=
  (names? (fields.get field)).bind (·.has? name)

/-- The option is `test`, or one of the features that only tests enable. -/
def Fields.isTestFeature? (fields : Fields) (name : String) (value : Option String) :
    Option Bool :=
  if isTestOption name value then some true
  else if name == "feature" then fields.has? "test_features" value
  else some false

/-- The file is a build script. -/
def Fields.isBuildScript? (fields : Fields) (path : String) : Option Bool :=
  let path := Path.normal path
  (fields.has? "build_scripts" (some (Path.name path))).map
    (· && !(Path.dirs path).contains "src")

/-- What the first question with the answer yes decides, and `rest` if there is none. An earlier
    question without an answer leaves everything undecided. -/
def decided? {α : Type} (rest : α) : List (Option Bool × α) → Option α
  | [] => some rest
  | (answer, a) :: questions => do if ← answer then return a else decided? rest questions

/-- What a unit is for: `own` are its attributes, `enclosing` those of the scopes around it,
    `modules` the names of the modules it lies in. -/
def Fields.purpose? (fields : Fields) (own enclosing : List Attribute) (modules : List String)
    (path : String) : Option Purpose :=
  let dirs := Path.dirs (Path.normal path)
  let cfgs := (own ++ enclosing).filterMap Attribute.cfg
  let isAmong (field name : String) := fields.has? field (some name)
  let isTest (a : Attribute) := isAmong "test_attributes" a.name
  decided? .production [
    (fields.isBuildScript? path, .buildScript),
    (dirs.anyM (isAmong "benchmark_dirs"), .benchmark),
    (dirs.anyM (isAmong "example_dirs"), .exampleCode),
    (some (own.any fun a => a.name == Purpose.benchmarkAttribute), .benchmark),
    (own.anyM isTest, .test),
    (some (cfgs.any (CfgPredicate.requires isTestOption)), .test),
    (cfgs.anyM (CfgPredicate.requires? fields.isTestFeature?), .testUtility),
    (dirs.anyM (isAmong "test_dirs"), .testUtility),
    (modules.anyM (isAmong "test_module_names"), .testUtility),
    (enclosing.anyM isTest, .testUtility)]

/-- The file at a path is ignored. The patterns are gone through up to the first that matches, and
    each of them has to be a text. -/
def Fields.isIgnored? (fields : Fields) (path : String) : Option Bool :=
  match fields.get "ignore_paths" with
  | .array items => items.anyM fun v => v.text?.map (Glob.matchesText · path)
  | v => (names? v).map fun names => names.patterns.any (Glob.matchesText · path)

open Syntax

/-- What the item of a visit is for. -/
def Fields.purposeAt? (fields : Fields) (st : Setting) (v : Visit) : Option Purpose :=
  fields.purpose? (st.source.outerAttributes v.before) v.scope.enclosing v.scope.modules st.path

/-- Some visit is to an item for which there is no decision, and all items before it have units. -/
def Fields.stumblesAt (fields : Fields) (st : Setting) : List Visit → Bool
  | [] => false
  | v :: vs => (fields.purposeAt? st v).isNone || (st.unitAt v).isOk && fields.stumblesAt st vs

/-- The units of a tree cannot be found because of the fields. A tree with a fault is not looked
    at. -/
def Fields.stumbles (fields : Fields) (path text : String) (root : SyntaxTree) : Bool :=
  let st : Setting := ⟨fields.rules, path, .ofString text⟩
  (root.fault? st.source).isNone &&
    ((fields.isBuildScript? path).isNone || fields.stumblesAt st (st.visits root))

/-- The fields of the classification section. -/
def Checked.classification (c : Checked) : Fields := c.draft.fields .classification

end Settings

end DiffGauge
