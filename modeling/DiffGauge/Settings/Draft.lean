import DiffGauge.Gate.Limits
import DiffGauge.Report.Format
import DiffGauge.Rules
import DiffGauge.Settings.Value

/-!
# Settings before they are checked

Settings come in sections of named fields. Every field has a default; a settings file replaces
the fields that it names, and the environment goes over that. Fields that are not known are not
looked at.
-/

namespace DiffGauge.Settings

open Text

/-- A section of the settings. -/
inductive Section where
  | limits
  | weights
  | classification
  | output
  deriving DecidableEq, Repr

/-- The name of a section. -/
def Section.text : Section → String
  | .limits => "limits"
  | .weights => "weights"
  | .classification => "classification"
  | .output => "output"

/-- Every section, in the order in which a file is looked through. -/
def Section.all : List Section := [.limits, .weights, .classification, .output]

/-! ## Defaults -/

/-- The default weight of a line. -/
def defaultWeight : Purpose → Int
  | .production => 3
  | .buildScript => 2
  | _ => 1

/-- A collection of names as a value. -/
def valueOfNames : Names → Value
  | .each names => .array (names.map .text)
  | .partsOf text => .text text

/-- The names of the fields of the classification rules, with what they hold. -/
def ruleFields (r : Rules) : List (String × Names) :=
  [("test_attributes", r.testAttributes), ("test_features", r.testFeatures),
   ("test_dirs", r.testDirs), ("test_module_names", r.testModuleNames),
   ("benchmark_dirs", r.benchmarkDirs), ("example_dirs", r.exampleDirs),
   ("build_scripts", r.buildScripts), ("ignore_paths", r.ignorePaths)]

/-- The bound on a limit as a value. -/
def valueOfBound : Option Int → Value
  | some n => .integer n
  | none => .absent

/-- The fields of a section where nothing else is given. -/
def Section.defaults : Section → Fields
  | .limits =>
    (Gate.Limit.all.map fun l => (l.text, valueOfBound (({} : Gate.Limits).bound? l)))
      ++ [("fail_on_exceed", .flag true)]
  | .weights => Purpose.all.map fun p => (p.text, .integer (defaultWeight p))
  | .classification => (ruleFields {}).map fun (name, names) => (name, valueOfNames names)
  | .output => [("format", .text Report.Format.terminal.text), ("show_details", .flag true)]

/-! ## Layers -/

/-- Settings as they were given: a version, and the fields of each section. -/
structure Draft where
  version : String
  fields : Section → Fields

/-- The settings where nothing is given. -/
def Draft.default : Draft := ⟨"1.0", Section.defaults⟩

/-- The value of a field. -/
def Draft.get (d : Draft) (s : Section) (name : String) : Value := (d.fields s).get name

/-- The draft with a new value for a field. -/
def Draft.set (d : Draft) (s : Section) (name : String) (v : Value) : Draft :=
  { d with fields := fun t => if t = s then (d.fields t).set name v else d.fields t }

/-- The fields of a section with the values that were given for them. -/
def overlaid (defaults given : Fields) : Fields :=
  defaults.map fun (name, v) => (name, (given.lookup name).getD v)

/-- Why settings cannot be put together. -/
inductive LayerFault where
  | notTable (s : Section)
  | notExtensible
  deriving DecidableEq, Repr

/-- The fields that a file gives for a section. A file without the section gives none. -/
def sectionOf (file : Fields) (s : Section) : Except LayerFault Fields :=
  match file.lookup s.text with
  | some (.table fields) => .ok fields
  | some _ => .error (.notTable s)
  | none => .ok []

/-- The defaults with a file over them. -/
def Draft.ofFile (file : Fields) : Except LayerFault Draft := do
  let limits ← sectionOf file .limits
  let weights ← sectionOf file .weights
  let classification ← sectionOf file .classification
  let output ← sectionOf file .output
  let given : Section → Fields
    | .limits => limits
    | .weights => weights
    | .classification => classification
    | .output => output
  return {
    version := ((file.lookup "version").map Value.plain).getD Draft.default.version
    fields := fun s => overlaid s.defaults (given s) }

/-- The variables of the environment. An empty variable counts as none. -/
abbrev Environment := String → Option String

/-- The text of a variable that is not empty. -/
def Environment.given? (env : Environment) (name : String) : Option String :=
  (env name).filter fun s => !s.isEmpty

/-- The draft with a bound from a variable that writes a whole number. -/
def Draft.withBound (env : Environment) (name : String) (l : Gate.Limit) (d : Draft) :
    Draft :=
  match (env.given? name).bind readInteger? with
  | some n => d.set .limits l.text (.integer n)
  | none => d

/-- The draft with a form from a variable that names one. -/
def Draft.withFormat (env : Environment) (d : Draft) : Draft :=
  match (env.given? "RDA_FORMAT").bind Report.Format.ofText? with
  | some f => d.set .output "format" (.text f.text)
  | none => d

/-- The patterns of a variable: between colons, without the blanks around them. -/
def patternsOf (s : String) : List String :=
  (((pieces ':' s.toList).map trim).filter (· ≠ [])).map String.ofList

/-- The draft with more paths to ignore. -/
def Draft.withIgnored (env : Environment) (d : Draft) : Except LayerFault Draft :=
  match env.given? "RDA_IGNORE_PATHS" with
  | none => .ok d
  | some s =>
    match d.get .classification "ignore_paths" with
    | .array items =>
      .ok (d.set .classification "ignore_paths" (.array (items ++ (patternsOf s).map .text)))
    | _ => .error .notExtensible

/-- The draft with the environment over it. -/
def Draft.withEnvironment (env : Environment) (d : Draft) : Except LayerFault Draft :=
  (((d.withBound env "RDA_MAX_PROD_UNITS" .prodUnits).withBound env "RDA_MAX_WEIGHTED_SCORE"
    .weightedScore).withFormat env).withIgnored env

end DiffGauge.Settings
