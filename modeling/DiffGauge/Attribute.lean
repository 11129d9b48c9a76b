import DiffGauge.Text.Pieces

/-!
# Attributes and configuration predicates

An attribute is a path such as `tokio::test`; a configuration attribute carries a predicate on
compile-time options. `CfgPredicate.requires` asks whether the predicate can only hold when
some option passes a test; it reads the shape of the predicate and errs on the side of no.
-/

namespace DiffGauge

/-- A predicate on compile-time options. What cannot be read is unknown. -/
inductive CfgPredicate where
  | option (name : String) (value : Option String)
  | all (args : List CfgPredicate)
  | any (args : List CfgPredicate)
  | not (args : List CfgPredicate)
  | unknown (name : String)
  deriving Repr

/-- A test on options: a name and, for options with a value, the value. -/
abbrev OptionTest := String → Option String → Bool

namespace CfgPredicate

mutual

/-- The predicate can only hold when an option that passes the test is set. -/
def requires (p : OptionTest) : CfgPredicate → Bool
  | .option name value => p name value
  | .all args => someRequires p args
  | .any args => !args.isEmpty && everyRequires p args
  | .not _ => false
  | .unknown _ => false

/-- One of the predicates requires such an option. -/
def someRequires (p : OptionTest) : List CfgPredicate → Bool
  | [] => false
  | a :: as => requires p a || someRequires p as

/-- Each of the predicates requires such an option. -/
def everyRequires (p : OptionTest) : List CfgPredicate → Bool
  | [] => true
  | a :: as => requires p a && everyRequires p as

end

end CfgPredicate

/-- An attribute as written, with its predicate if it is a configuration attribute. -/
structure Attribute where
  path : String
  cfg : Option CfgPredicate := none
  deriving Repr

/-- What follows the last `::` of a path. -/
def lastPathSegment (cs : List Char) : List Char :=
  match (Text.suffixes cs).filterMap (Text.after? [':', ':']) |>.getLast? with
  | some rest => rest
  | none => cs

/-- The last segment of the path of an attribute. -/
def Attribute.name (a : Attribute) : String := String.ofList (lastPathSegment a.path.toList)

end DiffGauge
