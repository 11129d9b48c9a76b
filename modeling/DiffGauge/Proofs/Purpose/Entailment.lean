import DiffGauge.Purpose

/-!
# What a configuration predicate entails

A build sets some options and not others, and with that decides which predicates hold. A predicate
entails a test on options if every build in which it holds sets an option that passes the test.

`CfgPredicate.requires` reads entailment off the shape of a predicate. It is sound for every
predicate: `exists_set_of_requires` follows it down the tree. It is complete where nothing is
negated or unknown and no disjunction is empty: if it says no, the predicate holds in the build
that sets every option but those that pass the test (`holds_without`).
-/

namespace DiffGauge

/-- What a build decides: which options are set, and whether a predicate holds that has no meaning
    of its own, by the way down to it from the root. -/
structure Build where
  sets : String → Option String → Bool
  reads : List Nat → Bool

namespace CfgPredicate

/-! ## The meaning of a predicate -/

mutual

/-- The predicate at `place` holds in a build. What cannot be read, and a negation of anything but
    one predicate, may hold or not. -/
def holds (b : Build) (place : List Nat) : CfgPredicate → Bool
  | .option name value => b.sets name value
  | .all args => allHold b place 0 args
  | .any args => oneHolds b place 0 args
  | .not [p] => !holds b (place ++ [0]) p
  | .not _ => b.reads place
  | .unknown _ => b.reads place

/-- All arguments of the predicate at `place` hold, from the one with index `i` on. -/
def allHold (b : Build) (place : List Nat) (i : Nat) : List CfgPredicate → Bool
  | [] => true
  | a :: as => holds b (place ++ [i]) a && allHold b place (i + 1) as

/-- One argument of the predicate at `place` holds, from the one with index `i` on. -/
def oneHolds (b : Build) (place : List Nat) (i : Nat) : List CfgPredicate → Bool
  | [] => false
  | a :: as => holds b (place ++ [i]) a || oneHolds b place (i + 1) as

end

/-- A build sets an option that passes a test. -/
def SetsOne (b : Build) (m : OptionTest) : Prop :=
  ∃ name value, b.sets name value = true ∧ m name value = true

/-- Every build in which the predicate holds sets an option that passes the test. -/
def Entails (p : CfgPredicate) (m : OptionTest) : Prop :=
  ∀ b : Build, p.holds b [] = true → SetsOne b m

/-! ## Soundness -/

mutual

/-- Where a predicate that requires an option holds, such an option is set. -/
theorem exists_set_of_requires {m : OptionTest} {b : Build} :
    (p : CfgPredicate) → (place : List Nat) → requires m p = true → p.holds b place = true →
      SetsOne b m
  | .option name value, _, hr, hh => ⟨name, value, hh, hr⟩
  | .all args, place, hr, hh => exists_set_of_someRequires args place 0 hr hh
  | .any args, place, hr, hh => by
      rw [requires, Bool.and_eq_true] at hr
      exact exists_set_of_everyRequires args place 0 hr.2 hh

/-- One of the arguments requires an option, and all of them hold. -/
theorem exists_set_of_someRequires {m : OptionTest} {b : Build} :
    (args : List CfgPredicate) → (place : List Nat) → (i : Nat) →
      someRequires m args = true → allHold b place i args = true → SetsOne b m
  | a :: as, place, i, hr, hh => by
      rw [someRequires, Bool.or_eq_true] at hr
      rw [allHold, Bool.and_eq_true] at hh
      rcases hr with hr | hr
      · exact exists_set_of_requires a (place ++ [i]) hr hh.1
      · exact exists_set_of_someRequires as place (i + 1) hr hh.2

/-- Each of the arguments requires an option, and one of them holds. -/
theorem exists_set_of_everyRequires {m : OptionTest} {b : Build} :
    (args : List CfgPredicate) → (place : List Nat) → (i : Nat) →
      everyRequires m args = true → oneHolds b place i args = true → SetsOne b m
  | a :: as, place, i, hr, hh => by
      rw [everyRequires, Bool.and_eq_true] at hr
      rw [oneHolds, Bool.or_eq_true] at hh
      rcases hh with hh | hh
      · exact exists_set_of_requires a (place ++ [i]) hr.1 hh
      · exact exists_set_of_everyRequires as place (i + 1) hr.2 hh

end

/-! ## Completeness -/

mutual

/-- Nothing in the predicate is negated or unknown, and no disjunction is empty. -/
def isPositive : CfgPredicate → Bool
  | .option _ _ => true
  | .all args => arePositive args
  | .any args => !args.isEmpty && arePositive args
  | .not _ => false
  | .unknown _ => false

/-- The same of each of some predicates. -/
def arePositive : List CfgPredicate → Bool
  | [] => true
  | a :: as => isPositive a && arePositive as

end

/-- The build that sets every option but those that pass a test. -/
def without (m : OptionTest) : Build :=
  { sets := fun name value => !m name value
    reads := fun _ => false }

private theorem not_setsOne_without (m : OptionTest) : ¬SetsOne (without m) m := by
  rintro ⟨name, value, hset, hm⟩
  have hset : (!m name value) = true := hset
  rw [hm] at hset
  cases hset

mutual

/-- A positive predicate that requires no option of a kind holds without any. -/
theorem holds_without {m : OptionTest} :
    (p : CfgPredicate) → (place : List Nat) → p.isPositive = true → requires m p = false →
      p.holds (without m) place = true
  | .option name value, place, _, hr => by
      have hr : m name value = false := hr
      show (!m name value) = true
      rw [hr]
      rfl
  | .all args, place, hp, hr => allHold_without args place 0 hp hr
  | .any args, place, hp, hr => by
      rw [isPositive, Bool.and_eq_true] at hp
      rw [requires, hp.1, Bool.true_and] at hr
      exact oneHolds_without args place 0 hp.2 hr

/-- None of the arguments requires an option, so all of them hold. -/
theorem allHold_without {m : OptionTest} :
    (args : List CfgPredicate) → (place : List Nat) → (i : Nat) → arePositive args = true →
      someRequires m args = false → allHold (without m) place i args = true
  | [], _, _, _, _ => rfl
  | a :: as, place, i, hp, hr => by
      rw [arePositive, Bool.and_eq_true] at hp
      rw [someRequires, Bool.or_eq_false_iff] at hr
      rw [allHold, holds_without a (place ++ [i]) hp.1 hr.1,
        allHold_without as place (i + 1) hp.2 hr.2]
      rfl

/-- Not each of the arguments requires an option, so one of them holds. -/
theorem oneHolds_without {m : OptionTest} :
    (args : List CfgPredicate) → (place : List Nat) → (i : Nat) → arePositive args = true →
      everyRequires m args = false → oneHolds (without m) place i args = true
  | a :: as, place, i, hp, hr => by
      rw [arePositive, Bool.and_eq_true] at hp
      rw [everyRequires, Bool.and_eq_false_iff] at hr
      rw [oneHolds, Bool.or_eq_true]
      rcases hr with hr | hr
      · exact .inl (holds_without a (place ++ [i]) hp.1 hr)
      · exact .inr (oneHolds_without as place (i + 1) hp.2 hr)

end

/-! ## Requirement and entailment -/

/-- What a predicate requires it entails, and a positive predicate requires all that it
    entails. -/
theorem requires_entailment (p : CfgPredicate) (m : OptionTest) :
    (requires m p = true → p.Entails m) ∧
      (p.isPositive = true → p.Entails m → requires m p = true) := by
  constructor
  · intro hr b hh
    exact exists_set_of_requires p [] hr hh
  · intro hp hentails
    cases hr : requires m p with
    | true => rfl
    | false => exact absurd (hentails (without m) (holds_without p [] hp hr)) (not_setsOne_without m)

/-- `all(unix, any(test, feature = "testing"))`. -/
def unixTests : CfgPredicate :=
  .all [.option "unix" none, .any [.option "test" none, .option "feature" (some "testing")]]

/-- Test code that is built for one system alone. -/
theorem requires_entailment_of_unixTests :
    unixTests.isPositive = true ∧ unixTests.Entails (isTestFeature {}) ∧
      requires (isTestFeature {}) unixTests = true := by
  have hentails : unixTests.Entails (isTestFeature {}) :=
    (requires_entailment unixTests (isTestFeature {})).1 (by decide)
  exact ⟨rfl, hentails, (requires_entailment unixTests (isTestFeature {})).2 rfl hentails⟩

-- what is negated twice is entailed all the same, but nothing looks below a negation
example : requires isTestOption (.not [.not [.option "test" none]]) = false := rfl

end CfgPredicate

end DiffGauge
