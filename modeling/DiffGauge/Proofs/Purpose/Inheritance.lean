import DiffGauge.Purpose

/-!
# What surroundings hand down

A unit is test code for a reason: its own attributes, those of the scopes around it, a module that
it lies in, or the directory of its file. Inside the unit its own attributes are attributes of a
scope around, and the modules and the file stay. So each reason is handed down, perhaps as another
one: what a unit is marked with, surrounds the units inside it.

* `reason_of_isTestCode` and `isTestRelated_of_reason` say what the rules make of a reason;
* `TestReason.inside` hands it down;
* `handsDown_of` compares the purposes of a unit and of one inside it.
-/

namespace DiffGauge

namespace Purpose

/-- Code that tests, or that only tests use. -/
def isTestCode : Purpose → Bool
  | .test | .testUtility => true
  | .production | .benchmark | .exampleCode | .buildScript => false

/-- Why a unit is test code. -/
inductive TestReason (rules : Rules) (own enclosing : List Attribute) (modules : List String)
    (path : String) : Prop where
  | marked {a : Attribute} :
      a ∈ own → rules.testAttributes.has a.name = true →
      TestReason rules own enclosing modules path
  | configured {a : Attribute} {p : CfgPredicate} :
      a ∈ own ++ enclosing → a.cfg = some p → p.requires isTestOption = true →
      TestReason rules own enclosing modules path
  | featured {a : Attribute} {p : CfgPredicate} :
      a ∈ own ++ enclosing → a.cfg = some p → p.requires (isTestFeature rules) = true →
      TestReason rules own enclosing modules path
  | inDirectory {d : String} :
      d ∈ Path.dirs (Path.normal path) → rules.testDirs.has d = true →
      TestReason rules own enclosing modules path
  | inModule {m : String} :
      m ∈ modules → rules.testModuleNames.has m = true →
      TestReason rules own enclosing modules path
  | surrounded {a : Attribute} :
      a ∈ enclosing → rules.testAttributes.has a.name = true →
      TestReason rules own enclosing modules path

variable {rules : Rules} {own enclosing : List Attribute} {modules : List String} {path : String}

/-! ## What the rules make of a reason -/

private theorem isTestCode_of_place {p : Purpose} (h : ofPlace? rules path = some p) :
    p.isTestCode = false := by
  rw [ofPlace?] at h
  split at h
  · cases h
    rfl
  split at h
  · cases h
    rfl
  split at h
  · cases h
    rfl
  · cases h

/-- The place of the file decides before everything else. -/
theorem of_of_place {p : Purpose} (h : ofPlace? rules path = some p) :
    of rules own enclosing modules path = p := by
  rw [of, h]

/-- A predicate that stands in an attribute and passes a test. -/
theorem exists_of_any_cfgs {attributes : List Attribute} {test : CfgPredicate → Bool}
    (h : (attributes.filterMap Attribute.cfg).any test = true) :
    ∃ a ∈ attributes, ∃ p, a.cfg = some p ∧ test p = true := by
  obtain ⟨p, hp, htest⟩ := List.any_eq_true.1 h
  obtain ⟨a, ha, hcfg⟩ := List.mem_filterMap.1 hp
  exact ⟨a, ha, p, hcfg, htest⟩

private theorem any_cfgs {attributes : List Attribute} {test : CfgPredicate → Bool} {a : Attribute}
    {p : CfgPredicate} (ha : a ∈ attributes) (hcfg : a.cfg = some p) (htest : test p = true) :
    (attributes.filterMap Attribute.cfg).any test = true :=
  List.any_eq_true.2 ⟨p, List.mem_filterMap.2 ⟨a, ha, hcfg⟩, htest⟩

/-- Test code has a reason, and the place of its file does not decide. -/
theorem reason_of_isTestCode
    (h : (of rules own enclosing modules path).isTestCode = true) :
    ofPlace? rules path = none ∧ TestReason rules own enclosing modules path := by
  cases hplace : ofPlace? rules path with
  | some p =>
      rw [of_of_place hplace, isTestCode_of_place hplace] at h
      cases h
  | none =>
      refine ⟨rfl, ?_⟩
      simp only [of, hplace] at h
      split at h
      · cases h
      split at h
      · next hmarked =>
          obtain ⟨a, ha, hname⟩ := List.any_eq_true.1 hmarked
          exact .marked ha hname
      split at h
      · next hcfg =>
          obtain ⟨a, ha, p, hp, hrequires⟩ := exists_of_any_cfgs hcfg
          exact .configured ha hp hrequires
      split at h
      · next hcfg =>
          obtain ⟨a, ha, p, hp, hrequires⟩ := exists_of_any_cfgs hcfg
          exact .featured ha hp hrequires
      split at h
      · next hdir =>
          obtain ⟨d, hd, hname⟩ := List.any_eq_true.1 hdir
          exact .inDirectory hd hname
      split at h
      · next hmodule =>
          obtain ⟨m, hm, hname⟩ := List.any_eq_true.1 hmodule
          exact .inModule hm hname
      split at h
      · next haround =>
          obtain ⟨a, ha, hname⟩ := List.any_eq_true.1 haround
          exact .surrounded ha hname
      · cases h

/-- Where the place of the file does not decide, a unit with a reason is test code or a
    benchmark. -/
theorem isTestRelated_of_reason (hplace : ofPlace? rules path = none)
    (h : TestReason rules own enclosing modules path) :
    (of rules own enclosing modules path).isTestRelated = true := by
  simp only [of, hplace]
  split
  · rfl
  split
  · rfl
  next hmarked =>
  split
  · rfl
  next hconfigured =>
  split
  · rfl
  next hfeatured =>
  split
  · rfl
  next hdirectory =>
  split
  · rfl
  next hmodule =>
  split
  · rfl
  next hsurrounded =>
  -- no rule but the last one is left, so there is no reason
  exfalso
  cases h with
  | marked ha hname => exact hmarked (List.any_eq_true.2 ⟨_, ha, hname⟩)
  | configured ha hcfg hrequires => exact hconfigured (any_cfgs ha hcfg hrequires)
  | featured ha hcfg hrequires => exact hfeatured (any_cfgs ha hcfg hrequires)
  | inDirectory hd hname => exact hdirectory (List.any_eq_true.2 ⟨_, hd, hname⟩)
  | inModule hm hname => exact hmodule (List.any_eq_true.2 ⟨_, hm, hname⟩)
  | surrounded ha hname => exact hsurrounded (List.any_eq_true.2 ⟨_, ha, hname⟩)

/-- A unit that is part of a build script or an example is so by the place of its file. -/
theorem place_of_of_eq {p : Purpose} (h : of rules own enclosing modules path = p)
    (hp : p = .buildScript ∨ p = .exampleCode) : ofPlace? rules path = some p := by
  cases hplace : ofPlace? rules path with
  | some q => rw [← h, of_of_place hplace]
  | none =>
      simp only [of, hplace] at h
      rcases hp with rfl | rfl
      · repeat' split at h
        all_goals cases h
      · repeat' split at h
        all_goals cases h

/-! ## What is handed down -/

section Inside

variable {own' enclosing' : List Attribute} {modules' : List String}

/-- Inside a unit its reason is a reason still. What it is marked with is around there. -/
theorem TestReason.inside (h : TestReason rules own enclosing modules path)
    (henclosing : own ++ enclosing ⊆ enclosing') (hmodules : modules ⊆ modules') :
    TestReason rules own' enclosing' modules' path := by
  cases h with
  | marked ha hname => exact .surrounded (henclosing (List.mem_append_left _ ha)) hname
  | configured ha hcfg hrequires =>
      exact .configured (List.mem_append_right _ (henclosing ha)) hcfg hrequires
  | featured ha hcfg hrequires =>
      exact .featured (List.mem_append_right _ (henclosing ha)) hcfg hrequires
  | inDirectory hd hname => exact .inDirectory hd hname
  | inModule hm hname => exact .inModule (hmodules hm) hname
  | surrounded ha hname => exact .surrounded (henclosing (List.mem_append_right _ ha)) hname

/-- What the purpose of a unit says about that of a unit inside it. -/
structure HandsDown (outer inner : Purpose) : Prop where
  tests : outer.isTestCode = true → inner.isTestRelated = true
  shipsNot : outer.isTestCode = true → inner.isProduction = false
  place : outer = .buildScript ∨ outer = .exampleCode → inner = outer

private theorem isProduction_of_isTestRelated {p : Purpose} (h : p.isTestRelated = true) :
    p.isProduction = false := by
  cases p with
  | production => cases h
  | test => rfl
  | testUtility => rfl
  | benchmark => rfl
  | exampleCode => cases h
  | buildScript => cases h

/-- A unit hands its purpose down to the units inside it, which have its attributes around them
    and lie in its modules. -/
theorem handsDown_of (henclosing : own ++ enclosing ⊆ enclosing') (hmodules : modules ⊆ modules') :
    HandsDown (of rules own enclosing modules path) (of rules own' enclosing' modules' path) := by
  have htests : (of rules own enclosing modules path).isTestCode = true →
      (of rules own' enclosing' modules' path).isTestRelated = true := by
    intro h
    obtain ⟨hplace, hreason⟩ := reason_of_isTestCode h
    exact isTestRelated_of_reason hplace (hreason.inside henclosing hmodules)
  constructor
  · exact htests
  · exact fun h => isProduction_of_isTestRelated (htests h)
  · exact fun h => of_of_place (place_of_of_eq rfl h)

end Inside

end Purpose

end DiffGauge
