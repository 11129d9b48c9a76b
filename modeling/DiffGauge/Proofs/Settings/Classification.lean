import DiffGauge.Settings.Classification
import Mathlib.Data.List.Basic

/-!
# What the classification fields decide

A question to the fields of the classification section is answered as the rules answer it that the
fields make. Only fields that are not what they are declared to be, lists of texts, can leave it
without an answer.

* `Fields.Answers` says so of one question, and `Answers.bind` puts questions together;
* `purpose?_answers` and `isIgnored?_answers` are the two decisions that are made by the fields;
* `IsTyped.not_stumbles` takes them to all the units of a tree.
-/

namespace DiffGauge.Settings

open Syntax

/-- The names of the fields. -/
def classificationFields : List String := (ruleFields {}).map Prod.fst

/-- Each field is a list of texts, as it is declared to be. -/
def Fields.IsTyped (fields : Fields) : Prop :=
  ∀ field ∈ classificationFields, ∃ names : List String, fields.get field = .array (names.map .text)

/-- Where nothing else is given every field is what it is declared to be. -/
theorem isTyped_defaults : Fields.IsTyped (Section.defaults .classification) := by
  have hnames : ∀ entry ∈ ruleFields {}, ∃ names : List String,
      Fields.get (Section.defaults .classification) entry.1 = .array (names.map .text) := by
    simp only [ruleFields, List.forall_mem_cons]
    exact ⟨⟨_, rfl⟩, ⟨_, rfl⟩, ⟨_, rfl⟩, ⟨_, rfl⟩, ⟨_, rfl⟩, ⟨_, rfl⟩, ⟨_, rfl⟩, ⟨_, rfl⟩,
      List.forall_mem_nil _⟩
  exact List.forall_mem_map.2 hnames

/-- What a question comes to, beside the answer that the rules give: that answer, or none if some
    field is not what it is declared to be. -/
inductive Fields.Answers (fields : Fields) {α : Type} (a : α) : Option α → Prop where
  | given : Answers fields a (some a)
  | withheld : ¬fields.IsTyped → Answers fields a none

variable {fields : Fields}

section Answers

variable {α β : Type} {a : α} {a? : Option α}

/-- Typed fields give the answer. -/
theorem Fields.Answers.eq_some (h : fields.Answers a a?) (htyped : fields.IsTyped) :
    a? = some a := by
  cases h with
  | given => rfl
  | withheld hnot => exact absurd htyped hnot

/-- The answer to a question that comes after another one. -/
theorem Fields.Answers.bind {b : β} {f : α → Option β} (h : fields.Answers a a?)
    (hf : fields.Answers b (f a)) : fields.Answers b (a?.bind f) := by
  cases h with
  | given => exact hf
  | withheld hnot => exact .withheld hnot

/-- The answer to a question that another one decides. -/
theorem Fields.Answers.map (f : α → β) (h : fields.Answers a a?) :
    fields.Answers (f a) (a?.map f) := by
  cases h with
  | given => exact .given
  | withheld hnot => exact .withheld hnot

/-- One thing after another is asked about, up to the first yes. -/
theorem Fields.Answers.anyM {f : α → Bool} {f? : α → Option Bool} {items : List α}
    (h : ∀ x ∈ items, fields.Answers (f x) (f? x)) :
    fields.Answers (items.any f) (items.anyM f?) := by
  induction items with
  | nil => exact .given
  | cons x xs ih =>
      obtain ⟨hx, hxs⟩ := List.forall_mem_cons.1 h
      rw [List.any_cons, List.anyM_cons]
      refine hx.bind ?_
      cases f x with
      | true => exact .given
      | false => exact ih hxs

/-- One question after another is asked, up to the first yes. -/
theorem Fields.Answers.decided {answer? : Option Bool} {answer : Bool}
    {questions : List (Option Bool × α)} {rest b : α} (h : fields.Answers answer answer?)
    (hb : fields.Answers b (decided? rest questions)) :
    fields.Answers (if answer then a else b) (decided? rest ((answer?, a) :: questions)) := by
  refine h.bind ?_
  cases answer with
  | true => exact .given
  | false => exact hb

end Answers

/-! ## Names -/

private theorem filterMap_text? (names : List String) :
    (names.map Value.text).filterMap Value.text? = names := by
  rw [List.filterMap_map]
  exact List.filterMap_some

/-- A typed field gives names. -/
theorem Fields.IsTyped.names? (h : fields.IsTyped) {field : String}
    (hfield : field ∈ classificationFields) :
    ∃ names, names? (fields.get field) = some (.each names) := by
  obtain ⟨names, hget⟩ := h field hfield
  rw [hget, Settings.names?, filterMap_text?]
  exact ⟨names, rfl⟩

private theorem not_isTyped_of_names? {field : String} (hfield : field ∈ classificationFields)
    (hnames : names? (fields.get field) = none) : ¬fields.IsTyped := by
  intro h
  obtain ⟨names, hsome⟩ := h.names? hfield
  rw [hnames] at hsome
  cases hsome

/-- A field that is a list has an answer for the lack of a name too. -/
theorem has?_answers {field : String} (hfield : field ∈ classificationFields)
    (name : Option String) :
    fields.Answers (name.any (fields.names field).has) (fields.has? field name) := by
  rw [Fields.names, Fields.has?]
  cases hnames : names? (fields.get field) with
  | none => exact .withheld (not_isTyped_of_names? hfield hnames)
  | some names =>
      cases name with
      | some name => exact .given
      | none =>
          cases hform : names with
          | each _ => exact .given
          | partsOf text =>
              refine .withheld fun h => ?_
              obtain ⟨names', hsome⟩ := h.names? hfield
              rw [hnames, hform] at hsome
              cases hsome

private theorem isTestFeature?_answers (name : String) (value : Option String) :
    fields.Answers (isTestFeature fields.rules name value)
      (fields.isTestFeature? name value) := by
  unfold isTestFeature Fields.isTestFeature?
  cases isTestOption name value with
  | true => exact .given
  | false =>
      cases name == "feature" with
      | false => exact .given
      | true =>
          have hfield : "test_features" ∈ classificationFields := by decide
          cases value with
          | some feature => exact has?_answers hfield feature
          | none => exact has?_answers hfield none

private theorem isBuildScript?_answers (path : String) :
    fields.Answers (Path.isBuildScript fields.rules path) (fields.isBuildScript? path) :=
  (has?_answers (by decide) (some (Path.name (Path.normal path)))).map
    (· && !(Path.dirs (Path.normal path)).contains "src")

/-! ## Predicates -/

mutual

private theorem requires?_answers {p : OptionTest} {p? : String → Option String → Option Bool}
    (h : ∀ name value, fields.Answers (p name value) (p? name value)) :
    ∀ c : CfgPredicate, fields.Answers (c.requires p) (c.requires? p?)
  | .option name value => h name value
  | .all args => someRequires?_answers h args
  | .any [] => .given
  | .any (a :: as) => everyRequires?_answers h (a :: as)
  | .not _ => .given
  | .unknown _ => .given

private theorem someRequires?_answers {p : OptionTest} {p? : String → Option String → Option Bool}
    (h : ∀ name value, fields.Answers (p name value) (p? name value)) :
    ∀ args : List CfgPredicate,
      fields.Answers (CfgPredicate.someRequires p args) (CfgPredicate.someRequires? p? args)
  | [] => .given
  | a :: as => by
      rw [CfgPredicate.someRequires, CfgPredicate.someRequires?]
      refine (requires?_answers h a).bind ?_
      cases a.requires p with
      | true => exact .given
      | false => exact someRequires?_answers h as

private theorem everyRequires?_answers {p : OptionTest} {p? : String → Option String → Option Bool}
    (h : ∀ name value, fields.Answers (p name value) (p? name value)) :
    ∀ args : List CfgPredicate,
      fields.Answers (CfgPredicate.everyRequires p args) (CfgPredicate.everyRequires? p? args)
  | [] => .given
  | a :: as => by
      rw [CfgPredicate.everyRequires, CfgPredicate.everyRequires?]
      refine (requires?_answers h a).bind ?_
      cases a.requires p with
      | true => exact everyRequires?_answers h as
      | false => exact .given

end

/-! ## Decisions -/

private theorem isBuildScript_normal (rules : Rules) (path : String) :
    Path.isBuildScript rules (Path.normal path) = Path.isBuildScript rules path := by
  rw [Path.isBuildScript, Path.isBuildScript, Path.normal_normal]

/-- Where the place of a file decides nothing the rest of the questions does. -/
theorem of_eq_ite (rules : Rules) (own enclosing : List Attribute) (modules : List String)
    (path : String) :
    Purpose.of rules own enclosing modules path =
      let dirs := Path.dirs (Path.normal path)
      let cfgs := (own ++ enclosing).filterMap Attribute.cfg
      if Path.isBuildScript rules path then .buildScript
      else if dirs.any rules.benchmarkDirs.has then .benchmark
      else if dirs.any rules.exampleDirs.has then .exampleCode
      else if own.any fun a => a.name == Purpose.benchmarkAttribute then .benchmark
      else if own.any fun a => rules.testAttributes.has a.name then .test
      else if cfgs.any (CfgPredicate.requires isTestOption) then .test
      else if cfgs.any (CfgPredicate.requires (isTestFeature rules)) then .testUtility
      else if dirs.any rules.testDirs.has then .testUtility
      else if modules.any rules.testModuleNames.has then .testUtility
      else if enclosing.any fun a => rules.testAttributes.has a.name then .testUtility
      else .production := by
  unfold Purpose.of Purpose.ofPlace?
  simp only [isBuildScript_normal]
  cases Path.isBuildScript rules path with
  | true => rfl
  | false =>
      cases (Path.dirs (Path.normal path)).any rules.benchmarkDirs.has with
      | true => rfl
      | false =>
          cases (Path.dirs (Path.normal path)).any rules.exampleDirs.has with
          | true => rfl
          | false => rfl

private theorem areAmong_answers {field : String} (hfield : field ∈ classificationFields)
    (names : List String) :
    fields.Answers (names.any (fields.names field).has)
      (names.anyM fun name => fields.has? field (some name)) :=
  .anyM fun name _ => has?_answers hfield (some name)

private theorem haveTestAttribute_answers (attributes : List Attribute) :
    fields.Answers (attributes.any fun a => fields.rules.testAttributes.has a.name)
      (attributes.anyM fun a => fields.has? "test_attributes" (some a.name)) :=
  .anyM fun a _ => has?_answers (by decide) (some a.name)

/-- What a unit is for is decided as the rules decide it, or not at all. -/
theorem purpose?_answers (own enclosing : List Attribute) (modules : List String)
    (path : String) :
    fields.Answers (Purpose.of fields.rules own enclosing modules path)
      (fields.purpose? own enclosing modules path) := by
  rw [of_eq_ite]
  unfold Fields.purpose?
  refine .decided (isBuildScript?_answers path) ?_
  refine .decided (areAmong_answers (by decide) _) ?_
  refine .decided (areAmong_answers (by decide) _) ?_
  refine .decided .given ?_
  refine .decided (haveTestAttribute_answers own) ?_
  refine .decided .given ?_
  refine .decided (.anyM fun c _ => requires?_answers isTestFeature?_answers c) ?_
  refine .decided (areAmong_answers (by decide) _) ?_
  refine .decided (areAmong_answers (by decide) modules) ?_
  exact .decided (haveTestAttribute_answers enclosing) .given

/-- The patterns in a typed field are texts. -/
theorem Fields.IsTyped.text? (h : fields.IsTyped) {items : List Value}
    (hget : fields.get "ignore_paths" = .array items) {v : Value} (hv : v ∈ items) :
    ∃ name, v.text? = some name := by
  obtain ⟨names, hnames⟩ := h "ignore_paths" (by decide)
  rw [hget] at hnames
  cases hnames
  obtain ⟨name, -, rfl⟩ := List.mem_map.1 hv
  exact ⟨name, rfl⟩

/-- Whether a file is ignored is decided as the rules decide it, or not at all. -/
theorem isIgnored?_answers (path : String) :
    fields.Answers (fields.rules.ignorePaths.patterns.any fun g => Glob.matchesText g path)
      (fields.isIgnored? path) := by
  show fields.Answers ((fields.names "ignore_paths").patterns.any _) _
  rw [Fields.names, Fields.isIgnored?]
  cases hget : fields.get "ignore_paths" with
  | array items =>
      have hitems : fields.Answers (items.any fun v => v.text?.any (Glob.matchesText · path))
          (items.anyM fun v => v.text?.map (Glob.matchesText · path)) := by
        refine .anyM fun v hv => ?_
        cases htext : v.text? with
        | some name => exact .given
        | none =>
            refine .withheld fun h => ?_
            obtain ⟨name, hname⟩ := h.text? hget hv
            rw [htext] at hname
            cases hname
      have hpatterns : (items.filterMap Value.text?).any (Glob.matchesText · path)
          = items.any fun v => v.text?.any (Glob.matchesText · path) := by
        rw [List.any_filterMap]
        rfl
      show fields.Answers ((items.filterMap Value.text?).any _) _
      rw [hpatterns]
      exact hitems
  | text s => exact .given
  | table fields => exact .given
  | absent | flag _ | integer _ | real _ | moment _ =>
      have hfield : "ignore_paths" ∈ classificationFields := by decide
      refine .withheld (not_isTyped_of_names? hfield ?_)
      rw [hget]
      rfl

/-! ## The units of a tree -/

/-- Fields that are what they are declared to be decide about every item. -/
theorem Fields.IsTyped.purpose? (h : fields.IsTyped) (own enclosing : List Attribute)
    (modules : List String) (path : String) :
    fields.purpose? own enclosing modules path
      = some (Purpose.of fields.rules own enclosing modules path) :=
  (purpose?_answers own enclosing modules path).eq_some h

private theorem Fields.IsTyped.not_stumblesAt
    (h : fields.IsTyped) (st : Setting) (visits : List Visit) :
    fields.stumblesAt st visits = false := by
  induction visits with
  | nil => rfl
  | cons v vs ih =>
      rw [Fields.stumblesAt, Fields.purposeAt?, h.purpose?, ih, Bool.and_false]
      rfl

/-- Fields that are what they are declared to be never keep the units of a tree from being found. -/
theorem Fields.IsTyped.not_stumbles (h : fields.IsTyped) (path text : String)
    (root : SyntaxTree) : fields.stumbles path text root = false := by
  rw [Fields.stumbles, (isBuildScript?_answers path).eq_some h]
  simp only [h.not_stumblesAt, Option.isNone_some, Bool.or_false, Bool.and_false]

end DiffGauge.Settings
