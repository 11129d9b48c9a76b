import DiffGauge.Proofs.Gate.Monotone
import DiffGauge.Proofs.Settings.Failures
import Mathlib

/-!
# Layers of settings

Settings have three layers: the defaults, the file over them, and the environment over both. Each
field is decided alone, by the topmost layer that has something for it, except that the paths to
ignore from the environment go behind those of the file. Only what comes out on top is checked.

* `ofFile_eq` and `get_withEnvironment` put one layer over another;
* `exists_check_iff` says which drafts pass the checks, `check_agrees` what is then known of them;
* `AgreeOnKnown.ofFields_eq` leaves out what is no field;
* `load_layered` is the statement about the settings that are loaded.
-/

namespace DiffGauge.Settings

open Gate

/-! ## What each layer has for a field -/

/-- The names of the fields of a section. -/
def Section.names (s : Section) : List String := s.defaults.map (·.1)

/-- What a file has in a section. -/
def givenFields (file : Fields) (s : Section) : Fields :=
  match file.lookup s.text with
  | some (.table fields) => fields
  | _ => []

/-- What a file has for a field, or its default. -/
def fileOrDefault (file : Fields) (s : Section) (name : String) : Value :=
  ((givenFields file s).lookup name).getD (s.defaults.get name)

/-- The whole number that a variable writes. An empty variable writes none. -/
def writtenInteger? (env : Environment) (name : String) : Option Int :=
  (env.given? name).bind Text.readInteger?

/-- The name of a form, if the variable for it holds one. -/
def writtenFormat? (env : Environment) : Option String :=
  (env.given? "RDA_FORMAT").filter fun s => s ∈ Report.Format.all.map Report.Format.text

/-- The paths to ignore that the environment adds. -/
def addedPaths (env : Environment) : List String :=
  match env.given? "RDA_IGNORE_PATHS" with
  | some s => patternsOf s
  | none => []

/-- An array with some texts behind it; anything else as it is. -/
def Value.followedBy (v : Value) (texts : List String) : Value :=
  match v with
  | .array items => .array (items ++ texts.map .text)
  | v => v

/-- The value of a field under an environment, where `given` is what it has without one. -/
def overridden (env : Environment) (s : Section) (name : String) (given : Value) : Value :=
  match s, name with
  | .limits, "max_prod_units" =>
    (writtenInteger? env "RDA_MAX_PROD_UNITS").elim given .integer
  | .limits, "max_weighted_score" =>
    (writtenInteger? env "RDA_MAX_WEIGHTED_SCORE").elim given .integer
  | .output, "format" => (writtenFormat? env).elim given .text
  | .classification, "ignore_paths" => given.followedBy (addedPaths env)
  | _, _ => given

/-- The value that the layers come to. -/
def layered (env : Environment) (file : Fields) (s : Section) (name : String) : Value :=
  overridden env s name (fileOrDefault file s name)

/-! ## A field set in a section -/

private theorem names_set (fs : Fields) (name : String) (v : Value) :
    (fs.set name v).map (·.1) = fs.map (·.1) := by
  rw [Fields.set, List.map_map]
  refine List.map_congr_left ?_
  intro f _
  show (if f.1 = name then (f.1, v) else f).1 = f.1
  by_cases hf : f.1 = name
  · rw [if_pos hf]
  · rw [if_neg hf]

private theorem get_set_self {fs : Fields} {name : String} (h : name ∈ fs.map (·.1)) (v : Value) :
    (fs.set name v).get name = v := by
  induction fs with
  | nil => exact nomatch h
  | cons f fs ih =>
      obtain ⟨key, w⟩ := f
      rw [Fields.set, List.map_cons, Fields.get]
      by_cases hkey : key = name
      · rw [if_pos hkey, List.lookup_cons, hkey, beq_self_eq_true]
        rfl
      · have hne : (name == key) = false := beq_eq_false_iff_ne.2 (Ne.symm hkey)
        rw [if_neg hkey, List.lookup_cons, hne]
        rcases List.mem_cons.1 h with hhere | hbelow
        · exact absurd hhere.symm hkey
        · exact ih hbelow

private theorem get_set_of_name_ne
    {name name' : String} (h : name' ≠ name) (fs : Fields) (v : Value) :
    (fs.set name v).get name' = fs.get name' := by
  induction fs with
  | nil => rfl
  | cons f fs ih =>
      obtain ⟨key, w⟩ := f
      rw [Fields.set, List.map_cons, Fields.get, Fields.get, List.lookup_cons]
      by_cases hkey : key = name
      · have hne : (name' == key) = false := beq_eq_false_iff_ne.2 (hkey ▸ h)
        rw [if_pos hkey, List.lookup_cons, hne]
        exact ih
      · rw [if_neg hkey, List.lookup_cons]
        cases name' == key with
        | true => rfl
        | false => exact ih

/-- The draft has the fields of every section, and no others. -/
def Draft.IsFull (d : Draft) : Prop := ∀ s, (d.fields s).map (·.1) = s.names

/-- To set a field leaves a draft full. -/
theorem Draft.IsFull.set {d : Draft} (h : d.IsFull) (s : Section) (name : String) (v : Value) :
    (d.set s name v).IsFull := by
  intro t
  show (if t = s then (d.fields t).set name v else d.fields t).map (·.1) = t.names
  by_cases ht : t = s
  · rw [if_pos ht, names_set]
    exact h t
  · rw [if_neg ht]
    exact h t

/-- The field that is set has the new value. -/
theorem Draft.IsFull.get_set {d : Draft} (h : d.IsFull) {s : Section} {name : String}
    (hname : name ∈ s.names) (v : Value) : (d.set s name v).get s name = v := by
  show (if s = s then (d.fields s).set name v else d.fields s).get name = v
  rw [if_pos rfl]
  exact get_set_self (h s ▸ hname) v

/-- All other fields stay as they are. -/
theorem get_set_of_field_ne {s t : Section} {name name' : String} (h : ¬(t = s ∧ name' = name))
    (d : Draft) (v : Value) : (d.set s name v).get t name' = d.get t name' := by
  by_cases ht : t = s
  · subst ht
    show (if t = t then (d.fields t).set name v else d.fields t).get name' = _
    rw [if_pos rfl]
    exact get_set_of_name_ne (fun hname => h ⟨rfl, hname⟩) (d.fields t) v
  · exact get_set_of_ne ht d name name' v

/-! ## The file over the defaults -/

/-- The defaults with a file over them, if its sections are tables. -/
def fileDraft (file : Fields) : Draft where
  version := ((file.lookup "version").map Value.plain).getD Draft.default.version
  fields s := overlaid s.defaults (givenFields file s)

private theorem sectionOf_eq (file : Fields) (s : Section) :
    sectionOf file s
      = if isNoTable file s then .error (.notTable s) else .ok (givenFields file s) := by
  rw [sectionOf, isNoTable, givenFields]
  cases file.lookup s.text with
  | none => rfl
  | some v => cases v <;> rfl

/-- A file makes a draft unless some section of it is no table. -/
theorem ofFile_eq (file : Fields) :
    Draft.ofFile file
      = match Section.all.find? (isNoTable file) with
        | some s => .error (.notTable s)
        | none => .ok (fileDraft file) := by
  cases hfind : Section.all.find? (isNoTable file) with
  | some s =>
      refine faultIn_eq_some_iff.1 ?_
      rw [faultIn_ofFile, hfind]
      rfl
  | none =>
      have htables : ∀ s ∈ Section.all, sectionOf file s = .ok (givenFields file s) := by
        intro s hs
        rw [sectionOf_eq, if_neg (List.find?_eq_none.1 hfind s hs)]
      rw [Draft.ofFile, htables .limits (by decide), htables .weights (by decide),
        htables .classification (by decide), htables .output (by decide)]
      refine congrArg Except.ok (congrArg (Draft.mk _) ?_)
      funext s
      cases s <;> rfl

/-- The list of sections has all of them. -/
theorem Section.mem_all (s : Section) : s ∈ Section.all := by
  cases s <;> decide

private theorem find?_isNoTable_eq_none {file : Fields} :
    Section.all.find? (isNoTable file) = none ↔ ∀ s, isNoTable file s = false := by
  rw [List.find?_eq_none]
  constructor
  · intro h s
    exact Bool.eq_false_iff.2 (h s s.mem_all)
  · intro h s _
    exact Bool.eq_false_iff.1 (h s)

/-- A draft from a file is that of its known fields. -/
theorem ofFile_eq_ok_iff {file : Fields} {d : Draft} :
    Draft.ofFile file = .ok d ↔ (∀ s, isNoTable file s = false) ∧ d = fileDraft file := by
  rw [ofFile_eq, ← find?_isNoTable_eq_none]
  cases Section.all.find? (isNoTable file) with
  | some s =>
      constructor
      · exact fun h => nomatch h
      · exact fun h => nomatch h.1
  | none =>
      constructor
      · intro h
        exact ⟨rfl, (Except.ok.inj h).symm⟩
      · rintro ⟨-, rfl⟩
        rfl

private theorem fileDraft_isFull (file : Fields) : (fileDraft file).IsFull := by
  intro s
  show (overlaid s.defaults (givenFields file s)).map (·.1) = s.defaults.map (·.1)
  rw [overlaid, List.map_map]
  rfl

private theorem exists_lookup_of_mem_names {s : Section} {name : String} (h : name ∈ s.names) :
    ∃ v, s.defaults.lookup name = some v := by
  cases hlookup : s.defaults.lookup name with
  | some v => exact ⟨v, rfl⟩
  | none =>
      obtain ⟨f, hf, rfl⟩ := List.mem_map.1 h
      exact absurd (beq_self_eq_true f.1) (by simpa using List.lookup_eq_none_iff.1 hlookup f hf)

private theorem get_fileDraft (file : Fields) {s : Section} {name : String} (h : name ∈ s.names) :
    (fileDraft file).get s name = fileOrDefault file s name := by
  obtain ⟨v, hv⟩ := exists_lookup_of_mem_names h
  show (overlaid s.defaults (givenFields file s)).get name = _
  rw [get_overlaid, fileOrDefault, Fields.get, hv]
  rfl

/-! ## The environment over the file -/

section Environment

variable {env : Environment} {d : Draft} {s : Section} {name : String}

/-- A limit from the environment leaves a full draft full. -/
theorem Draft.IsFull.withBound (h : d.IsFull) (env : Environment) (key : String)
    (l : Limit) : (d.withBound env key l).IsFull := by
  rw [Draft.withBound]
  split
  · exact h.set _ _ _
  · exact h

/-- The limit is that of the environment, if one is written there. -/
theorem Draft.IsFull.get_withBound (h : d.IsFull) (env : Environment) (key : String)
    (l : Limit) :
    (d.withBound env key l).get .limits l.text
      = (writtenInteger? env key).elim (d.get .limits l.text) .integer := by
  have hname : l.text ∈ Section.limits.names := by cases l <;> decide
  rw [Draft.withBound, writtenInteger?]
  cases (env.given? key).bind Text.readInteger? with
  | none => rfl
  | some n => exact h.get_set hname _

private theorem get_withBound_of_ne
    {l : Limit} (h : ¬(s = .limits ∧ name = l.text)) (env : Environment)
    (key : String) (d : Draft) : (d.withBound env key l).get s name = d.get s name := by
  rw [Draft.withBound]
  split
  · exact get_set_of_field_ne h d _
  · rfl

/-- A format from the environment leaves a full draft full. -/
theorem Draft.IsFull.withFormat (h : d.IsFull) (env : Environment) :
    (d.withFormat env).IsFull := by
  rw [Draft.withFormat]
  split
  · exact h.set _ _ _
  · exact h

/-- A text names a form exactly when it is the name of one. -/
theorem ofText?_eq (t : String) :
    (Report.Format.ofText? t).map Report.Format.text
      = if t ∈ Report.Format.all.map Report.Format.text then some t else none := by
  by_cases ht : t ∈ Report.Format.all.map Report.Format.text
  · obtain ⟨f, -, rfl⟩ := List.mem_map.1 ht
    rw [if_pos ht, Report.Format.ofText?_text]
    rfl
  · rw [if_neg ht]
    cases hf : Report.Format.ofText? t with
    | none => rfl
    | some f =>
        refine absurd (List.mem_map.2 ⟨f, ?_, Report.Format.text_of_ofText? hf⟩) ht
        cases f <;> decide

private theorem writtenFormat?_eq (env : Environment) :
    writtenFormat? env
      = ((env.given? "RDA_FORMAT").bind Report.Format.ofText?).map Report.Format.text := by
  rw [writtenFormat?]
  cases env.given? "RDA_FORMAT" with
  | none => rfl
  | some t =>
      show _ = (Report.Format.ofText? t).map Report.Format.text
      rw [ofText?_eq, Option.filter_some]
      simp only [decide_eq_true_eq]

/-- The format is that of the environment, if one is written there. -/
theorem Draft.IsFull.get_withFormat (h : d.IsFull) (env : Environment) :
    (d.withFormat env).get .output "format"
      = (writtenFormat? env).elim (d.get .output "format") .text := by
  rw [Draft.withFormat, writtenFormat?_eq]
  cases (env.given? "RDA_FORMAT").bind Report.Format.ofText? with
  | none => rfl
  | some f => exact h.get_set (by decide) _

private theorem get_withFormat_of_ne (h : ¬(s = .output ∧ name = "format")) (env : Environment)
    (d : Draft) : (d.withFormat env).get s name = d.get s name := by
  rw [Draft.withFormat]
  split
  · exact get_set_of_field_ne h d _
  · rfl

/-- Without paths to ignore in the environment there is nothing to add to those of the file, and
    with some of them the file has to have an array. -/
theorem withIgnored_eq_ok {d' : Draft} (h : d.withIgnored env = .ok d') :
    (d' = d ∧ env.given? "RDA_IGNORE_PATHS" = none) ∨
      ∃ items t, d.get .classification "ignore_paths" = .array items ∧
        env.given? "RDA_IGNORE_PATHS" = some t ∧
        d' = d.set .classification "ignore_paths" (.array (items ++ (patternsOf t).map .text)) := by
  rw [Draft.withIgnored] at h
  cases hgiven : env.given? "RDA_IGNORE_PATHS" with
  | none =>
      rw [hgiven] at h
      exact .inl ⟨(Except.ok.inj h).symm, rfl⟩
  | some t =>
      rw [hgiven] at h
      cases hvalue : d.get .classification "ignore_paths" with
      | array items =>
          rw [hvalue] at h
          exact .inr ⟨items, t, rfl, rfl, (Except.ok.inj h).symm⟩
      | _ =>
          rw [hvalue] at h
          simp at h

/-- Ignored paths from the environment leave a full draft full. -/
theorem Draft.IsFull.withIgnored {d' : Draft} (hd : d.IsFull) (h : d.withIgnored env = .ok d') :
    d'.IsFull := by
  rcases withIgnored_eq_ok h with ⟨rfl, -⟩ | ⟨items, t, -, -, rfl⟩
  · exact hd
  · exact hd.set _ _ _

private theorem Draft.IsFull.get_withIgnored {d' : Draft} (hd : d.IsFull)
    (h : d.withIgnored env = .ok d') :
    d'.get .classification "ignore_paths"
      = (d.get .classification "ignore_paths").followedBy (addedPaths env) := by
  rcases withIgnored_eq_ok h with ⟨rfl, hgiven⟩ | ⟨items, t, hvalue, hgiven, rfl⟩
  · rw [addedPaths, hgiven]
    cases d'.get .classification "ignore_paths" with
    | array items => exact congrArg Value.array (List.append_nil items).symm
    | _ => rfl
  · rw [addedPaths, hgiven, hvalue]
    exact hd.get_set (by decide) _

private theorem get_withIgnored_of_ne
    {d' : Draft} (hne : ¬(s = .classification ∧ name = "ignore_paths"))
    (h : d.withIgnored env = .ok d') : d'.get s name = d.get s name := by
  rcases withIgnored_eq_ok h with ⟨rfl, -⟩ | ⟨items, t, -, -, rfl⟩
  · rfl
  · exact get_set_of_field_ne hne d _

/-- The environment decides the fields that it has something for, and leaves all others. -/
theorem get_withEnvironment {d' : Draft} (hd : d.IsFull) (h : d.withEnvironment env = .ok d')
    (s : Section) (name : String) : d'.get s name = overridden env s name (d.get s name) := by
  have hunits := hd.withBound env "RDA_MAX_PROD_UNITS" .prodUnits
  have hscore := hunits.withBound env "RDA_MAX_WEIGHTED_SCORE" .weightedScore
  have hformat := hscore.withFormat env
  rw [Draft.withEnvironment] at h
  -- each field is set by one of the four steps at most, and passes through the others
  unfold overridden
  split
  · rw [get_withIgnored_of_ne (by decide) h, get_withFormat_of_ne (by decide),
      get_withBound_of_ne (by decide)]
    exact hd.get_withBound env "RDA_MAX_PROD_UNITS" .prodUnits
  · rw [get_withIgnored_of_ne (by decide) h, get_withFormat_of_ne (by decide)]
    refine (hunits.get_withBound env "RDA_MAX_WEIGHTED_SCORE" .weightedScore).trans ?_
    rw [get_withBound_of_ne (by decide)]
    rfl
  · rw [get_withIgnored_of_ne (by decide) h, hscore.get_withFormat env,
      get_withBound_of_ne (by decide), get_withBound_of_ne (by decide)]
  · rw [hformat.get_withIgnored h, get_withFormat_of_ne (by decide),
      get_withBound_of_ne (by decide), get_withBound_of_ne (by decide)]
  · next hunits' hscore' hformat' hignored' =>
      rw [get_withIgnored_of_ne (fun e => hignored' e.1 e.2) h,
        get_withFormat_of_ne (fun e => hformat' e.1 e.2),
        get_withBound_of_ne (fun e => hscore' e.1 e.2),
        get_withBound_of_ne (fun e => hunits' e.1 e.2)]

private theorem version_withBound (env : Environment) (key : String) (l : Limit) (d : Draft) :
    (d.withBound env key l).version = d.version := by
  rw [Draft.withBound]
  split <;> rfl

private theorem version_withFormat (env : Environment) (d : Draft) :
    (d.withFormat env).version = d.version := by
  rw [Draft.withFormat]
  split <;> rfl

/-- The environment keeps the version and the names of the fields. -/
theorem withEnvironment_keeps {d' : Draft} (hd : d.IsFull) (h : d.withEnvironment env = .ok d') :
    d'.version = d.version ∧ d'.IsFull := by
  have hformat := ((hd.withBound env "RDA_MAX_PROD_UNITS" .prodUnits).withBound env
    "RDA_MAX_WEIGHTED_SCORE" .weightedScore).withFormat env
  refine ⟨?_, hformat.withIgnored h⟩
  rcases withIgnored_eq_ok h with ⟨rfl, -⟩ | ⟨items, t, -, -, rfl⟩
  · rw [version_withFormat, version_withBound, version_withBound]
  · show (Draft.withFormat env _).version = d.version
    rw [version_withFormat, version_withBound, version_withBound]

/-- The environment can be laid over a file that has an array where paths are added. -/
theorem exists_withEnvironment_iff :
    (∃ d', d.withEnvironment env = .ok d') ↔
      ((env.given? "RDA_IGNORE_PATHS").isSome = true →
        (d.get .classification "ignore_paths").isArray = true) := by
  rw [← faultIn_eq_none_iff, ← Option.not_isSome_iff_eq_none, Option.isSome_iff_exists]
  simp only [faultIn_eq_some_iff, withEnvironment_eq_error_iff, exists_eq_left, not_and,
    Bool.not_eq_false]

end Environment

/-! ## The checks -/

private theorem integer?_filter_eq_some {v : Value} {p : Int → Bool} {n : Int}
    (h : v.integer?.filter p = some n) : v = .integer n ∧ p n = true := by
  obtain ⟨hn, hp⟩ := Option.filter_eq_some_iff.1 h
  cases v with
  | integer m =>
      cases hn
      exact ⟨rfl, hp⟩
  | _ => exact nomatch hn

private theorem positive?_eq_some {v : Value} {n : Int} (h : positive? v = some n) :
    v = .integer n ∧ 0 < n := by
  obtain ⟨hv, hpos⟩ := integer?_filter_eq_some h
  exact ⟨hv, of_decide_eq_true hpos⟩

private theorem positiveIfSet?_eq_some {v : Value} {bound : Option Int}
    (h : positiveIfSet? v = some bound) :
    v = valueOfBound bound ∧ ∀ n, bound = some n → 0 < n := by
  cases v with
  | absent =>
      cases h
      exact ⟨rfl, fun n hn => nomatch hn⟩
  | integer m =>
      obtain ⟨n, hn, rfl⟩ := Option.map_eq_some_iff.1 h
      obtain ⟨hm, hpos⟩ := positive?_eq_some hn
      refine ⟨hm, ?_⟩
      rintro k ⟨⟩
      exact hpos
  | _ => exact nomatch h

private theorem format?_eq_some {v : Value} {f : Report.Format} (h : format? v = some f) :
    v = .text f.text := by
  cases v with
  | text t => exact congrArg Value.text (Report.Format.text_of_ofText? h).symm
  | _ => exact nomatch h

/-- What was checked of a draft is what the draft has: bounds are positive, weights are not
    negative, and the form of the report is one that there is. -/
structure Checked.Agrees (c : Checked) : Prop where
  limits : ∀ l, c.draft.get .limits l.text = valueOfBound (c.limits.bound? l)
  limits_pos : ∀ l n, c.limits.bound? l = some n → 0 < n
  weights : ∀ p, c.draft.get .weights p.text = .integer (c.weights.of p)
  weights_nonneg : ∀ p, 0 ≤ c.weights.of p
  format : c.draft.get .output "format" = .text c.format.text

/-- The weight of a purpose is the one that its field has. -/
theorem get_weight {d : Draft} {ps : List Purpose} {ws : Weights} {p : Purpose} (hp : p ∈ ps)
    (h : List.Forall₂ (fun p w => d.weightOf p = .ok w) ps ws) :
    d.get .weights p.text = .integer (Weights.of ws p) := by
  induction h with
  | nil => exact nomatch hp
  | @cons q w qs ws hw _ ih =>
      obtain ⟨n, hn, hpair⟩ := bind_eq_ok_iff.1 hw
      cases hpair
      rw [Weights.of, List.lookup_cons]
      by_cases hq : p = q
      · subst hq
        rw [beq_self_eq_true]
        exact (integer?_filter_eq_some (demanded_eq_ok_iff.1 hn)).1
      · rw [beq_eq_false_iff_ne.2 hq]
        exact ih ((List.mem_cons.1 hp).resolve_left hq)

/-- A draft that passes is kept, with its checked parts. -/
theorem check_agrees {d : Draft} {c : Checked} (h : d.check = .ok c) : c.draft = d ∧ c.Agrees := by
  have hweights := weights_of_check h
  have hnonneg := weights_nonneg h
  obtain ⟨units, hunits, h⟩ := bind_eq_ok_iff.1 h
  obtain ⟨score, hscore, h⟩ := bind_eq_ok_iff.1 h
  obtain ⟨lines, hlines, h⟩ := bind_eq_ok_iff.1 h
  obtain ⟨weights, -, h⟩ := bind_eq_ok_iff.1 h
  obtain ⟨format, hformat, h⟩ := bind_eq_ok_iff.1 h
  cases h
  obtain ⟨hunits, hunitsPos⟩ := positive?_eq_some (demanded_eq_ok_iff.1 hunits)
  obtain ⟨hscore, hscorePos⟩ := positive?_eq_some (demanded_eq_ok_iff.1 hscore)
  obtain ⟨hlines, hlinesPos⟩ := positiveIfSet?_eq_some (demanded_eq_ok_iff.1 hlines)
  refine ⟨rfl, ?_, ?_, ?_, hnonneg, format?_eq_some (demanded_eq_ok_iff.1 hformat)⟩
  · intro l
    cases l with
    | prodUnits => exact hunits
    | weightedScore => exact hscore
    | prodLines => exact hlines
  · intro l n hn
    cases l with
    | prodUnits =>
        cases hn
        exact hunitsPos
    | weightedScore =>
        cases hn
        exact hscorePos
    | prodLines => exact hlinesPos n hn
  · intro p
    exact get_weight p.mem_all hweights

/-- A draft passes if every field that is checked is what it has to be. -/
theorem exists_check_iff {d : Draft} :
    (∃ c, d.check = .ok c) ↔ ∀ k ∈ checks, k.demand.isMet (d.get k.kind k.name) = true := by
  rw [← faultIn_eq_none_iff, faultIn_check, List.findSome?_eq_none_iff]
  refine forall_congr' fun k => imp_congr_right fun _ => ?_
  rw [Draft.fault?]
  cases k.demand.isMet (d.get k.kind k.name) with
  | true =>
      constructor
      · intro _
        rfl
      · intro _
        rfl
  | false =>
      constructor
      · intro h
        simp at h
      · intro h
        exact absurd h Bool.false_ne_true

/-! ## Loading -/

variable {files : Files} {env : Environment} {repository : String} {asked : Option String}
  {fields : Fields}

/-- The fields of a file and the environment come to a draft in this way only. -/
theorem yields_iff {d : Draft} :
    Yields env fields d ↔
      (fields.get "version").isShowable = true ∧ (∀ s, isNoTable fields s = false) ∧
        (fileDraft fields).withEnvironment env = .ok d := by
  simp only [Yields, ofFields_eq_ok_iff, ofFile_eq_ok_iff]
  constructor
  · rintro ⟨base, ⟨hversion, htables, rfl⟩, hd⟩
    exact ⟨hversion, htables, hd⟩
  · rintro ⟨hversion, htables, hd⟩
    exact ⟨_, ⟨hversion, htables, rfl⟩, hd⟩

/-- Settings are loaded from the draft that passes the checks. -/
theorem load_eq_ok_iff (hgives : Gives files repository asked fields) {c : Checked} :
    load files env repository asked = .ok c ↔ ∃ d, Yields env fields d ∧ d.check = .ok c := by
  rw [load_of_gives hgives]
  simp only [finished, bind_eq_ok_iff, mapError_eq_ok_iff, Yields]
  constructor
  · rintro ⟨base, hbase, d, hd, hc⟩
    exact ⟨d, ⟨base, hbase, hd⟩, hc⟩
  · rintro ⟨d, ⟨base, hbase, hd⟩, hc⟩
    exact ⟨base, hbase, d, hd, hc⟩

private theorem ignorePaths_mem_names : "ignore_paths" ∈ Section.classification.names := by decide

private theorem mem_names_of_mem_checks {k : Check} (h : k ∈ checks) : k.name ∈ k.kind.names := by
  revert k
  simp only [checks, List.cons_append, List.nil_append, List.forall_mem_cons,
    List.forall_mem_append, List.forall_mem_map]
  refine ⟨by decide, by decide, by decide, ?_, by decide, fun _ h => absurd h List.not_mem_nil⟩
  intro p _
  cases p <;> decide

/-- A draft of a file and an environment has in each field what the layers come to. -/
theorem get_of_yields {d : Draft} (h : Yields env fields d) {s : Section} {name : String}
    (hname : name ∈ s.names) : d.get s name = layered env fields s name := by
  obtain ⟨-, -, hd⟩ := yields_iff.1 h
  rw [get_withEnvironment (fileDraft_isFull fields) hd, get_fileDraft fields hname]
  rfl

/-- Two files agree on the version, on which sections are tables, and on every field that there
    is. What else they hold may differ. -/
structure AgreeOnKnown (file file' : Fields) : Prop where
  version : file'.lookup "version" = file.lookup "version"
  tables : ∀ s, isNoTable file' s = isNoTable file s
  values : ∀ s, ∀ name ∈ s.names,
    (givenFields file' s).lookup name = (givenFields file s).lookup name

private theorem AgreeOnKnown.fileDraft_eq {file file' : Fields} (h : AgreeOnKnown file file') :
    fileDraft file' = fileDraft file := by
  rw [fileDraft, fileDraft, h.version]
  refine congrArg (Draft.mk _) ?_
  funext s
  refine List.map_congr_left ?_
  rintro ⟨name, v⟩ hmem
  have hname : name ∈ s.names := List.mem_map.2 ⟨_, hmem, rfl⟩
  exact congrArg (fun o => (name, Option.getD o v)) (h.values s name hname)

/-- Files that agree on what is known make the same draft, or fail alike. -/
theorem AgreeOnKnown.ofFields_eq {file file' : Fields} (h : AgreeOnKnown file file') :
    Draft.ofFields file' = Draft.ofFields file := by
  have htables : isNoTable file' = isNoTable file := funext h.tables
  rw [Draft.ofFields, Draft.ofFields, Fields.get, Fields.get, h.version, ofFile_eq, ofFile_eq,
    htables, h.fileDraft_eq]

/-- Loaded settings have exactly the fields that there are, each with the value that the layers
    come to, and what was checked of them is what they have. -/
structure IsLayered (env : Environment) (file : Fields) (c : Checked) : Prop where
  version : c.draft.version = ((file.lookup "version").map Value.plain).getD "1.0"
  full : c.draft.IsFull
  value : ∀ s, ∀ name ∈ s.names, c.draft.get s name = layered env file s name
  passes : ∀ k ∈ checks, k.demand.isMet (c.draft.get k.kind k.name) = true
  agrees : c.Agrees

/-- **Settings are what their layers come to**, whatever the file holds and whatever the
    environment is: each field has the value of the topmost layer that has one. Loading yields
    settings exactly if the file can be laid over the defaults and the environment over the file,
    and what comes out on top passes all checks, so that a value under another one does not matter.
    Nor does anything in the file that is no field. -/
theorem load_layered (hgives : Gives files repository asked fields) :
    (∀ c, load files env repository asked = .ok c → IsLayered env fields c) ∧
      ((∃ c, load files env repository asked = .ok c) ↔
        (fields.get "version").isShowable = true ∧ (∀ s, isNoTable fields s = false) ∧
          ((env.given? "RDA_IGNORE_PATHS").isSome = true →
            (fileOrDefault fields .classification "ignore_paths").isArray = true) ∧
          ∀ k ∈ checks, k.demand.isMet (layered env fields k.kind k.name) = true) ∧
      ∀ files' repository' asked' fields', Gives files' repository' asked' fields' →
        AgreeOnKnown fields fields' →
        load files' env repository' asked' = load files env repository asked := by
  have hfull := fileDraft_isFull fields
  refine ⟨?_, ?_, ?_⟩
  · intro c hc
    obtain ⟨d, hyields, hcheck⟩ := (load_eq_ok_iff hgives).1 hc
    obtain ⟨rfl, hagrees⟩ := check_agrees hcheck
    obtain ⟨-, -, hd⟩ := yields_iff.1 hyields
    obtain ⟨hversion, hnames⟩ := withEnvironment_keeps hfull hd
    exact ⟨hversion, hnames, fun s name hname => get_of_yields hyields hname,
      exists_check_iff.1 ⟨c, hcheck⟩, hagrees⟩
  · simp only [load_eq_ok_iff hgives]
    constructor
    · rintro ⟨c, d, hyields, hcheck⟩
      obtain ⟨hversion, htables, hd⟩ := yields_iff.1 hyields
      refine ⟨hversion, htables, ?_, ?_⟩
      · rw [← get_fileDraft fields ignorePaths_mem_names]
        exact exists_withEnvironment_iff.1 ⟨d, hd⟩
      · intro k hk
        rw [← get_of_yields hyields (mem_names_of_mem_checks hk)]
        exact exists_check_iff.1 ⟨c, hcheck⟩ k hk
    · rintro ⟨hversion, htables, harray, hpasses⟩
      rw [← get_fileDraft fields ignorePaths_mem_names] at harray
      obtain ⟨d, hd⟩ := exists_withEnvironment_iff.2 harray
      have hyields : Yields env fields d := yields_iff.2 ⟨hversion, htables, hd⟩
      obtain ⟨c, hcheck⟩ := exists_check_iff.2 fun k hk => by
        rw [get_of_yields hyields (mem_names_of_mem_checks hk)]
        exact hpasses k hk
      exact ⟨c, d, hyields, hcheck⟩
  · intro files' repository' asked' fields' hgives' hagree
    rw [load_of_gives hgives', load_of_gives hgives, hagree.ofFields_eq]

/-- A file with a bound that no check lets through, and with a field that nobody knows. -/
def maskedText : String := "[limits]\nmax_prod_units=0\nspare=1\n"

/-- What the file holds. -/
def maskedFields : Fields :=
  [("limits", .table [("max_prod_units", .integer 0), ("spare", .integer 1)])]

/-- The same file without what nobody knows. -/
def knownText : String := "[limits]\nmax_prod_units=0\n"

/-- What is left. -/
def knownFields : Fields := [("limits", .table [("max_prod_units", .integer 0)])]

/-- An environment with a bound of its own and two paths to ignore. -/
def maskingEnvironment : Environment := fun name =>
  if name = "RDA_MAX_PROD_UNITS" then some " 12 "
  else if name = "RDA_IGNORE_PATHS" then some "b: :c "
  else none

private theorem gives_masked :
    Gives (fun _ => .file maskedText.toUTF8.toList) "" none maskedFields := by
  have htext : Text.Utf8.decode? maskedText.toUTF8.toList = some maskedText := by cbv
  have hfields : Toml.read maskedText = .ok maskedFields := by cbv
  exact .file rfl htext hfields

private theorem gives_known :
    Gives (fun _ => .file knownText.toUTF8.toList) "" none knownFields := by
  have htext : Text.Utf8.decode? knownText.toUTF8.toList = some knownText := by cbv
  have hfields : Toml.read knownText = .ok knownFields := by cbv
  exact .file rfl htext hfields

private theorem agreeOnKnown_masked : AgreeOnKnown maskedFields knownFields where
  version := rfl
  tables s := by cases s <;> rfl
  values s name hname := by
    cases s with
    | limits =>
        have hspare : name ≠ "spare" := fun e => absurd (e ▸ hname) (by decide)
        show List.lookup name [("max_prod_units", Value.integer 0)]
          = List.lookup name [("max_prod_units", .integer 0), ("spare", .integer 1)]
        simp only [List.lookup, beq_eq_false_iff_ne.2 hspare]
    | weights => rfl
    | classification => rfl
    | output => rfl

/-- A bound under one from the environment is not looked at; without the environment it makes
    loading fail. -/
theorem load_layered_of_masked :
    Gives (fun _ => .file maskedText.toUTF8.toList) "" none maskedFields ∧
      Gives (fun _ => .file knownText.toUTF8.toList) "" none knownFields ∧
      AgreeOnKnown maskedFields knownFields ∧
      (∃ c, load (fun _ => .file maskedText.toUTF8.toList) maskingEnvironment "" none = .ok c ∧
        c.draft.get .limits "max_prod_units" = .integer 12 ∧
        c.draft.get .classification "ignore_paths" = .array [.text "b", .text "c"]) ∧
      load (fun _ => .file knownText.toUTF8.toList) maskingEnvironment "" none
        = load (fun _ => .file maskedText.toUTF8.toList) maskingEnvironment "" none ∧
      ¬∃ c, load (fun _ => .file maskedText.toUTF8.toList) (fun _ => none) "" none = .ok c := by
  have hmasked := @load_layered _ maskingEnvironment _ _ _ gives_masked
  have hplain := @load_layered _ (fun _ => none) _ _ _ gives_masked
  have hunits : layered maskingEnvironment maskedFields .limits "max_prod_units" = .integer 12 := by
    cbv
  have hignored : layered maskingEnvironment maskedFields .classification "ignore_paths"
      = .array [.text "b", .text "c"] := by
    cbv
  have hothers : (checks.tail.all fun k =>
      k.demand.isMet (layered maskingEnvironment maskedFields k.kind k.name)) = true := rfl
  have hpasses : ∀ k ∈ checks,
      k.demand.isMet (layered maskingEnvironment maskedFields k.kind k.name) = true := by
    intro k hk
    rcases List.mem_cons.1 hk with rfl | hk
    · show Demand.positive.isMet (layered maskingEnvironment maskedFields .limits "max_prod_units")
        = true
      rw [hunits]
      rfl
    · exact List.all_eq_true.1 hothers k hk
  refine ⟨gives_masked, gives_known, agreeOnKnown_masked, ?_,
    hmasked.2.2 _ _ _ _ gives_known agreeOnKnown_masked, ?_⟩
  · obtain ⟨c, hc⟩ := hmasked.2.1.2 ⟨rfl, fun s => by cases s <;> rfl, fun _ => rfl, hpasses⟩
    have hvalue := (hmasked.1 c hc).value
    exact ⟨c, hc, (hvalue _ _ (by decide)).trans hunits, (hvalue _ _ (by decide)).trans hignored⟩
  · intro hloads
    have hunits := (hplain.2.1.1 hloads).2.2.2 ⟨.limits, "max_prod_units", .positive⟩
      List.mem_cons_self
    have hzero : layered (fun _ => none) maskedFields .limits "max_prod_units" = .integer 0 := by
      cbv
    rw [hzero] at hunits
    exact Bool.false_ne_true hunits

end DiffGauge.Settings
