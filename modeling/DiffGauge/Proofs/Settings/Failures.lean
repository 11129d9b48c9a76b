import DiffGauge.Proofs.Traversal
import DiffGauge.Settings.Load

/-!
# How loading settings fails

Settings are read from a file, laid over the defaults, changed by the environment and checked. Each
of these steps can fail. Most failures are said in words: a file that is asked for and not there, a
file that is no document, a section that is no table, a field that is not what it has to be. Some
are not, and they are listed by what the file and the environment hold.

* `faultIn_check` and `faultIn_ofFile` give the first fault among the fields and among the sections;
* `withEnvironment_eq_error_iff` says when the environment cannot be laid over the file;
* `load_fails_iff` lists the failures with words and the failures without.
-/

namespace DiffGauge.Settings

open Text

/-! ## The first fault -/

section FirstFault

variable {ε α β : Type}

/-- The fault of a step, if it fails. -/
def faultIn : Except ε α → Option ε
  | .ok _ => none
  | .error e => some e

/-- What has a fault has no result. -/
theorem faultIn_eq_some_iff {x : Except ε α} {e : ε} : faultIn x = some e ↔ x = .error e := by
  cases x with
  | ok a =>
      constructor
      · exact fun h => nomatch h
      · exact fun h => nomatch h
  | error e' =>
      constructor
      · exact fun h => congrArg _ (Option.some.inj h)
      · exact fun h => congrArg _ (Except.error.inj h)

/-- What has no fault has a result. -/
theorem faultIn_eq_none_iff {x : Except ε α} : faultIn x = none ↔ ∃ a, x = .ok a := by
  cases x with
  | ok a => exact ⟨fun _ => ⟨a, rfl⟩, fun _ => rfl⟩
  | error e =>
      constructor
      · exact fun h => nomatch h
      · exact fun ⟨_, h⟩ => nomatch h

/-- If the faults of a later step do not depend on what the earlier ones yield, the first fault is
    reported. -/
theorem faultIn_bind {x : Except ε α} {f : α → Except ε β} {o : Option ε}
    (h : ∀ a, faultIn (f a) = o) : faultIn (x >>= f) = (faultIn x).or o := by
  cases x with
  | ok a => exact h a
  | error e => rfl

/-- What is found in a list is found in its first item or else in the others. -/
theorem findSome?_cons_or (f : α → Option β) (x : α) (xs : List α) :
    (x :: xs).findSome? f = (f x).or (xs.findSome? f) := by
  rw [List.findSome?_cons]
  cases f x with
  | none => rfl
  | some b => rfl

private theorem faultIn_mapM {f : α → Except ε β} (xs : List α) :
    faultIn (xs.mapM f) = xs.findSome? fun x => faultIn (f x) := by
  induction xs with
  | nil => rfl
  | cons x xs ih =>
      have hrest : ∀ y, faultIn (xs.mapM f >>= fun ys => pure (y :: ys))
          = xs.findSome? fun x => faultIn (f x) := by
        intro y
        rw [faultIn_bind (o := none) fun _ => rfl, ih, Option.or_none]
      rw [List.mapM_cons, faultIn_bind hrest, findSome?_cons_or]

private theorem findSome?_if (p : α → Bool) (f : α → β) (xs : List α) :
    (xs.findSome? fun x => if p x then some (f x) else none) = (xs.find? p).map f := by
  induction xs with
  | nil => rfl
  | cons x xs ih =>
      rw [findSome?_cons_or, List.find?_cons, ih]
      cases p x with
      | true => rfl
      | false => rfl

end FirstFault

/-! ## Checking fields -/

/-- A field with what it has to be. -/
structure Check where
  kind : Section
  name : String
  demand : Demand

/-- The value is what the field has to be. -/
def Demand.isMet : Demand → Value → Bool
  | .positive, v => (positive? v).isSome
  | .positiveIfSet, v => (positiveIfSet? v).isSome
  | .notNegative, v => (notNegative? v).isSome
  | .format, v => (format? v).isSome

/-- The fault of a field that is not what it has to be. -/
def Draft.fault? (d : Draft) (c : Check) : Option FieldFault :=
  if c.demand.isMet (d.get c.kind c.name) then none
  else some ⟨c.kind, c.name, c.demand, d.get c.kind c.name⟩

/-- The check of a weight. -/
def weightCheck (p : Purpose) : Check := ⟨.weights, p.text, .notNegative⟩

/-- All checks, in the order in which they are made. -/
def checks : List Check :=
  [⟨.limits, Gate.Limit.prodUnits.text, .positive⟩,
   ⟨.limits, Gate.Limit.weightedScore.text, .positive⟩,
   ⟨.limits, Gate.Limit.prodLines.text, .positiveIfSet⟩]
    ++ Purpose.all.map weightCheck ++ [⟨.output, "format", .format⟩]

/-- Reading a field fails with the fault of its check. -/
theorem faultIn_demanded {α : Type} {d : Draft} {c : Check} {read : Value → Option α}
    (h : ∀ v, c.demand.isMet v = (read v).isSome) :
    faultIn (d.demanded c.kind c.name c.demand read) = d.fault? c := by
  rw [Draft.demanded, Draft.fault?, h]
  cases read (d.get c.kind c.name) with
  | none => rfl
  | some a => rfl

private theorem faultIn_weightOf (d : Draft) (p : Purpose) :
    faultIn (d.weightOf p) = d.fault? (weightCheck p) := by
  have hread : faultIn (d.demanded .weights p.text .notNegative notNegative?)
      = d.fault? (weightCheck p) :=
    faultIn_demanded (c := weightCheck p) fun _ => rfl
  rw [Draft.weightOf, faultIn_bind (o := none) fun _ => rfl, hread, Option.or_none]

/-- A draft fails with the first field that is not what it has to be. -/
theorem faultIn_check (d : Draft) : faultIn d.check = checks.findSome? d.fault? := by
  have hsteps : faultIn d.check
      = (faultIn (d.demanded .limits Gate.Limit.prodUnits.text .positive positive?)).or
          ((faultIn (d.demanded .limits Gate.Limit.weightedScore.text .positive positive?)).or
            ((faultIn (d.demanded .limits Gate.Limit.prodLines.text .positiveIfSet
                positiveIfSet?)).or
              ((faultIn (Purpose.all.mapM d.weightOf)).or
                ((faultIn (d.demanded .output "format" .format format?)).or none)))) :=
    faultIn_bind fun _ => faultIn_bind fun _ => faultIn_bind fun _ => faultIn_bind fun _ =>
      faultIn_bind fun _ => rfl
  have hweights : faultIn (Purpose.all.mapM d.weightOf)
      = (Purpose.all.map weightCheck).findSome? d.fault? := by
    simp only [faultIn_mapM, faultIn_weightOf, List.findSome?_map, Function.comp_def]
  rw [hsteps, hweights,
    faultIn_demanded (c := ⟨.limits, _, .positive⟩) fun _ => rfl,
    faultIn_demanded (c := ⟨.limits, _, .positive⟩) fun _ => rfl,
    faultIn_demanded (c := ⟨.limits, _, .positiveIfSet⟩) fun _ => rfl,
    faultIn_demanded (c := ⟨.output, _, .format⟩) fun _ => rfl]
  rw [checks, List.findSome?_append, List.findSome?_append]
  simp only [findSome?_cons_or, List.findSome?_nil, Option.or_none, Option.or_assoc]

/-! ## Laying the file over the defaults -/

/-- The file has something that is no table for the section. -/
def isNoTable (file : Fields) (s : Section) : Bool :=
  match file.lookup s.text with
  | some (.table _) => false
  | some _ => true
  | none => false

private theorem faultIn_sectionOf (file : Fields) (s : Section) :
    faultIn (sectionOf file s) = if isNoTable file s then some (.notTable s) else none := by
  rw [sectionOf, isNoTable]
  cases file.lookup s.text with
  | none => rfl
  | some v =>
      cases v with
      | table fields => rfl
      | _ => rfl

/-- A file fails with the first section that is no table. -/
theorem faultIn_ofFile (file : Fields) :
    faultIn (Draft.ofFile file) = (Section.all.find? (isNoTable file)).map .notTable := by
  have hsteps : faultIn (Draft.ofFile file)
      = (faultIn (sectionOf file .limits)).or ((faultIn (sectionOf file .weights)).or
          ((faultIn (sectionOf file .classification)).or
            ((faultIn (sectionOf file .output)).or none))) :=
    faultIn_bind fun _ => faultIn_bind fun _ => faultIn_bind fun _ => faultIn_bind fun _ => rfl
  rw [hsteps, ← findSome?_if, Section.all]
  simp only [faultIn_sectionOf, findSome?_cons_or, List.findSome?_nil]

/-- A field has the value that is given for it, if there is one. -/
theorem get_overlaid (defaults given : Fields) (name : String) :
    (overlaid defaults given).get name
      = ((defaults.lookup name).map fun v => (given.lookup name).getD v).getD .absent := by
  rw [Fields.get]
  refine congrArg (Option.getD · Value.absent) ?_
  induction defaults with
  | nil => rfl
  | cons f fs ih =>
      obtain ⟨key, v⟩ := f
      rw [overlaid, List.map_cons, List.lookup_cons, List.lookup_cons]
      cases hkey : name == key with
      | true =>
          rw [eq_of_beq hkey]
          rfl
      | false => exact ih

/-- The paths to ignore that a file gives, or none. -/
def ignoredIn (file : Fields) : Value :=
  match file.lookup Section.classification.text with
  | some (.table fields) => (fields.lookup "ignore_paths").getD (.array [])
  | _ => .array []

/-- A draft from a file has the paths to ignore that the file gives. -/
theorem get_ignored_of_ofFile {file : Fields} {d : Draft} (h : Draft.ofFile file = .ok d) :
    d.get .classification "ignore_paths" = ignoredIn file := by
  obtain ⟨limits, -, h⟩ := bind_eq_ok_iff.1 h
  obtain ⟨weights, -, h⟩ := bind_eq_ok_iff.1 h
  obtain ⟨classification, hgiven, h⟩ := bind_eq_ok_iff.1 h
  obtain ⟨output, -, h⟩ := bind_eq_ok_iff.1 h
  cases h
  have hdefault : Section.classification.defaults.lookup "ignore_paths" = some (.array []) := rfl
  show (overlaid Section.classification.defaults classification).get "ignore_paths" = _
  rw [get_overlaid, hdefault, ignoredIn]
  rw [sectionOf] at hgiven
  cases hlookup : file.lookup Section.classification.text with
  | none =>
      rw [hlookup] at hgiven
      cases hgiven
      rfl
  | some v =>
      rw [hlookup] at hgiven
      cases v with
      | table fields =>
          cases hgiven
          rfl
      | _ => cases hgiven

/-! ## Laying the environment over the file -/

/-- The value is an array. -/
def Value.isArray : Value → Bool
  | .array _ => true
  | _ => false

/-- A new value for a field of a section leaves the other sections as they are. -/
theorem get_set_of_ne {s t : Section} (h : t ≠ s) (d : Draft) (name name' : String) (v : Value) :
    (d.set s name v).get t name' = d.get t name' := by
  rw [Draft.get, Draft.set]
  simp only [if_neg h]
  rfl

/-- A limit from the environment touches no classification field. -/
theorem get_withBound (env : Environment) (name : String) (l : Gate.Limit) (d : Draft)
    (field : String) :
    (d.withBound env name l).get .classification field = d.get .classification field := by
  rw [Draft.withBound]
  split
  · exact get_set_of_ne (by decide) d _ _ _
  · rfl

/-- Nor does a format from the environment. -/
theorem get_withFormat (env : Environment) (d : Draft) (field : String) :
    (d.withFormat env).get .classification field = d.get .classification field := by
  rw [Draft.withFormat]
  split
  · exact get_set_of_ne (by decide) d _ _ _
  · rfl

/-- The environment fails with paths to ignore where the file gives no array for them. -/
theorem withEnvironment_eq_error_iff {d : Draft} {env : Environment} {e : LayerFault} :
    d.withEnvironment env = .error e ↔
      e = .notExtensible ∧ (env.given? "RDA_IGNORE_PATHS").isSome = true ∧
        (d.get .classification "ignore_paths").isArray = false := by
  rw [Draft.withEnvironment, Draft.withIgnored]
  cases env.given? "RDA_IGNORE_PATHS" with
  | none =>
      constructor
      · exact fun h => nomatch h
      · exact fun h => nomatch h.2.1
  | some paths =>
      rw [get_withFormat, get_withBound, get_withBound]
      cases d.get .classification "ignore_paths" with
      | array items =>
          constructor
          · exact fun h => nomatch h
          · exact fun h => nomatch h.2.2
      | _ =>
          constructor
          · intro h
            cases h
            exact ⟨rfl, rfl, rfl⟩
          · rintro ⟨rfl, -, -⟩
            rfl

/-! ## Loading -/

/-- The fields that the settings file gives. Without a file there are none. -/
inductive Gives (files : Files) (repository : String) (asked : Option String) : Fields → Prop
  | noFile :
      askedFor asked = none → (files (settingsPath repository asked)).content? = none →
      Gives files repository asked []
  | file {content : Bytes} {text : String} {fields : Fields} :
      (files (settingsPath repository asked)).content? = some content →
      Text.Utf8.decode? content = some text → Toml.read text = .ok fields →
      Gives files repository asked fields

/-- The draft that the fields of a file and the environment come to. -/
def Yields (env : Environment) (fields : Fields) (d : Draft) : Prop :=
  ∃ base, Draft.ofFields fields = .ok base ∧ base.withEnvironment env = .ok d

/-- What is left to do with the draft of a file. -/
def finished (env : Environment) (d : Draft) : Except Fault Checked := do
  let d ← (d.withEnvironment env).mapError .layer
  d.check.mapError faultOf

/-- A file without fields changes nothing. -/
theorem ofFile_nil : Draft.ofFile [] = .ok Draft.default := by
  refine congrArg Except.ok (congrArg (Draft.mk "1.0") ?_)
  funext s
  cases s <;> rfl

private theorem ofFields_nil : Draft.ofFields [] = .ok Draft.default := by
  have hversion : (Fields.get [] "version").isShowable = true := rfl
  rw [Draft.ofFields, if_pos hversion, ofFile_nil]
  rfl

/-- The fields fail with a version that cannot be written, or else with the first section that is
    no table. -/
theorem ofFields_eq_error_iff {fields : Fields} {e : Fault} :
    Draft.ofFields fields = .error e ↔
      ((fields.get "version").isShowable = false ∧ e = .numberTooLong) ∨
      ((fields.get "version").isShowable = true ∧
        ∃ s, Section.all.find? (isNoTable fields) = some s ∧ e = .layer (.notTable s)) := by
  rw [Draft.ofFields]
  cases (fields.get "version").isShowable with
  | false =>
      constructor
      · intro h
        cases h
        exact .inl ⟨rfl, rfl⟩
      · rintro (⟨-, rfl⟩ | ⟨h, -⟩)
        · rfl
        · cases h
  | true =>
      have hfile : ∀ e', Draft.ofFile fields = .error e' ↔
          ∃ s, Section.all.find? (isNoTable fields) = some s ∧ LayerFault.notTable s = e' := by
        intro e'
        rw [← faultIn_eq_some_iff, faultIn_ofFile, Option.map_eq_some_iff]
      rw [if_pos rfl, mapError_eq_error_iff]
      constructor
      · rintro ⟨e', he', rfl⟩
        obtain ⟨s, hs, rfl⟩ := (hfile e').1 he'
        exact .inr ⟨rfl, s, hs, rfl⟩
      · rintro (⟨h, -⟩ | ⟨-, s, hs, rfl⟩)
        · cases h
        · exact ⟨_, (hfile _).2 ⟨s, hs, rfl⟩, rfl⟩

/-- The fields make a draft if the version can be written and every section is a table. -/
theorem ofFields_eq_ok_iff {fields : Fields} {d : Draft} :
    Draft.ofFields fields = .ok d ↔
      (fields.get "version").isShowable = true ∧ Draft.ofFile fields = .ok d := by
  rw [Draft.ofFields]
  cases (fields.get "version").isShowable with
  | false =>
      constructor
      · exact fun h => nomatch h
      · exact fun h => nomatch h.1
  | true =>
      rw [if_pos rfl, mapError_eq_ok_iff]
      exact (and_iff_right rfl).symm

/-- Every section of a file is a table exactly when the file makes a draft. -/
theorem find?_isNoTable_eq_none_iff {fields : Fields} :
    Section.all.find? (isNoTable fields) = none ↔ ∃ d, Draft.ofFile fields = .ok d := by
  rw [← faultIn_eq_none_iff, faultIn_ofFile, Option.map_eq_none_iff]

variable {files : Files} {env : Environment} {repository : String} {asked : Option String}

/-- A draft of a file fails with paths to ignore that cannot be added to, or else with the first
    field that is not what it has to be. -/
theorem finished_eq_error_iff {base : Draft} {e : Fault} :
    finished env base = .error e ↔
      ((env.given? "RDA_IGNORE_PATHS").isSome = true ∧
        (base.get .classification "ignore_paths").isArray = false ∧ e = .layer .notExtensible) ∨
      ∃ d fault, base.withEnvironment env = .ok d ∧ checks.findSome? d.fault? = some fault ∧
        e = faultOf fault := by
  simp only [finished, bind_eq_error_iff, mapError_eq_ok_iff, mapError_eq_error_iff,
    withEnvironment_eq_error_iff, ← faultIn_check, faultIn_eq_some_iff]
  constructor
  · rintro (⟨_, ⟨rfl, hgiven, harray⟩, rfl⟩ | ⟨d, hd, fault, hfault, rfl⟩)
    · exact .inl ⟨hgiven, harray, rfl⟩
    · exact .inr ⟨d, fault, hd, hfault, rfl⟩
  · rintro (⟨hgiven, harray, rfl⟩ | ⟨d, fault, hd, hfault, rfl⟩)
    · exact .inl ⟨_, ⟨rfl, hgiven, harray⟩, rfl⟩
    · exact .inr ⟨d, hd, fault, hfault, rfl⟩

/-- Loading goes on with the draft of the file's content. -/
theorem load_of_content {content : Bytes}
    (h : (files (settingsPath repository asked)).content? = some content) :
    load files env repository asked
      = Draft.ofContent (settingsPath repository asked) content >>= finished env := by
  rw [load, settingsContent?, h]
  rfl

/-- Loading goes on with the fields that the file gives. -/
theorem load_of_gives {fields : Fields} (h : Gives files repository asked fields) :
    load files env repository asked = Draft.ofFields fields >>= finished env := by
  cases h with
  | noFile hasked hcontent =>
      rw [load, settingsContent?, hcontent, hasked, ofFields_nil]
      rfl
  | file hcontent htext hfields =>
      rw [load_of_content hcontent]
      simp only [Draft.ofContent, htext, hfields]

/-- The failures that are said in words: the file that is asked for is missing, the file is no
    document, a section of it is no table, or a field is not what it has to be. -/
inductive Foreseen (files : Files) (env : Environment) (repository : String)
    (asked : Option String) : Fault → Prop
  | notFound {path : String} :
      askedFor asked = some path → (files (settingsPath repository asked)).content? = none →
      Foreseen files env repository asked (.notFound path)
  | unreadable {content : Bytes} {text : String} :
      (files (settingsPath repository asked)).content? = some content →
      Text.Utf8.decode? content = some text → Toml.read text = .error .malformed →
      Foreseen files env repository asked (.unreadable (settingsPath repository asked))
  | notTable {fields : Fields} {s : Section} :
      Gives files repository asked fields → (fields.get "version").isShowable = true →
      Section.all.find? (isNoTable fields) = some s →
      Foreseen files env repository asked (.layer (.notTable s))
  | field {fields : Fields} {d : Draft} {e : FieldFault} :
      Gives files repository asked fields → Yields env fields d →
      checks.findSome? d.fault? = some e → e.value.isShowable = true →
      Foreseen files env repository asked (.field e)

/-- The failures that nothing is said about: the file is no text, a decimal number in it is too
    long to be read, the version or the value of a wrong field is too long to be written, or there
    are more paths to ignore and the file has something else than an array for them. -/
inductive Unforeseen (files : Files) (env : Environment) (repository : String)
    (asked : Option String) : Fault → Prop
  | notText {content : Bytes} :
      (files (settingsPath repository asked)).content? = some content →
      Text.Utf8.decode? content = none → Unforeseen files env repository asked .notText
  | longNumber {content : Bytes} {text : String} :
      (files (settingsPath repository asked)).content? = some content →
      Text.Utf8.decode? content = some text → Toml.read text = .error .numberTooLong →
      Unforeseen files env repository asked .numberTooLong
  | longVersion {fields : Fields} :
      Gives files repository asked fields → (fields.get "version").isShowable = false →
      Unforeseen files env repository asked .numberTooLong
  | notExtensible {fields : Fields} :
      Gives files repository asked fields → (fields.get "version").isShowable = true →
      Section.all.find? (isNoTable fields) = none →
      (env.given? "RDA_IGNORE_PATHS").isSome = true → (ignoredIn fields).isArray = false →
      Unforeseen files env repository asked (.layer .notExtensible)
  | longField {fields : Fields} {d : Draft} {e : FieldFault} :
      Gives files repository asked fields → Yields env fields d →
      checks.findSome? d.fault? = some e → e.value.isShowable = false →
      Unforeseen files env repository asked .numberTooLong

private theorem Foreseen.isSome_message? {e : Fault} (h : Foreseen files env repository asked e) :
    e.message?.isSome = true := by
  cases h with
  | notFound => rfl
  | unreadable => rfl
  | notTable => rfl
  | field => rfl

private theorem Unforeseen.message?_eq_none
    {e : Fault} (h : Unforeseen files env repository asked e) :
    e.message? = none := by
  cases h with
  | notText => rfl
  | longNumber => rfl
  | longVersion => rfl
  | notExtensible => rfl
  | longField => rfl

/-- With the fields that the file gives, loading fails in one of the ways that are listed. -/
theorem foreseen_or_unforeseen_of_gives {fields : Fields} {e : Fault}
    (hgives : Gives files repository asked fields)
    (h : Draft.ofFields fields >>= finished env = .error e) :
    Foreseen files env repository asked e ∨ Unforeseen files env repository asked e := by
  rcases bind_eq_error_iff.1 h with hfields | ⟨base, hbase, hfinished⟩
  · rcases ofFields_eq_error_iff.1 hfields with ⟨hversion, rfl⟩ | ⟨hversion, s, hs, rfl⟩
    · exact .inr (.longVersion hgives hversion)
    · exact .inl (.notTable hgives hversion hs)
  · rcases finished_eq_error_iff.1 hfinished with
      ⟨hgiven, harray, rfl⟩ | ⟨d, fault, hd, hfault, rfl⟩
    · obtain ⟨hversion, hfile⟩ := ofFields_eq_ok_iff.1 hbase
      rw [get_ignored_of_ofFile hfile] at harray
      have htables := find?_isNoTable_eq_none_iff.2 ⟨base, hfile⟩
      exact .inr (.notExtensible hgives hversion htables hgiven harray)
    · rw [faultOf]
      cases hshowable : fault.value.isShowable with
      | true => exact .inl (.field hgives ⟨base, hbase, hd⟩ hfault hshowable)
      | false => exact .inr (.longField hgives ⟨base, hbase, hd⟩ hfault hshowable)

/-- Loading fails in one of the ways that are listed. -/
theorem foreseen_or_unforeseen {e : Fault} (h : load files env repository asked = .error e) :
    Foreseen files env repository asked e ∨ Unforeseen files env repository asked e := by
  cases hcontent : (files (settingsPath repository asked)).content? with
  | none =>
      cases hasked : askedFor asked with
      | none =>
          have hgives : Gives files repository asked [] := .noFile hasked hcontent
          exact foreseen_or_unforeseen_of_gives hgives (load_of_gives hgives ▸ h)
      | some path =>
          rw [load, settingsContent?, hcontent, hasked] at h
          cases h
          exact .inl (.notFound hasked hcontent)
  | some content =>
      cases htext : Text.Utf8.decode? content with
      | none =>
          rw [load_of_content hcontent, Draft.ofContent, htext] at h
          cases h
          exact .inr (.notText hcontent htext)
      | some text =>
          cases hread : Toml.read text with
          | error fault =>
              rw [load_of_content hcontent] at h
              simp only [Draft.ofContent, htext, hread] at h
              cases fault with
              | malformed =>
                  cases h
                  exact .inl (.unreadable hcontent htext hread)
              | numberTooLong =>
                  cases h
                  exact .inr (.longNumber hcontent htext hread)
          | ok fields =>
              have hgives : Gives files repository asked fields := .file hcontent htext hread
              exact foreseen_or_unforeseen_of_gives hgives (load_of_gives hgives ▸ h)

/-- With the fields that the file gives, a wrong field makes loading fail. -/
theorem load_of_fault {fields : Fields} {d : Draft} {e : FieldFault}
    (hgives : Gives files repository asked fields) (hyields : Yields env fields d)
    (hfault : checks.findSome? d.fault? = some e) :
    load files env repository asked = .error (faultOf e) := by
  obtain ⟨base, hbase, hd⟩ := hyields
  rw [load_of_gives hgives, hbase]
  exact finished_eq_error_iff.2 (.inr ⟨d, e, hd, hfault, rfl⟩)

private theorem load_of_foreseen {e : Fault} (h : Foreseen files env repository asked e) :
    load files env repository asked = .error e := by
  cases h with
  | notFound hasked hcontent =>
      rw [load, settingsContent?, hcontent, hasked]
      rfl
  | unreadable hcontent htext hread =>
      rw [load_of_content hcontent]
      simp only [Draft.ofContent, htext, hread]
      rfl
  | notTable hgives hversion hs =>
      rw [load_of_gives hgives, ofFields_eq_error_iff.2 (.inr ⟨hversion, _, hs, rfl⟩)]
      rfl
  | field hgives hyields hfault hshowable =>
      rw [load_of_fault hgives hyields hfault, faultOf, if_pos hshowable]

private theorem load_of_unforeseen {e : Fault} (h : Unforeseen files env repository asked e) :
    load files env repository asked = .error e := by
  cases h with
  | notText hcontent htext =>
      rw [load_of_content hcontent, Draft.ofContent, htext]
      rfl
  | longNumber hcontent htext hread =>
      rw [load_of_content hcontent]
      simp only [Draft.ofContent, htext, hread]
      rfl
  | longVersion hgives hversion =>
      rw [load_of_gives hgives, ofFields_eq_error_iff.2 (.inl ⟨hversion, rfl⟩)]
      rfl
  | notExtensible hgives hversion htables hgiven harray =>
      obtain ⟨base, hbase⟩ := find?_isNoTable_eq_none_iff.1 htables
      rw [← get_ignored_of_ofFile hbase] at harray
      rw [load_of_gives hgives, ofFields_eq_ok_iff.2 ⟨hversion, hbase⟩]
      exact finished_eq_error_iff.2 (.inl ⟨hgiven, harray, rfl⟩)
  | longField hgives hyields hfault hshowable =>
      rw [load_of_fault hgives hyields hfault, faultOf, hshowable]
      rfl

/-- **Loading fails only in the ways that are listed**, whatever the file holds, whichever file is
    asked for and whatever the environment is: with words where the failure is foreseen, and without
    any where it is not. In all other cases there are settings. -/
theorem load_fails_iff (files : Files) (env : Environment) (repository : String)
    (asked : Option String) (e : Fault) :
    ((load files env repository asked = .error e ∧ e.message?.isSome = true) ↔
        Foreseen files env repository asked e) ∧
      ((load files env repository asked = .error e ∧ e.message? = none) ↔
        Unforeseen files env repository asked e) := by
  refine ⟨⟨?_, fun h => ⟨load_of_foreseen h, h.isSome_message?⟩⟩,
    ⟨?_, fun h => ⟨load_of_unforeseen h, h.message?_eq_none⟩⟩⟩
  · rintro ⟨hload, hmessage⟩
    refine (foreseen_or_unforeseen hload).resolve_right fun h => ?_
    rw [h.message?_eq_none] at hmessage
    cases hmessage
  · rintro ⟨hload, hmessage⟩
    refine (foreseen_or_unforeseen hload).resolve_left fun h => ?_
    have hsome := h.isSome_message?
    rw [hmessage] at hsome
    cases hsome

/-- A settings file of a single byte that is no text makes loading fail without words. -/
theorem load_fails_without_words :
    ¬∀ (files : Files) (env : Environment) (repository : String) (asked : Option String)
      (e : Fault), load files env repository asked = .error e → e.message?.isSome = true := by
  intro h
  have hload : load (fun _ => .file [0xff]) (fun _ => none) "" none = .error .notText := rfl
  exact Bool.false_ne_true (h _ _ _ _ _ hload)

end DiffGauge.Settings
