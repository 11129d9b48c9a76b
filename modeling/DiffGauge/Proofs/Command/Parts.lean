import DiffGauge.Proofs.Analysis.Strictness
import DiffGauge.Proofs.Command.Verdict
import Mathlib

/-!
# The parts of an analysis

Every part of an analysis that comes before the report follows what it comes to: it yields the
value, or it refuses for the hindrance, unless it breaks off or a failure escapes that the hindrance
lets escape.

* `Follows` sets a part beside what it comes to, and `Follows.bind` puts parts together;
* `prepare_follows`, `comparison_follows` and `analysis_follows` are the parts of `Command.analyze`.
-/

namespace DiffGauge.Command

open Analysis Settings Activity

variable {ε : Type} {machine : Machine ε}

/-- The activity ends the command with 2 and says what the hindrance is. -/
structure Refuses (machine : Machine ε) {α : Type} (t : Activity ε α) (h : Hindrance ε) : Prop where
  result : t.result = .error (.exit 2)
  said : h.SaidIn machine t.events

/-- The activity follows what it comes to: it yields a value for the value, and for a hindrance it
    refuses, or lets a failure escape. It may break off wherever it does something. -/
inductive Follows (machine : Machine ε) {α β : Type} (R : α → β → Prop) (t : Activity ε α) :
    Except (Hindrance ε) β → Prop where
  | done {a : α} {b : β} : t.result = .ok a → R a b → Follows machine R t (.ok b)
  | refused {h : Hindrance ε} : Refuses machine t h → Follows machine R t (.error h)
  | escaped {h : Hindrance ε} {e : Escape ε} :
      t.result = .error (.escaped e) → h.Escapes machine e → Follows machine R t (.error h)
  | broken {p : Except (Hindrance ε) β} {e : Escape ε} :
      t.result = .error (.escaped e) → BreaksOff machine t.events e → Follows machine R t p

section Follows

variable {α β γ δ : Type} {R : α → β → Prop}

/-- What is said is said, whatever was done before. -/
theorem Hindrance.SaidIn.behind {h : Hindrance ε} {events : List Event}
    (hsaid : h.SaidIn machine events) (before : List Event) :
    h.SaidIn machine (before ++ events) := by
  obtain ⟨line, text, hline, hread, hmem⟩ := hsaid
  exact ⟨line, text, hline, hread, List.mem_append_right _ hmem⟩

/-- What broke off broke off, whatever was done before. -/
theorem BreaksOff.behind {events : List Event} {e : Escape ε} (h : BreaksOff machine events e)
    (before : List Event) : BreaksOff machine (before ++ events) e := by
  obtain ⟨event, failure, hlast, hbreaks, heq⟩ := h
  refine ⟨event, failure, ?_, hbreaks, heq⟩
  rw [List.getLast?_append, hlast]
  rfl

/-- A refusal may come after another activity. -/
theorem Refuses.after {t : Activity ε γ} {c : γ} {f : γ → Activity ε α} {h : Hindrance ε}
    (ht : t.result = .ok c) (hf : Refuses machine (f c) h) : Refuses machine (t >>= f) h := by
  rw [bind_of_ok ht]
  exact ⟨hf.result, hf.said.behind _⟩

/-- After a refusal nothing is done. -/
theorem Refuses.bind {t : Activity ε γ} {h : Hindrance ε} (ht : Refuses machine t h)
    (f : γ → Activity ε α) : Refuses machine (t >>= f) h := by
  rw [bind_of_error ht.result]
  exact ⟨rfl, ht.said⟩

/-- What broke off after a part was done broke off in both together. -/
theorem BreaksOff.after {t : Activity ε γ} {c : γ} {f : γ → Activity ε α} {e : Escape ε}
    (ht : t.result = .ok c) (h : BreaksOff machine (f c).events e) :
    BreaksOff machine (t >>= f).events e := by
  rw [bind_of_ok ht]
  exact h.behind _

/-- What broke off in a part broke off whatever was to follow. -/
theorem BreaksOff.bind {t : Activity ε γ} {e : Escape ε} {x : Ending ε}
    (ht : t.result = .error x) (h : BreaksOff machine t.events e) (f : γ → Activity ε α) :
    BreaksOff machine (t >>= f).events e := by
  rw [bind_of_error ht]
  exact h

/-- A value follows the value that it belongs to. -/
theorem Follows.pure {a : α} {b : β} (h : R a b) : Follows machine R (Pure.pure a) (.ok b) :=
  .done rfl h

/-- An activity may come after what is only asked for. -/
theorem Follows.after {t : Activity ε γ} {c : γ} {f : γ → Activity ε α}
    {p : Except (Hindrance ε) β} (ht : t.result = .ok c) (h : Follows machine R (f c) p) :
    Follows machine R (t >>= f) p := by
  have hresult := result_bind_of_ok ht f
  cases h with
  | done hf hR => exact .done (hresult.trans hf) hR
  | refused hf => exact .refused (.after ht hf)
  | escaped hf he => exact .escaped (hresult.trans hf) he
  | broken hf he => exact .broken (hresult.trans hf) (.after ht he)

/-- A part with a hindrance ends the command, whatever was to follow. -/
theorem Follows.stop {S : γ → δ → Prop} {t : Activity ε α} {h : Hindrance ε}
    (ht : Follows machine R t (.error h)) (f : α → Activity ε γ) :
    Follows machine S (t >>= f) (.error h) := by
  cases ht with
  | refused ht => exact .refused (ht.bind f)
  | escaped ht he => exact .escaped (result_bind_of_error ht f) he
  | broken ht he => exact .broken (result_bind_of_error ht f) (.bind ht he f)

/-- A part that comes to a value goes on with what it yields. -/
theorem Follows.goOn {S : γ → δ → Prop} {t : Activity ε α} {b : β} {f : α → Activity ε γ}
    {p : Except (Hindrance ε) δ} (ht : Follows machine R t (.ok b))
    (hf : ∀ a, R a b → Follows machine S (f a) p) : Follows machine S (t >>= f) p := by
  cases ht with
  | done ha hR => exact .after ha (hf _ hR)
  | broken ht he => exact .broken (result_bind_of_error ht f) (.bind ht he f)

/-- Two steps follow two steps, the first one the first and the second one the second. -/
theorem Follows.bind {S : γ → δ → Prop} {t : Activity ε α} {p : Except (Hindrance ε) β}
    {f : α → Activity ε γ} {g : β → Except (Hindrance ε) δ} (ht : Follows machine R t p)
    (hf : ∀ a b, R a b → Follows machine S (f a) (g b)) :
    Follows machine S (t >>= f) (p >>= g) := by
  cases p with
  | ok b => exact ht.goOn fun a hR => hf a b hR
  | error h => exact ht.stop f

/-- An activity may come after a step that meets no hindrance. -/
theorem Follows.next {t : Activity ε γ} {c : γ} {f : γ → Activity ε α}
    {p : Except (Hindrance ε) β} (ht : Follows machine Eq t (.ok c))
    (hf : Follows machine R (f c) p) : Follows machine R (t >>= f) p := by
  refine ht.goOn fun a heq => ?_
  cases heq
  exact hf

/-- The same is made of both results. -/
theorem Follows.map {f : α → γ} {t : Activity ε α} {p : Except (Hindrance ε) α}
    (h : Follows machine Eq t p) : Follows machine Eq (f <$> t) (f <$> p) := by
  have hbind : Follows machine Eq (t >>= fun a => Pure.pure (f a)) (p >>= fun a => .ok (f a)) :=
    h.bind fun _ _ heq => .pure (congrArg f heq)
  cases p with
  | ok a => exact hbind
  | error e => exact hbind

/-- A failure without an answer follows its hindrance. -/
theorem Follows.escape {h : Hindrance ε} {e : Escape ε} (he : h.Escapes machine e) :
    Follows machine R (Activity.escape e) (.error h) := .escaped rfl he

/-- A result goes on or is answered. -/
theorem Follows.ofExcept {ε' : Type} {answer : ε' → Activity ε α}
    {hindrance : ε' → Hindrance ε} {p : Except ε' α}
    (h : ∀ e, p = .error e → Follows machine Eq (answer e) (.error (hindrance e) : Except _ α)) :
    Follows machine Eq (Activity.ofExcept answer p) (p.mapError hindrance) := by
  cases p with
  | ok a => exact .pure rfl
  | error e => exact h e rfl

/-! ## What is done -/

private theorem result_perform_of_none {event : Event} (h : machine.breaksOff? event = none) :
    (perform machine event).result = .ok () := by
  simp only [perform, h]

private theorem result_perform_of_some {event : Event} {failure : ε}
    (h : machine.breaksOff? event = some failure) :
    (perform machine event).result = .error (.escaped (.outside failure)) := by
  simp only [perform, h]

private theorem breaksOff_perform {event : Event} {failure : ε}
    (h : machine.breaksOff? event = some failure) :
    BreaksOff machine (perform machine event).events (.outside failure) :=
  ⟨event, failure, rfl, h, rfl⟩

/-- To do something meets no hindrance. -/
theorem perform_follows (event : Event) : Follows machine Eq (perform machine event) (.ok ()) := by
  cases hbreaks : machine.breaksOff? event with
  | none => exact .done (result_perform_of_none hbreaks) rfl
  | some failure => exact .broken (result_perform_of_some hbreaks) (breaksOff_perform hbreaks)

private theorem performAll_follows (events : List Event) :
    Follows machine Eq (performAll machine events) (.ok ()) := by
  induction events with
  | nil => exact .pure rfl
  | cons event events ih => exact .next (perform_follows event) ih

private theorem log_follows (least : LogLevel) (entries : List LogEntry) :
    Follows machine Eq (log machine least entries) (.ok ()) := performAll_follows _

/-- To look at a file meets no hindrance. -/
theorem look_follows (path : String) :
    Follows machine Eq (look machine path) (.ok (machine.files path)) :=
  .next (perform_follows _) (.pure rfl)

private theorem openFile_follows (path : String) :
    Follows machine Eq (openFile machine path) (.ok (machine.unreadable? path)) :=
  .next (perform_follows _) (.pure rfl)

private theorem ask_follows (q : Git.Query) (answer : Except Git.Fault α) :
    Follows machine Eq (ask machine q answer) (.ok answer) :=
  .next (perform_follows _) (.pure rfl)

/-- A line that the console can read is printed. -/
theorem say_of_read {line text : String} (h : machine.libraries.console.read line = some text) :
    say machine line = perform machine (.err (machine.libraries.console.line text)) := by
  rw [say, h]

/-- A line that the console cannot read lets a failure escape. -/
theorem say_of_faulty {line : String} (h : machine.libraries.console.read line = none) :
    say machine line = Activity.escape .markup := by
  rw [say, h]

/-- A refusal follows the hindrance whose line it says. -/
theorem Follows.refuse {h : Hindrance ε} {label message : String}
    (hline : h.line? machine = some (refusal label message)) :
    Follows machine R (Activity.refuse machine label message) (.error h) := by
  show Follows machine R (say machine (refusal label message) >>= fun _ => Activity.exit 2) _
  cases hread : machine.libraries.console.read (refusal label message) with
  | none =>
      rw [say_of_faulty hread]
      exact .escaped rfl (.markup hline hread)
  | some text =>
      rw [say_of_read hread]
      cases hbreaks : machine.breaksOff? (.err (machine.libraries.console.line text)) with
      | some failure =>
          have hperform := result_perform_of_some hbreaks
          exact .broken (result_bind_of_error hperform _)
            (.bind hperform (breaksOff_perform hbreaks) _)
      | none =>
          rw [bind_of_ok (result_perform_of_none hbreaks)]
          exact .refused ⟨rfl, _, text, hline, hread, List.mem_singleton_self _⟩

end Follows

/-! ## The repository and its settings -/

private theorem repository_follows :
    Follows machine Eq (repository machine) ((Git.topLevel machine.git).mapError .repository) :=
  .next (ask_follows _ _) (.ofExcept fun _ _ => .refuse rfl)

private theorem place_follows (o : AnalyzeOptions) :
    Follows machine Eq (place machine o) (location machine o) := by
  unfold place location
  cases o.diffFile with
  | some path =>
      refine .next (ask_follows _ _) ?_
      cases Git.topLevel machine.git with
      | ok root => exact .pure rfl
      | error e => exact .pure rfl
  | none =>
      have hroot : Follows machine Eq (repository machine >>= fun root => Pure.pure (root, true))
          ((Git.topLevel machine.git).mapError .repository >>= fun root => .ok (root, true)) :=
        repository_follows.bind fun _ _ heq => .pure (congrArg (·, true) heq)
      cases htop : Git.topLevel machine.git with
      | ok root =>
          rw [htop] at hroot
          exact hroot
      | error e =>
          rw [htop] at hroot
          exact hroot

/-- The settings file is opened if there is one. -/
theorem openSettings_follows (path : String) :
    Follows machine Eq (openSettings machine path)
      (match (machine.files path).content?.bind fun _ => machine.unreadable? path with
        | some e => .error (.settingsFile path e)
        | none => .ok ()) := by
  refine .next (look_follows path) ?_
  cases (machine.files path).content? with
  | none => exact .pure rfl
  | some content =>
      refine .next (openFile_follows path) ?_
      simp only [Option.bind_some]
      cases machine.unreadable? path with
      | none => exact .pure rfl
      | some failure => exact .refuse rfl

private theorem load_follows (root : String) (config : Option String) :
    Follows machine Eq
      (ofExcept (refuseSettings machine) (load machine.files machine.environment root config))
      ((load machine.files machine.environment root config).mapError .settings) := by
  refine .ofExcept fun e _ => ?_
  cases e with
  | notText => exact .escape .settingsNotText
  | numberTooLong => exact .escape .settingsNumber
  | notFound asked => exact .refuse rfl
  | unreadable path => exact .refuse rfl
  | field e => exact .refuse rfl
  | layer e =>
      cases e with
      | notTable s => exact .refuse rfl
      | notExtensible => exact .escape .notExtensible

private theorem settings_follows (o : AnalyzeOptions) (root : String) :
    Follows machine Eq (settings machine o root) (settingsOf machine o root) := by
  have hload : Follows machine Eq _ _ := load_follows root o.config
  have hopened := (openSettings_follows (settingsPath root o.config)).bind fun _ _ _ => hload
  unfold settings settingsOf
  simp only
  generalize ((machine.files (settingsPath root o.config)).content?.bind fun _ =>
    machine.unreadable? (settingsPath root o.config)) = failure? at hopened ⊢
  cases failure? with
  | some failure => exact hopened
  | none => exact hopened

private theorem formatOf_follows (o : AnalyzeOptions) (c : Checked) :
    Follows machine Eq (formatOf machine o c) (wantedFormat o c) := by
  unfold formatOf wantedFormat
  cases given? o.format with
  | none => exact .pure rfl
  | some name =>
      simp only
      cases Report.Format.ofText? name with
      | none => exact .refuse rfl
      | some format => exact .pure rfl

/-- The run is prepared on the ground that the verdict stands on. -/
theorem prepare_follows (o : AnalyzeOptions) :
    Follows machine Eq (prepare machine o) (ground machine o) := by
  unfold prepare ground
  cases (given? o.head).isSome && (given? o.base).isNone with
  | true =>
      have hrefused : Follows (α := Unit) (β := Unit) machine Eq
          (refuse machine "Error" "--to requires --from") (.error .headWithoutBase) := .refuse rfl
      exact hrefused.stop _
  | false =>
      refine Follows.bind (place_follows o) fun place _ heq => ?_
      cases heq
      refine Follows.bind (settings_follows o place.1) fun c _ heq => ?_
      cases heq
      refine Follows.bind (formatOf_follows o c) fun format _ heq => ?_
      cases heq
      exact .pure rfl

/-! ## The diff and its sources -/

private theorem askFor_follows {α : Type} (q : Git.Query) (answer : Except Git.Fault α) :
    Follows machine Eq (askFor machine q answer) (answer.mapError .git) :=
  .next (ask_follows q answer) (.ofExcept fun _ _ => .refuse rfl)

private theorem diffText_follows (path : String) :
    Follows machine Eq (diffText machine path) (textAt machine path) := by
  unfold diffText textAt
  split
  · refine .next (perform_follows _) ?_
    cases machine.inputText? machine.input with
    | some text => exact .pure rfl
    | none => exact .escape .input
  · refine .next (look_follows _) ?_
    cases machine.files (Path.tidy path) with
    | file content =>
        refine .next (openFile_follows _) ?_
        simp only
        cases machine.unreadable? (Path.tidy path) with
        | none => exact .pure rfl
        | some failure => exact .refuse rfl
    | directory => exact .refuse rfl
    | missing => exact .refuse rfl
    | insideFile => exact .refuse rfl

private theorem onDisk_follows (root path : String) :
    Follows machine Eq (onDisk machine root path) (sourceAt machine root path) := by
  unfold onDisk sourceAt
  refine .next (look_follows _) ?_
  simp only
  cases (machine.files (Path.within root path)).content? with
  | none => exact .pure rfl
  | some content =>
      refine .next (openFile_follows _) ?_
      simp only
      cases machine.unreadable? (Path.within root path) with
      | none => exact .pure rfl
      | some failure => exact .escape (.source failure)

private theorem atRevision_follows (revision : Option String) (path : String) :
    Follows machine Eq (atRevision machine revision path) (revisionOf machine revision path) :=
  askFor_follows _ _

/-- The comparison reads the same sources from the machine. -/
structure Comparison.Reads (machine : Machine ε) (c : Comparison ε) (m : Material ε) : Prop where
  text : c.text = m.text
  new : ∀ path, Follows machine Eq (c.fetchNew path) (m.new path)
  old : Option.Rel
    (fun fetch (read : String → Except (Hindrance ε) (Option String)) =>
      ∀ path, Follows machine Eq (fetch path) (read path)) c.fetchOld m.old

/-- The run compares the material of the verdict. -/
theorem comparison_follows (o : AnalyzeOptions) (g : Ground) :
    Follows machine (Comparison.Reads machine) (comparison machine o g) (material machine o g) := by
  unfold comparison material
  cases o.diffFile with
  | some path =>
      refine .bind (diffText_follows path) fun text _ heq => ?_
      cases heq
      refine .pure ⟨rfl, onDisk_follows g.root, ?_⟩
      cases if g.isRepository = true then o.base else none with
      | none => exact .none
      | some base => exact .some (atRevision_follows _)
  | none =>
      cases given? o.base with
      | some base =>
          refine .bind (askFor_follows _ _) fun text _ heq => ?_
          cases heq
          exact .pure ⟨rfl, atRevision_follows _, .some (atRevision_follows _)⟩
      | none =>
          refine .bind (askFor_follows _ _) fun text _ heq => ?_
          cases heq
          refine .bind (askFor_follows _ _) fun hasHead _ heq => ?_
          cases heq
          refine .pure ⟨rfl, atRevision_follows _, ?_⟩
          cases hasHead with
          | false => exact .none
          | true => exact .some (atRevision_follows _)

private theorem gather_follows {fetch : String → Activity ε (Option String)}
    {read : String → Except (Hindrance ε) (Option String)}
    (h : ∀ path, Follows machine Eq (fetch path) (read path)) (paths : List String) :
    Follows machine Eq (gather fetch paths) (gather read paths) := by
  induction paths with
  | nil => exact .pure rfl
  | cons path paths ih =>
      refine (h path).bind fun source _ heq => ?_
      cases heq
      refine ih.bind fun rest _ heq => ?_
      cases heq
      exact .pure rfl

private theorem refuseDiff_follows (fault : Diff.Fault) {α β : Type} {R : α → β → Prop} :
    Follows machine R (refuseDiff machine fault) (.error (.analysis (.diff fault))) := by
  cases fault with
  | numberTooLong => exact .escape .diffNumber
  | «at» cause line => exact .refuse rfl

private theorem sources_follows {c : Comparison ε} {m : Material ε} (h : c.Reads machine m) :
    Follows machine (fun found sources => found.2 = sources) (sources machine c) (gathered m) := by
  unfold sources gathered
  rw [h.text]
  refine .bind (S := _) (R := Eq) (.ofExcept fun e _ => refuseDiff_follows e) fun files _ heq => ?_
  cases heq
  refine (gather_follows h.new _).bind fun news _ heq => ?_
  cases heq
  have hold := h.old
  generalize c.fetchOld = fetch? at hold
  generalize m.old = read? at hold
  cases hold with
  | none => exact .pure rfl
  | some hfetch =>
      refine (gather_follows hfetch (oldPaths files)).map.bind fun olds _ heq => ?_
      cases heq
      exact .pure rfl

private theorem refuseAnalysis_follows
    {s : Setup (Escape ε)} {e : Failure (Escape ε)} (h : s.FailsFor e)
    {α β : Type} {R : α → β → Prop} :
    Follows machine R (refuseAnalysis machine e) (.error (.analysis e)) := by
  cases h with
  | diff fault => exact refuseDiff_follows fault
  | source path fault => exact .refuse rfl
  | invalidSpan => exact .escape (.invalidSpan _)
  | blocked => exact .escape (.blocked _)

/-- The run analyzes as the verdict examines. -/
theorem analysis_follows (o : AnalyzeOptions) (settings : Checked) {c : Comparison ε}
    {m : Material ε} (h : c.Reads machine m) :
    Follows machine Eq (analysis machine o settings c) (examined machine o settings m) := by
  unfold analysis examined
  refine (sources_follows h).bind fun found _ heq => ?_
  cases heq
  obtain ⟨files, news, olds⟩ := found
  rw [h.text]
  exact .next (log_follows _ _) (.ofExcept fun e he => refuseAnalysis_follows (analyze_error he))

end DiffGauge.Command
