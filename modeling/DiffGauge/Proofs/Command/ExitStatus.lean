import DiffGauge.Proofs.Command.Parts
import DiffGauge.Proofs.Rust.Spread
import DiffGauge.Proofs.Settings.Classification
import Mathlib

/-!
# How an analysis ends

An analysis ends as its verdict says if every failure has an answer and nothing breaks off, and
otherwise one of the failures escapes.

* `Shows` says what a part comes to that prints or writes, and `announce_shows` and
  `conclude_ends` are those of `Command.analyze`;
* `Ends.goOn` and `Ends.stop` put the other parts before them;
* `run_ends_as_judged` says it of a whole command line, with what the failures without an answer
  come from.
-/

namespace DiffGauge.Command

open Analysis Settings Activity

variable {ε : Type} {machine : Machine ε} {o : AnalyzeOptions}

/-! ## What is said and written -/

/-- The lines that are said of what is known before there is a diff can be read and written. -/
structure Ground.IsPrintable (machine : Machine ε) (g : Ground) : Prop where
  place : machine.libraries.console.read (placeLine g.root) ≠ none
  writable : areWritableLimits g.settings = true
  limits : machine.libraries.console.read (limitsLine g.settings) ≠ none

/-- The report and what is said with it can be printed, and the file for it can be written. -/
structure Judgement.IsReportable (machine : Machine ε) (o : AnalyzeOptions) (j : Judgement) :
    Prop where
  duration : o.isDebug = true → machine.libraries.console.read (durationLine j.result) ≠ none
  report : j.format = .terminal →
    Text.firstFault? (Report.Terminal.prints j.run machine.libraries.console) = none
  document : j.format ≠ .terminal ∨ (given? o.output).isSome = true →
    (Report.document j.run).isWritable = true
  file : ∀ path, given? o.output = some path →
    writeFault? machine.files (Path.tidy path) = none
  saved : ∀ path, o.isVerbose = true → given? o.output = some path →
    machine.libraries.console.read (savedLine path) ≠ none

/-- What is said before there is a diff, if it is wanted, can be said. -/
def IsAnnounced (machine : Machine ε) (o : AnalyzeOptions) : Prop :=
  ∀ g, ground machine o = .ok g → (o.isVerbose || o.isDebug) = true → g.IsPrintable machine

/-- A hindrance lets a failure escape if nothing can be said of it. -/
theorem Hindrance.Escapes.unsaid {h : Hindrance ε} {e : Escape ε} (he : h.Escapes machine e)
    {line text : String} (hline : h.line? machine = some line)
    (hread : machine.libraries.console.read line = some text) : False := by
  cases he with
  | markup hline' hfaulty =>
      rw [hline] at hline'
      cases hline'
      rw [hread] at hfaulty
      cases hfaulty
  | _ => cases hline

/-- Nothing escapes if all that is said can be said and all that is written can be written. -/
theorem not_unanswered (hannounced : IsAnnounced machine o)
    (hhindrance : ∀ h e, verdict machine o = .error h → ¬h.Escapes machine e)
    (hreportable : ∀ j, verdict machine o = .ok j → j.IsReportable machine o) (e : Escape ε) :
    ¬Unanswered machine o e := by
  intro hunanswered
  cases hunanswered with
  | hindrance hverdict he => exact hhindrance _ _ hverdict he
  | line hsays hfaulty =>
      cases hsays with
      | place hwanted hg => exact (hannounced _ hg hwanted).place hfaulty
      | limits hwanted hg => exact (hannounced _ hg hwanted).limits hfaulty
      | duration hdebug hj => exact (hreportable _ hj).duration hdebug hfaulty
      | saved hverbose hj hpath => exact (hreportable _ hj).saved _ hverbose hpath hfaulty
  | limits hwanted hg hlimits =>
      have hwritable := (hannounced _ hg hwanted).writable
      rw [hlimits] at hwritable
      cases hwritable
  | report hj hformat hfault =>
      have hnone := (hreportable _ hj).report hformat
      rw [hfault] at hnone
      cases hnone
  | document hj hneeded hdocument =>
      have hwritable := (hreportable _ hj).document hneeded
      rw [hdocument] at hwritable
      cases hwritable
  | file hj hpath hfault =>
      have hnone := (hreportable _ hj).file _ hpath
      rw [hfault] at hnone
      cases hnone

/-- The activity prints or writes: it goes on if nothing keeps it from that, or lets a failure
    escape. -/
inductive Shows (machine : Machine ε) (o : AnalyzeOptions) (t : Activity ε Unit) (Q : Prop) :
    Prop where
  | done : t.result = .ok () → Q → Shows machine o t Q
  | escaped {e : Escape ε} :
      t.result = .error (.escaped e) → Unanswered machine o e ∨ BreaksOff machine t.events e →
      Shows machine o t Q

/-- The command ends as it is judged, and then every failure has an answer, or it lets a failure
    escape. -/
inductive Ends (machine : Machine ε) (o : AnalyzeOptions) (t : Activity ε Unit) : Prop where
  | exited :
      t.result = .error (.exit (exitCode (verdict machine o))) →
      (∀ h, verdict machine o = .error h → h.SaidIn machine t.events) →
      (∀ e, ¬Unanswered machine o e) → Ends machine o t
  | escaped {e : Escape ε} :
      t.result = .error (.escaped e) → Unanswered machine o e ∨ BreaksOff machine t.events e →
      Ends machine o t

section Ends

variable {P Q : Prop}

/-- Where nothing is done the run goes on. -/
theorem Shows.pure (h : Q) : Shows machine o (Pure.pure ()) Q := .done rfl h

private theorem Shows.of_follows {t : Activity ε Unit} (h : Follows machine Eq t (.ok ())) :
    Shows machine o t True := by
  cases h with
  | done ht _ => exact .done ht trivial
  | broken ht he => exact .escaped ht (.inr he)

/-- A run that goes on only if something holds goes on only if what follows from it holds. -/
theorem Shows.imp {t : Activity ε Unit} (ht : Shows machine o t P) (h : P → Q) :
    Shows machine o t Q := by
  cases ht with
  | done ht hP => exact .done ht (h hP)
  | escaped ht he => exact .escaped ht he

/-- What is printed may come after what is only asked for. -/
theorem Shows.behind {γ : Type} {t : Activity ε γ} {c : γ} {f : γ → Activity ε Unit}
    (ht : t.result = .ok c) (hf : Shows machine o (f c) Q) : Shows machine o (t >>= f) Q := by
  have hresult := result_bind_of_ok ht f
  cases hf with
  | done hf hQ => exact .done (hresult.trans hf) hQ
  | escaped hf he => exact .escaped (hresult.trans hf) (he.imp_right (.after ht))

/-- One thing is printed after another one, and may rely on it. -/
theorem Shows.bind {t : Activity ε Unit} {f : Unit → Activity ε Unit}
    (ht : Shows machine o t P) (hf : P → Shows machine o (f ()) Q) :
    Shows machine o (t >>= f) Q := by
  cases ht with
  | done ht hP => exact .behind ht (hf hP)
  | escaped ht he => exact .escaped (result_bind_of_error ht f) (he.imp_right (.bind ht · f))

/-- What is printed may come after a step that meets no hindrance. -/
theorem Shows.goOn {α : Type} {t : Activity ε α} {a : α} {f : α → Activity ε Unit}
    (ht : Follows machine Eq t (.ok a)) (hf : Shows machine o (f a) Q) :
    Shows machine o (t >>= f) Q := by
  cases ht with
  | done ha heq =>
      cases heq
      exact .behind ha hf
  | broken ht he => exact .escaped (result_bind_of_error ht f) (.inr (.bind ht he f))

/-- The end may come after what is only asked for. -/
theorem Ends.behind {γ : Type} {t : Activity ε γ} {c : γ} {f : γ → Activity ε Unit}
    (ht : t.result = .ok c) (hf : Ends machine o (f c)) : Ends machine o (t >>= f) := by
  have hresult := result_bind_of_ok ht f
  cases hf with
  | escaped hf he => exact .escaped (hresult.trans hf) (he.imp_right (.after ht))
  | exited hf hsaid hanswered =>
      refine .exited (hresult.trans hf) (fun h hverdict => ?_) hanswered
      rw [bind_of_ok ht]
      exact (hsaid h hverdict).behind _

/-- The end may come after what is printed. -/
theorem Ends.after {t : Activity ε Unit} {f : Unit → Activity ε Unit}
    (ht : Shows machine o t P) (hf : P → Ends machine o (f ())) : Ends machine o (t >>= f) := by
  cases ht with
  | done ht hP => exact .behind ht (hf hP)
  | escaped ht he => exact .escaped (result_bind_of_error ht f) (he.imp_right (.bind ht · f))

/-- What is shown only if it is wanted. -/
theorem Ends.when {isWanted : Bool} {t : Activity ε Unit} {f : Unit → Activity ε Unit}
    (ht : isWanted = true → Shows machine o t P)
    (hf : (isWanted = true → P) → Ends machine o (f ())) :
    Ends machine o (if isWanted = true then t >>= f else f ()) := by
  cases isWanted with
  | false => exact hf nofun
  | true => exact .after (ht rfl) fun hP => hf fun _ => hP

section

variable {α β : Type} {R : α → β → Prop} {t : Activity ε α}

/-- The end may come after a step that meets no hindrance. -/
theorem Ends.goOn {b : β} {f : α → Activity ε Unit} (ht : Follows machine R t (.ok b))
    (hf : ∀ a, R a b → Ends machine o (f a)) : Ends machine o (t >>= f) := by
  cases ht with
  | done ha hR => exact .behind ha (hf _ hR)
  | broken ht he => exact .escaped (result_bind_of_error ht f) (.inr (.bind ht he f))

/-- A step that meets the hindrance of the verdict is the end. -/
theorem Ends.stop {h : Hindrance ε} (ht : Follows machine R t (.error h))
    (hverdict : verdict machine o = .error h) (hannounced : IsAnnounced machine o)
    (f : α → Activity ε Unit) : Ends machine o (t >>= f) := by
  cases ht with
  | broken ht he => exact .escaped (result_bind_of_error ht f) (.inr (.bind ht he f))
  | escaped ht he => exact .escaped (result_bind_of_error ht f) (.inl (.hindrance hverdict he))
  | refused ht =>
      obtain ⟨line, text, hline, hread, hmem⟩ := ht.said
      refine .exited ?_ (fun h' hh' => ?_)
        (not_unanswered hannounced (fun h' e hh' he => ?_) fun j hj => ?_)
      · rw [hverdict]
        exact (ht.bind f).result
      · cases hverdict.symm.trans hh'
        exact (ht.bind f).said
      · cases hverdict.symm.trans hh'
        exact he.unsaid hline hread
      · cases hverdict.symm.trans hj

end

end Ends

/-! ## The parts that print and write -/

private theorem say_shows {line : String} (h : Says machine o line) :
    Shows machine o (say machine line) (machine.libraries.console.read line ≠ none) := by
  cases hread : machine.libraries.console.read line with
  | none =>
      rw [say_of_faulty hread]
      exact .escaped rfl (.inl (.line h hread))
  | some text =>
      rw [say_of_read hread]
      exact (Shows.of_follows (perform_follows _)).imp fun _ => nofun

/-- What is known before there is a diff is printed, if it is wanted. -/
theorem announce_shows {g : Ground} (hg : ground machine o = .ok g) :
    Shows machine o (announce machine o g)
      ((o.isVerbose || o.isDebug) = true → g.IsPrintable machine) := by
  unfold announce
  cases hwanted : o.isVerbose || o.isDebug with
  | false => exact .pure nofun
  | true =>
      refine (say_shows (.place hwanted hg)).bind fun hplace => ?_
      cases hwritable : areWritableLimits g.settings with
      | false => exact .escaped rfl (.inl (.limits hwanted hg hwritable))
      | true =>
          exact (say_shows (.limits hwanted hg)).imp fun hlimits _ => ⟨hplace, hwritable, hlimits⟩

private theorem sayAll_shows {prints : List Text.Print}
    (h : ∀ e, Text.firstFault? prints = some e → Unanswered machine o (ofPrintFault e)) :
    Shows machine o (sayAll machine prints) (Text.firstFault? prints = none) := by
  induction prints with
  | nil => exact .pure rfl
  | cons print prints ih =>
      cases print with
      | error e => exact .escaped rfl (.inl (h e rfl))
      | ok text =>
          exact ((Shows.of_follows (perform_follows _)).bind fun _ => ih h).imp fun hnone => hnone

/-- What is done with the report as a document. -/
theorem written_shows {j : Judgement} (hj : verdict machine o = .ok j)
    (hneeded : j.format ≠ .terminal ∨ (given? o.output).isSome = true) (format : Report.Format)
    {Q : Prop} {f : String → Activity ε Unit} (hf : ∀ text, Shows machine o (f text) Q) :
    Shows machine o (written machine format j.run >>= f)
      ((Report.document j.run).isWritable = true ∧ Q) := by
  unfold written
  simp only
  cases hwritable : (Report.document j.run).isWritable with
  | false => exact .escaped rfl (.inl (.document hj hneeded hwritable))
  | true =>
      have hdone : ∀ text, Shows machine o (f text) (true = true ∧ Q) :=
        fun text => (hf text).imp fun hQ => ⟨rfl, hQ⟩
      cases format with
      | terminal => exact .behind rfl (hdone _)
      | json => exact .behind rfl (hdone _)
      | yaml => exact .behind rfl (hdone _)

private theorem showReport_shows {j : Judgement} (hj : verdict machine o = .ok j) :
    Shows machine o (showReport machine j.format j.run)
      ((j.format = .terminal →
        Text.firstFault? (Report.Terminal.prints j.run machine.libraries.console) = none) ∧
      (j.format ≠ .terminal → (Report.document j.run).isWritable = true)) := by
  have hout : ∀ text, Shows machine o (perform machine (.out text)) True :=
    fun text => .of_follows (perform_follows _)
  unfold showReport
  cases hformat : j.format with
  | terminal =>
      refine (sayAll_shows fun e he => .report hj hformat he).imp fun hnone => ?_
      exact ⟨fun _ => hnone, fun hne => absurd rfl hne⟩
  | json =>
      have hne : j.format ≠ .terminal := fun heq => nomatch hformat.symm.trans heq
      have hdocument := written_shows hj (.inl hne) .json fun text => hout (text ++ "\n")
      exact hdocument.imp fun h => ⟨nofun, fun _ => h.1⟩
  | yaml =>
      have hne : j.format ≠ .terminal := fun heq => nomatch hformat.symm.trans heq
      have hdocument := written_shows hj (.inl hne) .yaml hout
      exact hdocument.imp fun h => ⟨nofun, fun _ => h.1⟩

private theorem write_shows {j : Judgement} {path : String} (hj : verdict machine o = .ok j)
    (hpath : given? o.output = some path) (content : String) :
    Shows machine o (write machine path content)
      (writeFault? machine.files (Path.tidy path) = none) := by
  unfold write
  refine .goOn (look_follows _) (.goOn (look_follows _) ?_)
  cases hfault : writeFault? machine.files (Path.tidy path) with
  | none => exact (Shows.of_follows (perform_follows _)).imp fun _ => rfl
  | some e => exact .escaped rfl (.inl (.file hj hpath hfault))

/-- The report can be written to a file, if one is asked for, and what is said of that can be
    said. -/
theorem saveReport_shows {j : Judgement} (hj : verdict machine o = .ok j) :
    Shows machine o (saveReport machine o j.format j.run)
      (∀ path, given? o.output = some path →
        (Report.document j.run).isWritable = true ∧
        writeFault? machine.files (Path.tidy path) = none ∧
        (o.isVerbose = true → machine.libraries.console.read (savedLine path) ≠ none)) := by
  unfold saveReport
  cases hpath : given? o.output with
  | none => exact .pure nofun
  | some path =>
      have hneeded : j.format ≠ .terminal ∨ (given? o.output).isSome = true := by
        rw [hpath]
        exact .inr rfl
      have hsaved : ∀ content, Shows machine o
          (write machine path content >>= fun _ =>
            if o.isVerbose = true then say machine (savedLine path) else Pure.pure ())
          (writeFault? machine.files (Path.tidy path) = none ∧
            (o.isVerbose = true → machine.libraries.console.read (savedLine path) ≠ none)) := by
        intro content
        refine (write_shows hj hpath content).bind fun hfault => ?_
        cases hverbose : o.isVerbose with
        | false => exact .pure ⟨hfault, nofun⟩
        | true =>
            exact (say_shows (.saved hverbose hj hpath)).imp fun hread => ⟨hfault, fun _ => hread⟩
      refine (written_shows hj hneeded j.format hsaved).imp fun h path' hpath' => ?_
      cases hpath'
      exact h

/-! ## The whole command -/

/-- The verdict starts from the ground, goes on to what the analysis is about, and to its result. -/
theorem verdict_of_ground {g : Ground} (hg : ground machine o = .ok g) :
    verdict machine o = do
      let result ← examined machine o g.settings (← material machine o g)
      return { settings := g.settings, format := g.format, result } := by
  rw [verdict, hg]
  rfl

/-- Behind a judgement the command ends as it says. -/
theorem conclude_ends {j : Judgement} (hj : verdict machine o = .ok j)
    (hannounced : IsAnnounced machine o) : Ends machine o (conclude machine o j) := by
  unfold conclude
  refine .when (fun hdebug => say_shows (.duration hdebug hj)) fun hduration => ?_
  refine .after (showReport_shows hj) fun hshown => ?_
  refine .after (saveReport_shows hj) fun hsaved => ?_
  have hreportable : j.IsReportable machine o := by
    refine ⟨hduration, hshown.1, fun hneeded => ?_, fun path hpath => (hsaved path hpath).2.1,
      fun path hverbose hpath => (hsaved path hpath).2.2 hverbose⟩
    rcases hneeded with hne | hsome
    · exact hshown.2 hne
    · obtain ⟨path, hpath⟩ := Option.isSome_iff_exists.1 hsome
      exact (hsaved path hpath).1
  refine .exited ?_ (fun h hh => nomatch hj.symm.trans hh)
    (not_unanswered hannounced (fun h e hh => nomatch hj.symm.trans hh) fun j' hj' => ?_)
  · rw [hj]
    rfl
  · cases hj.symm.trans hj'
    exact hreportable

private theorem analyze_ends (machine : Machine ε) (o : AnalyzeOptions) :
    Ends machine o (Command.analyze machine o) := by
  unfold Command.analyze
  have hprepare : Follows machine Eq _ _ := prepare_follows o
  cases hg : ground machine o with
  | error h =>
      rw [hg] at hprepare
      have hverdict : verdict machine o = .error h := by
        rw [verdict, hg]
        rfl
      exact .stop hprepare hverdict (fun g hground => nomatch hg.symm.trans hground) _
  | ok g =>
      rw [hg] at hprepare
      refine .goOn hprepare fun _ heq => ?_
      cases heq
      refine .after (announce_shows hg) fun hprintable => ?_
      have hannounced : IsAnnounced machine o := by
        intro g' hg' hwanted
        cases hg.symm.trans hg'
        exact hprintable hwanted
      have hcomparison : Follows machine (Comparison.Reads machine) _ _ := comparison_follows o g
      cases hm : material machine o g with
      | error h =>
          rw [hm] at hcomparison
          have hverdict : verdict machine o = .error h := by
            rw [verdict_of_ground hg, hm]
            rfl
          exact .stop hcomparison hverdict hannounced _
      | ok m =>
          rw [hm] at hcomparison
          refine .goOn hcomparison fun c hreads => ?_
          have hanalysis := analysis_follows o g.settings hreads
          cases hresult : examined machine o g.settings m with
          | error h =>
              rw [hresult] at hanalysis
              have hverdict : verdict machine o = .error h := by
                rw [verdict_of_ground hg, hm]
                simp only [hresult, bind, Except.bind]
              exact .stop hanalysis hverdict hannounced _
          | ok result =>
              rw [hresult] at hanalysis
              refine .goOn hanalysis fun _ heq => ?_
              cases heq
              have hj : verdict machine o
                  = .ok { settings := g.settings, format := g.format, result } := by
                rw [verdict_of_ground hg, hm]
                simp only [hresult, bind, Except.bind]
                rfl
              exact conclude_ends hj hannounced

/-! ## Where failures without an answer come from -/

/-- Whatever keeps this from its result has a property. -/
def HinderedBy {α : Type} (P : Hindrance ε → Prop) (p : Except (Hindrance ε) α) : Prop :=
  ∀ h, p = .error h → P h

section HinderedBy

variable {α β : Type} {P Q : Hindrance ε → Prop}

/-- Nothing keeps a result. -/
theorem HinderedBy.ok (a : α) : HinderedBy P (.ok a : Except (Hindrance ε) α) := nofun

/-- A hindrance keeps itself. -/
theorem HinderedBy.error {h : Hindrance ε} (hP : P h) :
    HinderedBy P (.error h : Except (Hindrance ε) α) := by
  intro h' heq
  cases heq
  exact hP

/-- Two steps are kept from their result by what keeps one of them from its own. -/
theorem HinderedBy.bind {p : Except (Hindrance ε) α} {f : α → Except (Hindrance ε) β}
    (hp : HinderedBy P p) (hf : ∀ a, p = .ok a → HinderedBy P (f a)) :
    HinderedBy P (p >>= f) := by
  cases p with
  | ok a => exact hf a rfl
  | error h => exact .error (hp h rfl)

/-- A change to the result adds nothing that keeps it. -/
theorem HinderedBy.map {p : Except (Hindrance ε) α} (hp : HinderedBy P p) (f : α → β) :
    HinderedBy P (f <$> p) := by
  cases p with
  | ok a => exact .ok _
  | error h => exact .error (hp h rfl)

/-- What a failure counts as keeps the result. -/
theorem HinderedBy.mapError {ε' : Type} {p : Except ε' α} {hindrance : ε' → Hindrance ε}
    (h : ∀ e, p = .error e → P (hindrance e)) : HinderedBy P (p.mapError hindrance) := by
  cases p with
  | ok a => exact .ok a
  | error e => exact .error (h e rfl)

/-- A property of all that keeps a result may be weakened. -/
theorem HinderedBy.imp {p : Except (Hindrance ε) α} (hp : HinderedBy P p) (h : ∀ h, P h → Q h) :
    HinderedBy Q p := fun h' heq => h h' (hp h' heq)

private theorem gather_hinderedBy {read : String → Except (Hindrance ε) (Option String)}
    (h : ∀ path, HinderedBy P (read path)) (paths : List String) :
    HinderedBy P (gather read paths) := by
  induction paths with
  | nil => exact .ok _
  | cons path paths ih => exact (h path).bind fun source _ => ih.bind fun rest _ => .ok _

end HinderedBy

/-- The hindrance is none of the analysis itself. -/
def Hindrance.IsEarly : Hindrance ε → Prop
  | .analysis _ => False
  | _ => True

private theorem ground_early : HinderedBy Hindrance.IsEarly (ground machine o) := by
  have hlocation : HinderedBy Hindrance.IsEarly (location machine o) := by
    unfold location
    split
    · exact .ok _
    · exact .ok _
    · exact .error trivial
  have hsettings (root : String) : HinderedBy Hindrance.IsEarly (settingsOf machine o root) := by
    unfold settingsOf
    simp only
    split
    · exact .error trivial
    · exact .mapError fun _ _ => trivial
  have hformat (c : Checked) : HinderedBy Hindrance.IsEarly (wantedFormat (ε := ε) o c) := by
    unfold wantedFormat
    repeat' split
    · exact .ok _
    · exact .ok _
    · exact .error trivial
  unfold ground
  split
  · exact .error trivial
  · exact hlocation.bind fun _ _ => (hsettings _).bind fun c _ => (hformat c).bind fun _ _ => .ok _

/-- The sources are read without the analysis. -/
structure Material.ReadsEarly (m : Material ε) : Prop where
  new : ∀ path, HinderedBy Hindrance.IsEarly (m.new path)
  old : ∀ read, m.old = some read → ∀ path, HinderedBy Hindrance.IsEarly (read path)

private theorem sourceAt_early (root path : String) :
    HinderedBy Hindrance.IsEarly (sourceAt machine root path) := by
  unfold sourceAt
  simp only
  repeat' split
  · exact .ok _
  · exact .ok _
  · exact .error trivial

private theorem revisionOf_early (revision : Option String) (path : String) :
    HinderedBy Hindrance.IsEarly (revisionOf machine revision path) :=
  .mapError fun _ _ => trivial

private theorem textAt_early (path : String) :
    HinderedBy Hindrance.IsEarly (textAt machine path) := by
  unfold textAt
  repeat' split
  · exact .ok _
  · exact .error trivial
  · exact .ok _
  all_goals exact .error trivial

private theorem material_early {g : Ground} :
    HinderedBy Hindrance.IsEarly (material machine o g) := by
  unfold material
  split
  · exact (textAt_early _).bind fun _ _ => .ok _
  · exact (HinderedBy.mapError fun _ _ => trivial).bind fun _ _ => .ok _
  · exact (HinderedBy.mapError fun _ _ => trivial).bind fun _ _ =>
      (HinderedBy.mapError fun _ _ => trivial).bind fun _ _ => .ok _

private theorem material_readsEarly
    {g : Ground} {m : Material ε} (h : material machine o g = .ok m) :
    m.ReadsEarly := by
  unfold material at h
  split at h
  · obtain ⟨text, -, h⟩ := bind_eq_ok_iff.1 h
    cases h
    refine ⟨sourceAt_early _, fun read hread => ?_⟩
    obtain ⟨base, -, rfl⟩ := Option.map_eq_some_iff.1 hread
    exact revisionOf_early _
  · obtain ⟨text, -, h⟩ := bind_eq_ok_iff.1 h
    cases h
    refine ⟨revisionOf_early _, fun read hread => ?_⟩
    cases hread
    exact revisionOf_early _
  · obtain ⟨text, -, h⟩ := bind_eq_ok_iff.1 h
    obtain ⟨hasHead, -, h⟩ := bind_eq_ok_iff.1 h
    cases h
    refine ⟨revisionOf_early _, fun read hread => ?_⟩
    cases hasHead with
    | false => cases hread
    | true =>
        cases hread
        exact revisionOf_early _

/-- The hindrance is a failure of the analysis under some settings, with any sources. -/
def Hindrance.IsOf (machine : Machine ε) (o : AnalyzeOptions) (c : Checked) :
    Hindrance ε → Prop
  | .analysis e => ∃ news olds, (setup machine o c news olds).FailsFor e
  | _ => True

/-- A hindrance that is none of the analysis is one of every run. -/
theorem Hindrance.IsEarly.isOf {c : Checked} {h : Hindrance ε} (hearly : h.IsEarly) :
    h.IsOf machine o c := by
  cases h with
  | analysis e => exact hearly.elim
  | _ => trivial

private theorem examined_isOf {c : Checked} {m : Material ε} (hm : m.ReadsEarly) :
    HinderedBy (Hindrance.IsOf machine o c) (examined machine o c m) := by
  have hgather {read : String → Except (Hindrance ε) (Option String)}
      (hread : ∀ path, HinderedBy Hindrance.IsEarly (read path)) (paths : List String) :
      HinderedBy (Hindrance.IsOf machine o c) (gather read paths) :=
    (gather_hinderedBy hread paths).imp fun _ => Hindrance.IsEarly.isOf
  have hgathered : HinderedBy (Hindrance.IsOf machine o c) (gathered m) := by
    unfold gathered
    refine (HinderedBy.mapError fun fault _ => ?_).bind fun files _ => ?_
    · exact ⟨.ofList [], none, .diff fault⟩
    refine (hgather hm.new _).bind fun news _ => ?_
    cases hold : m.old with
    | none => exact .ok _
    | some read =>
        refine HinderedBy.bind ?_ fun olds _ => .ok _
        exact (hgather (hm.old read hold) _).map some
  refine hgathered.bind fun found _ => .mapError fun e he => ?_
  exact ⟨found.1, found.2, analyze_error he⟩

/-- A failure of the analysis is one under the settings of the repository. -/
theorem verdict_analysis_error {e : Failure (Escape ε)}
    (h : verdict machine o = .error (.analysis e)) :
    ∃ g news olds, ground machine o = .ok g ∧
      (setup machine o g.settings news olds).FailsFor e := by
  cases hg : ground machine o with
  | error h' =>
      rw [verdict, hg] at h
      cases h
      exact (ground_early _ hg).elim
  | ok g =>
      rw [verdict_of_ground hg] at h
      rcases bind_eq_error_iff.1 h with hm | ⟨m, hm, h⟩
      · exact (material_early _ hm).elim
      rcases bind_eq_error_iff.1 h with hexamined | ⟨result, -, h⟩
      · obtain ⟨news, olds, hfails⟩ := examined_isOf (material_readsEarly hm) _ hexamined
        exact ⟨g, news, olds, rfl, hfails⟩
      · cases h

/-- What stands in the way of a step comes from outside, or from fields that are not what they are
    declared to be. -/
theorem obstacle?_eq_some {c : Checked} {step : Step} {e : Escape ε}
    (h : obstacle? machine c step = some e) :
    (∃ failure, e = .outside failure) ∨ e = .unusableRules ∧ ¬c.classification.IsTyped := by
  unfold obstacle? at h
  split at h
  · cases h
    exact .inl ⟨_, rfl⟩
  · split at h
    · next hstumbles =>
        cases h
        refine .inr ⟨rfl, fun htyped => ?_⟩
        cases step with
        | choosing path =>
            rw [stumblesAt, (isIgnored?_answers path).eq_some htyped] at hstumbles
            cases hstumbles
        | placing path =>
            rw [stumblesAt, htyped.purpose?] at hstumbles
            cases hstumbles
        | reading path text =>
            simp only [stumblesAt, htyped.not_stumbles] at hstumbles
            split at hstumbles
            all_goals cases hstumbles
    · cases h

/-- The failure can only come from the analysis itself. -/
def Escape.IsOfAnalysis : Escape ε → Prop
  | .unusableRules | .invalidSpan _ | .unnumbered _ => True
  | _ => False

/-- It is that of a span without lines, or stands in the way of a step. -/
theorem unanswered_of_analysis {e : Escape ε} (h : Unanswered machine o e) (he : e.IsOfAnalysis) :
    ∃ g, ground machine o = .ok g ∧
      ((∃ span path text, e = .invalidSpan span ∧
          Syntax.unitsBy machine.libraries.parse g.settings.classification.rules path text
            = .error (.invalidSpan span)) ∨
        ∃ step, obstacle? machine g.settings step = some e) := by
  cases h with
  | @report j fault =>
      cases fault with
      | markup => exact he.elim
      | numberTooLong => exact he.elim
  | hindrance hverdict hescapes =>
      cases hescapes with
      | invalidSpan span =>
          obtain ⟨g, news, olds, hg, hfails⟩ := verdict_analysis_error hverdict
          cases hfails with
          | invalidSpan hunits => exact ⟨g, hg, .inl ⟨span, _, _, rfl, hunits⟩⟩
      | blocked =>
          obtain ⟨g, news, olds, hg, hfails⟩ := verdict_analysis_error hverdict
          cases hfails with
          | blocked hobstacle => exact ⟨g, hg, .inr ⟨_, hobstacle⟩⟩
      | _ => exact he.elim
  | _ => exact he.elim

/-- A command line that asks for an analysis ends as the verdict says if every failure has an answer
    and nothing breaks off: with 2 for a hindrance, and then it says which, with 1 if a limit is
    exceeded and the settings say so, and with 0 otherwise. Otherwise a failure escapes that has no
    answer, or that of the last thing that was done. Among those that have no answer is no
    unnumbered line; there is a span without lines only if the parser gives trees that are not
    spread out, and there are unusable rules only if some classification field is not what it is
    declared to be. -/
theorem run_ends_as_judged (machine : Machine ε) (words : List String) (o : AnalyzeOptions)
    (h : machine.libraries.request words = .analyze o) :
    (((run machine words).ending = .exit (exitCode (verdict machine o)) ∧
        (∀ hindrance, verdict machine o = .error hindrance →
          hindrance.SaidIn machine (run machine words).events) ∧
        ∀ e, ¬Unanswered machine o e) ∨
      ∃ e, (run machine words).ending = .escaped e ∧
        (Unanswered machine o e ∨ BreaksOff machine (run machine words).events e)) ∧
    (∀ line, ¬Unanswered machine o (.unnumbered line)) ∧
    (∀ span, Unanswered machine o (.invalidSpan span) →
      ¬Syntax.ParsesSpread machine.libraries.parse) ∧
    (Unanswered machine o .unusableRules →
      ∃ g, ground machine o = .ok g ∧ ¬g.settings.classification.IsTyped) := by
  have hrun : run machine words = (Command.analyze machine o).outcome := by
    rw [run, h]
    rfl
  have hending : ∀ e, (Command.analyze machine o).result = .error e →
      (run machine words).ending = e := by
    intro e he
    rw [hrun, Activity.outcome, he]
  have hevents : (run machine words).events = (Command.analyze machine o).events := by
    rw [hrun]
    rfl
  refine ⟨?_, fun line hline => ?_, fun span hspan hspread => ?_, fun hrules => ?_⟩
  · rw [hevents]
    cases analyze_ends machine o with
    | exited hresult hsaid hanswered => exact .inl ⟨hending _ hresult, hsaid, hanswered⟩
    | escaped hresult he => exact .inr ⟨_, hending _ hresult, he⟩
  · obtain ⟨g, -, ⟨_, _, _, heq, -⟩ | ⟨step, hstep⟩⟩ := unanswered_of_analysis hline trivial
    · cases heq
    · obtain ⟨_, heq⟩ | ⟨heq, -⟩ := obstacle?_eq_some hstep
      all_goals cases heq
  · obtain ⟨g, -, ⟨_, _, _, -, hunits⟩ | ⟨step, hstep⟩⟩ := unanswered_of_analysis hspan trivial
    · exact Syntax.unitsBy_ne_invalidSpan hspread _ _ _ _ hunits
    · obtain ⟨_, heq⟩ | ⟨heq, -⟩ := obstacle?_eq_some hstep
      all_goals cases heq
  · obtain ⟨g, hg, ⟨_, _, _, heq, -⟩ | ⟨step, hstep⟩⟩ := unanswered_of_analysis hrules trivial
    · cases heq
    · obtain ⟨_, heq⟩ | ⟨-, htyped⟩ := obstacle?_eq_some hstep
      · cases heq
      · exact ⟨g, hg, htyped⟩

/-- A diff that adds a function. -/
def grownText : String := "--- /dev/null\n+++ b/a.rs\n@@ -0,0 +1 @@\n+fn a() \x7b\x7d\n"

/-- A machine without git that is given `grownText`, and on which hardly any change is allowed. -/
def strictMachine : Machine :=
  { root := "/r"
    files := fun path =>
      if path = "/r/a.rs" then .file (Text.Utf8.encodeString "fn a() \x7b\x7d\n") else .missing
    environment := fun name => if name = "RDA_MAX_WEIGHTED_SCORE" then some "1" else none
    git := fun _ => .notInstalled
    input := Text.Utf8.encodeString grownText }

/-- A command line that analyses its standard input. -/
def pipedWords : List String := ["analyze", "--diff-file", "-", "--format", "json"]

/-- Its options. -/
def pipedOptions : AnalyzeOptions := { diffFile := some "-", format := some "json" }

private theorem ofWords_pipedWords : Request.ofWords pipedWords = .analyze pipedOptions := by
  decide +kernel

/-- The change is read from the standard input and exceeds its limit. The trees of Rust sources are
    spread out, so no span can escape. -/
theorem run_ends_as_judged_of_strictMachine :
    strictMachine.libraries.request pipedWords = .analyze pipedOptions ∧
      Syntax.ParsesSpread strictMachine.libraries.parse ∧
      (run strictMachine pipedWords).ending = .exit 1 ∧
      exitCode (verdict strictMachine pipedOptions) = 1 ∧
      ∀ e, ¬Unanswered strictMachine pipedOptions e := by
  have hends := run_ends_as_judged strictMachine pipedWords pipedOptions ofWords_pipedWords
  have hending : (run strictMachine pipedWords).ending = .exit 1 := by decide +kernel
  refine ⟨ofWords_pipedWords, Rust.parse_spread, hending, ?_⟩
  rcases hends.1 with ⟨hexit, -, hanswered⟩ | ⟨e, hescaped, -⟩
  · rw [hending] at hexit
    exact ⟨(Ending.exit.inj hexit).symm, hanswered⟩
  · rw [hending] at hescaped
    cases hescaped

/-- A machine whose settings file is no text. -/
def garbledMachine : Machine :=
  { strictMachine with
    files := fun path => if path = "/r/.rust-diff-analyzer.toml" then .file [255] else .missing }

/-- Settings that are no text do not end the command with 2: their failure escapes. -/
theorem exists_hindrance_not_refused :
    ¬∀ (machine : Machine) (words : List String) (o : AnalyzeOptions),
      machine.libraries.request words = .analyze o →
      (run machine words).ending = .exit (exitCode (verdict machine o)) := by
  intro h
  have hending := h garbledMachine pipedWords pipedOptions ofWords_pipedWords
  have hescaped : (run garbledMachine pipedWords).ending = .escaped .notText := by decide +kernel
  rw [hescaped] at hending
  cases hending

end DiffGauge.Command
