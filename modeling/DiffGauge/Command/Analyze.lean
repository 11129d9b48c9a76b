import DiffGauge.Analysis.Gather
import DiffGauge.Command.Activity
import DiffGauge.Report.Json
import DiffGauge.Report.Terminal
import DiffGauge.Settings.Classification
import DiffGauge.Settings.Load

/-!
# Analysing

The command finds the repository and its settings, takes a diff from git or from a file, fetches
the sources that the diff is about, analyses it, and reports. It ends with 2 if it cannot do
that, with 1 if a limit is exceeded and the settings say so, and with 0 otherwise.
-/

namespace DiffGauge.Command

open Analysis Settings Activity

/-- The text of an option, which is none if it is empty. -/
def given? (option : Option String) : Option String := option.filter fun s => !s.isEmpty

/-- How important a message has to be to be logged. -/
def AnalyzeOptions.leastLevel (o : AnalyzeOptions) : LogLevel :=
  if o.isDebug then .debug else if o.isVerbose then .info else .warning

variable {ε : Type}

section

variable (machine : Machine ε)

/-! ## The repository and its settings -/

/-- The directory of the repository. -/
def repository : Activity ε String := do
  ofExcept (fun e => refuse machine "Error" e.message)
    (← ask machine .topLevel (Git.topLevel machine.git))

/-- The directory of the repository, and whether there is one. A diff from a file needs none. -/
def place (o : AnalyzeOptions) : Activity ε (String × Bool) := do
  match o.diffFile with
  | none => return (← repository machine, true)
  | some _ =>
    match ← ask machine .topLevel (Git.topLevel machine.git) with
    | .ok root => return (root, true)
    | .error _ => return (Path.tidy machine.root, false)

/-- What is said of the file at a path whose content is not TOML. -/
def Machine.complaintAt (path : String) : String :=
  ((machine.files path).content?.map machine.libraries.complaint).getD ""

/-- Settings that cannot be loaded, in words if there are any. -/
def Machine.settingsMessage? (e : Settings.Fault) : Option String :=
  match e with
  | .unreadable path => e.message?.map (· ++ machine.complaintAt path)
  | e => e.message?

/-- Answers settings that cannot be loaded. -/
def refuseSettings {α : Type} (e : Settings.Fault) : Activity ε α :=
  match e with
  | .notText => escape .notText
  | .numberTooLong => escape .numberTooLong
  | .layer .notExtensible => escape .notExtensible
  | e => refuse machine "Config error" ((machine.settingsMessage? e).getD "")

/-- Opens the settings file at a path, if there is one. -/
def openSettings (path : String) : Activity ε Unit := do
  match (← look machine path).content? with
  | none => return ()
  | some _ =>
    match ← openFile machine path with
    | none => return ()
    | some failure =>
      refuse machine "Config error" ("Failed to parse " ++ path ++ ": " ++ machine.message failure)

/-- The settings of the repository. -/
def settings (o : AnalyzeOptions) (root : String) : Activity ε Checked := do
  openSettings machine (settingsPath root o.config)
  ofExcept (refuseSettings machine) (load machine.files machine.environment root o.config)

/-- The form of the report: the one that is asked for, or the one of the settings. -/
def formatOf (o : AnalyzeOptions) (c : Checked) : Activity ε Report.Format :=
  match given? o.format with
  | none => return c.format
  | some name =>
    match Report.Format.ofText? name with
    | some format => return format
    | none => refuse machine "Invalid format" name

/-- What is known before there is a diff: the directory, whether it is one of a repository, the
    settings, and the form of the report. -/
structure Ground where
  root : String
  isRepository : Bool
  settings : Checked
  format : Report.Format

/-- Finds the repository and its settings. A range of revisions that has an end has to have a
    begin. -/
def prepare (o : AnalyzeOptions) : Activity ε Ground := do
  if (given? o.head).isSome && (given? o.base).isNone then
    refuse machine "Error" "--to requires --from"
  let (root, isRepository) ← place machine o
  let settings ← settings machine o root
  let format ← formatOf machine o settings
  return { root, isRepository, settings, format }

/-- Where the repository is, marked up. -/
def placeLine (root : String) : String := "[dim]Repo root: " ++ root ++ "[/dim]"

/-- The limits, marked up. -/
def limitsLine (c : Checked) : String :=
  "[dim]Limits: units=" ++ Text.intText c.limits.maxProdUnits
    ++ " score=" ++ Text.intText c.limits.maxWeightedScore
    ++ " lines=" ++ (valueOfBound c.limits.maxProdLines).shown ++ "[/dim]"

/-- The limits can be written. -/
def areWritableLimits (c : Checked) : Bool :=
  Text.isWritable c.limits.maxProdUnits && Text.isWritable c.limits.maxWeightedScore
    && (valueOfBound c.limits.maxProdLines).isShowable

/-- Says where the repository is and what its limits are, if that is wanted. -/
def announce (o : AnalyzeOptions) (g : Ground) : Activity ε Unit := do
  if o.isVerbose || o.isDebug then
    say machine (placeLine g.root)
    if areWritableLimits g.settings then say machine (limitsLine g.settings)
    else escape .numberTooLong

/-! ## The diff and its sources -/

/-- Answers a question that git has no answer to. -/
def refuseGit {α : Type} (e : Git.Fault) : Activity ε α := refuse machine "Git error" e.message

/-- Asks git for what is needed. -/
def askFor {α : Type} (q : Git.Query) (answer : Except Git.Fault α) : Activity ε α := do
  ofExcept (refuseGit machine) (← ask machine q answer)

/-- Answers a diff that cannot be read. -/
def refuseDiff {α : Type} (e : Diff.Fault) : Activity ε α :=
  match e with
  | .numberTooLong => escape .numberTooLong
  | e => refuse machine "Diff error" e.message

/-- A diff file that cannot be read for a reason, in words. -/
def unreadable (reason : String) : String := "cannot read diff file: " ++ reason

/-- Why something that is no file cannot be read, with the number of the reason. -/
def systemReason (reason path : String) : String :=
  "[Errno " ++ reason ++ ": " ++ Text.quoted (Path.tidy path)

/-- The text of a diff file, or of the standard input for a dash. -/
def diffText (path : String) : Activity ε String := do
  if path = "-" then
    perform machine .listened
    match machine.inputText? machine.input with
    | some text => return text
    | none => escape .notText
  else
    match ← look machine (Path.tidy path) with
    | .file content =>
      match ← openFile machine (Path.tidy path) with
      | none => return textOf content
      | some failure => refuse machine "Error" (unreadable (machine.message failure))
    | .directory => refuse machine "Error" (unreadable (systemReason "21] Is a directory" path))
    | .missing =>
      refuse machine "Error" (unreadable (systemReason "2] No such file or directory" path))
    | .insideFile => refuse machine "Error" (unreadable (systemReason "20] Not a directory" path))

/-- The text of a file of the repository as it is on the disk. -/
def onDisk (root path : String) : Activity ε (Option String) := do
  let path := Path.within root path
  match (← look machine path).content? with
  | none => return none
  | some content =>
    match ← openFile machine path with
    | none => return some (textOf content)
    | some failure => escape (.outside failure)

/-- The text of a file at a revision, or as it is staged. -/
def atRevision (revision : Option String) (path : String) : Activity ε (Option String) :=
  askFor machine (.content revision path) (Git.content? machine.git revision path)

end

/-- A diff with the ways to fetch new and old sources. Without the way to the old ones nothing
    is known of the old units. -/
structure Comparison (ε : Type := Empty) where
  text : String
  fetchNew : String → Activity ε (Option String)
  fetchOld : Option (String → Activity ε (Option String))

variable (machine : Machine ε)

/-- The diff that is asked for: one from a file, one between two revisions, or the staged one. -/
def comparison (o : AnalyzeOptions) (g : Ground) : Activity ε (Comparison ε) := do
  match o.diffFile, given? o.base with
  | some path, _ =>
    let text ← diffText machine path
    let old := if g.isRepository then o.base else none
    return ⟨text, onDisk machine g.root, old.map fun r => atRevision machine (some r)⟩
  | none, some base =>
    let head := (given? o.head).getD "HEAD"
    let q : Git.Query := .rangeDiff base head
    let text ← askFor machine q (Git.outputOf machine.git q)
    return ⟨text, atRevision machine (some head), some (atRevision machine (some base))⟩
  | none, none =>
    let text ← askFor machine .stagedDiff (Git.outputOf machine.git .stagedDiff)
    let hasHead ← askFor machine (.revision "HEAD") (Git.hasRevision machine.git "HEAD")
    return ⟨text, atRevision machine none,
      if hasHead then some (atRevision machine (some "HEAD")) else none⟩

/-- The sources of a comparison, new ones and old ones, and the file sections of its diff. -/
def sources (c : Comparison ε) : Activity ε (List Diff.FileDiff × Sources × Option Sources) := do
  let files ← ofExcept (refuseDiff machine) (Diff.read c.text)
  let news ← gather c.fetchNew (newPaths files)
  let olds ← match c.fetchOld with
    | none => pure none
    | some fetch => some <$> gather fetch (oldPaths files)
  return (files, .ofList news, olds.map .ofList)

/-! ## The analysis -/

/-- The step depends on an answer that the classification section does not have. -/
def stumblesAt (c : Checked) : Step → Bool
  | .choosing path => (c.classification.isIgnored? path).isNone
  | .reading path text =>
    match machine.libraries.parse text with
    | .ok root => c.classification.stumbles path text root
    | .error _ => false
  | .placing path => (c.classification.purpose? [] [] (Path.moduleOf path) path).isNone

/-- What stands in the way of a step: it breaks off, or the settings have no answer. -/
def obstacle? (c : Checked) (step : Step) : Option (Escape ε) :=
  match machine.breaksOffAt? step with
  | some failure => some (.outside failure)
  | none => if stumblesAt machine c step then some .unusableRules else none

/-- What an analysis goes by that knows some sources. -/
def setup (o : AnalyzeOptions) (c : Checked) (news : Sources) (olds : Option Sources) :
    Setup (Escape ε) where
  rules := c.classification.rules
  sources := news
  oldSources := olds
  isStrict := o.isStrict
  unitsOf := Syntax.unitsBy machine.libraries.parse c.classification.rules
  obstacle? := obstacle? machine c

/-- Answers an analysis that has no result. -/
def refuseAnalysis {α : Type} (e : Failure (Escape ε)) : Activity ε α :=
  match e with
  | .diff fault => refuseDiff machine fault
  | .source path fault => refuse machine "Parse error" (fault.message path)
  | .invalidSpan e => escape (.invalidSpan e)
  | .unnumbered e => escape (.unnumbered e)
  | .blocked e => escape e

/-- Analyses a comparison. -/
def analysis (o : AnalyzeOptions) (c : Checked) (comparison : Comparison ε) :
    Activity ε Result := do
  let (_, news, olds) ← sources machine comparison
  let run := Analysis.analyze (setup machine o c news olds) comparison.text
  log machine o.leastLevel run.log
  ofExcept (refuseAnalysis machine) run.value

/-! ## The report -/

/-- What an analysis comes to: a result, with the settings and the form for its report. -/
structure Judgement where
  settings : Checked
  format : Report.Format
  result : Result

/-- The totals of the changes. -/
def Judgement.summary (j : Judgement) : Gate.Summary :=
  Gate.summarize j.settings.weights j.result.changes

/-- The limits that are exceeded. -/
def Judgement.outcome (j : Judgement) : Gate.Outcome := Gate.evaluate j.settings.limits j.summary

/-- What the report is about. -/
def Judgement.run (j : Judgement) : Report.Run where
  result := j.result
  summary := j.summary
  violations := j.outcome.violations
  showsDetails := j.settings.showsDetails

/-- The report as a document in a form other than the terminal's, if its numbers can be
    written. -/
def written (format : Report.Format) (run : Report.Run) : Activity ε String :=
  let document := Report.document run
  if document.isWritable then
    match format with
    | .yaml => return machine.libraries.yaml document
    | _ => return Report.Json.ofDocument document
  else escape .numberTooLong

/-- Shows the report. -/
def showReport (format : Report.Format) (run : Report.Run) : Activity ε Unit :=
  match format with
  | .terminal => sayAll machine (Report.Terminal.prints run machine.libraries.console)
  | .json => do perform machine (.out ((← written machine .json run) ++ "\n"))
  | .yaml => do perform machine (.out (← written machine .yaml run))

/-- That the report was written to a file, marked up. -/
def savedLine (path : String) : String := "[dim]Report written to " ++ path ++ "[/dim]"

/-- Writes the report to a file. -/
def saveReport (o : AnalyzeOptions) (format : Report.Format) (run : Report.Run) :
    Activity ε Unit :=
  match given? o.output with
  | none => return ()
  | some path => do
    write machine path (← written machine format run)
    if o.isVerbose then say machine (savedLine path)

/-- How long the analysis took, marked up. -/
def durationLine (r : Result) : String :=
  "[dim]Analysis duration: " ++ Decimal.roundedText r.durationMs ++ "ms[/dim]"

/-- Reports what the analysis came to, and ends. -/
def conclude (o : AnalyzeOptions) (j : Judgement) : Activity ε Unit := do
  if o.isDebug then say machine (durationLine j.result)
  showReport machine j.format j.run
  saveReport machine o j.format j.run
  exit (if !j.outcome.passed && j.settings.failsOnExceed then 1 else 0)

/-- Runs the command. -/
def analyze (o : AnalyzeOptions) : Activity ε Unit := do
  let g ← prepare machine o
  announce machine o g
  let result ← analysis machine o g.settings (← comparison machine o g)
  conclude machine o { settings := g.settings, format := g.format, result }

end DiffGauge.Command
