import DiffGauge.Command.Run

/-!
# What an analysis comes to

Apart from all that it prints, logs and asks for, an analysis comes to a result under the settings
of the repository, or to a hindrance. `verdict` says which, and `exitCode` what the command is to
end with: 2 for a hindrance, 1 for a result that exceeds a limit if the settings say so, and 0
otherwise.

`Unanswered` lists the failures that the command has no answer to: hindrances that are not
expected, texts that are taken as markup and are faulty, numbers that are too long to be written,
and a report file that cannot be written. Apart from them, whatever is done may break off.
-/

namespace DiffGauge.Command

open Analysis Settings

variable {ε : Type}

/-! ## Hindrances -/

/-- What keeps an analysis from its result. -/
inductive Hindrance (ε : Type) where
  | headWithoutBase
  | repository (e : Git.Fault)
  | settingsFile (path : String) (e : ε)
  | settings (e : Settings.Fault)
  | format (name : String)
  | input
  | diffFile (reason : String)
  | git (e : Git.Fault)
  | source (e : ε)
  | analysis (e : Failure (Escape ε))

/-- A refusal as a line of marked-up text. -/
def refusal (label message : String) : String := "[bold red]" ++ label ++ ":[/bold red] " ++ message

section Hindrances

variable (machine : Machine ε)

/-- What is said about a hindrance, unless the command has no answer to it. -/
def Hindrance.line? : Hindrance ε → Option String
  | .headWithoutBase => some (refusal "Error" "--to requires --from")
  | .repository e => some (refusal "Error" e.message)
  | .settingsFile path e =>
    some (refusal "Config error" ("Failed to parse " ++ path ++ ": " ++ machine.message e))
  | .settings e => (machine.settingsMessage? e).map (refusal "Config error")
  | .format name => some (refusal "Invalid format" name)
  | .input => none
  | .diffFile reason => some (refusal "Error" (unreadable reason))
  | .git e => some (refusal "Git error" e.message)
  | .source _ => none
  | .analysis (.diff .numberTooLong) => none
  | .analysis (.diff e) => some (refusal "Diff error" e.message)
  | .analysis (.source path fault) => some (refusal "Parse error" (fault.message path))
  | .analysis _ => none

/-- The hindrance lets a failure escape: the command has no answer to it, or the answer is faulty
    markup. -/
inductive Hindrance.Escapes : Hindrance ε → Escape ε → Prop where
  | settingsNotText : Escapes (.settings .notText) .notText
  | settingsNumber : Escapes (.settings .numberTooLong) .numberTooLong
  | notExtensible : Escapes (.settings (.layer .notExtensible)) .notExtensible
  | input : Escapes .input .notText
  | source (e : ε) : Escapes (.source e) (.outside e)
  | diffNumber : Escapes (.analysis (.diff .numberTooLong)) .numberTooLong
  | invalidSpan (e : InvalidSpan) : Escapes (.analysis (.invalidSpan e)) (.invalidSpan e)
  | blocked (e : Escape ε) : Escapes (.analysis (.blocked e)) e
  | markup {h : Hindrance ε} {line : String} :
      h.line? machine = some line → machine.libraries.console.read line = none →
      Escapes h .markup

/-- Something that is done says what the hindrance is. -/
def Hindrance.SaidIn (h : Hindrance ε) (events : List Event) : Prop :=
  ∃ line text, h.line? machine = some line ∧ machine.libraries.console.read line = some text ∧
    .err (machine.libraries.console.line text) ∈ events

end Hindrances

/-! ## The verdict -/

/-- What a command is to end with. -/
def exitCode : Except (Hindrance ε) Judgement → Nat
  | .error _ => 2
  | .ok j => if !j.outcome.passed && j.settings.failsOnExceed then 1 else 0

section Verdict

variable (machine : Machine ε) (o : AnalyzeOptions)

/-- The directory of the repository, and whether there is one. -/
def location : Except (Hindrance ε) (String × Bool) :=
  match Git.topLevel machine.git, o.diffFile with
  | .ok root, _ => .ok (root, true)
  | .error _, some _ => .ok (Path.tidy machine.root, false)
  | .error e, none => .error (.repository e)

/-- The settings of the repository. -/
def settingsOf (root : String) : Except (Hindrance ε) Checked :=
  let path := settingsPath root o.config
  match (machine.files path).content?.bind fun _ => machine.unreadable? path with
  | some e => .error (.settingsFile path e)
  | none => (load machine.files machine.environment root o.config).mapError .settings

/-- The form of the report. -/
def wantedFormat (c : Checked) : Except (Hindrance ε) Report.Format :=
  match given? o.format with
  | none => .ok c.format
  | some name =>
    match Report.Format.ofText? name with
    | some format => .ok format
    | none => .error (.format name)

/-- What the analysis starts from. A range of revisions that has an end has to have a begin. -/
def ground : Except (Hindrance ε) Ground := do
  if (given? o.head).isSome && (given? o.base).isNone then throw .headWithoutBase
  let (root, isRepository) ← location machine o
  let settings ← settingsOf machine o root
  let format ← wantedFormat o settings
  return { root, isRepository, settings, format }

/-- The text of a diff file, or of the standard input for a dash. -/
def textAt (path : String) : Except (Hindrance ε) String :=
  if path = "-" then
    match machine.inputText? machine.input with
    | some text => .ok text
    | none => .error .input
  else
    match machine.files (Path.tidy path) with
    | .file content =>
      match machine.unreadable? (Path.tidy path) with
      | none => .ok (textOf content)
      | some e => .error (.diffFile (machine.message e))
    | .directory => .error (.diffFile (systemReason "21] Is a directory" path))
    | .missing => .error (.diffFile (systemReason "2] No such file or directory" path))
    | .insideFile => .error (.diffFile (systemReason "20] Not a directory" path))

/-- The text of a file of the repository as it is on the disk. -/
def sourceAt (root path : String) : Except (Hindrance ε) (Option String) :=
  let path := Path.within root path
  match (machine.files path).content? with
  | none => .ok none
  | some content =>
    match machine.unreadable? path with
    | none => .ok (some (textOf content))
    | some e => .error (.source e)

/-- The text of a file at a revision, or as it is staged. -/
def revisionOf (revision : Option String) (path : String) : Except (Hindrance ε) (Option String) :=
  (Git.content? machine.git revision path).mapError .git

/-- A diff, with its new sources and its old ones as they can be read. -/
structure Material (ε : Type) where
  text : String
  new : String → Except (Hindrance ε) (Option String)
  old : Option (String → Except (Hindrance ε) (Option String))

/-- What the analysis is about. -/
def material (g : Ground) : Except (Hindrance ε) (Material ε) :=
  match o.diffFile, given? o.base with
  | some path, _ => do
    let text ← textAt machine path
    let old := if g.isRepository then o.base else none
    return {
      text
      new := sourceAt machine g.root
      old := old.map fun base => revisionOf machine (some base) }
  | none, some base => do
    let head := (given? o.head).getD "HEAD"
    let text ← (Git.outputOf machine.git (.rangeDiff base head)).mapError .git
    return {
      text
      new := revisionOf machine (some head)
      old := some (revisionOf machine (some base)) }
  | none, none => do
    let text ← (Git.outputOf machine.git .stagedDiff).mapError .git
    let hasHead ← (Git.hasRevision machine.git "HEAD").mapError .git
    return {
      text
      new := revisionOf machine none
      old := if hasHead then some (revisionOf machine (some "HEAD")) else none }

/-- The sources that can be read, new ones and old ones. -/
def gathered (m : Material ε) : Except (Hindrance ε) (Sources × Option Sources) := do
  let files ← (Diff.read m.text).mapError fun e => .analysis (.diff e)
  let news ← gather m.new (newPaths files)
  let olds ← match m.old with
    | none => pure none
    | some old => some <$> gather old (oldPaths files)
  return (.ofList news, olds.map .ofList)

/-- The result of the analysis. -/
def examined (c : Checked) (m : Material ε) : Except (Hindrance ε) Result := do
  let (news, olds) ← gathered m
  (Analysis.analyze (setup machine o c news olds) m.text).value.mapError .analysis

/-- What an analysis comes to. -/
def verdict : Except (Hindrance ε) Judgement := do
  let g ← ground machine o
  let result ← examined machine o g.settings (← material machine o g)
  return { settings := g.settings, format := g.format, result }

end Verdict

/-! ## Failures without an answer -/

section Unanswered

variable (machine : Machine ε) (o : AnalyzeOptions)

/-- The lines that an analysis says besides its report and its refusal. -/
inductive Says : String → Prop where
  | place {g : Ground} :
      (o.isVerbose || o.isDebug) = true → ground machine o = .ok g → Says (placeLine g.root)
  | limits {g : Ground} :
      (o.isVerbose || o.isDebug) = true → ground machine o = .ok g →
      Says (limitsLine g.settings)
  | duration {j : Judgement} :
      o.isDebug = true → verdict machine o = .ok j → Says (durationLine j.result)
  | saved {j : Judgement} {path : String} :
      o.isVerbose = true → verdict machine o = .ok j → given? o.output = some path →
      Says (savedLine path)

/-- The failures that an analysis has no answer to. -/
inductive Unanswered : Escape ε → Prop where
  | hindrance {h : Hindrance ε} {e : Escape ε} :
      verdict machine o = .error h → h.Escapes machine e → Unanswered e
  | line {line : String} :
      Says machine o line → machine.libraries.console.read line = none → Unanswered .markup
  | limits {g : Ground} :
      (o.isVerbose || o.isDebug) = true → ground machine o = .ok g →
      areWritableLimits g.settings = false → Unanswered .numberTooLong
  | report {j : Judgement} {e : Text.PrintFault} :
      verdict machine o = .ok j → j.format = .terminal →
      Text.firstFault? (Report.Terminal.prints j.run machine.libraries.console) = some e →
      Unanswered (Activity.ofPrintFault e)
  | document {j : Judgement} :
      verdict machine o = .ok j → j.format ≠ .terminal ∨ (given? o.output).isSome = true →
      (Report.document j.run).isWritable = false → Unanswered .numberTooLong
  | file {j : Judgement} {path : String} {e : WriteFault} :
      verdict machine o = .ok j → given? o.output = some path →
      writeFault? machine.files (Path.tidy path) = some e → Unanswered (.unwritable e)

/-- The last thing that was done broke off, and its failure is the one that escapes. -/
def BreaksOff (events : List Event) (e : Escape ε) : Prop :=
  ∃ event failure, events.getLast? = some event ∧ machine.breaksOff? event = some failure ∧
    e = .outside failure

end Unanswered

end DiffGauge.Command
