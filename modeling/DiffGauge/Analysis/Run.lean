import DiffGauge.Analysis.Basic
import DiffGauge.Attribution.Changes
import DiffGauge.Diff.Reader
import DiffGauge.Glob
import DiffGauge.Rust.Reader

/-!
# Analysing a diff

Every file section of a diff is looked at on its own: it is passed over, or its units are read
from its source and its lines attributed to them. A source that is not Rust is an error in a
strict run; otherwise its file is passed over and the message is kept. An old source that is not
Rust only means that nothing is known of the old units.
-/

namespace DiffGauge.Analysis

open Diff Syntax

/-- The sources that can be had, by path. -/
abbrev Sources := String → Option String

/-- A step of an analysis that something can stand in the way of: to tell whether the file at a path
    is ignored, to read the units of a source, and to tell what a region outside all units is for. -/
inductive Step where
  | choosing (path : String)
  | reading (path source : String)
  | placing (path : String)
  deriving DecidableEq, Repr

/-- What an analysis goes by. Without old sources removed lines are placed by position. The units
    of a source are read by its path and its text. The obstacles `ε` are none of the analysis: if
    there are any, they come with the rules or with the machine. -/
structure Setup (ε : Type := Empty) where
  rules : Rules
  sources : Sources
  oldSources : Option Sources
  isStrict : Bool
  unitsOf : String → String → Except Refusal (List CodeUnit) := Rust.unitsOf rules
  obstacle? : Step → Option ε := fun _ => none

/-- Why an analysis has no result. -/
inductive Failure (ε : Type := Empty) where
  | diff (fault : Fault)
  | source (path : String) (fault : SyntaxFault)
  | invalidSpan (span : InvalidSpan)
  | unnumbered (line : Unnumbered)
  | blocked (obstacle : ε)
  deriving DecidableEq, Repr

variable {ε : Type}

/-- The end of the name of a Rust file. -/
def rustSuffix : String := ".rs"

/-- Why a file is passed over before its source is looked for. -/
def skipReason? (path : String) (isBinary : Bool) (ignored : Names) : Option SkipReason :=
  if isBinary then some .binary
  else if !Text.hasTail rustSuffix path.toList then some .notRust
  else if ignored.patterns.any fun g => Glob.matchesText g path then some .ignored
  else none

/-! ## Obstacles -/

/-- What stands in the way of telling whether a file is ignored. Files that are passed over anyway
    are not asked about. -/
def Setup.choosingObstacle? (s : Setup ε) (f : FileDiff) : Option ε :=
  if f.isBinary || !Text.hasTail rustSuffix f.path.toList then none
  else s.obstacle? (.choosing f.path)

/-- What stands in the way of telling what the regions among some changes are for. -/
def Setup.placingObstacle? (s : Setup ε) (f : FileDiff) (changes : List Change) : Option ε :=
  if changes.any fun c => c.unit.kind.isNone then s.obstacle? (.placing f.path) else none

/-- Where there can be no obstacles none is met. -/
@[simp] theorem Setup.obstacle?_eq_none (s : Setup) (step : Step) : s.obstacle? step = none := by
  cases s.obstacle? step with
  | none => rfl
  | some obstacle => exact obstacle.elim

/-- A setup whose units always come to an answer has no trouble choosing files. -/
@[simp] theorem Setup.choosingObstacle?_eq_none (s : Setup) (f : FileDiff) :
    s.choosingObstacle? f = none := by
  rw [choosingObstacle?, obstacle?_eq_none, ite_self]

/-- Nor does it have trouble placing changes. -/
@[simp] theorem Setup.placingObstacle?_eq_none (s : Setup) (f : FileDiff) (cs : List Change) :
    s.placingObstacle? f cs = none := by
  rw [placingObstacle?, obstacle?_eq_none, ite_self]

/-! ## Files -/

/-- The log after units were read. -/
def extracted (units : List CodeUnit) (path : String) : List LogEntry :=
  [⟨.debug, "Extracted " ++ Text.natText units.length ++ " units from " ++ path⟩]

/-- The units of the old version of a file, if its source is known and is Rust. -/
def oldUnits (s : Setup ε) (f : FileDiff) :
    Logged (Except (Failure ε) (Option (List CodeUnit))) :=
  match s.oldSources, f.oldPath with
  | some sources, some path =>
    match sources path with
    | none => ⟨[], .ok none⟩
    | some source =>
      match s.obstacle? (.reading path source) with
      | some obstacle => ⟨[], .error (.blocked obstacle)⟩
      | none =>
        match s.unitsOf path source with
        | .ok units => ⟨extracted units path, .ok (some units)⟩
        | .error (.syntaxFault fault) =>
          ⟨[⟨.warning, "Ignoring old version of " ++ path ++ ": " ++ fault.message path⟩],
            .ok none⟩
        | .error (.invalidSpan span) => ⟨[], .error (.invalidSpan span)⟩
  | _, _ => ⟨[], .ok none⟩

/-- What is found out about one file. -/
structure FileFinding where
  entry : FileEntry
  changes : List Change := []
  errors : List String := []
  deriving Repr

/-- The entry of a file before it is looked at. -/
def entryOf (f : FileDiff) : FileEntry :=
  { path := f.path, oldPath := if f.isRename then f.oldPath else none, status := f.status }

/-- What is found out about a file that is passed over. -/
def passedOver (f : FileDiff) (reason : SkipReason) (errors : List String) : FileFinding :=
  { entry := { entryOf f with skipped := some reason }, errors }

/-- Attributes the lines of a file to its units. -/
def attributeFile (s : Setup ε) (f : FileDiff) (units : List CodeUnit) :
    Logged (Except (Failure ε) FileFinding) :=
  let olds := oldUnits s f
  ⟨olds.log, do
    let changes ← (Attribution.changesOf s.rules f units (← olds.value)).mapError .unnumbered
    match s.placingObstacle? f changes with
    | some obstacle => throw (.blocked obstacle)
    | none => return { entry := { entryOf f with changes := changes.length }, changes }⟩

/-- Looks at one file whose path is not ignored. -/
def analyzeChosen (s : Setup ε) (f : FileDiff) : Logged (Except (Failure ε) FileFinding) :=
  if f.status = .deleted then attributeFile s f []
  else
    match s.sources f.path with
    | none =>
      ⟨[⟨.warning, "No source available for " ++ f.path ++ "; skipping"⟩],
        .ok (passedOver f .noSource [])⟩
    | some source =>
      match s.obstacle? (.reading f.path source) with
      | some obstacle => ⟨[], .error (.blocked obstacle)⟩
      | none =>
        match s.unitsOf f.path source with
        | .ok units =>
          let rest := attributeFile s f units
          ⟨extracted units f.path ++ rest.log, rest.value⟩
        | .error (.syntaxFault fault) =>
          if s.isStrict then ⟨[], .error (.source f.path fault)⟩
          else
            let message := fault.message f.path
            ⟨[⟨.warning, message⟩], .ok (passedOver f .parseError [message])⟩
        | .error (.invalidSpan span) => ⟨[], .error (.invalidSpan span)⟩

/-- Looks at one file. -/
def analyzeFile (s : Setup ε) (f : FileDiff) : Logged (Except (Failure ε) FileFinding) :=
  match s.choosingObstacle? f with
  | some obstacle => ⟨[], .error (.blocked obstacle)⟩
  | none =>
    match skipReason? f.path f.isBinary s.rules.ignorePaths with
    | some reason =>
      ⟨[⟨.debug, "Skipping " ++ f.path ++ " (" ++ reason.text ++ ")"⟩],
        .ok (passedOver f reason [])⟩
    | none => analyzeChosen s f

/-- Looks at one file after another, up to the first failure. -/
def analyzeFiles (s : Setup ε) :
    List FileDiff → Logged (Except (Failure ε) (List FileFinding))
  | [] => ⟨[], .ok []⟩
  | f :: fs =>
    let first := analyzeFile s f
    match first.value with
    | .error e => ⟨first.log, .error e⟩
    | .ok finding =>
      let rest := analyzeFiles s fs
      ⟨first.log ++ rest.log, rest.value.map (finding :: ·)⟩

/-- What the findings about all files come to. -/
def Result.ofFindings (findings : List FileFinding) : Result :=
  { changes := findings.flatMap (·.changes)
    files := findings.map (·.entry)
    errors := findings.flatMap (·.errors)
    durationMs := 0.0 }

/-- The log at the end of an analysis. No time passes in it. -/
def finished (r : Result) : List LogEntry :=
  [⟨.debug, "Analysed " ++ Text.natText r.analyzedFiles.length ++ " files, "
    ++ Text.natText r.changes.length ++ " changes in 0ms"⟩]

/-- Analyses the diff `text`. -/
def analyze (s : Setup ε) (text : String) : Logged (Except (Failure ε) Result) :=
  match read text with
  | .error fault => ⟨[], .error (.diff fault)⟩
  | .ok files =>
    let parsed : LogEntry :=
      ⟨.debug, "Parsed " ++ Text.natText files.length ++ " file sections"⟩
    let findings := analyzeFiles s files
    match findings.value with
    | .error e => ⟨parsed :: findings.log, .error e⟩
    | .ok found =>
      let result := Result.ofFindings found
      ⟨parsed :: findings.log ++ finished result, .ok result⟩

end DiffGauge.Analysis
