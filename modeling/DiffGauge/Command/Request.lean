import DiffGauge.Command.Options

/-!
# Requests

What a command line asks for: the version, an analysis, or a settings file to start from.
-/

namespace DiffGauge.Command

/-- The choices for an analysis. -/
structure AnalyzeOptions where
  config : Option String := none
  format : Option String := none
  output : Option String := none
  diffFile : Option String := none
  base : Option String := none
  head : Option String := none
  isStrict : Bool := false
  isVerbose : Bool := false
  isDebug : Bool := false
  deriving DecidableEq, Repr

/-- The options of an analysis. -/
def analyzeSpecs : List (OptionSpec AnalyzeOptions) :=
  [ { long := "config", short := some 'c', effect := .valued fun v o => { o with config := v } },
    { long := "format", short := some 'f', effect := .valued fun v o => { o with format := v } },
    { long := "output", short := some 'o', effect := .valued fun v o => { o with output := v } },
    { long := "diff-file", effect := .valued fun v o => { o with diffFile := v } },
    { long := "from", effect := .valued fun v o => { o with base := v } },
    { long := "to", effect := .valued fun v o => { o with head := v } },
    { long := "strict", effect := .flag fun o => { o with isStrict := true } },
    { long := "verbose", short := some 'v',
      effect := .flag fun o => { o with isVerbose := true } },
    { long := "debug", effect := .flag fun o => { o with isDebug := true } }]

/-- The options of a settings file to start from: whether an old one is replaced. -/
def initSpecs : List (OptionSpec Bool) :=
  [{ long := "force", effect := .flag fun _ => true }]

/-- The options before the name of a command: whether the version is asked for. -/
def mainSpecs : List (OptionSpec Bool) :=
  [{ long := "version", short := some 'V', effect := .flag fun _ => true }]

/-- What a command line asks for. -/
inductive Request where
  | version
  | analyze (options : AnalyzeOptions)
  | init (force : Bool)
  | unclear
  deriving DecidableEq, Repr

/-- Reads the words of a command line. -/
def Request.ofWords (words : List String) : Request :=
  match readLeading mainSpecs words false with
  | none => .unclear
  | some (true, _) => .version
  | some (false, "analyze" :: words) =>
    match readOptions analyzeSpecs words {} with
    | some options => .analyze options
    | none => .unclear
  | some (false, "init" :: words) =>
    match readOptions initSpecs words false with
    | some force => .init force
    | none => .unclear
  | some (false, _) => .unclear

end DiffGauge.Command
