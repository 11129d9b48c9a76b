import DiffGauge.Text.Pieces

/-!
# Options

A command line is a list of words. An option has a long name after two dashes and may have a
short one, a letter after a single dash. Some options take a value: the rest of their word, or
the next word. Letters may share a word. Of an option that is given twice the last one counts. A
command can be given another reader of its words.
-/

namespace DiffGauge.Command

/-- What an option does to the choices made so far, perhaps with a value. -/
inductive Effect (σ : Type) where
  | flag (set : σ → σ)
  | valued (set : String → σ → σ)

/-- An option with its names. -/
structure OptionSpec (σ : Type) where
  long : String
  short : Option Char := none
  effect : Effect σ

variable {σ : Type}

/-- What comes of one word: new choices, choices for which the next word is a value, or nothing
    because the word is no option. -/
inductive Reading (σ : Type) where
  | complete (choices : σ)
  | wanting (set : String → σ)
  | unknown

/-- Reads a word of option letters. -/
def readLetters (specs : List (OptionSpec σ)) : List Char → σ → Reading σ
  | [], choices => .complete choices
  | c :: cs, choices =>
    match specs.find? fun s => s.short == some c with
    | none => .unknown
    | some s =>
      match s.effect with
      | .flag set => readLetters specs cs (set choices)
      | .valued set =>
        if cs.isEmpty then .wanting fun v => set v choices
        else .complete (set (String.ofList cs) choices)

/-- Reads the long name of an option, perhaps with a value after an equals sign. -/
def readLong (specs : List (OptionSpec σ)) (cs : List Char) (choices : σ) : Reading σ :=
  let (name, rest) := cs.span (· != '=')
  match specs.find? fun s => s.long.toList == name with
  | none => .unknown
  | some s =>
    match s.effect, rest with
    | .flag set, [] => .complete (set choices)
    | .flag _, _ => .unknown
    | .valued set, [] => .wanting fun v => set v choices
    | .valued set, _ :: value => .complete (set (String.ofList value) choices)

/-- A word that can only be an option. -/
def isOption (word : String) : Bool := word != "-" && Text.hasLead "-" word.toList

/-- Reads one word that begins with a dash. -/
def readOption (specs : List (OptionSpec σ)) (word : String) (choices : σ) : Reading σ :=
  match word.toList with
  | '-' :: '-' :: cs => readLong specs cs choices
  | '-' :: cs => readLetters specs cs choices
  | _ => .unknown

/-- Reads options up to the first word that is none: the choices and the words that follow. Two
    dashes end the options. -/
def readLeading (specs : List (OptionSpec σ)) : List String → σ → Option (σ × List String)
  | [], choices => some (choices, [])
  | word :: words, choices =>
    if word = "--" then some (choices, words)
    else if isOption word then
      match readOption specs word choices with
      | .complete choices => readLeading specs words choices
      | .wanting set =>
        match words with
        | value :: words => readLeading specs words (set value)
        | [] => none
      | .unknown => none
    else some (choices, word :: words)

/-- Reads words that are all options. -/
def readOptions (specs : List (OptionSpec σ)) (words : List String) (choices : σ) : Option σ :=
  match readLeading specs words choices with
  | some (choices, []) => some choices
  | _ => none

end DiffGauge.Command
