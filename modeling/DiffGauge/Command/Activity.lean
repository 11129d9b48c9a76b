import DiffGauge.Command.Machine
import DiffGauge.LineSpan

/-!
# What a command does

A command does one thing after another: it looks at files, asks git, prints, logs and writes. It
ends with an exit code, or with a failure that it has no answer to.
-/

namespace DiffGauge.Command

open Analysis

/-- A failure that a command has no answer to. Those in `ε` come from outside. -/
inductive Escape (ε : Type := Empty) where
  | markup
  | notText
  | numberTooLong
  | notExtensible
  | unusableRules
  | invalidSpan (e : InvalidSpan)
  | unnumbered (e : Diff.Unnumbered)
  | unwritable (e : WriteFault)
  | outside (e : ε)
  deriving DecidableEq, Repr

/-- How a command ends. -/
inductive Ending (ε : Type := Empty) where
  | exit (code : Nat)
  | escaped (e : Escape ε)
  deriving DecidableEq, Repr

variable {ε : Type}

/-- The exit code of an ending. -/
def Ending.code : Ending ε → Nat
  | .exit code => code
  | .escaped _ => 1

/-- A part of a command: what it does, and what it yields unless the command ends in it. -/
structure Activity (ε α : Type) where
  events : List Event
  result : Except (Ending ε) α

instance : Monad (Activity ε) where
  pure a := ⟨[], .ok a⟩
  bind t f :=
    match t.result with
    | .ok a => ⟨t.events ++ (f a).events, (f a).result⟩
    | .error e => ⟨t.events, .error e⟩

namespace Activity

variable {α : Type}

/-- Ends the command. -/
def finish (e : Ending ε) : Activity ε α := ⟨[], .error e⟩

/-- Ends the command with an exit code. -/
def exit (code : Nat) : Activity ε α := finish (.exit code)

/-- Ends the command with a failure that it has no answer to. -/
def escape (e : Escape ε) : Activity ε α := finish (.escaped e)

/-- Goes on with a result, or with an answer to its failure. -/
def ofExcept {δ : Type} (answer : δ → Activity ε α) : Except δ α → Activity ε α
  | .ok a => pure a
  | .error e => answer e

variable (machine : Machine ε)

/-- Does one thing, which may break off. -/
def perform (e : Event) : Activity ε Unit :=
  ⟨[e], match machine.breaksOff? e with
    | none => .ok ()
    | some failure => .error (.escaped (.outside failure))⟩

/-- Does one thing after another. -/
def performAll : List Event → Activity ε Unit
  | [] => pure ()
  | e :: es => do
    perform machine e
    performAll es

/-- Prints a marked-up line to the standard error. -/
def say (s : String) : Activity ε Unit :=
  match machine.libraries.console.read s with
  | some text => perform machine (.err (machine.libraries.console.line text))
  | none => escape .markup

/-- Says what is wrong and ends the command. -/
def refuse (label message : String) : Activity ε α := do
  say machine ("[bold red]" ++ label ++ ":[/bold red] " ++ message)
  exit 2

/-- The failure that a faulty print ends in. -/
def ofPrintFault : Text.PrintFault → Escape ε
  | .markup => .markup
  | .numberTooLong => .numberTooLong

/-- Prints one thing after another to the standard error, up to the first that is at fault. -/
def sayAll : List Text.Print → Activity ε Unit
  | [] => pure ()
  | .error e :: _ => escape (ofPrintFault e)
  | .ok text :: prints => do
    perform machine (.err text)
    sayAll prints

/-- Looks at what stands at a path. -/
def look (path : String) : Activity ε Found := do
  perform machine (.looked path)
  return machine.files path

/-- Opens a file that is there, and says why it cannot be read, if so. -/
def openFile (path : String) : Activity ε (Option ε) := do
  perform machine (.opened path)
  return machine.unreadable? path

/-- Asks git, with the answer that it gives. -/
def ask (q : Git.Query) (answer : Except Git.Fault α) : Activity ε (Except Git.Fault α) := do
  perform machine (.asked q.arguments)
  return answer

/-- Logs messages that are important enough. -/
def log (least : LogLevel) (entries : List LogEntry) : Activity ε Unit :=
  performAll machine ((entries.filter fun e => least.rank ≤ e.level.rank).map .logged)

/-- Writes a file. -/
def write (path content : String) : Activity ε Unit := do
  let path := Path.tidy path
  let _ ← look machine path
  let _ ← look machine (parent path)
  match writeFault? machine.files path with
  | none => perform machine (.wrote path content)
  | some e => escape (.unwritable e)

/-! ## What activities yield -/

section Yield

variable {β : Type}

/-- An activity that does nothing has its result. -/
@[simp] theorem result_pure (a : α) : (pure a : Activity ε α).result = .ok a := rfl

/-- After an activity that has a result comes what is done with the result. -/
theorem bind_of_ok {t : Activity ε α} {a : α} (h : t.result = .ok a) (f : α → Activity ε β) :
    t >>= f = ⟨t.events ++ (f a).events, (f a).result⟩ := by
  show (match t.result with
    | .ok a => (⟨t.events ++ (f a).events, (f a).result⟩ : Activity ε β)
    | .error e => ⟨t.events, .error e⟩) = _
  rw [h]

/-- After an activity that ended nothing is done. -/
theorem bind_of_error {t : Activity ε α} {e : Ending ε} (h : t.result = .error e)
    (f : α → Activity ε β) : t >>= f = ⟨t.events, .error e⟩ := by
  show (match t.result with
    | .ok a => (⟨t.events ++ (f a).events, (f a).result⟩ : Activity ε β)
    | .error e => ⟨t.events, .error e⟩) = _
  rw [h]

/-- The result of two steps is that of the second one, if the first one has one. -/
theorem result_bind_of_ok {t : Activity ε α} {a : α} (h : t.result = .ok a)
    (f : α → Activity ε β) : (t >>= f).result = (f a).result := by
  rw [bind_of_ok h]

/-- Two steps end as the first one does, if it does. -/
theorem result_bind_of_error {t : Activity ε α} {e : Ending ε} (h : t.result = .error e)
    (f : α → Activity ε β) : (t >>= f).result = .error e := by
  rw [bind_of_error h]

/-- The result of two steps does not depend on what is done on the way. -/
@[simp] theorem result_bind (t : Activity ε α) (f : α → Activity ε β) :
    (t >>= f).result = t.result.bind fun a => (f a).result := by
  cases h : t.result with
  | ok a => exact result_bind_of_ok h f
  | error e => exact result_bind_of_error h f

/-- A change to the result leaves the rest as it is. -/
@[simp] theorem result_map (f : α → β) (t : Activity ε α) :
    (f <$> t).result = t.result.map f := by
  show (t >>= fun a => pure (f a)).result = _
  rw [result_bind]
  cases t.result with
  | ok a => rfl
  | error e => rfl

/-- Where there is nothing to answer nothing is done. -/
@[simp] theorem ofExcept_ok {δ : Type} (answer : δ → Activity ε α) (a : α) :
    ofExcept answer (.ok a) = pure a := rfl

end Yield

end Activity

/-- What a command did and how it ended. -/
structure Outcome (ε : Type := Empty) where
  events : List Event
  ending : Ending ε
  deriving Repr

/-- The outcome of a command. A command that does not end by itself ends well. -/
def Activity.outcome (t : Activity ε Unit) : Outcome ε :=
  { events := t.events
    ending := match t.result with
      | .ok () => .exit 0
      | .error e => e }

end DiffGauge.Command
