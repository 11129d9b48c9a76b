import DiffGauge.Diff.Basic
import DiffGauge.Diff.Fault
import DiffGauge.Diff.PathQuoting
import DiffGauge.Text.Pieces

/-!
# Header lines of a diff

What stands before the body of a hunk: the line that opens a section and names both paths, the
extended headers after it, the two path lines, and the header of a hunk. Each reader looks at one
line and says what it means.
-/

namespace DiffGauge.Diff

open Text PathQuoting

/-! ## The line that opens a section -/

/-- The beginning of the line that opens a section. -/
def sectionLead : String := "diff --git"

/-- The line opens a section. -/
def opensSection (line : Line) : Bool := hasLead sectionLead line

/-- The two sides of the last separator with a text on both sides of it. -/
def lastSplit? (sep : List Char) : List Char → Option (List Char × List Char)
  | [] => none
  | c :: cs =>
    match lastSplit? sep cs with
    | some (left, right) => some (c :: left, right)
    | none =>
      match after? sep cs with
      | some (r :: right) => some ([c], r :: right)
      | _ => none

/-- The quoted text at the front, with its quotes, and what follows it; `cs` stands after the
    opening quote. -/
def closing? : List Char → Option (List Char × List Char)
  | [] => none
  | '"' :: cs => some (['"'], cs)
  | '\\' :: c :: cs => (closing? cs).map fun (inner, rest) => ('\\' :: c :: inner, rest)
  | ['\\'] => none
  | c :: cs => (closing? cs).map fun (inner, rest) => (c :: inner, rest)

/-- The quoted text at the front, with its quotes, and what follows it. -/
def quotedFront? : List Char → Option (List Char × List Char)
  | '"' :: cs => (closing? cs).map fun (inner, rest) => ('"' :: inner, rest)
  | _ => none

/-- The text holds no blank and is not empty. -/
def isWord (cs : List Char) : Bool := !cs.isEmpty && !cs.any isBlank

/-- The run of characters without a blank at the front, and what follows it. -/
def wordFront? (cs : List Char) : Option (List Char × List Char) :=
  match cs.span fun c => !isBlank c with
  | ([], _) => none
  | front => some front

/-- The whole text is one quoted text or one word. -/
def isToken (cs : List Char) : Bool :=
  (match quotedFront? cs with
    | some (_, []) => true
    | _ => false) || isWord cs

/-- The two tokens of a text: one at the front, a blank, and one to the end. -/
def tokenPair? (front? : List Char → Option (List Char × List Char))
    (cs : List Char) : Option (List Char × List Char) :=
  match front? cs with
  | some (left, ' ' :: right) => if isToken right then some (left, right) else none
  | _ => none

/-- Two words with a blank between them. -/
def wordPair? (cs : List Char) : Option (List Char × List Char) :=
  match wordFront? cs with
  | some (left, ' ' :: right) => if isWord right then some (left, right) else none
  | _ => none

/-- The paths of two tokens, without quotes and without the letters for the sides. -/
def sidePaths (tokens : List Char × List Char) : String × String :=
  (String.ofList (withoutLead "a/" (unquote tokens.1)),
   String.ofList (withoutLead "b/" (unquote tokens.2)))

/-- The old and the new path named by the line that opens a section. Quoted tokens are tried
    first where there is a quote; then the letters for the sides divide the line, at the last
    place that they can; then a single blank does. -/
def headerPaths? (line : Line) : Option (String × String) := do
  let rest ← dropLead? "diff --git " line
  let quotedPair :=
    if rest.contains '"' then tokenPair? quotedFront? rest <|> tokenPair? wordFront? rest
    else none
  match quotedPair with
  | some tokens => return sidePaths tokens
  | none =>
    match (dropLead? "a/" rest).bind (lastSplit? [' ', 'b', '/']) with
    | some (left, right) => return (String.ofList left, String.ofList right)
    | none => return sidePaths (← wordPair? rest)

/-! ## Extended headers -/

/-- What a line between the opening of a section and its path lines says. -/
inductive ExtendedHeader where
  | informative
  | modeChanged
  | deletedFile
  | newFile
  | renamedFrom (path : String)
  | renamedTo (path : String)
  | copiedFrom (path : String)
  | copiedTo (path : String)
  | binary
  deriving DecidableEq, Repr

/-- A lower-case hexadecimal digit. -/
def isHexDigit (c : Char) : Bool := ('0' ≤ c && c ≤ '9') || ('a' ≤ c && c ≤ 'f')

/-- Digits and nothing else, at least one. -/
def isNumber (cs : List Char) : Bool := !cs.isEmpty && cs.all isDigit

/-- A text that begins with two abbreviated object names and two dots between them. -/
def namesObjects (cs : List Char) : Bool :=
  match cs.span isHexDigit with
  | (_ :: _, '.' :: '.' :: c :: _) => isHexDigit c
  | _ => false

/-- A number and a percent sign. -/
def isPercentage (cs : List Char) : Bool :=
  match cs.reverse with
  | '%' :: digits => isNumber digits
  | _ => false

/-- The line has the given beginning, and what follows passes a test. -/
def leadThen (lead : String) (p : List Char → Bool) (line : Line) : Bool :=
  match dropLead? lead line with
  | some rest => p rest
  | none => false

/-- The path after the given beginning. -/
def leadPath? (lead : String) (line : Line) : Option String :=
  match dropLead? lead line with
  | some (c :: rest) => some (String.ofList (unquote (c :: rest)))
  | _ => none

/-- The line says that the file is binary. -/
def announcesBinary (line : Line) : Bool :=
  leadThen "Binary files " (hasTail "differ") line || line == "GIT binary patch".toList

/-- Reads an extended header. -/
def ExtendedHeader.read? (line : Line) : Option ExtendedHeader :=
  if leadThen "index " namesObjects line || leadThen "similarity index " isPercentage line
      || leadThen "dissimilarity index " isPercentage line then some .informative
  else if leadThen "old mode " isNumber line || leadThen "new mode " isNumber line then
    some .modeChanged
  else if leadThen "deleted file mode " isNumber line then some .deletedFile
  else if leadThen "new file mode " isNumber line then some .newFile
  else
    (leadPath? "rename from " line).map .renamedFrom
      <|> (leadPath? "rename to " line).map .renamedTo
      <|> (leadPath? "copy from " line).map .copiedFrom
      <|> (leadPath? "copy to " line).map .copiedTo
      <|> (if announcesBinary line then some .binary else none)

/-! ## Path lines -/

/-- The beginning of the line of the old path. -/
def oldPathLead : String := "--- "

/-- The beginning of the line of the new path. -/
def newPathLead : String := "+++ "

/-- The lines begin with the two path lines of a section. -/
def atPathLines : List Line → Bool
  | old :: new :: _ => hasLead oldPathLead old && hasLead newPathLead new
  | _ => false

/-- The token of a path line: what follows the four characters in front, up to a tab. -/
def pathToken (line : Line) : List Char :=
  trim ((line.drop 4).takeWhile (· != '\t'))

/-- The path of a path line; `side` is the letter for its side. No path stands for a file that
    does not exist on that side. -/
def pathOf (side : String) (line : Line) (lineNo : Nat) : Except Fault (Option String) :=
  let token := pathToken line
  if token.isEmpty then .error (.at (.missingPath line) lineNo)
  else
    let path := unquote token
    if path = "/dev/null".toList then .ok none
    else .ok (some (String.ofList (withoutLead side path)))

/-! ## Hunk headers -/

/-- The header of a hunk: where it begins on either side, how many lines it has there, and the
    text after it. -/
structure HunkHeader where
  oldStart : Nat
  oldCount : Nat
  newStart : Nat
  newCount : Nat
  heading : String
  deriving DecidableEq, Repr

/-- A run of digits at the front, at least one, and what follows it. -/
def digitsFront? (cs : List Char) : Option (List Char × List Char) :=
  match cs.span isDigit with
  | ([], _) => none
  | front => some front

/-- A comma and a run of digits at the front, if they are there. -/
def countFront (cs : List Char) : Option (List Char) × List Char :=
  match cs with
  | ',' :: more =>
    match digitsFront? more with
    | some (digits, rest) => (some digits, rest)
    | none => (none, cs)
  | _ => (none, cs)

/-- The digits of a hunk header and the text after it. A side without a count has one line. -/
structure HunkHeaderText where
  oldStart : List Char
  oldCount : Option (List Char)
  newStart : List Char
  newCount : Option (List Char)
  heading : List Char
  deriving DecidableEq, Repr

/-- Takes a hunk header apart. -/
def HunkHeaderText.read? (line : Line) : Option HunkHeaderText := do
  let (oldStart, cs) ← digitsFront? (← dropLead? "@@ -" line)
  let (oldCount, cs) := countFront cs
  let (newStart, cs) ← digitsFront? (← dropLead? " +" cs)
  let (newCount, cs) := countFront cs
  let cs ← dropLead? " @@" cs
  return { oldStart, oldCount, newStart, newCount, heading := trim cs }

/-- The line opens a hunk, or tries to. -/
def opensHunk (line : Line) : Bool := hasLead "@@" line

/-- The number that some digits write. -/
def lineNumber (digits : List Char) : Except Fault Nat :=
  match readNumber? digits with
  | some n => .ok n
  | none => .error .numberTooLong

/-- The count that some digits write, one without digits. -/
def lineCount (digits : Option (List Char)) : Except Fault Nat :=
  match digits with
  | some digits => lineNumber digits
  | none => .ok 1

/-- Reads the header of a hunk. -/
def HunkHeader.read (line : Line) (lineNo : Nat) : Except Fault HunkHeader :=
  match HunkHeaderText.read? line with
  | none => .error (.at (.malformedHunkHeader line) lineNo)
  | some t => do
    let oldStart ← lineNumber t.oldStart
    let oldCount ← lineCount t.oldCount
    let newStart ← lineNumber t.newStart
    let newCount ← lineCount t.newCount
    return { oldStart, oldCount, newStart, newCount, heading := String.ofList t.heading }

end DiffGauge.Diff
