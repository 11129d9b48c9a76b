import DiffGauge.Settings.Value
import DiffGauge.Text.Pieces

/-!
# Reading TOML

A document is a list of lines: table headers, and keys with values. The tables are built as the
lines are read, because whether a line is allowed depends on how the tables before it came to
be: a table that was opened by its header cannot be opened again, one that was opened by dotted
keys cannot be opened by a header, and a table or an array that was written in one piece is
closed.
-/

namespace DiffGauge.Settings.Toml

open Text

/-- Why a text is no document. A decimal number with too many digits is a fault of its own. -/
inductive Fault where
  | malformed
  | numberTooLong
  deriving DecidableEq, Repr

/-! ## Characters -/

/-- A blank inside a line. -/
def isGap (c : Char) : Bool := c == ' ' || c == '\t'

/-- A control character that a line of text may not hold. -/
def isControl (c : Char) : Bool := (c.toNat < 32 && c != '\t') || c.toNat == 127

/-- A character of a key without quotes. -/
def isBare (c : Char) : Bool := c.isAlphanum || c == '-' || c == '_'

/-- A text without the blanks in front. -/
def skipGap (cs : List Char) : List Char := cs.dropWhile isGap

/-- A text without the comment in front. -/
def skipComment (cs : List Char) : Except Fault (List Char) :=
  match cs with
  | '#' :: cs =>
    match cs.span (· != '\n') with
    | (body, rest) => if body.any isControl then .error .malformed else .ok rest
  | cs => .ok cs

/-- A text without the blanks, line breaks and comments in front; `fuel` bounds their number. -/
def skipLines : Nat → List Char → Except Fault (List Char)
  | 0, _ => .error .malformed
  | fuel + 1, cs =>
    match cs.dropWhile fun c => isGap c || c == '\n' with
    | '#' :: cs => do skipLines fuel (← skipComment ('#' :: cs))
    | cs => .ok cs

/-! ## Strings -/

/-- A hexadecimal digit in either case. -/
def isHex (c : Char) : Bool :=
  c.isDigit || ('a' ≤ c && c ≤ 'f') || ('A' ≤ c && c ≤ 'F')

/-- The value of a hexadecimal digit. -/
def hexValue (c : Char) : Nat :=
  if c.isDigit then c.toNat - 48 else c.toLower.toNat - 87

/-- The number that hexadecimal digits write. -/
def hexNumber (cs : List Char) : Nat := cs.foldl (fun n c => 16 * n + hexValue c) 0

/-- The character whose number stands in so many hexadecimal digits. -/
def hexChar (width : Nat) (cs : List Char) : Except Fault (Char × List Char) :=
  let digits := cs.take width
  let n := hexNumber digits
  if digits.length = width && digits.all isHex && (n < 0xD800 || (0xE000 ≤ n && n < 0x110000))
  then .ok (Char.ofNat n, cs.drop width)
  else .error .malformed

/-- The characters that a letter stands for after a backslash. -/
def escapes : List (Char × Char) :=
  [('b', '\x08'), ('t', '\t'), ('n', '\n'), ('f', '\x0c'), ('r', '\r'), ('"', '"'),
   ('\\', '\\')]

/-- What follows a backslash. -/
def escape : List Char → Except Fault (Char × List Char)
  | 'u' :: cs => hexChar 4 cs
  | 'U' :: cs => hexChar 8 cs
  | c :: cs =>
    match escapes.lookup c with
    | some d => .ok (d, cs)
    | none => .error .malformed
  | [] => .error .malformed

/-- What follows a backslash at the end of a line: the text goes on at the next character that
    is not blank. -/
def foldedLine? (cs : List Char) : Option (Except Fault (List Char)) :=
  match cs with
  | c :: _ =>
    if isGap c || c == '\n' then
      some (match skipGap cs with
        | [] => .ok []
        | '\n' :: rest => .ok (rest.dropWhile fun c => isGap c || c == '\n')
        | _ => .error .malformed)
    else none
  | [] => none

/-- A string in double quotes after its opening quote; `fuel` bounds the number of its
    characters. -/
def basicString : Nat → List Char → Except Fault (List Char × List Char)
  | 0, _ => .error .malformed
  | _ + 1, [] => .error .malformed
  | _ + 1, '"' :: cs => .ok ([], cs)
  | fuel + 1, '\\' :: cs => do
    let (c, rest) ← escape cs
    let (s, rest) ← basicString fuel rest
    return (c :: s, rest)
  | fuel + 1, c :: cs =>
    if isControl c then .error .malformed
    else do
      let (s, rest) ← basicString fuel cs
      return (c :: s, rest)

/-- A string in three double quotes after the opening ones. -/
def longString : Nat → List Char → Except Fault (List Char × List Char)
  | 0, _ => .error .malformed
  | _ + 1, [] => .error .malformed
  | _ + 1, '"' :: '"' :: '"' :: cs => .ok ([], cs)
  | fuel + 1, '\\' :: cs =>
    match foldedLine? cs with
    | some rest => do longString fuel (← rest)
    | none => do
      let (c, rest) ← escape cs
      let (s, rest) ← longString fuel rest
      return (c :: s, rest)
  | fuel + 1, c :: cs =>
    if isControl c && c != '\n' then .error .malformed
    else do
      let (s, rest) ← longString fuel cs
      return (c :: s, rest)

/-- A string in single quotes after its opening quote. -/
def literalString : List Char → Except Fault (List Char × List Char)
  | [] => .error .malformed
  | '\'' :: cs => .ok ([], cs)
  | c :: cs =>
    if isControl c then .error .malformed
    else do
      let (s, rest) ← literalString cs
      return (c :: s, rest)

/-- A string in three single quotes after the opening ones. -/
def longLiteral : List Char → Except Fault (List Char × List Char)
  | [] => .error .malformed
  | '\'' :: '\'' :: '\'' :: cs => .ok ([], cs)
  | c :: cs =>
    if isControl c && c != '\n' then .error .malformed
    else do
      let (s, rest) ← longLiteral cs
      return (c :: s, rest)

/-- Up to two quotes that stand right before the three that end a string. -/
def lateQuotes (quote : Char) (s cs : List Char) : List Char × List Char :=
  match cs with
  | a :: b :: rest =>
    if a = quote then (if b = quote then (s ++ [quote, quote], rest) else (s ++ [quote], b :: rest))
    else (s, cs)
  | [a] => if a = quote then (s ++ [quote], []) else (s, cs)
  | [] => (s, cs)

/-- A text without the line break in front. -/
def withoutBreak : List Char → List Char
  | '\n' :: cs => cs
  | cs => cs

/-- A string of any form. -/
def string (cs : List Char) : Except Fault (List Char × List Char) :=
  match cs with
  | '"' :: '"' :: '"' :: cs => do
    let (s, rest) ← longString (cs.length + 1) (withoutBreak cs)
    return lateQuotes '"' s rest
  | '\'' :: '\'' :: '\'' :: cs => do
    let (s, rest) ← longLiteral (withoutBreak cs)
    return lateQuotes '\'' s rest
  | '"' :: cs => basicString (cs.length + 1) cs
  | '\'' :: cs => literalString cs
  | _ => .error .malformed

/-! ## Keys -/

/-- A part of a key. -/
def keyPart (cs : List Char) : Except Fault (String × List Char) :=
  match cs with
  | '"' :: cs => (basicString (cs.length + 1) cs).map fun (s, rest) => (String.ofList s, rest)
  | '\'' :: cs => (literalString cs).map fun (s, rest) => (String.ofList s, rest)
  | cs =>
    match cs.span isBare with
    | ([], _) => .error .malformed
    | (part, rest) => .ok (String.ofList part, rest)

/-- A key with the blanks after it: parts with points between them; `fuel` bounds their
    number. -/
def keyFrom : Nat → List Char → Except Fault (List String × List Char)
  | 0, _ => .error .malformed
  | fuel + 1, cs => do
    let (part, rest) ← keyPart cs
    match skipGap rest with
    | '.' :: rest => do
      let (parts, rest) ← keyFrom fuel (skipGap rest)
      return (part :: parts, rest)
    | rest => return ([part], rest)

/-- A key with the blanks after it. -/
def key (cs : List Char) : Except Fault (List String × List Char) := keyFrom (cs.length + 1) cs

/-! ## Numbers and moments -/

/-- Digits with single underscores between them, without the underscores. -/
def grouped (p : Char → Bool) : List Char → List Char × List Char
  | '_' :: c :: cs =>
    if p c then
      let (ds, rest) := grouped p cs
      (c :: ds, rest)
    else ([], '_' :: c :: cs)
  | c :: cs =>
    if p c then
      let (ds, rest) := grouped p cs
      (c :: ds, rest)
    else ([], c :: cs)
  | [] => ([], [])

/-- One digit or more with single underscores between them, without the underscores. -/
def digits? (p : Char → Bool) (cs : List Char) : Option (List Char × List Char) :=
  match cs with
  | c :: rest =>
    if p c then
      let (ds, rest) := grouped p rest
      some (c :: ds, rest)
    else none
  | [] => none

/-- A whole number in base 16, 8 or 2. -/
def basedNumber? (cs : List Char) : Option (Int × List Char) :=
  let based (base : Nat) (p : Char → Bool) (cs : List Char) : Option (Int × List Char) :=
    (digits? p cs).map fun (ds, rest) =>
      ((ds.foldl (fun n c => base * n + hexValue c) 0 : Nat), rest)
  match cs with
  | '0' :: 'x' :: cs => based 16 isHex cs
  | '0' :: 'o' :: cs => based 8 (fun c => '0' ≤ c && c ≤ '7') cs
  | '0' :: 'b' :: cs => based 2 (fun c => c == '0' || c == '1') cs
  | _ => none

/-- The sign in front. -/
def sign : List Char → Bool × List Char
  | '-' :: cs => (true, cs)
  | '+' :: cs => (false, cs)
  | cs => (false, cs)

/-- The digits of a whole number: a zero alone, or digits that do not begin with one. -/
def wholeDigits? (cs : List Char) : Option (List Char × List Char) :=
  match cs with
  | '0' :: cs => some (['0'], cs)
  | cs => digits? Char.isDigit cs

/-- The digits after a point. -/
def fraction? (cs : List Char) : Option (List Char × List Char) :=
  match cs with
  | '.' :: cs => digits? Char.isDigit cs
  | _ => none

/-- The exponent of a number. -/
def exponent? (cs : List Char) : Option (Int × List Char) :=
  match cs with
  | e :: cs =>
    if e == 'e' || e == 'E' then
      let (negative, cs) := sign cs
      (digits? Char.isDigit cs).map fun (ds, rest) =>
        (if negative then -(numberOf ds : Int) else numberOf ds, rest)
    else none
  | [] => none

/-- A decimal number, whole or not. -/
def decimalNumber? (cs : List Char) : Option (Except Fault (Value × List Char)) := do
  let (negative, cs) := sign cs
  let (whole, cs) ← wholeDigits? cs
  let part := fraction? cs
  let afterPart := match part with
    | some (_, rest) => rest
    | none => cs
  let power := exponent? afterPart
  match part, power with
  | none, none =>
    return match readNumber? whole with
      | some n => .ok (.integer (if negative then -n else n), cs)
      | none => .error .numberTooLong
  | _, _ =>
    let partDigits := (part.map (·.1)).getD []
    let e := (power.map (·.1)).getD 0
    let rest := (power.map (·.2)).getD afterPart
    let x := Decimal.nearest (numberOf (whole ++ partDigits)) (e - partDigits.length)
    return .ok (.real (if negative then -x else x), rest)

/-- A number in exactly two digits. -/
def twoDigits? : List Char → Option (Nat × List Char)
  | a :: b :: cs => if a.isDigit && b.isDigit then some (numberOf [a, b], cs) else none
  | _ => none

/-- Takes a known character. -/
def take? (c : Char) : List Char → Option (List Char)
  | d :: cs => if c = d then some cs else none
  | [] => none

/-- Millionths of a second after a point, if they are there. Digits after the sixth are
    dropped. -/
def micros (cs : List Char) : Nat × List Char :=
  match cs with
  | '.' :: more =>
    match more.span Char.isDigit with
    | ([], _) => (0, cs)
    | (ds, rest) => (numberOf ((ds ++ List.replicate 6 '0').take 6), rest)
  | cs => (0, cs)

/-- A time of day. -/
def dayTime? (cs : List Char) : Option (DayTime × List Char) := do
  let (hour, cs) ← twoDigits? cs
  let (minute, cs) ← twoDigits? (← take? ':' cs)
  let (second, cs) ← twoDigits? (← take? ':' cs)
  if hour < 24 && minute < 60 && second < 60 then
    let (micro, cs) := micros cs
    return ({ hour, minute, second, micro }, cs)
  else none

/-- A date, whether it exists or not. -/
def day? (cs : List Char) : Option (Day × List Char) := do
  let (century, cs) ← twoDigits? cs
  let (year, cs) ← twoDigits? cs
  let (month, cs) ← twoDigits? (← take? '-' cs)
  let (day, cs) ← twoDigits? (← take? '-' cs)
  if 1 ≤ month && month ≤ 12 && 1 ≤ day && day ≤ 31 then
    return ({ year := 100 * century + year, month, day }, cs)
  else none

/-- An offset from universal time in minutes. -/
def offset? (cs : List Char) : Option (Int × List Char) :=
  match cs with
  | 'Z' :: cs => some (0, cs)
  | 'z' :: cs => some (0, cs)
  | s :: cs =>
    if s == '+' || s == '-' then do
      let (hours, cs) ← twoDigits? cs
      let (minutes, cs) ← twoDigits? (← take? ':' cs)
      if hours < 24 && minutes < 60 then
        let n : Int := 60 * hours + minutes
        return (if s == '-' then -n else n, cs)
      else none
    else none
  | [] => none

/-- The time of day after a date, with the offset after it. -/
def timeAfter? (cs : List Char) : Option (DayTime × Option Int × List Char) :=
  match cs with
  | c :: cs =>
    if c == 'T' || c == 't' || c == ' ' then do
      let (time, cs) ← dayTime? cs
      match offset? cs with
      | some (m, rest) => return (time, some m, rest)
      | none => return (time, none, cs)
    else none
  | [] => none

/-- A date, a time of day or both. A date that does not exist is a fault. -/
def moment? (cs : List Char) : Option (Except Fault (Value × List Char)) :=
  match day? cs with
  | some (day, rest) =>
    if day.exists then
      some (match timeAfter? rest with
        | some (time, offset, rest) => .ok (.moment (.both day time offset), rest)
        | none => .ok (.moment (.date day), rest))
    else some (.error .malformed)
  | none => (dayTime? cs).map fun (time, rest) => .ok (.moment (.time time), rest)

/-- The numbers that are no numbers. -/
def specialNumber? (cs : List Char) : Option (Value × List Char) :=
  let (negative, rest) := sign cs
  match dropLead? "inf" rest with
  | some rest =>
    let x := 1.0 / 0.0
    some (.real (if negative then -x else x), rest)
  | none => (dropLead? "nan" rest).map fun rest => (.real (0.0 / 0.0), rest)

/-- A value that has no parts. -/
def scalar (cs : List Char) : Except Fault (Value × List Char) :=
  match dropLead? "true" cs, dropLead? "false" cs with
  | some rest, _ => .ok (.flag true, rest)
  | _, some rest => .ok (.flag false, rest)
  | none, none =>
    match moment? cs with
    | some r => r
    | none =>
      match basedNumber? cs with
      | some (n, rest) => .ok (.integer n, rest)
      | none =>
        match decimalNumber? cs with
        | some r => r
        | none =>
          match specialNumber? cs with
          | some r => .ok r
          | none => .error .malformed

/-! ## Tables -/

/-- How a table came to be: on the way to another one, by its header, or by dotted keys in the
    section with a number. -/
inductive Origin where
  | passing
  | header
  | dotted (part : Nat)
  deriving DecidableEq, Repr

/-- What a key stands for while a document is read: a value in one piece, a table, or an array
    of tables of which the last one is open. -/
inductive Node where
  | leaf (v : Value)
  | table (origin : Origin) (fields : List (String × Node))
  | tables (closed : List (List (String × Node))) (last : List (String × Node))

/-- The fields of a table that is being read. -/
abbrev Nodes := List (String × Node)

/-- Changes what a key stands for. A new key goes to the end. -/
def change (key : String) (f : Option Node → Option Node) : Nodes → Option Nodes
  | [] => (f none).map fun n => [(key, n)]
  | (k, n) :: fields =>
    if k = key then (f (some n)).map fun n => (k, n) :: fields
    else (change key f fields).map ((k, n) :: ·)

/-- Changes the table that is reached through some keys on the way to a header or its lines. -/
def inTable (f : Nodes → Option Nodes) : List String → Nodes → Option Nodes
  | [], fields => f fields
  | k :: ks, fields =>
    change k (fun
      | none => (inTable f ks []).map (.table .passing)
      | some (.leaf _) => none
      | some (.table origin fields) => (inTable f ks fields).map (.table origin)
      | some (.tables closed last) => (inTable f ks last).map (.tables closed)) fields

/-- Changes the table that is reached through the front parts of a dotted key. The tables on the
    way must not have headers, nor belong to another part of the document. -/
def inDotted (part : Nat) (f : Nodes → Option Nodes) : List String → Nodes → Option Nodes
  | [], fields => f fields
  | k :: ks, fields =>
    change k (fun
      | none => (inDotted part f ks []).map (.table (.dotted part))
      | some (.table origin fields) =>
        if origin = .passing ∨ origin = .dotted part then
          (inDotted part f ks fields).map (.table (.dotted part))
        else none
      | some _ => none) fields

/-- Adds a field that is not there yet. -/
def addField (key : String) (v : Value) : Nodes → Option Nodes :=
  change key fun
    | none => some (.leaf v)
    | some _ => none

/-- The front parts and the last part of a key. -/
def parted (key : List String) : List String × String := (key.dropLast, key.getLast?.getD "")

/-- Gives a key of the table `header` its value. -/
def assign (part : Nat) (header key : List String) (v : Value) (doc : Nodes) : Option Nodes :=
  let (front, last) := parted key
  inTable (inDotted part (addField last v) front) header doc

/-- Opens the table of a header. -/
def openTable (key : List String) (doc : Nodes) : Option Nodes :=
  let (front, last) := parted key
  inTable (change last fun
    | none => some (.table .header [])
    | some (.table .passing fields) => some (.table .header fields)
    | some _ => none) front doc

/-- Opens a new table at the end of an array of tables. -/
def openItem (key : List String) (doc : Nodes) : Option Nodes :=
  let (front, last) := parted key
  inTable (change last fun
    | none => some (.tables [] [])
    | some (.tables closed table) => some (.tables (closed ++ [table]) [])
    | some _ => none) front doc

mutual

/-- What a key stands for at the end. -/
def Node.value : Node → Value
  | .leaf v => v
  | .table _ fields => .table (nodeFields fields)
  | .tables closed last => .array (nodeTables closed ++ [.table (nodeFields last)])

/-- The fields of a table at the end. -/
def nodeFields : List (String × Node) → List (String × Value)
  | [] => []
  | (k, n) :: fields => (k, n.value) :: nodeFields fields

/-- Tables at the end. -/
def nodeTables : List (List (String × Node)) → List Value
  | [] => []
  | t :: ts => .table (nodeFields t) :: nodeTables ts

end

/-! ## Values -/

/-- An outcome, or a malformed document. -/
def orMalformed {α : Type} : Option α → Except Fault α
  | some a => .ok a
  | none => .error .malformed

mutual

/-- A value; `fuel` bounds the depth and the length of what it holds. -/
def value : Nat → List Char → Except Fault (Value × List Char)
  | 0, _ => .error .malformed
  | fuel + 1, '[' :: cs => do
    let cs ← skipLines (cs.length + 1) cs
    let (items, rest) ← items fuel cs
    return (.array items, rest)
  | fuel + 1, '\x7b' :: cs =>
    match skipGap cs with
    | '\x7d' :: rest => .ok (.table [], rest)
    | cs => do
      let (fields, rest) ← fields fuel [] cs
      return (.table (nodeFields fields), rest)
  | _ + 1, '"' :: cs => (string ('"' :: cs)).map fun (s, rest) => (.text (String.ofList s), rest)
  | _ + 1, '\'' :: cs =>
    (string ('\'' :: cs)).map fun (s, rest) => (.text (String.ofList s), rest)
  | _ + 1, cs => scalar cs

/-- The items of an array up to its end. -/
def items : Nat → List Char → Except Fault (List Value × List Char)
  | 0, _ => .error .malformed
  | _ + 1, ']' :: rest => .ok ([], rest)
  | fuel + 1, cs => do
    let (v, rest) ← value fuel cs
    match ← skipLines (rest.length + 1) rest with
    | ']' :: rest => return ([v], rest)
    | ',' :: rest => do
      let rest ← skipLines (rest.length + 1) rest
      let (vs, rest) ← items fuel rest
      return (v :: vs, rest)
    | _ => .error .malformed

/-- The fields of a table in braces up to its end, after those in `before`. -/
def fields : Nat → Nodes → List Char → Except Fault (Nodes × List Char)
  | 0, _, _ => .error .malformed
  | fuel + 1, before, cs => do
    let (k, rest) ← key cs
    match rest with
    | '=' :: rest => do
      let (v, rest) ← value fuel (skipGap rest)
      let before ← orMalformed (assign 0 [] k v before)
      match skipGap rest with
      | '\x7d' :: rest => return (before, rest)
      | ',' :: rest => fields fuel before (skipGap rest)
      | _ => .error .malformed
    | _ => .error .malformed

end

/-! ## Documents -/

/-- A document as far as it was read: its tables, the header that its lines belong to, and the
    number of headers so far. -/
structure Document where
  nodes : Nodes := []
  header : List String := []
  part : Nat := 0

/-- The key of a header and what follows its closing brackets. -/
def headerKey (closing : String) (cs : List Char) : Except Fault (List String × List Char) := do
  let (k, rest) ← key (skipGap cs)
  return (k, ← orMalformed (dropLead? closing rest))

/-- Reads one line that is not empty, without its end. -/
def line (doc : Document) (cs : List Char) : Except Fault (Document × List Char) :=
  match cs with
  | '[' :: '[' :: cs => do
    let (k, rest) ← headerKey "]]" cs
    let nodes ← orMalformed (openItem k doc.nodes)
    return ({ nodes, header := k, part := doc.part + 1 }, rest)
  | '[' :: cs => do
    let (k, rest) ← headerKey "]" cs
    let nodes ← orMalformed (openTable k doc.nodes)
    return ({ nodes, header := k, part := doc.part + 1 }, rest)
  | '#' :: _ => .ok (doc, cs)
  | cs => do
    let (k, rest) ← key cs
    match rest with
    | '=' :: rest => do
      let (v, rest) ← value (2 * rest.length + 2) (skipGap rest)
      let nodes ← orMalformed (assign doc.part doc.header k v doc.nodes)
      return ({ doc with nodes }, rest)
    | _ => .error .malformed

/-- Reads lines; `fuel` bounds their number. -/
def linesFrom : Nat → Document → List Char → Except Fault Document
  | 0, _, _ => .error .malformed
  | fuel + 1, doc, cs =>
    match skipGap cs with
    | [] => .ok doc
    | '\n' :: cs => linesFrom fuel doc cs
    | cs => do
      let (doc, rest) ← line doc cs
      match ← skipComment (skipGap rest) with
      | [] => return doc
      | '\n' :: rest => linesFrom fuel doc rest
      | _ => .error .malformed

/-- A text with plain line breaks. -/
def unified : List Char → List Char
  | '\r' :: '\n' :: cs => '\n' :: unified cs
  | c :: cs => c :: unified cs
  | [] => []

/-- The fields of a document. -/
def read (text : String) : Except Fault Fields := do
  let cs := unified text.toList
  let doc ← linesFrom (cs.length + 1) {} cs
  return nodeFields doc.nodes

end DiffGauge.Settings.Toml
