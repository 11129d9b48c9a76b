import DiffGauge.Text.Identifier
import DiffGauge.Text.Pieces
import DiffGauge.Text.Utf8

/-!
# Lexemes of Rust

A source is cut into lexemes: words, numbers, string and character literals, and punctuation,
each as long as it can be. A lexeme knows its bytes and the comments before it. Text that begins
no lexeme, and literals and comments that do not end, make the source unreadable.
-/

namespace DiffGauge.Rust

open Text

/-- What a lexeme is. -/
inductive LexemeKind where
  | word
  | number
  | text
  | character
  | mark
  deriving DecidableEq, Repr

/-- A comment with its bytes. -/
structure Comment where
  isBlock : Bool
  start : Nat
  stop : Nat
  deriving DecidableEq, Repr

/-- A lexeme with its bytes and the comments before it. -/
structure Lexeme where
  kind : LexemeKind
  text : String
  start : Nat
  stop : Nat
  comments : List Comment := []
  deriving DecidableEq, Repr

/-- Characters taken from the front of a text, and what follows them. -/
abbrev Taken := List Char × List Char

/-- What was taken, with more in front. -/
def ahead (front : List Char) (t : Taken) : Taken := (front ++ t.1, t.2)

/-! ## Comments -/

/-- The body of a block comment up to its end. Comments nest; `depth` are still open inside this
    one. -/
def blockBody : Nat → List Char → Option Taken
  | _, [] => none
  | depth, '*' :: '/' :: cs =>
    match depth with
    | 0 => some (['*', '/'], cs)
    | depth + 1 => (blockBody depth cs).map (ahead ['*', '/'])
  | depth, '/' :: '*' :: cs => (blockBody (depth + 1) cs).map (ahead ['/', '*'])
  | depth, c :: cs => (blockBody depth cs).map (ahead [c])

/-- A line comment after its two slashes. A comment that documents something has its line
    ending. -/
def lineBody (cs : List Char) : Taken :=
  let (body, rest) := cs.span (· != '\n')
  let documents := match body with
    | '/' :: '/' :: _ => false
    | '/' :: _ => true
    | '!' :: _ => true
    | _ => false
  match rest with
  | '\n' :: below => if documents then (body ++ ['\n'], below) else (body, rest)
  | _ => (body, rest)

/-! ## Literals -/

/-- A hexadecimal digit in either case. -/
def isHex (c : Char) : Bool :=
  c.isDigit || ('a' ≤ c && c ≤ 'f') || ('A' ≤ c && c ≤ 'F')

/-- What follows the backslash of an escape: two hexadecimal digits after `x`, four of them or
    some in braces after `u`, any other character. -/
def escapeBody? : List Char → Option Taken
  | 'x' :: a :: b :: cs => if isHex a && isHex b then some (['x', a, b], cs) else none
  | 'u' :: '\x7b' :: cs =>
    match cs.span isHex with
    | (d :: ds, '\x7d' :: rest) => some ('u' :: '\x7b' :: d :: ds ++ ['\x7d'], rest)
    | _ => none
  | 'u' :: a :: b :: c :: d :: cs =>
    if [a, b, c, d].all isHex then some (['u', a, b, c, d], cs) else none
  | 'x' :: _ => none
  | 'u' :: _ => none
  | c :: cs => some ([c], cs)
  | [] => none

/-- A string after its opening quote, up to and with the closing one; `fuel` bounds the number of
    its pieces. -/
def stringBody : Nat → List Char → Option Taken
  | 0, _ => none
  | _ + 1, [] => none
  | _ + 1, '"' :: cs => some (['"'], cs)
  | fuel + 1, '\\' :: cs => do
    let (escape, rest) ← escapeBody? cs
    (stringBody fuel rest).map (ahead ('\\' :: escape))
  | fuel + 1, c :: cs => (stringBody fuel cs).map (ahead [c])

/-- A raw string after its opening quote, up to a quote with as many number signs as there are
    before the opening one. -/
def rawBody (signs : List Char) : List Char → Option Taken
  | [] => none
  | c :: cs =>
    match if c = '"' then after? signs cs else none with
    | some rest => some ('"' :: signs, rest)
    | none => (rawBody signs cs).map (ahead [c])

/-- A raw string after the letters before it. -/
def rawString? (cs : List Char) : Option Taken :=
  match cs.span (· == '#') with
  | (signs, '"' :: rest) => (rawBody signs rest).map (ahead (signs ++ ['"']))
  | _ => none

/-- A string of any form, with the letters before it. -/
def string? (cs : List Char) : Option (Option Taken) :=
  let plain (letters rest : List Char) : Option Taken :=
    (stringBody (rest.length + 1) rest).map (ahead (letters ++ ['"']))
  let raw (letters rest : List Char) : Option Taken :=
    (rawString? rest).map (ahead letters)
  match cs with
  | '"' :: rest => some (plain [] rest)
  | 'b' :: '"' :: rest => some (plain ['b'] rest)
  | 'c' :: '"' :: rest => some (plain ['c'] rest)
  | 'r' :: '"' :: rest => some (raw ['r'] ('"' :: rest))
  | 'b' :: 'r' :: '"' :: rest => some (raw ['b', 'r'] ('"' :: rest))
  | 'c' :: 'r' :: '"' :: rest => some (raw ['c', 'r'] ('"' :: rest))
  | 'b' :: 'r' :: '#' :: rest => some (raw ['b', 'r'] ('#' :: rest))
  | 'c' :: 'r' :: '#' :: rest => some (raw ['c', 'r'] ('#' :: rest))
  | 'r' :: '#' :: rest => (rawString? ('#' :: rest)).map fun t => some (ahead ['r'] t)
  | _ => none

/-- A character literal after its opening quote. It may be empty. -/
def characterBody? : List Char → Option Taken
  | '\'' :: cs => some (['\''], cs)
  | '\\' :: cs => do
    let (escape, rest) ← escapeBody? cs
    match rest with
    | '\'' :: rest => some ('\\' :: escape ++ ['\''], rest)
    | _ => none
  | c :: '\'' :: cs => some ([c, '\''], cs)
  | _ => none

/-- A character literal. -/
def character? : List Char → Option Taken
  | '\'' :: cs => (characterBody? cs).map (ahead ['\''])
  | 'b' :: '\'' :: cs => (characterBody? cs).map (ahead ['b', '\''])
  | _ => none

/-! ## Numbers -/

/-- A digit or an underscore. -/
def isGrouped (c : Char) : Bool := c.isDigit || c == '_'

/-- The types that may end a number. -/
def numberTypes : List String :=
  ["u8", "i8", "u16", "i16", "u32", "i32", "u64", "i64", "u128", "i128", "isize", "usize",
   "f32", "f64"]

/-- A number with its type, if one follows. -/
def withNumberType (t : Taken) : Taken :=
  match numberTypes.filterMap fun ty => (dropLead? ty t.2).map fun rest => (ty.toList, rest) with
  | [] => t
  | (ty, rest) :: _ => (t.1 ++ ty, rest)

/-- A whole number in some base. -/
def wholeNumber (cs : List Char) : Taken :=
  let based (lead : List Char) (p : Char → Bool) (rest : List Char) : Taken :=
    match rest.span fun c => p c || c == '_' with
    | ([], rest) => (['0'], lead ++ rest)
    | (digits, rest) => ('0' :: lead ++ digits, rest)
  withNumberType <| match cs with
    | '0' :: 'x' :: rest => based ['x'] isHex rest
    | '0' :: 'b' :: rest => based ['b'] (fun c => c == '0' || c == '1') rest
    | '0' :: 'o' :: rest => based ['o'] (fun c => '0' ≤ c && c ≤ '7') rest
    | cs => cs.span isGrouped

/-- The exponent at the front, if it has a digit. -/
def exponent : List Char → Taken
  | [] => ([], [])
  | e :: cs =>
    if e == 'e' || e == 'E' then
      let (sign, digits) := match cs with
        | '+' :: ds => (['+'], ds)
        | '-' :: ds => (['-'], ds)
        | ds => ([], ds)
      match digits.span isGrouped with
      | ([], _) => ([], e :: cs)
      | (ds, rest) => (e :: sign ++ ds, rest)
    else ([], e :: cs)

/-- A number with a point, and with the letter and the digits of a type if they follow. -/
def withRealType (t : Taken) : Taken :=
  match t.2 with
  | c :: rest =>
    match if ['u', 'i', 'f'].contains c then rest.span Char.isDigit else ([], rest) with
    | ([], _) => t
    | (digits, rest) => (t.1 ++ c :: digits, rest)
  | [] => t

/-- A number with a point or an exponent. The point is not one before a letter or another
    point. -/
def realNumber? (cs : List Char) : Option Taken :=
  let (whole, rest) := cs.span isGrouped
  match rest with
  | '.' :: after =>
    let method := match after with
      | c :: _ => isIdentifierStart c && c != '_' || c == '.'
      | [] => false
    if method then none
    else
      let (part, rest) := after.span isGrouped
      let (power, rest) := exponent rest
      some (withRealType (whole ++ '.' :: part ++ power, rest))
  | rest =>
    match exponent rest with
    | ([], _) => none
    | (power, rest) => some (withRealType (whole ++ power, rest))

/-- A number. After a point, where it names a field, it is a whole one. -/
def number (afterPoint : Bool) (cs : List Char) : Taken :=
  if afterPoint then wholeNumber cs else (realNumber? cs).getD (wholeNumber cs)

/-! ## Words and marks -/

/-- A word, raw or not. -/
def word? : List Char → Option Taken
  | 'r' :: '#' :: c :: cs =>
    if isIdentifierStart c then some (ahead ['r', '#', c] (cs.span isIdentifierPart))
    else some (['r'], '#' :: c :: cs)
  | c :: cs =>
    if isIdentifierStart c then some (ahead [c] (cs.span isIdentifierPart)) else none
  | [] => none

/-- The punctuation of more than one character, longer before shorter. -/
def longMarks : List String :=
  ["<<=", ">>=", "...", "..=", "&&", "||", "<<", ">>", "+=", "-=", "*=", "/=", "%=", "^=", "&=",
   "|=", "==", "!=", ">=", "<=", "..", "::", "->", "=>"]

/-- The characters that are punctuation on their own. -/
def shortMarks : String := "+-*/%^!&|=<>@.,;:#?$()[]\x7b\x7d'"

/-- Punctuation. -/
def mark? (cs : List Char) : Option Taken :=
  match longMarks.filterMap fun m => (dropLead? m cs).map fun rest => (m.toList, rest) with
  | t :: _ => some t
  | [] =>
    match cs with
    | c :: cs => if shortMarks.toList.contains c then some ([c], cs) else none
    | [] => none

/-! ## The whole source -/

/-- The lexeme at the front. -/
def lexeme? (afterPoint : Bool) (cs : List Char) : Option (LexemeKind × Taken) :=
  match string? cs with
  | some t => t.map fun t => (.text, t)
  | none =>
    match character? cs with
    | some t => some (.character, t)
    | none =>
      if (cs.head?.map Char.isDigit).getD false then some (.number, number afterPoint cs)
      else
        match word? cs with
        | some t => some (.word, t)
        | none => (mark? cs).map fun t => (.mark, t)

/-- The number of bytes of some characters. -/
def byteLength (cs : List Char) : Nat := cs.foldl (fun n c => n + c.utf8Size) 0

/-- White space between lexemes. -/
def isSpace (c : Char) : Bool := c == ' ' || ('\t' ≤ c && c ≤ '\r')

/-- The lexemes of a source, and the comments after the last of them. -/
structure Lexemes where
  lexemes : List Lexeme
  trailing : List Comment
  deriving DecidableEq, Repr

/-- Reads lexemes; `fuel` bounds their number with that of the spaces and comments between them,
    `comments` are those since the last lexeme, the latest first. -/
def lexemesFrom : Nat → Nat → Bool → List Comment → List Char → Option Lexemes
  | 0, _, _, _, _ => none
  | _ + 1, _, _, comments, [] => some ⟨[], comments.reverse⟩
  | fuel + 1, offset, afterPoint, comments, '/' :: '/' :: cs =>
    let (body, rest) := lineBody cs
    let stop := offset + 2 + byteLength body
    lexemesFrom fuel stop afterPoint (⟨false, offset, stop⟩ :: comments) rest
  | fuel + 1, offset, afterPoint, comments, '/' :: '*' :: cs => do
    let (body, rest) ← blockBody 0 cs
    let stop := offset + 2 + byteLength body
    lexemesFrom fuel stop afterPoint (⟨true, offset, stop⟩ :: comments) rest
  | fuel + 1, offset, afterPoint, comments, c :: cs =>
    if isSpace c then lexemesFrom fuel (offset + c.utf8Size) afterPoint comments cs
    else do
      let (kind, text, rest) ← lexeme? afterPoint (c :: cs)
      let stop := offset + byteLength text
      let more ← lexemesFrom fuel stop (kind == .mark && text == ['.']) [] rest
      return { more with
        lexemes :=
          { kind
            text := String.ofList text
            start := offset
            stop
            comments := comments.reverse } :: more.lexemes }

/-- The first line, if it names an interpreter; the rest of a source otherwise. A line that
    begins with an attribute names none. -/
def interpreterLine (cs : List Char) : Taken :=
  match cs with
  | '#' :: '!' :: rest =>
    if rest.head? = some '[' then ([], cs)
    else
      match rest.span (· != '\n') with
      | (line, '\n' :: below) => ('#' :: '!' :: line ++ ['\n'], below)
      | _ => ([], cs)
  | _ => ([], cs)

/-- The lexemes of a text. A byte order mark in front and a line that names an interpreter are
    passed over. -/
def Lexemes.read? (cs : List Char) : Option Lexemes :=
  let (mark, cs) := match cs with
    | '\uFEFF' :: rest => (['\uFEFF'], rest)
    | cs => ([], cs)
  let (line, cs) := interpreterLine cs
  lexemesFrom (cs.length + 1) (byteLength mark + byteLength line) false [] cs

end DiffGauge.Rust
