import DiffGauge.Text.Digit
import DiffGauge.Text.Pieces
import DiffGauge.Text.Quoted

/-!
# Texts in YAML

A text is written plain if it then reads back as the same text, else in single quotes, and in
double quotes if it holds anything but printable ASCII characters. Texts are folded at blanks
beyond the width of a line.
-/

namespace DiffGauge.Report.Yaml

open Text

/-- The width beyond which texts are folded. -/
def foldWidth : Nat := 80

/-- A line break with the blanks that follow it. -/
def lineBreak (indent : Nat) : List Char := '\n' :: List.replicate indent ' '

/-! ## Texts that read back as something else -/

/-- The words that read back as a flag or as nothing, and the signs that are values of their
    own. -/
def reservedWords : List String :=
  ["yes", "Yes", "YES", "no", "No", "NO", "true", "True", "TRUE", "false", "False", "FALSE",
   "on", "On", "ON", "off", "Off", "OFF", "~", "null", "Null", "NULL", "", "<<", "=",
   ".inf", ".Inf", ".INF", "+.inf", "+.Inf", "+.INF", "-.inf", "-.Inf", "-.INF",
   ".nan", ".NaN", ".NAN"]

/-- A digit or an underscore. -/
def isDigitOrLine (c : Char) : Bool := c.isDigit || c == '_'

/-- A text without its sign. -/
def unsigned : List Char → List Char
  | '-' :: cs => cs
  | '+' :: cs => cs
  | cs => cs

/-- One digit or more up to the end. -/
def areDigits (cs : List Char) : Bool := !cs.isEmpty && cs.all Char.isDigit

/-- Nothing, or an exponent with a sign. -/
def isExponentOrNothing : List Char → Bool
  | [] => true
  | 'e' :: s :: ds => (s == '-' || s == '+') && areDigits ds
  | 'E' :: s :: ds => (s == '-' || s == '+') && areDigits ds
  | _ => false

/-- Groups of two digits below sixty after colons, at least one: what follows them. -/
def sixties? : List Char → Option (List Char)
  | ':' :: a :: b :: cs =>
    if b.isDigit then
      if '0' ≤ a && a ≤ '5' then some ((sixties? cs).getD cs) else none
    else if a.isDigit then some ((sixties? (b :: cs)).getD (b :: cs)) else none
  | [':', a] => if a.isDigit then some [] else none
  | _ => none

/-- The text of a number that is not whole. -/
def isReal (cs : List Char) : Bool :=
  match unsigned cs with
  | c :: rest =>
    c.isDigit &&
      (match (c :: rest).span isDigitOrLine with
        | (_, '.' :: part) =>
          isExponentOrNothing (part.dropWhile isDigitOrLine)
        | (_, after) =>
          match sixties? after with
          | some ('.' :: part) => part.all isDigitOrLine
          | _ => false)
  | [] => false

/-- The text of a number that begins with a point. -/
def isPointReal : List Char → Bool
  | '.' :: c :: rest => c.isDigit && isExponentOrNothing (rest.dropWhile isDigitOrLine)
  | _ => false

/-- A hexadecimal digit in either case. -/
def isHexDigit (c : Char) : Bool :=
  c.isDigit || ('a' ≤ c && c ≤ 'f') || ('A' ≤ c && c ≤ 'F')

/-- The text of a whole number. -/
def isInteger (cs : List Char) : Bool :=
  match unsigned cs with
  | '0' :: 'b' :: ds => !ds.isEmpty && ds.all fun c => c == '0' || c == '1' || c == '_'
  | '0' :: 'x' :: ds => !ds.isEmpty && ds.all fun c => c == '_' || isHexDigit c
  | '0' :: ds => ds.all fun c => ('0' ≤ c && c ≤ '7') || c == '_'
  | c :: ds =>
    c.isDigit &&
      (match ds.dropWhile isDigitOrLine with
        | [] => true
        | after => sixties? after == some [])
  | [] => false

/-- So many digits at the front of a text: what follows them. -/
def afterDigits? : Nat → List Char → Option (List Char)
  | 0, cs => some cs
  | n + 1, c :: cs => if c.isDigit then afterDigits? n cs else none
  | _ + 1, [] => none

/-- One digit or two at the front of a text: what follows them. -/
def afterOneOrTwo? (cs : List Char) : Option (List Char) :=
  (afterDigits? 2 cs).orElse fun _ => afterDigits? 1 cs

/-- A blank inside a line. -/
def isGap (c : Char) : Bool := c == ' ' || c == '\t'

/-- Nothing, or an offset from universal time, with blanks before it. -/
def isZoneOrNothing (cs : List Char) : Bool :=
  match cs.dropWhile isGap with
  | [] => cs.isEmpty
  | ['Z'] => true
  | s :: rest =>
    (s == '-' || s == '+') &&
      (match afterOneOrTwo? rest with
        | some [] => true
        | some (':' :: rest) => afterDigits? 2 rest == some []
        | _ => false)

/-- The time of day after a date, with the offset after it. -/
def isTimeOfDay (cs : List Char) : Bool :=
  let rest? : Option (List Char) := do
    let rest ← afterOneOrTwo? cs
    let rest ← afterDigits? 2 (← dropLead? ":" rest)
    afterDigits? 2 (← dropLead? ":" rest)
  match rest? with
  | some ('.' :: rest) => isZoneOrNothing (rest.dropWhile Char.isDigit)
  | some rest => isZoneOrNothing rest
  | none => false

/-- The text of a date, or of a date and a time of day. -/
def isMoment (cs : List Char) : Bool :=
  let day? (f : List Char → Option (List Char)) : Option (List Char) := do
    let rest ← afterDigits? 4 cs
    let rest ← f (← dropLead? "-" rest)
    f (← dropLead? "-" rest)
  day? (afterDigits? 2) == some [] ||
    (match day? afterOneOrTwo? with
      | some (c :: rest) =>
        if c == 'T' || c == 't' then isTimeOfDay rest
        else isGap c && isTimeOfDay (rest.dropWhile isGap)
      | _ => false)

/-- The text reads back as something that is no text. -/
def readsAsOther (s : String) : Bool :=
  let cs := s.toList
  reservedWords.contains s || isReal cs || isPointReal cs || isInteger cs || isMoment cs

/-! ## Forms of a text -/

/-- A printable ASCII character or a line break. -/
def isOrdinary (c : Char) : Bool := c == '\n' || (' ' ≤ c && c ≤ '~')

/-- One of two neighbours is `a` and the next is `b`. -/
def hasNeighbours (a b : Char) : List Char → Bool
  | c :: d :: cs => (c == a && d == b) || hasNeighbours a b (d :: cs)
  | _ => false

/-- The characters that a plain text cannot begin with. -/
def leadIndicators : List Char :=
  ['#', ',', '[', ']', '\x7b', '\x7d', '&', '*', '!', '|', '>', '\'', '"', '%', '@',
   Char.ofNat 0x60]

/-- The end of a text, or a blank. -/
def isAtGap : List Char → Bool
  | [] => true
  | c :: _ => c == ' '

/-- The text begins like something that is not a text. -/
def hasLeadIndicator (cs : List Char) : Bool :=
  hasLead "---" cs || hasLead "..." cs ||
    match cs with
    | c :: rest =>
      leadIndicators.contains c || ((c == '?' || c == ':' || c == '-') && isAtGap rest)
    | [] => false

/-- A colon before a blank or at the end, or a number sign after a blank. -/
def hasInnerIndicator : List Char → Bool
  | c :: d :: cs =>
    (d == ':' && isAtGap cs) || (c == ' ' && d == '#') || hasInnerIndicator (d :: cs)
  | _ => false

/-- The text has only ordinary characters, and no blank at either side of a line break. -/
def allowsSingle (cs : List Char) : Bool :=
  cs.all isOrdinary && !hasNeighbours ' ' '\n' cs && !hasNeighbours '\n' ' ' cs

/-- The text can stand without quotes: on one line, without blanks around it, and without signs
    that mean something else. -/
def allowsPlain (s : String) : Bool :=
  let cs := s.toList
  allowsSingle cs && !cs.contains '\n' && cs.head? != some ' ' && cs.getLast? != some ' ' &&
    !hasLeadIndicator cs && !hasInnerIndicator cs && !readsAsOther s

/-! ## Writing -/

/-- A stretch of a text: a word, blanks, or line breaks. -/
inductive Stretch where
  | word (cs : List Char)
  | blanks (n : Nat)
  | breaks (n : Nat)
  deriving DecidableEq, Repr

/-- A text in front of which a character stands, in stretches. -/
def Stretch.cons (c : Char) (ss : List Stretch) : List Stretch :=
  if c = ' ' then
    match ss with
    | .blanks n :: ss => .blanks (n + 1) :: ss
    | ss => .blanks 1 :: ss
  else if c = '\n' then
    match ss with
    | .breaks n :: ss => .breaks (n + 1) :: ss
    | ss => .breaks 1 :: ss
  else
    match ss with
    | .word cs :: ss => .word (c :: cs) :: ss
    | ss => .word [c] :: ss

/-- A text in stretches. -/
def stretches (cs : List Char) : List Stretch := cs.foldr Stretch.cons []

/-- Stretches from a column on. A single blank beyond the width becomes a line break, except at
    the start and at the end of the text; a line break is written as an empty line. -/
def folded (indent : Nat) : Bool → Nat → List Stretch → List Char
  | _, _, [] => []
  | _, column, .word cs :: ss => cs ++ folded indent false (column + cs.length) ss
  | isFirst, column, .blanks n :: ss =>
    if n = 1 && foldWidth < column && !isFirst && !ss.isEmpty then
      lineBreak indent ++ folded indent false indent ss
    else List.replicate n ' ' ++ folded indent false (column + n) ss
  | _, _, .breaks n :: ss =>
    List.replicate n '\n' ++ lineBreak indent ++ folded indent false indent ss

/-- A text without quotes. -/
def plainText (indent column : Nat) (cs : List Char) : List Char :=
  folded indent true column (stretches cs)

/-- A text with every single quote written twice. -/
def doubledQuotes (cs : List Char) : List Char :=
  cs.flatMap fun c => if c = '\'' then ['\'', '\''] else [c]

/-- A text in single quotes. -/
def singleQuoted (indent column : Nat) (cs : List Char) : List Char :=
  '\'' :: folded indent true (column + 1) (stretches (doubledQuotes cs)) ++ ['\'']

/-- The characters that have a letter of their own after a backslash. -/
def escapeLetters : List (Nat × Char) :=
  [(0x00, '0'), (0x07, 'a'), (0x08, 'b'), (0x09, 't'), (0x0A, 'n'), (0x0B, 'v'), (0x0C, 'f'),
   (0x0D, 'r'), (0x1B, 'e'), (0x22, '"'), (0x5C, '\\'), (0x85, 'N'), (0xA0, '_'),
   (0x2028, 'L'), (0x2029, 'P')]

/-- A number in so many upper-case hexadecimal digits. -/
def upperHex (width n : Nat) : List Char := (hexText width n).map Char.toUpper

/-- A character as an escape. -/
def escape (c : Char) : List Char :=
  let n := c.toNat
  '\\' :: match escapeLetters.lookup n with
    | some letter => [letter]
    | none =>
      if n < 0x100 then 'x' :: upperHex 2 n
      else if n < 0x10000 then 'u' :: upperHex 4 n
      else 'U' :: upperHex 8 n

/-- A character that is written as an escape in double quotes. -/
def isEscaped (c : Char) : Bool := c == '"' || c == '\\' || c < ' ' || '~' < c

/-- A line break inside double quotes. A blank right after it is marked. -/
def quotedBreak (indent : Nat) (marked : Bool) : List Char :=
  '\\' :: lineBreak indent ++ (if marked then ['\\'] else [])

/-- The rest of a text in double quotes: `left` characters are still to come, `isFirst` tells
    that none was written, `pending` were written since the last escape or line break, and
    `column` is where the first of those stands. -/
def doubleFrom (indent : Nat) (isFirst : Bool) (pending column : Nat) : List Char → List Char
  | [] => []
  | c :: cs =>
    let canBreak := !isFirst && !cs.isEmpty
    if isEscaped c then
      let e := escape c
      let column := column + pending + e.length
      if canBreak && foldWidth + 1 < column then
        let marked := cs.head? == some ' '
        e ++ quotedBreak indent marked
          ++ doubleFrom indent false 0 (indent + if marked then 1 else 0) cs
      else e ++ doubleFrom indent false 0 column cs
    else if canBreak && (c == ' ' || pending == 0) && foldWidth < column + pending then
      let marked := c == ' '
      quotedBreak indent marked
        ++ c :: doubleFrom indent false 1 (indent + if marked then 1 else 0) cs
    else c :: doubleFrom indent false (pending + 1) column cs

/-- A text in double quotes. -/
def doubleQuoted (indent column : Nat) (cs : List Char) : List Char :=
  '"' :: doubleFrom indent true 0 (column + 1) cs ++ ['"']

/-- A text from column `column` on, folded to lines that begin at column `indent`. -/
def scalar (indent column : Nat) (s : String) : String :=
  let cs := s.toList
  String.ofList (
    if allowsPlain s then plainText indent column cs
    else if allowsSingle cs then singleQuoted indent column cs
    else doubleQuoted indent column cs)

end DiffGauge.Report.Yaml
