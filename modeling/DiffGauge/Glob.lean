import DiffGauge.Text.Pieces

/-!
# File name patterns

A pattern matches a whole text: `*` stands for any text, `?` for any character, and brackets
for one character of a set. Sets hold characters and ranges; `!` at the front takes the
complement, a closing bracket at the front is a character of the set, and an opening bracket
that nothing closes is itself.
-/

namespace DiffGauge.Glob

/-- A part of a pattern: any text, or one character out of a set. -/
inductive Part where
  | anything
  | one (negated : Bool) (chars : List Char) (ranges : List (Char × Char))
  deriving DecidableEq, Repr

/-- The character is in the set of the part. -/
def Part.has (negated : Bool) (chars : List Char) (ranges : List (Char × Char)) (c : Char) :
    Bool :=
  negated != (chars.contains c || ranges.any fun (low, high) => low ≤ c && c ≤ high)

/-- What stands between the brackets, and what follows them. The first character after the
    opening bracket and its `!` never closes them. -/
def bracketed? (cs : List Char) : Option (List Char × List Char) :=
  let (bang, cs) := match cs with
    | '!' :: cs => (['!'], cs)
    | cs => ([], cs)
  let (first, cs) := match cs with
    | ']' :: cs => ([']'], cs)
    | cs => ([], cs)
  match cs.span (· != ']') with
  | (_, []) => none
  | (inner, _ :: rest) => some (bang ++ first ++ inner, rest)

/-- The text of a set cut at the hyphens that make ranges: the first `skip` characters hold no
    such hyphen, and neither does the character after one. -/
def chunksFrom (skip : Nat) (chunk : List Char) : List Char → List (List Char)
  | [] => [chunk]
  | c :: cs =>
    match skip with
    | skip + 1 => chunksFrom skip (chunk ++ [c]) cs
    | 0 => if c = '-' then chunk :: chunksFrom 2 [] cs else chunksFrom 0 (chunk ++ [c]) cs

/-- The chunks of a set. A hyphen at the end makes no range. -/
def chunks (cs : List Char) : List (List Char) :=
  let skip := match cs with
    | '!' :: _ => 2
    | _ => 1
  let all := chunksFrom skip [] cs
  match all.reverse with
  | [] :: last :: before => (before.reverse) ++ [last ++ ['-']]
  | _ => all

/-- The chunks with the ranges removed whose ends are out of order, the last one first. -/
def withoutEmptyRanges : List (List Char) → List (List Char)
  | [] => []
  | a :: rest =>
    match withoutEmptyRanges rest with
    | [] => [a]
    | b :: rest =>
      match a.getLast?, b with
      | some start, stop :: after =>
        if stop < start then (a.dropLast ++ after) :: rest else a :: b :: rest
      | _, _ => a :: b :: rest

/-- The ranges between neighbouring chunks. -/
def rangesBetween : List (List Char) → List (Char × Char)
  | a :: b :: rest =>
    match a.getLast?, b.head? with
    | some low, some high => (low, high) :: rangesBetween (b :: rest)
    | _, _ => rangesBetween (b :: rest)
  | _ => []

/-- The part that a text between brackets denotes. -/
def setPart (inner : List Char) : Part :=
  match withoutEmptyRanges (chunks inner) with
  | ('!' :: first) :: rest =>
    .one true ((first :: rest).flatten) (rangesBetween (first :: rest))
  | cs => .one false cs.flatten (rangesBetween cs)

/-- Reads a pattern; `fuel` bounds the number of its parts. -/
def readFrom : Nat → List Char → List Part
  | 0, _ => []
  | _ + 1, [] => []
  | fuel + 1, '*' :: cs => .anything :: readFrom fuel cs
  | fuel + 1, '?' :: cs => .one true [] [] :: readFrom fuel cs
  | fuel + 1, '[' :: cs =>
    match bracketed? cs with
    | some (inner, rest) => setPart inner :: readFrom fuel rest
    | none => .one false ['['] [] :: readFrom fuel cs
  | fuel + 1, c :: cs => .one false [c] [] :: readFrom fuel cs

/-- Reads a pattern; it has no more parts than characters. -/
def read (cs : List Char) : List Part := readFrom cs.length cs

/-- What may be left of some texts after the pattern has matched their beginnings. The texts
    are ends of one text, the longest first. -/
def rests : List Part → List (List Char) → List (List Char)
  | [], texts => texts
  | .anything :: parts, texts =>
    rests parts (match texts with
      | [] => []
      | longest :: _ => Text.suffixes longest)
  | .one negated chars ranges :: parts, texts =>
    rests parts (texts.filterMap fun text =>
      match text with
      | [] => none
      | c :: cs => if Part.has negated chars ranges c then some cs else none)

/-- The pattern matches the whole text. -/
def matchesText (pattern text : String) : Bool :=
  (rests (read pattern.toList) [text.toList]).contains []

end DiffGauge.Glob
