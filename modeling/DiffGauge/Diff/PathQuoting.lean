import DiffGauge.Text.Utf8

/-!
# Quoted paths

A path with unusual bytes is written in double quotes: a quote and a backslash after a
backslash, seven control bytes by a letter, the other control bytes and the bytes outside ASCII
by three octal digits. `unquote` reads such a path and leaves every other text as it is.
-/

namespace DiffGauge.Diff.PathQuoting

open Text

/-- The bytes that a letter stands for after a backslash. -/
def letters : List (Char × UInt8) :=
  [('a', 7), ('b', 8), ('t', 9), ('n', 10), ('v', 11), ('f', 12), ('r', 13), ('"', 34),
   ('\\', 92)]

/-- The value of an octal digit. -/
def octalDigit? (c : Char) : Option Nat :=
  if '0' ≤ c && c ≤ '7' then some (c.toNat - 48) else none

/-- The low byte of a number in three octal digits. -/
def octalByte? (x y z : Char) : Option UInt8 := do
  let x ← octalDigit? x
  let y ← octalDigit? y
  let z ← octalDigit? z
  return UInt8.ofNat (x * 64 + y * 8 + z)

/-- The bytes of a character after a backslash. A character without a meaning stands for
    itself. -/
def escaped (c : Char) : List UInt8 :=
  match letters.lookup c with
  | some b => [b]
  | none => Utf8.encode [c]

/-- The bytes of the text between the quotes. A backslash at the very end stands for itself. -/
def unescape : List Char → List UInt8
  | [] => []
  | '\\' :: x :: y :: z :: cs =>
    match octalByte? x y z with
    | some b => b :: unescape cs
    | none => escaped x ++ unescape (y :: z :: cs)
  | '\\' :: x :: cs => escaped x ++ unescape cs
  | c :: cs => Utf8.encode [c] ++ unescape cs

/-- The text between the quotes of a text that begins and ends with one. -/
def inside? : List Char → Option (List Char)
  | '"' :: cs => if cs.getLast? = some '"' then some cs.dropLast else none
  | _ => none

/-- The path that a text writes. -/
def unquote (cs : List Char) : List Char :=
  match inside? cs with
  | some inner => Utf8.decode (unescape inner)
  | none => cs

/-- A byte as it is written between quotes. -/
def quotedByte (b : UInt8) : List Char :=
  match letters.find? fun (_, v) => v == b with
  | some (c, _) => ['\\', c]
  | none =>
    if 32 ≤ b && b < 127 then [Char.ofNat b.toNat]
    else
      '\\' :: [b.toNat / 64, b.toNat / 8 % 8, b.toNat % 8].map fun d => Char.ofNat (48 + d)

/-- A path in quotes. -/
def quote (cs : List Char) : List Char :=
  '"' :: (Utf8.encode cs).flatMap quotedByte ++ ['"']

/-- A path that cannot be written without quotes. -/
def needsQuotes (cs : List Char) : Bool :=
  (Utf8.encode cs).any fun b => b < 32 || 127 ≤ b || b == 34 || b == 92

end DiffGauge.Diff.PathQuoting
