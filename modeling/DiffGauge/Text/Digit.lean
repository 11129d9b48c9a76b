import DiffGauge.Text.Blank

/-!
# Decimal digits and whole numbers

A decimal digit is any character with the Unicode decimal property, of whatever script;
its value is its place in its block of ten. Whole numbers are read from such digits and
written with ASCII ones.
-/

namespace DiffGauge.Text

/-- The code points of the zeros; the digits one to nine follow each of them. -/
def digitZeros : List Nat :=
  [0x30, 0x660, 0x6F0, 0x7C0, 0x966, 0x9E6, 0xA66, 0xAE6, 0xB66, 0xBE6, 0xC66, 0xCE6, 0xD66,
   0xDE6, 0xE50, 0xED0, 0xF20, 0x1040, 0x1090, 0x17E0, 0x1810, 0x1946, 0x19D0, 0x1A80, 0x1A90,
   0x1B50, 0x1BB0, 0x1C40, 0x1C50, 0xA620, 0xA8D0, 0xA900, 0xA9D0, 0xA9F0, 0xAA50, 0xABF0,
   0xFF10, 0x104A0, 0x10D30, 0x11066, 0x110F0, 0x11136, 0x111D0, 0x112F0, 0x11450, 0x114D0,
   0x11650, 0x116C0, 0x11730, 0x118E0, 0x11950, 0x11C50, 0x11D50, 0x11DA0, 0x16A60, 0x16AC0,
   0x16B50, 0x1D7CE, 0x1D7D8, 0x1D7E2, 0x1D7EC, 0x1D7F6, 0x1E140, 0x1E2F0, 0x1E950, 0x1FBF0]

/-- The value of a decimal digit. -/
def digitValue? (c : Char) : Option Nat :=
  let n := c.toNat
  (digitZeros.find? fun z => z ≤ n && n < z + 10).map (n - ·)

/-- A decimal digit of some script. -/
def isDigit (c : Char) : Bool := (digitValue? c).isSome

/-- The number that a run of digits writes, most significant digit first. -/
def numberOf (digits : List Char) : Nat :=
  digits.foldl (fun n c => 10 * n + (digitValue? c).getD 0) 0

/-- The longest number of digits that is read; longer numbers are refused. -/
def maxDigits : Nat := 4300

/-- Reads a run of digits, unless it is longer than `maxDigits`. -/
def readNumber? (digits : List Char) : Option Nat :=
  if digits.length ≤ maxDigits then some (numberOf digits) else none

/-- Digits with single underscores allowed between two of them, the underscores removed. -/
def ungroup? : List Char → Option (List Char)
  | [] => none
  | [c] => if isDigit c then some [c] else none
  | c :: '_' :: cs => if isDigit c then (ungroup? cs).map (c :: ·) else none
  | c :: cs => if isDigit c then (ungroup? cs).map (c :: ·) else none

/-- A blank that may stand beside a number: any but the four ASCII separators. -/
def isMargin (c : Char) : Bool := isBlank c && !(0x1C ≤ c.toNat && c.toNat ≤ 0x1F)

/-- A text without the blanks that may stand beside a number. -/
def withoutMargins (cs : List Char) : List Char :=
  ((cs.dropWhile isMargin).reverse.dropWhile isMargin).reverse

/-- Reads a whole number as a person writes one: blanks around it, a sign before it and
    single underscores between its digits are allowed. -/
def readInteger? (s : String) : Option Int :=
  let unsigned (cs : List Char) : Option Nat := (ungroup? cs).bind readNumber?
  match withoutMargins s.toList with
  | '-' :: cs => (unsigned cs).map fun n => -(n : Int)
  | '+' :: cs => (unsigned cs).map fun n => (n : Int)
  | cs => (unsigned cs).map fun n => (n : Int)

/-- The decimal digits of a number, at least one. -/
def digitsOf (n : Nat) : List Char := Nat.toDigits 10 n

/-- A number in decimal. -/
def natText (n : Nat) : String := String.ofList (digitsOf n)

/-- A whole number in decimal, a minus sign before a negative one. -/
def intText (n : Int) : String :=
  match n with
  | .ofNat n => natText n
  | .negSucc n => "-" ++ natText (n + 1)

/-- The number can be written. One with more than `maxDigits` digits cannot. -/
def isWritable (n : Int) : Bool := n.natAbs < Nat.pow 10 maxDigits

end DiffGauge.Text
