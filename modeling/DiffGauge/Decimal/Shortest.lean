import DiffGauge.Decimal.Binary
import DiffGauge.Text.Digit

/-!
# The shortest decimal of a number

Of all decimals that a reader would take back to the same number, the shortest one is written;
of several of that length the nearest, and of two equally near the one with the even last digit.
The search goes through one digit, two digits and so on, and looks at the two neighbours of the
number among the decimals of that length.
-/

namespace DiffGauge.Decimal

/-- A decimal: `digits * 10 ^ exponent`. -/
structure Numeral where
  digits : Nat
  exponent : Int
  deriving DecidableEq, Repr

/-- The decimals that a reader takes to a number, in units of `2 ^ (exponent - 2)` of that
    number: from `low` to `high`, with both ends if `closed`. -/
structure Basin where
  low : Nat
  middle : Nat
  high : Nat
  closed : Bool
  deriving DecidableEq, Repr

/-- The decimals that a reader takes to a number. Below a power of two the gap is half as
    wide. -/
def Binary.basin (b : Binary) : Basin :=
  let narrow := b.mantissa = leastMantissa && leastExponent < b.exponent
  { low := 4 * b.mantissa - (if narrow then 1 else 2)
    middle := 4 * b.mantissa
    high := 4 * b.mantissa + 2
    closed := b.mantissa % 2 = 0 }

/-- Compares `a * 10 ^ i` with `c * 2 ^ j`. -/
def compareScaled (a : Nat) (i : Int) (c : Nat) (j : Int) : Ordering :=
  let (an, ad) := scaled a 10 i
  let (cn, cd) := scaled c 2 j
  compare (an * cd) (cn * ad)

/-- The decimal is one that a reader takes to the number. -/
def Binary.reads (b : Binary) (d : Numeral) : Bool :=
  let basin := b.basin
  let unit := b.exponent - 2
  let low := compareScaled d.digits d.exponent basin.low unit
  let high := compareScaled d.digits d.exponent basin.high unit
  if basin.closed then low != .lt && high != .gt else low == .gt && high == .lt

/-- The exponent of the first decimal digit of a positive number. -/
def Binary.decimalExponent (b : Binary) : Int :=
  let (num, den) := scaled b.mantissa 2 b.exponent
  if den ≤ num then (Text.digitsOf (num / den)).length - 1
  else
    let up := (Text.digitsOf den).length - (Text.digitsOf num).length
    if den ≤ num * Nat.pow 10 up then -(up : Int) else -(up : Int) - 1

/-- The number is nearer to the first decimal than to the second, which lies above both; or as
    near, and the first is even. -/
def Binary.prefersLower (b : Binary) (below above : Numeral) : Bool :=
  match compareScaled (below.digits + above.digits) below.exponent (8 * b.mantissa)
      (b.exponent - 2) with
  | .gt => true
  | .lt => false
  | .eq => below.digits % 2 = 0

/-- The best decimal with some number of digits, if a reader takes one to the number. -/
def Binary.decimalOf? (b : Binary) (first : Int) (length : Nat) : Option Numeral :=
  let exponent := first - length + 1
  let (num, den) := scaled b.mantissa 2 b.exponent
  let digits :=
    if 0 ≤ exponent then num / (den * Nat.pow 10 exponent.toNat)
    else num * Nat.pow 10 exponent.natAbs / den
  let below : Numeral := ⟨digits, exponent⟩
  let above : Numeral := ⟨digits + 1, exponent⟩
  match b.reads below, b.reads above with
  | true, true => some (if b.prefersLower below above then below else above)
  | true, false => some below
  | false, true => some above
  | false, false => none

/-- The shortest decimal of a positive number. No number needs more than seventeen digits. -/
def Binary.shortest (b : Binary) : Numeral :=
  let first := b.decimalExponent
  ((List.range 17).findSome? fun n => b.decimalOf? first (n + 1)).getD ⟨0, 0⟩

/-- The digits of a decimal without zeros at the end, and the exponent of the first of them. -/
def Numeral.normal (d : Numeral) : List Char × Int :=
  let all := Text.digitsOf d.digits
  let kept := (all.reverse.dropWhile (· == '0')).reverse
  (if kept.isEmpty then ['0'] else kept, d.exponent + (all.length - 1))

/-! ## Written forms -/

/-- How numbers are written: the words for the numbers that are not finite, and whether a lone
    digit before an exponent has a point and a zero after it. -/
structure RealForm where
  infinity : String
  negativeInfinity : String
  undefined : String
  pointBeforeExponent : Bool
  deriving DecidableEq, Repr

/-- The exponent of a number: a sign and two digits at least. -/
def exponentText (e : Int) : List Char :=
  let digits := Text.digitsOf e.natAbs
  (if e < 0 then '-' else '+') :: (if digits.length < 2 then '0' :: digits else digits)

/-- The digits of a decimal with the exponent of the first of them, written with a point from
    `10 ^ -4` up to `10 ^ 16` and with an exponent otherwise. -/
def RealForm.digitsText (f : RealForm) (digits : List Char) (first : Int) : List Char :=
  if -4 ≤ first && first < 16 then
    if first < 0 then
      ['0', '.'] ++ List.replicate (first.natAbs - 1) '0' ++ digits
    else
      let whole := first.toNat + 1
      let padded := digits ++ List.replicate (whole - digits.length) '0'
      let part := padded.drop whole
      padded.take whole ++ '.' :: (if part.isEmpty then ['0'] else part)
  else
    let lead := digits.take 1
    let part := digits.drop 1
    let point :=
      if part.isEmpty then (if f.pointBeforeExponent then ['.', '0'] else []) else '.' :: part
    lead ++ point ++ 'e' :: exponentText first

/-- A number as text. -/
def RealForm.text (f : RealForm) (x : Float) : String :=
  match Real.ofFloat x with
  | .undefined => f.undefined
  | .infinite negative => if negative then f.negativeInfinity else f.infinity
  | .finite negative b =>
    let body :=
      if b.mantissa = 0 then ['0', '.', '0']
      else
        let (digits, first) := b.shortest.normal
        f.digitsText digits first
    String.ofList (if negative then '-' :: body else body)

/-- A number rounded to a whole one, a half to the even one. -/
def roundedText (x : Float) : String :=
  match Real.ofFloat x with
  | .undefined => "nan"
  | .infinite negative => if negative then "-inf" else "inf"
  | .finite negative b =>
    let (num, den) := scaled b.mantissa 2 b.exponent
    (if negative then "-" else "") ++ Text.natText (roundDiv num den)

end DiffGauge.Decimal
