/-!
# Binary floating-point numbers as exact values

A finite number is a whole number times a power of two. `Binary.ofFloat` takes it apart;
`nearest` goes the other way: it finds the number nearest to a decimal, the one with the even
mantissa where two are equally near.
-/

namespace DiffGauge.Decimal

/-- The number of bits of a mantissa. -/
def mantissaBits : Nat := 53

/-- The least mantissa of a number that is not among the smallest ones: a one and 52 zeros. -/
def leastMantissa : Nat := 0x10000000000000

/-- How many exponents there are, those of the smallest and of the infinite numbers included. -/
def exponents : Nat := 0x800

/-- The exponent of the least positive number. -/
def leastExponent : Int := -1074

/-- The largest exponent of a finite number. -/
def largestExponent : Int := 971

/-- A finite number that is not negative: `mantissa * 2 ^ exponent`. -/
structure Binary where
  mantissa : Nat
  exponent : Int
  deriving DecidableEq, Repr

/-- A floating-point number taken apart. -/
inductive Real where
  | finite (negative : Bool) (value : Binary)
  | infinite (negative : Bool)
  | undefined
  deriving DecidableEq, Repr

/-- Takes a floating-point number apart. -/
def Real.ofFloat (x : Float) : Real :=
  let bits := x.toBits.toNat
  let negative := bits / (leastMantissa * exponents) == 1
  let biased : Nat := bits / leastMantissa % exponents
  let fraction : Nat := bits % leastMantissa
  if biased = exponents - 1 then
    if fraction = 0 then .infinite negative else .undefined
  else if biased = 0 then .finite negative ⟨fraction, leastExponent⟩
  else .finite negative ⟨fraction + leastMantissa, (biased : Int) - 1075⟩

/-- A quotient rounded to the nearest whole number, a half to the even one. -/
def roundDiv (num den : Nat) : Nat :=
  let q := num / den
  let r := num % den
  if den < 2 * r || (2 * r = den && q % 2 = 1) then q + 1 else q

/-- A whole number times a power of a base, as a fraction. -/
def scaled (num : Nat) (base : Nat) (exponent : Int) : Nat × Nat :=
  if 0 ≤ exponent then (num * Nat.pow base exponent.toNat, 1)
  else (num, Nat.pow base exponent.natAbs)

/-- The fraction `num / den` divided by `2 ^ q` and rounded. -/
def mantissaAt (num den : Nat) (q : Int) : Nat :=
  if 0 ≤ q then roundDiv num (den * Nat.pow 2 q.toNat)
  else roundDiv (num * Nat.pow 2 q.natAbs) den

/-- The number of binary digits. -/
def bitLength (n : Nat) : Nat := if n = 0 then 0 else n.log2 + 1

/-- The number nearest to a positive fraction; none if it is too large for one. -/
def Binary.nearest? (num den : Nat) : Option Binary :=
  let guess : Int := (bitLength num : Int) - bitLength den - mantissaBits
  let q := max guess leastExponent
  let exact := if mantissaAt num den q < 2 * leastMantissa then q else q + 1
  let m := mantissaAt num den exact
  let b : Binary := if m = 2 * leastMantissa then ⟨leastMantissa, exact + 1⟩ else ⟨m, exact⟩
  if largestExponent < b.exponent then none else some b

/-- The bits of a number. -/
def Binary.toBits (b : Binary) : Nat :=
  if b.mantissa < leastMantissa then b.mantissa
  else (b.exponent + 1075).toNat * leastMantissa + (b.mantissa - leastMantissa)

/-- The bits of the infinite number. -/
def infinityBits : Nat := (exponents - 1) * leastMantissa

/-- The floating-point number nearest to `digits * 10 ^ exponent`. -/
def nearest (digits : Nat) (exponent : Int) : Float :=
  let size := (Nat.toDigits 10 digits).length + exponent
  if digits = 0 || size < -330 then 0.0
  else if 320 < size then Float.ofBits (UInt64.ofNat infinityBits)
  else
    let (num, den) := scaled digits 10 exponent
    match Binary.nearest? num den with
    | some b => Float.ofBits (UInt64.ofNat b.toBits)
    | none => Float.ofBits (UInt64.ofNat infinityBits)

end DiffGauge.Decimal
