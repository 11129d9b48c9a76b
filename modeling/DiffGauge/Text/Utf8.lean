/-!
# UTF-8

Texts as bytes and back. Encoding is the standard one. Decoding never fails: each longest
beginning of a sequence that cannot be completed becomes one replacement character.
-/

namespace DiffGauge.Text.Utf8

/-- The bytes of a text. -/
def encode (cs : List Char) : List UInt8 := cs.flatMap String.utf8EncodeChar

/-- What stands for bytes that are not UTF-8. -/
def replacement : Char := Char.ofNat 0xFFFD

/-- Where the decoder stands: between two characters, or inside one with `owed + 1` bytes to
    come, the bits read so far, and the range that the next byte has to be in. -/
inductive State where
  | between
  | inside (owed bits low high : Nat)
  deriving DecidableEq, Repr

/-- What a first byte announces. -/
inductive Lead where
  | single (c : Char)
  | longer (state : State)
  | stray
  deriving DecidableEq, Repr

/-- Reads the first byte of a character. -/
def lead (b : Nat) : Lead :=
  if b ≤ 0x7F then .single (Char.ofNat b)
  else if 0xC2 ≤ b ∧ b ≤ 0xDF then .longer (.inside 0 (b - 0xC0) 0x80 0xBF)
  else if b = 0xE0 then .longer (.inside 1 0 0xA0 0xBF)
  else if b = 0xED then .longer (.inside 1 0xD 0x80 0x9F)
  else if 0xE1 ≤ b ∧ b ≤ 0xEF then .longer (.inside 1 (b - 0xE0) 0x80 0xBF)
  else if b = 0xF0 then .longer (.inside 2 0 0x90 0xBF)
  else if 0xF1 ≤ b ∧ b ≤ 0xF3 then .longer (.inside 2 (b - 0xF0) 0x80 0xBF)
  else if b = 0xF4 then .longer (.inside 2 4 0x80 0x8F)
  else .stray

/-- One byte from between two characters: the characters it yields and the state after it. -/
def opening (b : Nat) : List Char × State :=
  match lead b with
  | .single c => ([c], .between)
  | .longer s => ([], s)
  | .stray => ([replacement], .between)

/-- One byte from any state. A byte that does not continue the open character ends it with a
    replacement and opens the next one. -/
def step : State → Nat → List Char × State
  | .between, b => opening b
  | .inside owed bits low high, b =>
    if low ≤ b ∧ b ≤ high then
      let bits := bits * 64 + (b - 0x80)
      match owed with
      | 0 => ([Char.ofNat bits], .between)
      | owed + 1 => ([], .inside owed bits 0x80 0xBF)
    else
      let (cs, s) := opening b
      (replacement :: cs, s)

/-- The characters of the bytes that follow a state. -/
def decodeFrom : State → List UInt8 → List Char
  | .between, [] => []
  | .inside .., [] => [replacement]
  | s, b :: bs =>
    let (cs, s') := step s b.toNat
    cs ++ decodeFrom s' bs

/-- The text of some bytes, with replacements where they are not UTF-8. -/
def decode (bs : List UInt8) : List Char := decodeFrom .between bs

/-- The text of some bytes as a string, with replacements where they are not UTF-8. -/
def decodeString (bs : List UInt8) : String := String.ofList (decode bs)

/-- The bytes of a string. -/
def encodeString (s : String) : List UInt8 := encode s.toList

/-- The text of some bytes, if they are UTF-8. -/
def decode? (bs : List UInt8) : Option String :=
  String.fromUTF8? ⟨bs.toArray⟩

end DiffGauge.Text.Utf8
