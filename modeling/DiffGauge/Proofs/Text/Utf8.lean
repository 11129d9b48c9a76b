import DiffGauge.Text.Utf8

/-!
# Decoding undoes encoding

The first byte of a character says how many bytes come after it and has the leading bits of the
character's number; each byte after it has six bits more. No character is written with more bytes
than it needs, so the ranges that the decoder asks of a second byte hold.

* `decodeFrom_char` takes the decoder over one character, from between two characters to between
  two characters;
* `decode_encode` is the statement about a text.
-/

namespace DiffGauge.Text.Utf8

/-! ## One byte -/

/-- The decoder takes one step for each byte. -/
theorem decodeFrom_cons (s : State) {b : Nat} (hb : b < 256) (bs : List UInt8) :
    decodeFrom s (UInt8.ofNat b :: bs) = (step s b).1 ++ decodeFrom (step s b).2 bs := by
  have hbyte : (UInt8.ofNat b).toNat = b := UInt8.toNat_ofNat_of_lt' hb
  cases s with
  | between => rw [decodeFrom, hbyte]
  | inside owed bits low high => rw [decodeFrom, hbyte]

/-- A byte of ASCII is a character. -/
theorem decodeFrom_single {b : Nat} (h : b ≤ 0x7F) (bs : List UInt8) :
    decodeFrom .between (UInt8.ofNat b :: bs) = Char.ofNat b :: decodeFrom .between bs := by
  have hlead : lead b = .single (Char.ofNat b) := if_pos h
  rw [decodeFrom_cons _ (by omega), step, opening, hlead]
  rfl

/-- A first byte that announces more opens a character. -/
theorem decodeFrom_longer {b : Nat} {s : State} (hb : b < 256) (h : lead b = .longer s)
    (bs : List UInt8) : decodeFrom .between (UInt8.ofNat b :: bs) = decodeFrom s bs := by
  rw [decodeFrom_cons _ hb, step, opening, h]
  rfl

/-- A further byte in range that is not the last one brings six bits. -/
theorem decodeFrom_further {owed bits low high x : Nat} (hx : x < 64) (hlow : low ≤ x + 0x80)
    (hhigh : x + 0x80 ≤ high) (bs : List UInt8) :
    decodeFrom (.inside (owed + 1) bits low high) (UInt8.ofNat (x + 0x80) :: bs)
      = decodeFrom (.inside owed (bits * 64 + x) 0x80 0xBF) bs := by
  rw [decodeFrom_cons _ (by omega), step, if_pos ⟨hlow, hhigh⟩]
  simp only [Nat.add_sub_cancel, List.nil_append]

/-- The last byte in range ends the character. -/
theorem decodeFrom_last {bits low high x : Nat} (hx : x < 64) (hlow : low ≤ x + 0x80)
    (hhigh : x + 0x80 ≤ high) (bs : List UInt8) :
    decodeFrom (.inside 0 bits low high) (UInt8.ofNat (x + 0x80) :: bs)
      = Char.ofNat (bits * 64 + x) :: decodeFrom .between bs := by
  rw [decodeFrom_cons _ (by omega), step, if_pos ⟨hlow, hhigh⟩]
  simp only [Nat.add_sub_cancel, List.singleton_append]

/-! ## The first byte -/

/-- The first of two bytes; fewer bits than two would fit into one byte. -/
theorem lead_two {x : Nat} (hlow : 2 ≤ x) (hhigh : x < 32) :
    lead (x + 0xC0) = .longer (.inside 0 x 0x80 0xBF) := by
  rw [lead, if_neg (by omega), if_pos (by omega), Nat.add_sub_cancel]

/-- The first of three bytes, `y` being the bits of the second. What fits into two bytes is ruled
    out, and so are the numbers that no character has. -/
theorem exists_lead_three {x y : Nat} (hx : x < 16) (hy : y < 64) (hlow : x = 0 → 32 ≤ y)
    (hgap : x = 13 → y < 32) :
    ∃ low high, lead (x + 0xE0) = .longer (.inside 1 x low high) ∧
      low ≤ y + 0x80 ∧ y + 0x80 ≤ high := by
  by_cases hzero : x = 0
  · subst hzero
    have := hlow rfl
    exact ⟨0xA0, 0xBF, rfl, by omega, by omega⟩
  by_cases hthirteen : x = 13
  · subst hthirteen
    have := hgap rfl
    exact ⟨0x80, 0x9F, rfl, by omega, by omega⟩
  refine ⟨0x80, 0xBF, ?_, by omega, by omega⟩
  rw [lead, if_neg (by omega), if_neg (by omega), if_neg (by omega), if_neg (by omega),
    if_pos (by omega), Nat.add_sub_cancel]

/-- The first of four bytes, `y` being the bits of the second. What fits into three bytes is ruled
    out, and so is what is behind the last character. -/
theorem exists_lead_four {x y : Nat} (hx : x ≤ 4) (hy : y < 64) (hlow : x = 0 → 16 ≤ y)
    (hhigh : x = 4 → y < 16) :
    ∃ low high, lead (x + 0xF0) = .longer (.inside 2 x low high) ∧
      low ≤ y + 0x80 ∧ y + 0x80 ≤ high := by
  by_cases hzero : x = 0
  · subst hzero
    have := hlow rfl
    exact ⟨0x90, 0xBF, rfl, by omega, by omega⟩
  by_cases hfour : x = 4
  · subst hfour
    have := hhigh rfl
    exact ⟨0x80, 0x8F, rfl, by omega, by omega⟩
  refine ⟨0x80, 0xBF, ?_, by omega, by omega⟩
  rw [lead, if_neg (by omega), if_neg (by omega), if_neg (by omega), if_neg (by omega),
    if_neg (by omega), if_neg (by omega), if_pos (by omega), Nat.add_sub_cancel]

/-! ## Characters and texts -/

/-- A character of ASCII is its own byte. -/
theorem encode_ascii {c : Char} (h : c.toNat ≤ 0x7F) : encode [c] = [UInt8.ofNat c.toNat] := by
  have hone : String.utf8EncodeChar c = [UInt8.ofNat c.toNat] := if_pos h
  rw [encode, List.flatMap_singleton, hone]

/-- The bytes of a character are read as the character. -/
theorem decodeFrom_char (c : Char) (bs : List UInt8) :
    decodeFrom .between (String.utf8EncodeChar c ++ bs) = c :: decodeFrom .between bs := by
  have hvalid : c.val.toNat < 0xD800 ∨ 0xDFFF < c.val.toNat ∧ c.val.toNat < 0x110000 := c.valid
  -- the bits of all bytes together are the number of the character
  have hchar {n : Nat} (h : n = c.val.toNat) : Char.ofNat n = c := by
    rw [h]
    exact Char.ofNat_toNat c
  simp only [String.utf8EncodeChar]
  split
  · next hone =>
      rw [List.singleton_append, decodeFrom_single hone, hchar rfl]
  split
  · next hone htwo =>
      have hlead := lead_two (x := c.val.toNat / 64 % 0x20) (by omega) (by omega)
      rw [List.cons_append, List.singleton_append, decodeFrom_longer (by omega) hlead,
        decodeFrom_last (by omega) (by omega) (by omega), hchar (by omega)]
  split
  · next hone htwo hthree =>
      obtain ⟨low, high, hlead, hlow, hhigh⟩ :=
        exists_lead_three (x := c.val.toNat / 4096 % 0x10) (y := c.val.toNat / 64 % 0x40) (by omega)
          (by omega) (by omega) (by omega)
      rw [List.cons_append, List.cons_append, List.singleton_append,
        decodeFrom_longer (by omega) hlead, decodeFrom_further (by omega) hlow hhigh,
        decodeFrom_last (by omega) (by omega) (by omega), hchar (by omega)]
  · next hone htwo hthree =>
      obtain ⟨low, high, hlead, hlow, hhigh⟩ :=
        exists_lead_four (x := c.val.toNat / 262144 % 0x08) (y := c.val.toNat / 4096 % 0x40) (by omega)
          (by omega) (by omega) (by omega)
      rw [List.cons_append, List.cons_append, List.cons_append, List.singleton_append,
        decodeFrom_longer (by omega) hlead, decodeFrom_further (by omega) hlow hhigh,
        decodeFrom_further (by omega) (by omega) (by omega),
        decodeFrom_last (by omega) (by omega) (by omega), hchar (by omega)]

/-- The bytes of a text are the text. -/
theorem decode_encode (cs : List Char) : decode (encode cs) = cs := by
  induction cs with
  | nil => rfl
  | cons c cs ih =>
      rw [encode, List.flatMap_cons, decode, decodeFrom_char]
      exact congrArg (c :: ·) ih

end DiffGauge.Text.Utf8
