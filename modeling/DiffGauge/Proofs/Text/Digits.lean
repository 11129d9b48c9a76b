import DiffGauge.Text.Digit
import Mathlib

/-!
# Numbers are read back from their digits

The digits of a number are ASCII digits, and reading them gives the number, if it does not have
more digits than are read at all (`readNumber?_digitsOf`).
-/

namespace DiffGauge.Text

/-- An ASCII digit is a decimal digit, of the value that it has in ASCII. -/
theorem digitValue?_of_isDigit {c : Char} (h : c.isDigit = true) :
    digitValue? c = some (c.toNat - 48) := by
  have hc : 48 ≤ c.toNat ∧ c.toNat < 48 + 10 := by
    simp only [Char.isDigit, Bool.and_eq_true, decide_eq_true_eq] at h
    obtain ⟨hlow, hhigh⟩ := h
    have hlow' : 48 ≤ c.val.toNat := hlow
    have hhigh' : c.val.toNat ≤ 57 := hhigh
    exact ⟨hlow', by show c.val.toNat < 58; omega⟩
  rw [digitValue?, digitZeros, List.find?_cons_of_pos (by simpa using hc)]
  rfl

/-- The digits of a number are digits. -/
theorem isDigit_of_mem_digitsOf {n : Nat} {c : Char} (h : c ∈ digitsOf n) : c.isDigit = true :=
  Nat.isDigit_of_mem_toDigits (by decide) (by decide) h

/-- Every number has a digit. -/
theorem digitsOf_ne_nil (n : Nat) : digitsOf n ≠ [] := Nat.toDigits_ne_nil

/-- Nothing but digits is in the digits of a number. -/
theorem digitsOf_all_isDigit (n : Nat) : (digitsOf n).all isDigit = true := by
  rw [List.all_eq_true]
  intro c hc
  rw [isDigit, digitValue?_of_isDigit (isDigit_of_mem_digitsOf hc)]
  rfl

/-- The digits of a number write it. -/
theorem numberOf_digitsOf (n : Nat) : numberOf (digitsOf n) = n := by
  have hfold : ∀ (cs : List Char) (m : Nat), (∀ c ∈ cs, c.isDigit = true) →
      cs.foldl (fun n c => 10 * n + (digitValue? c).getD 0) m = Nat.ofDigitChars 10 cs m := by
    intro cs
    induction cs with
    | nil => intro m _; rfl
    | cons c cs ih =>
        intro m h
        obtain ⟨hc, hcs⟩ := List.forall_mem_cons.1 h
        rw [List.foldl_cons, Nat.ofDigitChars_cons, ih _ hcs, digitValue?_of_isDigit hc]
        rfl
  rw [numberOf, hfold _ _ fun c hc => isDigit_of_mem_digitsOf hc]
  exact Nat.ofDigitChars_ten_toDigits

/-- A number that is not too long is read back from its digits. -/
theorem readNumber?_digitsOf {n : Nat} (h : n < 10 ^ maxDigits) :
    readNumber? (digitsOf n) = some n := by
  have hlen : (digitsOf n).length ≤ maxDigits :=
    (Nat.length_toDigits_le_iff (by decide) (by decide)).2 h
  rw [readNumber?, if_pos hlen, numberOf_digitsOf]

end DiffGauge.Text
