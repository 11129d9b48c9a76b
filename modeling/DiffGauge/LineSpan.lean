import DiffGauge.Text.Digit

/-!
# Line spans

A span is an inclusive range of lines, counted from one. A span that would begin before the
first line or end before it begins does not exist: `LineSpan.ofBounds?` says so.
-/

namespace DiffGauge

/-- An inclusive range of lines, counted from one. -/
structure LineSpan where
  first : Nat
  last : Nat
  one_le_first : 1 ≤ first
  first_le_last : first ≤ last
  deriving DecidableEq, Repr

/-- Two bounds that are no span. -/
structure InvalidSpan where
  first : Int
  last : Int
  deriving DecidableEq, Repr

/-- The wording of an invalid span. -/
def InvalidSpan.message (e : InvalidSpan) : String :=
  "invalid line span " ++ Text.intText e.first ++ ".." ++ Text.intText e.last

namespace LineSpan

/-- The span of the given bounds, if they are in order and at least one. -/
def ofBounds? (first last : Int) : Except InvalidSpan LineSpan :=
  if h : 1 ≤ first ∧ first ≤ last then
    .ok ⟨first.toNat, last.toNat, by omega, by omega⟩
  else .error ⟨first, last⟩

/-- The number of lines of a span. -/
def length (s : LineSpan) : Nat := s.last - s.first + 1

/-- The line lies in the span. -/
def contains (s : LineSpan) (line : Int) : Bool := s.first ≤ line && line ≤ s.last

/-- The whole of `t` lies in the span. -/
def containsSpan (s t : LineSpan) : Bool := s.first ≤ t.first && t.last ≤ s.last

/-- The spans share a line. -/
def overlaps (s t : LineSpan) : Bool := s.first ≤ t.last && t.first ≤ s.last

/-- The least span from one line to another, both raised to the first line if they lie
    before it and taken in either order. -/
def clamped (a b : Int) : LineSpan :=
  { first := (max (min a b) 1).toNat
    last := (max (max a b) 1).toNat
    one_le_first := by omega
    first_le_last := by omega }

/-- The least span that holds all the given lines and no line before the first. -/
def covering (line : Int) (lines : List Int) : LineSpan :=
  clamped (lines.foldl min line) (lines.foldl max line)

/-- A span holds those that begin no earlier and end no later. -/
theorem containsSpan_iff {s t : LineSpan} :
    s.containsSpan t = true ↔ s.first ≤ t.first ∧ t.last ≤ s.last := by
  rw [containsSpan, Bool.and_eq_true, decide_eq_true_eq, decide_eq_true_eq]

/-- A span holds itself. -/
theorem containsSpan_self (s : LineSpan) : s.containsSpan s = true :=
  containsSpan_iff.2 ⟨Nat.le_refl _, Nat.le_refl _⟩

/-- A span is no shorter than one that it holds. -/
theorem length_le_of_containsSpan {s t : LineSpan} (h : s.containsSpan t = true) :
    t.length ≤ s.length := by
  obtain ⟨hfirst, hlast⟩ := containsSpan_iff.1 h
  unfold length
  omega

/-- The span between two bounds has just these bounds. -/
theorem ofBounds?_eq_ok_iff {a b : Int} {s : LineSpan} :
    ofBounds? a b = .ok s ↔ (s.first : Int) = a ∧ (s.last : Int) = b := by
  unfold ofBounds?
  obtain ⟨f, l, h₁, h₂⟩ := s
  split
  · next h =>
    simp only [Except.ok.injEq, LineSpan.mk.injEq]
    omega
  · next h =>
    simp only [reduceCtorEq, false_iff]
    omega

end LineSpan

end DiffGauge
