import DiffGauge.Proofs.Attribution.InPlace

/-!
# The deepest unit around a line

The search for the innermost unit compares nothing but sizes. Where the units are nested or apart
and an outer unit stands before those strictly inside it, depth decides: the units around a line
form a chain, each of them inside those before it (`IsNested.containsSpan_of_lt`). The last one
around the line is therefore the smallest one, and the last of its size, and so the one that the
search yields (`IsNested.isInnermost_iff`).
-/

namespace DiffGauge

namespace LineSpan

variable {s t : LineSpan}

/-- The other span lies in the span and is another one. -/
def StrictlyContains (s t : LineSpan) : Prop := s.containsSpan t = true ∧ s ≠ t

instance (s t : LineSpan) : Decidable (s.StrictlyContains t) :=
  inferInstanceAs (Decidable (_ ∧ _))

/-- Around one line, a span that is not strictly inside the other one contains it. -/
theorem NestedOrApart.containsSpan {line : Int} (h : s.NestedOrApart t)
    (hs : s.contains line = true) (ht : t.contains line = true) (hnot : ¬t.StrictlyContains s) :
    s.containsSpan t = true := by
  rcases h with hin | hout | hapart
  · exact hin
  · by_cases hsame : t = s
    · exact hsame ▸ hout
    · exact absurd ⟨hout, hsame⟩ hnot
  -- both have the line
  · simp only [contains, overlaps, Bool.and_eq_true, Bool.and_eq_false_iff, decide_eq_true_eq,
      decide_eq_false_iff_not] at hs ht hapart
    omega

end LineSpan

end DiffGauge

namespace DiffGauge.Attribution

/-- The spans of the units are nested or apart, and a unit whose span strictly contains that of
    another one stands before it. -/
structure IsNested (units : List CodeUnit) : Prop where
  nestedOrApart : units.Pairwise fun u v => u.span.NestedOrApart v.span
  outerFirst : units.Pairwise fun u v => ¬v.span.StrictlyContains u.span

/-- The unit with an index is the last one around a line. -/
def IsLastAround (units : List CodeUnit) (line : Int) (i : Nat) : Prop :=
  ∃ u, units[i]? = some u ∧ u.span.contains line = true ∧
    ∀ j v, units[j]? = some v → v.span.contains line = true → j ≤ i

section Nested

variable {units : List CodeUnit} {line : Int} {i j : Nat} {u v : CodeUnit}

/-- The units around a line form a chain: a later one lies in an earlier one. -/
theorem IsNested.containsSpan_of_lt (h : IsNested units) (hu : units[i]? = some u)
    (hv : units[j]? = some v) (hlt : i < j) (hucontains : u.span.contains line = true)
    (hvcontains : v.span.contains line = true) : u.span.containsSpan v.span = true := by
  obtain ⟨hi, rfl⟩ := List.getElem?_eq_some_iff.1 hu
  obtain ⟨hj, rfl⟩ := List.getElem?_eq_some_iff.1 hv
  have hnested := List.pairwise_iff_getElem.1 h.nestedOrApart i j hi hj hlt
  have hnot := List.pairwise_iff_getElem.1 h.outerFirst i j hi hj hlt
  exact hnested.containsSpan hucontains hvcontains hnot

/-- The last unit around a line lies in all others around it. -/
theorem IsNested.containsSpan_of_le (h : IsNested units) (hu : units[i]? = some u)
    (hv : units[j]? = some v) (hle : j ≤ i) (hucontains : u.span.contains line = true)
    (hvcontains : v.span.contains line = true) : v.span.containsSpan u.span = true := by
  rcases Nat.lt_or_eq_of_le hle with hlt | rfl
  · exact h.containsSpan_of_lt hv hu hlt hvcontains hucontains
  · obtain rfl : v = u := Option.some.inj (hv.symm.trans hu)
    exact v.span.containsSpan_self

/-- The smallest unit around a line is the last one around it, and the other way round. -/
theorem IsNested.isInnermost_iff (h : IsNested units) :
    IsInnermost units line i ↔ IsLastAround units line i := by
  constructor
  · rintro ⟨u, hu, hcontains, hbest⟩
    refine ⟨u, hu, hcontains, fun j v hv hvcontains => ?_⟩
    obtain ⟨hsmallest, hlast⟩ := hbest j v hv hvcontains
    rcases Nat.lt_or_ge i j with hlt | hge
    -- a unit further on would lie in it, and so have its size
    · have hinside := h.containsSpan_of_lt hu hv hlt hcontains hvcontains
      have hle := LineSpan.length_le_of_containsSpan hinside
      exact hlast (Nat.le_antisymm hle hsmallest)
    · exact hge
  · rintro ⟨u, hu, hcontains, hlast⟩
    refine ⟨u, hu, hcontains, fun j v hv hvcontains => ?_⟩
    have hle := hlast j v hv hvcontains
    have hinside := h.containsSpan_of_le hu hv hle hcontains hvcontains
    exact ⟨LineSpan.length_le_of_containsSpan hinside, fun _ => hle⟩

end Nested

/-- **The innermost unit is the deepest one**: if the units are nested or apart, an outer one before
    those strictly inside it, then no unit is found for a line exactly if none is around it, and
    else the last one around it is found. That unit lies in all others around the line, and of the
    units with its lines it is the last. -/
theorem innermost?_deepest {units : List CodeUnit} (h : IsNested units) (line : Int) :
    (innermost? units line = none ↔ ∀ u ∈ units, u.span.contains line = false)
      ∧ (∀ i, innermost? units line = some i ↔ IsLastAround units line i)
      ∧ ∀ i u, innermost? units line = some i → units[i]? = some u →
          (∀ v ∈ units, v.span.contains line = true → v.span.containsSpan u.span = true)
            ∧ ∀ j v, units[j]? = some v → v.span = u.span → j ≤ i := by
  have hlast : ∀ i, innermost? units line = some i ↔ IsLastAround units line i :=
    fun i => innermost?_eq_some_iff.trans h.isInnermost_iff
  refine ⟨innermost?_eq_none_iff, hlast, fun i u hi hu => ?_⟩
  obtain ⟨u', hu', hcontains, hbehind⟩ := (hlast i).1 hi
  obtain rfl : u' = u := Option.some.inj (hu'.symm.trans hu)
  constructor
  · intro v hv hvcontains
    obtain ⟨j, hj⟩ := List.mem_iff_getElem?.1 hv
    exact h.containsSpan_of_le hu hj (hbehind j v hj hvcontains) hcontains hvcontains
  · intro j v hj hsame
    exact hbehind j v hj (hsame ▸ hcontains)

/-- A module with two functions, the first of which has all lines of the block around it. -/
def nestedUnits : List CodeUnit :=
  [{ functionAt "m" 1 10 with kind := some .moduleBlock },
   { functionAt "A" 2 5 with kind := some .implementationBlock }, functionAt "new" 2 5,
   functionAt "f" 7 9]

/-- A line of a function in a module, which has the lines of the block around it. -/
theorem innermost?_deepest_of_nestedUnits :
    IsNested nestedUnits ∧ IsLastAround nestedUnits 4 2 ∧
      ∀ v ∈ nestedUnits, v.span.contains 4 = true →
        v.span.containsSpan (functionAt "new" 2 5).span = true := by
  have hnested : IsNested nestedUnits := ⟨by decide, by decide⟩
  have hfound : innermost? nestedUnits 4 = some 2 := by decide
  obtain ⟨-, hlast, hinside⟩ := innermost?_deepest hnested 4
  exact ⟨hnested, (hlast 2).1 hfound, (hinside 2 _ hfound rfl).1⟩

end DiffGauge.Attribution
