import DiffGauge.Proofs.Attribution.Conservation

/-!
# The unit that is chosen

The search for the best unit goes through the list once and keeps one unit. What it keeps is best
among all units that pass the test: a unit before it would not be kept against it, and it is kept
against every unit behind it (`best?_spec`).

* `isSmallest_of_smallest?` reads this off the search for a smallest unit;
* `innermost?_eq_some_iff` says the same of the innermost unit around a line without the search;
* `counterpart?_eq_some` says what an old unit lives on in, `counterpart?_eq_none_iff` when it is
  gone.
-/

namespace DiffGauge.Attribution

/-! ## The search -/

variable {p : CodeUnit → Bool} {keeps : CodeUnit → CodeUnit → Bool} {us : List CodeUnit}

/-- There is no best unit where none passes the test. -/
theorem best?_eq_none_iff : best? p keeps us = none ↔ ∀ u ∈ us, p u = false := by
  induction us with
  | nil => exact ⟨fun _ => List.forall_mem_nil _, fun _ => rfl⟩
  | cons u us ih =>
      rw [best?, List.forall_mem_cons]
      cases hb : best? p keeps us with
      | none =>
          have hus : ∀ v ∈ us, p v = false := ih.1 hb
          by_cases hp : p u = true
          · simp [hp]
          · simpa [hp] using hus
      | some jw =>
          -- some unit further on passes the test
          have hus : ¬∀ v ∈ us, p v = false := fun hall => by
            rw [ih.2 hall] at hb
            cases hb
          by_cases hk : (p u && keeps u jw.2) = true
          · simp only [hk, if_true, reduceCtorEq, false_iff]
            exact fun h => hus h.2
          · simp only [hk, Bool.false_eq_true, if_false, reduceCtorEq, false_iff]
            exact fun h => hus h.2

/-- The best unit beats all others that pass the test: of those before it none would be kept
    against it, and it is kept against all those behind it. -/
theorem best?_spec
    (htrans : ∀ u v w, keeps u v = true → keeps v w = true → keeps u w = true)
    (hbeats : ∀ u v w, keeps u v = true → keeps w v = false → keeps u w = true)
    {i : Nat} {v : CodeUnit} (h : best? p keeps us = some (i, v)) :
    ∀ j w, us[j]? = some w → p w = true →
      (j < i → keeps w v = false) ∧ (i < j → keeps v w = true) := by
  induction us generalizing i v with
  | nil => cases h
  | cons u us ih =>
      intro j w hw hp
      rw [best?] at h
      cases hb : best? p keeps us with
      -- `u` is alone in passing the test
      | none =>
          rw [hb] at h
          have hnone := best?_eq_none_iff.1 hb
          have hi : i = 0 := by
            by_cases hu : p u = true
            · simp only [hu, if_true, Option.some.injEq, Prod.mk.injEq] at h
              exact h.1.symm
            · simp [hu] at h
          cases j with
          | zero => omega
          | succ j =>
              rw [hnone w (List.mem_of_getElem? hw)] at hp
              cases hp
      | some kx =>
          obtain ⟨k, x⟩ := kx
          rw [hb] at h
          have htail := ih hb
          by_cases hk : (p u && keeps u x) = true
          -- `u` takes the place of the best unit behind it, and so beats what that one beats
          · simp only [hk, if_true, Option.some.injEq, Prod.mk.injEq] at h
            obtain ⟨rfl, rfl⟩ := h
            have hux : keeps u x = true := (Bool.and_eq_true _ _ ▸ hk).2
            refine ⟨by omega, fun hj => ?_⟩
            obtain ⟨j, rfl⟩ := Nat.exists_eq_succ_of_ne_zero (by omega : j ≠ 0)
            have hw : us[j]? = some w := hw
            rcases Nat.lt_trichotomy j k with hlt | rfl | hgt
            · exact hbeats u x w hux ((htail j w hw hp).1 hlt)
            · obtain rfl : x = w := Option.some.inj ((best?_eq_some hb).1.symm.trans hw)
              exact hux
            · exact htrans u x w hux ((htail j w hw hp).2 hgt)
          · simp only [hk, Bool.false_eq_true, if_false, Option.some.injEq, Prod.mk.injEq] at h
            obtain ⟨rfl, rfl⟩ := h
            cases j with
            | zero =>
                obtain rfl : u = w := Option.some.inj hw
                refine ⟨fun _ => ?_, by omega⟩
                rw [hp, Bool.true_and] at hk
                exact eq_false_of_ne_true hk
            | succ j =>
                obtain ⟨hbefore, hbehind⟩ := htail j w hw hp
                exact ⟨fun hj => hbefore (by omega), fun hj => hbehind (by omega)⟩

/-! ## The smallest unit -/

/-- The unit with an index is the smallest one that passes a test, and the last of that size. -/
def IsSmallest (p : CodeUnit → Bool) (units : List CodeUnit) (i : Nat) : Prop :=
  ∃ u, units[i]? = some u ∧ p u = true ∧
    ∀ j v, units[j]? = some v → p v = true →
      u.span.length ≤ v.span.length ∧ (v.span.length = u.span.length → j ≤ i)

private theorem isSmaller_iff {u v : CodeUnit} :
    isSmaller u v = true ↔ u.span.length < v.span.length :=
  decide_eq_true_iff

private theorem isSmaller_eq_false_iff {u v : CodeUnit} :
    isSmaller u v = false ↔ v.span.length ≤ u.span.length := by
  rw [← Bool.not_eq_true, isSmaller_iff, Nat.not_lt]

/-- The unit that is found is a smallest one. -/
theorem isSmallest_of_smallest? {units : List CodeUnit} {i : Nat}
    (h : smallest? p units = some i) : IsSmallest p units i := by
  obtain ⟨⟨i, u⟩, hb, rfl⟩ := Option.map_eq_some_iff.1 h
  obtain ⟨hu, hpasses⟩ := best?_eq_some hb
  have htrans : ∀ u v w, isSmaller u v = true → isSmaller v w = true → isSmaller u w = true := by
    intro u v w
    rw [isSmaller_iff, isSmaller_iff, isSmaller_iff]
    exact Nat.lt_trans
  have hbeats : ∀ u v w, isSmaller u v = true → isSmaller w v = false → isSmaller u w = true := by
    intro u v w
    rw [isSmaller_iff, isSmaller_eq_false_iff, isSmaller_iff]
    exact Nat.lt_of_lt_of_le
  refine ⟨u, hu, hpasses, ?_⟩
  intro j v hv hp
  obtain ⟨hbefore, hbehind⟩ := best?_spec htrans hbeats hb j v hv hp
  rw [isSmaller_eq_false_iff] at hbefore
  rw [isSmaller_iff] at hbehind
  rcases Nat.lt_trichotomy j i with hlt | rfl | hgt
  · exact ⟨hbefore hlt, fun _ => Nat.le_of_lt hlt⟩
  · obtain rfl : u = v := Option.some.inj (hu.symm.trans hv)
    exact ⟨Nat.le_refl _, fun _ => Nat.le_refl _⟩
  -- a unit behind it is larger, as the search would have kept it otherwise
  · have hlarger := hbehind hgt
    exact ⟨Nat.le_of_lt hlarger, fun heq => absurd hlarger (heq ▸ Nat.lt_irrefl _)⟩

/-- None is found exactly if none passes the test. -/
theorem smallest?_eq_none_iff {units : List CodeUnit} :
    smallest? p units = none ↔ ∀ u ∈ units, p u = false := by
  rw [smallest?, Option.map_eq_none_iff, best?_eq_none_iff]

/-! ## The innermost unit -/

/-- The unit with an index is the smallest one around a line, and the last of that size. -/
def IsInnermost (units : List CodeUnit) (line : Int) (i : Nat) : Prop :=
  ∃ u, units[i]? = some u ∧ u.span.contains line = true ∧
    ∀ j v, units[j]? = some v → v.span.contains line = true →
      u.span.length ≤ v.span.length ∧ (v.span.length = u.span.length → j ≤ i)

/-- The search finds the innermost unit. -/
theorem isInnermost_of_innermost? {units : List CodeUnit} {line : Int} {i : Nat}
    (h : innermost? units line = some i) : IsInnermost units line i :=
  isSmallest_of_smallest? h

/-- No line has two innermost units. -/
theorem IsInnermost.unique {units : List CodeUnit} {line : Int} {i j : Nat}
    (hi : IsInnermost units line i) (hj : IsInnermost units line j) : i = j := by
  obtain ⟨u, hu, hucontains, hubest⟩ := hi
  obtain ⟨v, hv, hvcontains, hvbest⟩ := hj
  have huv := hubest j v hv hvcontains
  have hvu := hvbest i u hu hucontains
  omega

/-- A line has no innermost unit exactly if it is in none. -/
theorem innermost?_eq_none_iff {units : List CodeUnit} {line : Int} :
    innermost? units line = none ↔ ∀ u ∈ units, u.span.contains line = false := by
  rw [innermost?, smallest?_eq_none_iff]

/-- The unit that is found is the innermost one. -/
theorem innermost?_eq_some_iff {units : List CodeUnit} {line : Int} {i : Nat} :
    innermost? units line = some i ↔ IsInnermost units line i := by
  constructor
  · exact isInnermost_of_innermost?
  · intro h
    cases hf : innermost? units line with
    | none =>
        obtain ⟨u, hu, hcontains, -⟩ := h
        rw [innermost?_eq_none_iff.1 hf u (List.mem_of_getElem? hu)] at hcontains
        cases hcontains
    | some j => rw [(isInnermost_of_innermost? hf).unique h]

instance (units : List CodeUnit) (line : Int) (i : Nat) :
    Decidable (IsInnermost units line i) :=
  decidable_of_iff _ innermost?_eq_some_iff

/-! ## Counterparts -/

/-- The old unit lives on in no unit. -/
def IsGone (units : List CodeUnit) (old : CodeUnit) : Prop :=
  ∀ u ∈ units, u.isNamesake old = false

instance (units : List CodeUnit) (old : CodeUnit) : Decidable (IsGone units old) :=
  inferInstanceAs (Decidable (∀ u ∈ units, u.isNamesake old = false))

private theorem first?_eq_none_iff {key : CodeUnit → Nat} :
    first? key p us = none ↔ ∀ u ∈ us, p u = false := by
  rw [first?, Option.map_eq_none_iff, best?_eq_none_iff]

private theorem first?_eq_some {key : CodeUnit → Nat} {i : Nat} (h : first? key p us = some i) :
    ∃ u, us[i]? = some u ∧ p u = true := by
  obtain ⟨⟨i, u⟩, hb, rfl⟩ := Option.map_eq_some_iff.1 h
  exact ⟨u, best?_eq_some hb⟩

/-- An old unit has no counterpart exactly if it is gone. -/
theorem counterpart?_eq_none_iff {units : List CodeUnit} {old : CodeUnit} {position : Int} :
    counterpart? units old position = none ↔ IsGone units old := by
  rw [counterpart?]
  split
  · next i hi =>
      obtain ⟨u, hu, hp⟩ := first?_eq_some hi
      rw [Bool.and_eq_true] at hp
      simp only [reduceCtorEq, false_iff]
      intro hgone
      rw [hgone u (List.mem_of_getElem? hu)] at hp
      cases hp.1
  · exact first?_eq_none_iff

/-- The counterpart of an old unit is a namesake, and one at the given place if there is one. -/
theorem counterpart?_eq_some {units : List CodeUnit} {old : CodeUnit} {position : Int} {i : Nat}
    (h : counterpart? units old position = some i) :
    ∃ u, units[i]? = some u ∧ u.isNamesake old = true ∧
      ((∃ v ∈ units, v.isNamesake old = true ∧ v.span.contains position = true) →
        u.span.contains position = true) := by
  rw [counterpart?] at h
  split at h
  · next j hj =>
      cases h
      obtain ⟨u, hu, hp⟩ := first?_eq_some hj
      rw [Bool.and_eq_true] at hp
      exact ⟨u, hu, hp.1, fun _ => hp.2⟩
  · next hnone =>
      obtain ⟨u, hu, hp⟩ := first?_eq_some h
      refine ⟨u, hu, hp, ?_⟩
      -- the first search would have found a namesake at the place
      rintro ⟨v, hv, hname, hat⟩
      have hfalse := first?_eq_none_iff.1 hnone v hv
      rw [hname, hat] at hfalse
      cases hfalse

end DiffGauge.Attribution
