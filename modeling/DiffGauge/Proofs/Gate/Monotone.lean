import DiffGauge.Proofs.Sums
import DiffGauge.Proofs.Traversal
import DiffGauge.Settings.Checked

/-!
# More changes never pass where fewer fail

What a summary has of the thing that a limit is on is the sum of the shares of its changes. A
share is no less than nothing where a change has no negative number of lines and no weight is
negative, and checked settings have no such weight. So more changes have more of everything, in
whatever order they come, and a limit that fewer changes exceed they exceed as well.

* `actual_summarize` reads a summary as sums of shares, and `summarize_atMost` compares two;
* `violation?_mono` takes the comparison to one limit, `evaluate_mono` to all of them;
* `weights_nonneg` is what checking the settings comes to.
-/

namespace DiffGauge.Gate

/-! ## Sums of shares -/

/-- What a change adds to the thing that a limit is on. -/
def Limit.share (w : Weights) (c : Change) : Limit → Int
  | .prodUnits => if countsAsUnit c then 1 else 0
  | .weightedScore => w.of c.unit.purpose * c.total
  | .prodLines => if isProduction c then c.total else 0

/-- The shares of some changes are the number of them that count as units. -/
theorem total_share_prodUnits (w : Weights) (cs : List Change) :
    total (cs.map fun c => Limit.share w c .prodUnits) = (cs.countP countsAsUnit : Int) := by
  rw [total_eq_sum]
  induction cs with
  | nil => rfl
  | cons c cs ih =>
      rw [List.map_cons, List.sum_cons, ih, List.countP_cons, Limit.share]
      split
      · omega
      · omega

/-- The shares of some changes are the production lines among them, added and removed. -/
theorem total_share_prodLines (w : Weights) (cs : List Change) :
    total (cs.map fun c => Limit.share w c .prodLines)
      = total ((cs.filter isProduction).map (·.added))
        + total ((cs.filter isProduction).map (·.removed)) := by
  simp only [total_eq_sum]
  induction cs with
  | nil => rfl
  | cons c cs ih =>
      rw [List.map_cons, List.sum_cons, ih, Limit.share]
      by_cases hc : isProduction c = true
      · rw [if_pos hc, List.filter_cons_of_pos hc, List.map_cons, List.map_cons,
          List.sum_cons, List.sum_cons, Change.total]
        omega
      · rw [if_neg hc, List.filter_cons_of_neg hc, Int.zero_add]

/-- A summary has of each thing what its changes add to it. -/
theorem actual_summarize (w : Weights) (cs : List Change) (limit : Limit) :
    limit.actual (summarize w cs) = total (cs.map (Limit.share w · limit)) := by
  cases limit with
  | prodUnits => exact (total_share_prodUnits w cs).symm
  | weightedScore => rfl
  | prodLines => exact (total_share_prodLines w cs).symm

/-! ## Comparing summaries -/

/-- Neither number of lines is negative. -/
def LinesNonneg (c : Change) : Prop := 0 ≤ c.added ∧ 0 ≤ c.removed

instance (c : Change) : Decidable (LinesNonneg c) :=
  inferInstanceAs (Decidable (0 ≤ c.added ∧ 0 ≤ c.removed))

private theorem LinesNonneg.total_nonneg {c : Change} (h : LinesNonneg c) : 0 ≤ c.total :=
  Int.add_nonneg h.1 h.2

/-- Without negative weights no share is negative. -/
theorem Limit.share_nonneg {w : Weights} (hw : ∀ p, 0 ≤ w.of p) {c : Change} (hc : LinesNonneg c)
    (limit : Limit) : 0 ≤ limit.share w c := by
  cases limit with
  | prodUnits =>
      rw [Limit.share]
      split
      · exact Int.one_nonneg
      · exact Int.le_refl 0
  | weightedScore => exact Int.mul_nonneg (hw _) hc.total_nonneg
  | prodLines =>
      rw [Limit.share]
      split
      · exact hc.total_nonneg
      · exact Int.le_refl 0

/-- The first summary has no more than the second one of anything that a limit is on. -/
def Summary.AtMost (s t : Summary) : Prop := ∀ limit : Limit, limit.actual s ≤ limit.actual t

/-- A summary is at most itself. -/
theorem Summary.AtMost.refl (s : Summary) : s.AtMost s := fun _ => Int.le_refl _

/-- More changes have at least as much of everything, in whatever order they come. -/
theorem summarize_atMost {w : Weights} (hw : ∀ p, 0 ≤ w.of p) {xs ys zs : List Change}
    (hys : ∀ c ∈ ys, LinesNonneg c) (hzs : zs.Perm (xs ++ ys)) :
    (summarize w xs).AtMost (summarize w zs) := by
  intro limit
  have hmore : 0 ≤ total (ys.map (Limit.share w · limit)) := by
    refine List.sum_nonneg fun n hn => ?_
    obtain ⟨c, hc, rfl⟩ := List.mem_map.1 hn
    exact Limit.share_nonneg hw (hys c hc) limit
  calc limit.actual (summarize w xs)
      = total (xs.map (Limit.share w · limit)) := actual_summarize w xs limit
    _ ≤ total (xs.map (Limit.share w · limit)) + total (ys.map (Limit.share w · limit)) := by
        omega
    _ = total ((xs ++ ys).map (Limit.share w · limit)) := by
        rw [List.map_append, total_eq_sum, total_eq_sum, total_eq_sum, List.sum_append]
    _ = total (zs.map (Limit.share w · limit)) := (hzs.map _).sum_eq.symm
    _ = limit.actual (summarize w zs) := (actual_summarize w zs limit).symm

/-! ## Comparing limits -/

/-- The first bound is no larger than the second one. A bound that is not set is larger than all
    others. -/
def boundAtMost : Option Int → Option Int → Bool
  | _, none => true
  | none, some _ => false
  | some m, some n => m ≤ n

/-- No bound is larger than the one that the second limits set on the same thing. -/
def Limits.AtMost (l m : Limits) : Prop :=
  ∀ limit : Limit, boundAtMost (l.bound? limit) (m.bound? limit) = true

/-- Limits are at most themselves. -/
theorem Limits.AtMost.refl (l : Limits) : l.AtMost l := by
  intro limit
  cases h : l.bound? limit with
  | none => rfl
  | some n => exact decide_eq_true (Int.le_refl n)

/-- A limit is violated where its bound is set and exceeded. -/
theorem violation?_eq_some_iff {l : Limits} {s : Summary} {limit : Limit} {v : Violation} :
    l.violation? s limit = some v ↔
      ∃ maximum, l.bound? limit = some maximum ∧ maximum < limit.actual s ∧
        v = ⟨limit.text, limit.actual s, maximum⟩ := by
  rw [Limits.violation?]
  cases l.bound? limit with
  | none => simp
  | some maximum =>
      by_cases h : maximum < limit.actual s
      · simp [h, eq_comm]
      · simp [h]

/-- A limit that a summary exceeds is exceeded by every summary that has more, and where the bound
    is no larger. -/
theorem violation?_mono {l m : Limits} {s t : Summary} (hl : l.AtMost m) (hs : s.AtMost t)
    {limit : Limit} {v : Violation} (hv : m.violation? s limit = some v) :
    ∃ w, l.violation? t limit = some w ∧ w.limit = v.limit ∧ v.actual ≤ w.actual := by
  obtain ⟨maximum, hm, hexceeds, rfl⟩ := violation?_eq_some_iff.1 hv
  have hbound := hl limit
  rw [hm] at hbound
  cases hb : l.bound? limit with
  | none =>
      rw [hb] at hbound
      cases hbound
  | some least =>
      rw [hb] at hbound
      have hleast : least ≤ maximum := of_decide_eq_true hbound
      have hmore : limit.actual s ≤ limit.actual t := hs limit
      exact ⟨_, violation?_eq_some_iff.2 ⟨least, hb, by omega, rfl⟩, rfl, hmore⟩

/-- The same of all limits: each one that is violated stays so. -/
theorem evaluate_mono {l m : Limits} {s t : Summary} (hl : l.AtMost m) (hs : s.AtMost t) :
    ∀ v ∈ (evaluate m s).violations,
      ∃ w ∈ (evaluate l t).violations, w.limit = v.limit ∧ v.actual ≤ w.actual := by
  intro v hv
  obtain ⟨limit, hlimit, hviolation⟩ := List.mem_filterMap.1 hv
  obtain ⟨w, hw, hname, hactual⟩ := violation?_mono hl hs hviolation
  exact ⟨w, List.mem_filterMap.2 ⟨limit, hlimit, hw⟩, hname, hactual⟩

/-- Less does not fail where more passes. -/
theorem passed_mono {l m : Limits} {s t : Summary} (hl : l.AtMost m) (hs : s.AtMost t)
    (h : (evaluate l t).passed = true) : (evaluate m s).passed = true := by
  have hnone : (evaluate l t).violations = [] := List.isEmpty_iff.1 h
  refine List.isEmpty_iff.2 (List.eq_nil_iff_forall_not_mem.2 ?_)
  intro v hv
  obtain ⟨w, hw, -⟩ := evaluate_mono hl hs v hv
  rw [hnone] at hw
  cases hw

end DiffGauge.Gate

namespace DiffGauge.Settings

open Gate

/-! ## Checked settings -/

/-- A field is as demanded where it can be read. -/
theorem demanded_eq_ok_iff {α : Type} {d : Draft} {s : Section} {name : String}
    {demand : Demand} {read : Value → Option α} {a : α} :
    d.demanded s name demand read = .ok a ↔ read (d.get s name) = some a := by
  rw [Draft.demanded]
  cases read (d.get s name) with
  | none => simp
  | some b => simp

/-- The weight of a purpose is not negative. -/
theorem weightOf_nonneg {d : Draft} {p : Purpose} {w : Purpose × Int} (h : d.weightOf p = .ok w) :
    0 ≤ w.2 := by
  obtain ⟨n, hn, hw⟩ := bind_eq_ok_iff.1 h
  cases hw
  have hread := demanded_eq_ok_iff.1 hn
  exact of_decide_eq_true (Option.filter_eq_some_iff.1 hread).2

/-- Checked settings have the weights of all purposes, each of them read from its field. -/
theorem weights_of_check {d : Draft} {c : Checked} (h : d.check = .ok c) :
    List.Forall₂ (fun p w => d.weightOf p = .ok w) Purpose.all c.weights := by
  obtain ⟨units, -, h⟩ := bind_eq_ok_iff.1 h
  obtain ⟨score, -, h⟩ := bind_eq_ok_iff.1 h
  obtain ⟨lines, -, h⟩ := bind_eq_ok_iff.1 h
  obtain ⟨weights, hweights, h⟩ := bind_eq_ok_iff.1 h
  obtain ⟨format, -, h⟩ := bind_eq_ok_iff.1 h
  cases h
  exact mapM_eq_ok_iff.1 hweights

/-- In checked settings no purpose has a negative weight. -/
theorem weights_nonneg {d : Draft} {c : Checked} (h : d.check = .ok c) (p : Purpose) :
    0 ≤ c.weights.of p := by
  rw [Weights.of]
  cases hl : List.lookup p c.weights with
  | none => exact Int.le_refl 0
  | some n =>
      obtain ⟨before, behind, hsplit, -⟩ := List.lookup_eq_some_iff.1 hl
      have hmem : (p, n) ∈ c.weights := by
        rw [hsplit]
        exact List.mem_append_right _ List.mem_cons_self
      obtain ⟨q, -, hq⟩ := exists_of_mem_forall₂ (weights_of_check h) hmem
      exact weightOf_nonneg hq

end DiffGauge.Settings

namespace DiffGauge.Gate

open Settings

/-! ## The gate -/

/-- With checked settings, a limit that some changes exceed is exceeded by them and any others
    together, in whatever order they come, and by no less, as long as the others have no negative
    number of lines; and looser limits are violated only where tighter ones are. So more changes
    never pass where fewer fail. -/
theorem gate_monotone {d : Draft} {c : Checked} (hc : d.check = .ok c) {xs ys zs : List Change}
    (hlines : ∀ y ∈ ys, LinesNonneg y) (hzs : zs.Perm (xs ++ ys)) :
    (∀ v ∈ (evaluate c.limits (summarize c.weights xs)).violations,
        ∃ w ∈ (evaluate c.limits (summarize c.weights zs)).violations,
          w.limit = v.limit ∧ v.actual ≤ w.actual) ∧
      (∀ (looser : Limits), c.limits.AtMost looser → ∀ s,
        ∀ v ∈ (evaluate looser s).violations,
          ∃ w ∈ (evaluate c.limits s).violations, w.limit = v.limit) ∧
      ((evaluate c.limits (summarize c.weights zs)).passed = true →
        (evaluate c.limits (summarize c.weights xs)).passed = true) := by
  have hmore : (summarize c.weights xs).AtMost (summarize c.weights zs) :=
    summarize_atMost (weights_nonneg hc) hlines hzs
  refine ⟨evaluate_mono (.refl _) hmore, ?_, passed_mono (.refl _) hmore⟩
  intro looser hloose s v hv
  obtain ⟨w, hw, hname, -⟩ := evaluate_mono hloose (.refl s) v hv
  exact ⟨w, hw, hname⟩

/-- A change of a production function that adds some lines. -/
def growth (name : String) (added : Int) : Change :=
  { file := "src/lib.rs"
    unit :=
      { kind := some .function, name, visibility := .inside
        span := .clamped 1 added, purpose := .production }
    kind := .added
    added
    removed := 0 }

/-- The default settings after checking. -/
def defaultSettings : Checked :=
  { draft := .default
    limits := {}
    weights := Purpose.all.map fun p => (p, defaultWeight p)
    format := .terminal }

/-- A change in addition, where the weighted score is above its limit already. -/
theorem gate_monotone_of_growth :
    Draft.default.check = .ok defaultSettings ∧
      (∀ y ∈ [growth "c" 5], LinesNonneg y) ∧
      [growth "b" 20, growth "c" 5, growth "a" 20].Perm
        ([growth "a" 20, growth "b" 20] ++ [growth "c" 5]) ∧
      ⟨"max_weighted_score", 120, 100⟩ ∈ (evaluate defaultSettings.limits
        (summarize defaultSettings.weights [growth "a" 20, growth "b" 20])).violations ∧
      ∃ w ∈ (evaluate defaultSettings.limits (summarize defaultSettings.weights
          [growth "b" 20, growth "c" 5, growth "a" 20])).violations,
        w.limit = "max_weighted_score" ∧ 120 ≤ w.actual := by
  have hc : Draft.default.check = .ok defaultSettings := rfl
  have hlines : ∀ y ∈ [growth "c" 5], LinesNonneg y := by decide
  have hperm : [growth "b" 20, growth "c" 5, growth "a" 20].Perm
      ([growth "a" 20, growth "b" 20] ++ [growth "c" 5]) := by decide
  have hviolated : ⟨"max_weighted_score", 120, 100⟩ ∈ (evaluate defaultSettings.limits
      (summarize defaultSettings.weights [growth "a" 20, growth "b" 20])).violations := by
    decide
  exact ⟨hc, hlines, hperm, hviolated, (gate_monotone hc hlines hperm).1 _ hviolated⟩

end DiffGauge.Gate
