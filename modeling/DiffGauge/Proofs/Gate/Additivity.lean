import DiffGauge.Gate.Summary
import DiffGauge.Proofs.Sums

/-!
# Summaries add up

The summary of some changes followed by others has of everything what the two summaries have
together. So a summary may be made piece by piece, one change at a time at the least, and the order
of the changes does not matter.

* `count_summarize` reads a count of a summary, `countsOf_nodup` and `mem_countsOf` say that the
  counts are a mapping without zeros;
* `including_isSumOf` is one change put into a summary, `foldl_including_isSumOf` a run of them;
* `summarize_append` and `summarize_perm` are about splitting and ordering changes;
* `totalChanges_summarize`, `weightedScore_summarize` and `prodUnits_le_counts` say what the numbers
  of a summary come to.
-/

namespace DiffGauge.Gate

/-! ## Counts -/

/-- The change is of a purpose and a kind. -/
def isOf (p : Purpose) (k : ChangeKind) (c : Change) : Bool := c.unit.purpose == p && c.kind == k

/-- The entry of a purpose and a kind among the counts. -/
def countFor? (cs : List Change) : Purpose × ChangeKind → Option Count
  | (p, k) =>
      match cs.countP (isOf p k) with
      | 0 => none
      | n => some ⟨p, k, n⟩

private theorem countsOf_eq (cs : List Change) :
    countsOf cs = countKeys.filterMap (countFor? cs) := rfl

private theorem countFor?_eq_some_iff {cs : List Change} {key : Purpose × ChangeKind} {c : Count} :
    countFor? cs key = some c ↔
      key = (c.purpose, c.kind) ∧ c.number = (cs.countP (isOf key.1 key.2) : Int) ∧
        0 < c.number := by
  obtain ⟨p, k⟩ := key
  obtain ⟨q, l, number⟩ := c
  simp only [countFor?, Prod.mk.injEq]
  split
  · next hzero =>
      rw [hzero]
      constructor
      · exact fun h => nomatch h
      · omega
  · next n hn =>
      rw [Option.some.injEq, Count.mk.injEq]
      constructor
      · rintro ⟨rfl, rfl, rfl⟩
        exact ⟨⟨rfl, rfl⟩, rfl, Int.natCast_pos.2 (Nat.pos_of_ne_zero hn)⟩
      · rintro ⟨⟨rfl, rfl⟩, rfl, -⟩
        exact ⟨rfl, rfl, rfl⟩

/-- The number of an entry, or zero without one, is the number of changes. -/
theorem countFor?_number (cs : List Change) (p : Purpose) (k : ChangeKind) :
    ((countFor? cs (p, k)).map (·.number)).getD 0 = (cs.countP (isOf p k) : Int) := by
  rw [countFor?]
  split
  · next hzero =>
      rw [hzero]
      rfl
  · rfl

private theorem mem_countKeys (p : Purpose) (k : ChangeKind) : (p, k) ∈ countKeys :=
  List.mem_flatMap.2 ⟨p, p.mem_all, List.mem_map.2 ⟨k, k.mem_all, rfl⟩⟩

/-- The counts are those of the changes there are. -/
theorem mem_countsOf {cs : List Change} {c : Count} :
    c ∈ countsOf cs ↔ c.number = (cs.countP (isOf c.purpose c.kind) : Int) ∧ 0 < c.number := by
  rw [countsOf_eq, List.mem_filterMap]
  constructor
  · rintro ⟨key, -, hentry⟩
    obtain ⟨rfl, hnumber⟩ := countFor?_eq_some_iff.1 hentry
    exact hnumber
  · exact fun h => ⟨_, mem_countKeys c.purpose c.kind, countFor?_eq_some_iff.2 ⟨rfl, h⟩⟩

/-- No purpose and kind are counted twice. -/
theorem countsOf_nodup (cs : List Change) :
    ((countsOf cs).map fun c => (c.purpose, c.kind)).Nodup := by
  have hkeys : countKeys.Nodup := by decide
  have hcounts : (countsOf cs).Nodup := by
    rw [countsOf_eq]
    refine hkeys.filterMap fun key key' c hc hc' => ?_
    rw [(countFor?_eq_some_iff.1 hc).1, (countFor?_eq_some_iff.1 hc').1]
  refine hcounts.map_on fun c hc d hd hkey => ?_
  obtain ⟨hpurpose, hkind⟩ := Prod.mk.inj hkey
  have hnumber : c.number = d.number := by
    rw [(mem_countsOf.1 hc).1, (mem_countsOf.1 hd).1, hpurpose, hkind]
  obtain ⟨p, k, n⟩ := c
  obtain ⟨q, l, m⟩ := d
  rw [Count.mk.injEq]
  exact ⟨hpurpose, hkind, hnumber⟩

/-- A summary has of each purpose and kind the number of its changes. -/
theorem count_summarize (w : Weights) (cs : List Change) (p : Purpose) (k : ChangeKind) :
    (summarize w cs).count p k = (cs.countP (isOf p k) : Int) := by
  rw [Summary.count]
  split
  · next c hfound =>
      have hkey := List.find?_some hfound
      rw [Bool.and_eq_true, beq_iff_eq, beq_iff_eq] at hkey
      obtain ⟨rfl, rfl⟩ := hkey
      exact (mem_countsOf.1 (List.mem_of_find?_eq_some hfound)).1
  · next hnone =>
      -- changes that there are would be among the counts
      by_contra hne
      have hmem : (⟨p, k, cs.countP (isOf p k)⟩ : Count) ∈ countsOf cs := by
        refine mem_countsOf.2 ⟨rfl, ?_⟩
        dsimp only
        omega
      have hkey := List.find?_eq_none.1 hnone _ hmem
      rw [beq_self_eq_true, beq_self_eq_true] at hkey
      exact hkey rfl

/-! ## Sums of summaries -/

/-- The summary has of everything what two others have together. -/
structure Summary.IsSumOf (s a b : Summary) : Prop where
  count : ∀ p k, s.count p k = a.count p k + b.count p k
  weightedScore : s.weightedScore = a.weightedScore + b.weightedScore
  prodUnits : s.prodUnits = a.prodUnits + b.prodUnits
  prodAdded : s.prodAdded = a.prodAdded + b.prodAdded
  prodRemoved : s.prodRemoved = a.prodRemoved + b.prodRemoved
  totalAdded : s.totalAdded = a.totalAdded + b.totalAdded
  totalRemoved : s.totalRemoved = a.totalRemoved + b.totalRemoved

/-- Changes in two lists are summed up apart. -/
theorem summarize_append (w : Weights) (xs ys : List Change) :
    (summarize w (xs ++ ys)).IsSumOf (summarize w xs) (summarize w ys) where
  count p k := by
    simp only [count_summarize, List.countP_append]
    exact Int.natCast_add _ _
  weightedScore := by simp only [summarize, List.map_append, total_eq_sum, List.sum_append]
  prodUnits := by
    simp only [summarize, List.countP_append]
    exact Int.natCast_add _ _
  prodAdded := by
    simp only [summarize, List.filter_append, List.map_append, total_eq_sum, List.sum_append]
  prodRemoved := by
    simp only [summarize, List.filter_append, List.map_append, total_eq_sum, List.sum_append]
  totalAdded := by simp only [summarize, List.map_append, total_eq_sum, List.sum_append]
  totalRemoved := by simp only [summarize, List.map_append, total_eq_sum, List.sum_append]

private theorem countsOf_perm {xs ys : List Change} (h : xs.Perm ys) :
    countsOf xs = countsOf ys := by
  have hentry : countFor? xs = countFor? ys := by
    funext ⟨p, k⟩
    simp only [countFor?, h.countP_eq]
  rw [countsOf_eq, countsOf_eq, hentry]

/-- The order of the changes does not matter. -/
theorem summarize_perm {w : Weights} {xs ys : List Change} (h : xs.Perm ys) :
    summarize w xs = summarize w ys := by
  have hprod := h.filter isProduction
  simp only [summarize, total_eq_sum, countsOf_perm h, h.countP_eq, (h.map _).sum_eq,
    (hprod.map _).sum_eq]

/-! ## One change at a time -/

/-- The counts with one more of the purpose and kind of a change. -/
def counting (c : Change) : List Count → List Count
  | [] => [⟨c.unit.purpose, c.kind, 1⟩]
  | d :: ds =>
      if isOf d.purpose d.kind c then { d with number := d.number + 1 } :: ds
      else d :: counting c ds

/-- The summary with one more change. -/
def Summary.including (w : Weights) (s : Summary) (c : Change) : Summary :=
  { counts := counting c s.counts
    weightedScore := s.weightedScore + w.of c.unit.purpose * c.total
    prodUnits := if countsAsUnit c then s.prodUnits + 1 else s.prodUnits
    prodAdded := if isProduction c then s.prodAdded + c.added else s.prodAdded
    prodRemoved := if isProduction c then s.prodRemoved + c.removed else s.prodRemoved
    totalAdded := s.totalAdded + c.added
    totalRemoved := s.totalRemoved + c.removed }

/-- What it is for a change to be of a purpose and a kind. -/
theorem isOf_iff {p : Purpose} {k : ChangeKind} {c : Change} :
    isOf p k c = true ↔ c.unit.purpose = p ∧ c.kind = k := by
  rw [isOf, Bool.and_eq_true, beq_iff_eq, beq_iff_eq]

/-- What some counts have for a purpose and a kind. -/
def numberIn (counts : List Count) (p : Purpose) (k : ChangeKind) : Int :=
  match counts.find? fun c => c.purpose == p && c.kind == k with
  | some c => c.number
  | none => 0

private theorem numberIn_cons (d : Count) (ds : List Count) (p : Purpose) (k : ChangeKind) :
    numberIn (d :: ds) p k
      = if d.purpose = p ∧ d.kind = k then d.number else numberIn ds p k := by
  by_cases hkey : d.purpose = p ∧ d.kind = k
  · have hfound : (d.purpose == p && d.kind == k) = true := by
      rw [hkey.1, hkey.2, beq_self_eq_true, beq_self_eq_true]
      rfl
    rw [if_pos hkey, numberIn, List.find?_cons, hfound]
  · have hpassed : (d.purpose == p && d.kind == k) = false := by
      rw [← Bool.not_eq_true, Bool.and_eq_true, beq_iff_eq, beq_iff_eq]
      exact hkey
    rw [if_neg hkey, numberIn, List.find?_cons, hpassed]
    rfl

/-- Only the count of the change's purpose and kind grows. -/
theorem numberIn_counting (c : Change) (counts : List Count) (p : Purpose) (k : ChangeKind) :
    numberIn (counting c counts) p k = numberIn counts p k + if isOf p k c then 1 else 0 := by
  induction counts with
  | nil =>
      rw [counting, numberIn_cons]
      simp only [isOf_iff]
      exact (Int.zero_add _).symm
  | cons d ds ih =>
      rw [counting]
      by_cases hc : isOf d.purpose d.kind c = true
      · obtain ⟨hpurpose, hkind⟩ := isOf_iff.1 hc
        rw [if_pos hc, numberIn_cons, numberIn_cons]
        simp only [isOf_iff, hpurpose, hkind]
        split
        · rfl
        · exact (Int.add_zero _).symm
      · rw [if_neg hc, numberIn_cons, numberIn_cons, ih]
        split
        · next hkey =>
            obtain ⟨rfl, rfl⟩ := hkey
            rw [if_neg hc, Int.add_zero]
        · rfl

/-- The production changes among one. -/
theorem total_production_singleton (c : Change) (lines : Change → Int) :
    total (([c].filter isProduction).map lines) = if isProduction c then lines c else 0 := by
  rw [List.filter_cons]
  split
  · exact Int.add_zero _
  · rfl

/-- One more change adds what it comes to alone. -/
theorem including_isSumOf (w : Weights) (s : Summary) (c : Change) :
    (s.including w c).IsSumOf s (summarize w [c]) where
  count p k := by
    rw [count_summarize, List.countP_singleton]
    show numberIn (counting c s.counts) p k = numberIn s.counts p k + _
    rw [numberIn_counting]
    split <;> rfl
  weightedScore := by
    show _ = s.weightedScore + (w.of c.unit.purpose * c.total + 0)
    rw [Int.add_zero]
    rfl
  prodUnits := by
    simp only [Summary.including, summarize, List.countP_singleton]
    split
    · rfl
    · exact (Int.add_zero _).symm
  prodAdded := by
    simp only [Summary.including, summarize, total_production_singleton]
    split
    · rfl
    · exact (Int.add_zero _).symm
  prodRemoved := by
    simp only [Summary.including, summarize, total_production_singleton]
    split
    · rfl
    · exact (Int.add_zero _).symm
  totalAdded := congrArg (s.totalAdded + ·) (Int.add_zero c.added).symm
  totalRemoved := congrArg (s.totalRemoved + ·) (Int.add_zero c.removed).symm

private theorem Summary.IsSumOf.assoc
    {s t a b ab r : Summary} (hr : r.IsSumOf t b) (ht : t.IsSumOf s a)
    (hab : ab.IsSumOf a b) : r.IsSumOf s ab where
  count p k := by rw [hr.count, ht.count, hab.count, Int.add_assoc]
  weightedScore := by rw [hr.weightedScore, ht.weightedScore, hab.weightedScore, Int.add_assoc]
  prodUnits := by rw [hr.prodUnits, ht.prodUnits, hab.prodUnits, Int.add_assoc]
  prodAdded := by rw [hr.prodAdded, ht.prodAdded, hab.prodAdded, Int.add_assoc]
  prodRemoved := by rw [hr.prodRemoved, ht.prodRemoved, hab.prodRemoved, Int.add_assoc]
  totalAdded := by rw [hr.totalAdded, ht.totalAdded, hab.totalAdded, Int.add_assoc]
  totalRemoved := by rw [hr.totalRemoved, ht.totalRemoved, hab.totalRemoved, Int.add_assoc]

/-- No changes add nothing. -/
theorem isSumOf_nil (w : Weights) (s : Summary) : s.IsSumOf s (summarize w []) where
  count p k := by
    rw [count_summarize]
    exact (Int.add_zero _).symm
  weightedScore := (Int.add_zero _).symm
  prodUnits := (Int.add_zero _).symm
  prodAdded := (Int.add_zero _).symm
  prodRemoved := (Int.add_zero _).symm
  totalAdded := (Int.add_zero _).symm
  totalRemoved := (Int.add_zero _).symm

/-- Changes put into a summary one after the other add what they come to. -/
theorem foldl_including_isSumOf (w : Weights) (s : Summary) (cs : List Change) :
    (cs.foldl (Summary.including w) s).IsSumOf s (summarize w cs) := by
  induction cs generalizing s with
  | nil => exact isSumOf_nil w s
  | cons c cs ih =>
      exact (ih (s.including w c)).assoc (including_isSumOf w s c) (summarize_append w [c] cs)

/-! ## What the numbers come to -/

/-- Every change is of one purpose and kind. -/
theorem sum_isOf (c : Change) :
    (countKeys.map fun key => if isOf key.1 key.2 c then (1 : Int) else 0).sum = 1 := by
  obtain ⟨file, ⟨kind, name, visibility, span, purpose⟩, change, added, removed⟩ := c
  cases purpose <;> cases change <;> rfl

/-- The changes of all purposes and kinds are all changes. -/
theorem sum_countP_isOf (cs : List Change) :
    (countKeys.map fun key => (cs.countP (isOf key.1 key.2) : Int)).sum = cs.length := by
  induction cs with
  | nil => rfl
  | cons c cs ih =>
      have hstep : (fun key : Purpose × ChangeKind => ((c :: cs).countP (isOf key.1 key.2) : Int))
          = fun key => (cs.countP (isOf key.1 key.2) : Int)
              + if isOf key.1 key.2 c then 1 else 0 := by
        funext key
        rw [List.countP_cons]
        split
        · exact Int.natCast_add _ _
        · exact Int.natCast_add _ _
      rw [hstep, List.sum_map_add, ih, sum_isOf, List.length_cons]
      exact (Int.natCast_add _ _).symm

/-- There are as many changes in a summary as were summed up. -/
theorem totalChanges_summarize (w : Weights) (cs : List Change) :
    (summarize w cs).totalChanges = cs.length := by
  rw [← sum_countP_isOf]
  show total ((countsOf cs).map (·.number)) = _
  rw [countsOf_eq, total_eq_sum, sum_map_filterMap]
  exact congrArg List.sum (List.map_congr_left fun key _ => countFor?_number cs key.1 key.2)

/-- The lines of the changes of a purpose. -/
def linesOf (p : Purpose) (cs : List Change) : Int :=
  total ((cs.filter fun c => c.unit.purpose == p).map Change.total)

private theorem linesOf_cons (p : Purpose) (c : Change) (cs : List Change) :
    linesOf p (c :: cs) = (if c.unit.purpose == p then c.total else 0) + linesOf p cs := by
  rw [linesOf, List.filter_cons]
  split
  · rfl
  · exact (Int.zero_add _).symm

/-- One change has lines of its own purpose only. -/
theorem sum_weighted (w : Weights) (c : Change) :
    (Purpose.all.map fun p => w.of p * if c.unit.purpose == p then c.total else 0).sum
      = w.of c.unit.purpose * c.total := by
  generalize c.unit.purpose = q
  cases q <;> simp [Purpose.all]

/-- The score is the lines of each purpose, with the weight of the purpose. -/
theorem weightedScore_summarize (w : Weights) (cs : List Change) :
    (summarize w cs).weightedScore = total (Purpose.all.map fun p => w.of p * linesOf p cs) := by
  show total (cs.map fun c => w.of c.unit.purpose * c.total) = _
  induction cs with
  | nil =>
      show (0 : Int) = total (Purpose.all.map fun p => w.of p * 0)
      simp only [Int.mul_zero]
      rfl
  | cons c cs ih =>
      simp only [total_eq_sum] at ih ⊢
      simp only [linesOf_cons, Int.mul_add, List.sum_map_add, sum_weighted, List.map_cons,
        List.sum_cons, ih]

/-- A change that counts as a unit is of production code, added or modified. -/
theorem isOf_of_countsAsUnit {c : Change} (h : countsAsUnit c = true) :
    isOf .production .added c = true ∨ isOf .production .modified c = true := by
  rw [countsAsUnit, Bool.and_eq_true, Bool.and_eq_true, Bool.or_eq_true] at h
  obtain ⟨⟨hproduction, -⟩, hkind | hkind⟩ := h
  · exact .inl (Bool.and_eq_true_iff.2 ⟨hproduction, hkind⟩)
  · exact .inr (Bool.and_eq_true_iff.2 ⟨hproduction, hkind⟩)

/-- What has one of two properties is counted for one of them. -/
theorem countP_le_add {α : Type} {p q r : α → Bool}
    (h : ∀ x, p x = true → q x = true ∨ r x = true) (xs : List α) :
    xs.countP p ≤ xs.countP q + xs.countP r := by
  induction xs with
  | nil => exact Nat.le_refl 0
  | cons x xs ih =>
      simp only [List.countP_cons]
      by_cases hx : p x = true
      · rcases h x hx with hqr | hqr
        · rw [if_pos hx, if_pos hqr]
          omega
        · rw [if_pos hx, if_pos hqr]
          omega
      · rw [if_neg hx]
        omega

/-- No more units count than production changes are additions or modifications. -/
theorem prodUnits_le_counts (w : Weights) (cs : List Change) :
    (summarize w cs).prodUnits
      ≤ (summarize w cs).count .production .added
        + (summarize w cs).count .production .modified := by
  rw [count_summarize, count_summarize]
  exact Int.ofNat_le.2 (countP_le_add (fun _ => isOf_of_countsAsUnit) cs)

/-! ## Aggregation -/

/-- **Aggregation is additive and free of order**, whatever the weights are: a summary of changes
    and more changes has the sum of everything, and so has a summary into which they are put one
    after the other; the order does not matter; the counts are a mapping without zeros and come to
    the number of changes; the score is the lines of each purpose with its weight; and no more units
    count than production changes are additions or modifications. -/
theorem summarize_additive (w : Weights) (xs ys : List Change) :
    (summarize w (xs ++ ys)).IsSumOf (summarize w xs) (summarize w ys) ∧
      (∀ s, (xs.foldl (Summary.including w) s).IsSumOf s (summarize w xs)) ∧
      (∀ zs, xs.Perm zs → summarize w zs = summarize w xs) ∧
      ((summarize w xs).counts.map fun c => (c.purpose, c.kind)).Nodup ∧
      (∀ c ∈ (summarize w xs).counts, 0 < c.number) ∧
      (summarize w xs).totalChanges = xs.length ∧
      (summarize w xs).weightedScore
        = total (Purpose.all.map fun p => (List.lookup p w).getD 0 * linesOf p xs) ∧
      (summarize w xs).prodUnits
        ≤ (summarize w xs).count .production .added
          + (summarize w xs).count .production .modified := by
  refine ⟨summarize_append w xs ys, fun s => foldl_including_isSumOf w s xs,
    fun zs hzs => (summarize_perm hzs).symm, countsOf_nodup xs, ?_,
    totalChanges_summarize w xs, weightedScore_summarize w xs, prodUnits_le_counts w xs⟩
  exact fun c hc => (mem_countsOf.1 hc).2

/-- A change of a function. -/
def edit (purpose : Purpose) (kind : ChangeKind) (added removed : Int) : Change :=
  { file := "src/lib.rs"
    unit :=
      { kind := some .function, name := "f", visibility := .inside
        span := .clamped 1 added, purpose }
    kind
    added
    removed }

/-- Two changes in either order. -/
theorem summarize_additive_of_swap :
    [edit .test .modified 3 2, edit .production .added 4 0].Perm
        [edit .production .added 4 0, edit .test .modified 3 2] ∧
      summarize [(.production, 3)] [edit .production .added 4 0, edit .test .modified 3 2]
        = summarize [(.production, 3)] [edit .test .modified 3 2, edit .production .added 4 0] ∧
      (summarize [(.production, 3)] [edit .test .modified 3 2, edit .production .added 4 0]).counts
        = [⟨.production, .added, 1⟩, ⟨.test, .modified, 1⟩] := by
  have hswap : [edit .test .modified 3 2, edit .production .added 4 0].Perm
      [edit .production .added 4 0, edit .test .modified 3 2] := .swap _ _ _
  have hadditive := summarize_additive [(.production, 3)]
    [edit .test .modified 3 2, edit .production .added 4 0] []
  exact ⟨hswap, hadditive.2.2.1 _ hswap, rfl⟩

end DiffGauge.Gate
