import DiffGauge.Proofs.Traversal

/-!
# Sorting by a number

A stable sort by a number keeps the items that have one number in their order, and a sorted list is
made up of the items of each number. So two lists can be sorted side by side: where their items go
together number by number, those of the sorted lists go together from first to last.

* `filter_mergeSort` says that the sort is stable;
* `forall₂_of_sorted` puts two sorted lists together, and `forall₂_mergeSort` two lists that are to
  be sorted.
-/

namespace DiffGauge

section Key

variable {α : Type} (key : α → Nat)

/-- The order by a key is transitive. -/
theorem key_trans (x y z : α) (hxy : decide (key x ≤ key y) = true)
    (hyz : decide (key y ≤ key z) = true) : decide (key x ≤ key z) = true :=
  decide_eq_true (Nat.le_trans (of_decide_eq_true hxy) (of_decide_eq_true hyz))

/-- The order by a key is total. -/
theorem key_total (x y : α) : (decide (key x ≤ key y) || decide (key y ≤ key x)) = true := by
  rw [Bool.or_eq_true]
  exact (Nat.le_total _ _).imp decide_eq_true decide_eq_true

/-- A list that is sorted by a key is in its order. -/
theorem pairwise_mergeSort (xs : List α) :
    (xs.mergeSort fun x y => key x ≤ key y).Pairwise fun x y => key x ≤ key y :=
  (List.pairwise_mergeSort (key_trans key) (key_total key) xs).imp of_decide_eq_true

/-- The items that have one number keep their order. -/
theorem filter_mergeSort (xs : List α) (n : Nat) :
    (xs.mergeSort fun x y => key x ≤ key y).filter (fun x => key x == n)
      = xs.filter fun x => key x == n := by
  have hequal : (xs.filter fun x => key x == n).Pairwise
      fun x y => decide (key x ≤ key y) = true := by
    refine List.pairwise_of_forall_mem_list fun x hx y hy => ?_
    have hx : key x = n := eq_of_beq (List.mem_filter.1 hx).2
    have hy : key y = n := eq_of_beq (List.mem_filter.1 hy).2
    exact decide_eq_true (Nat.le_of_eq (hx.trans hy.symm))
  -- they are sorted as they stand, so they are a sublist of the sorted list
  have hsub := (List.sublist_mergeSort (key_trans key) (key_total key) hequal
    List.filter_sublist).filter fun x => key x == n
  rw [List.filter_filter] at hsub
  simp only [Bool.and_self] at hsub
  have hperm := (List.mergeSort_perm xs fun x y => key x ≤ key y).filter fun x => key x == n
  exact (hsub.eq_of_length hperm.length_eq.symm).symm

end Key

variable {α β : Type} {R : α → β → Prop} {f : α → Nat} {g : β → Nat}

/-- Lists of one length go together if every item goes with every other one. -/
theorem forall₂_of_length_eq {xs : List α} {ys : List β} (hlen : xs.length = ys.length)
    (h : ∀ x ∈ xs, ∀ y ∈ ys, R x y) : List.Forall₂ R xs ys :=
  List.forall₂_of_length_eq_of_get hlen fun _ _ _ => h _ (List.get_mem ..) _ (List.get_mem ..)

/-- A list whose items go with some of the items of a sorted list begins no earlier. -/
theorem key_le_of_forall₂ {x : α} {y : β} {xs : List α} {ys : List β}
    (hys : (y :: ys).Pairwise fun y y' => g y ≤ g y')
    (h : List.Forall₂ R ((x :: xs).filter fun x' => f x' == f x)
      ((y :: ys).filter fun y' => g y' == f x)) : g y ≤ f x := by
  have hx : x ∈ (x :: xs).filter fun x' => f x' == f x :=
    List.mem_filter.2 ⟨List.mem_cons_self, beq_self_eq_true _⟩
  obtain ⟨y', hy', -⟩ := exists_of_mem_forall₂ h.flip hx
  obtain ⟨hmem, hkey⟩ := List.mem_filter.1 hy'
  rw [← eq_of_beq hkey]
  rcases List.mem_cons.1 hmem with rfl | hmem
  · exact Nat.le_refl _
  · exact List.rel_of_pairwise_cons hys hmem

/-- Sorted lists whose items go together number by number go together. -/
theorem forall₂_of_sorted {xs : List α} {ys : List β}
    (hxs : xs.Pairwise fun x x' => f x ≤ f x') (hys : ys.Pairwise fun y y' => g y ≤ g y')
    (h : ∀ n, List.Forall₂ R (xs.filter fun x => f x == n) (ys.filter fun y => g y == n)) :
    List.Forall₂ R xs ys := by
  induction xs generalizing ys with
  | nil =>
      cases ys with
      | nil => exact .nil
      | cons y ys =>
          have hy := h (g y)
          rw [List.filter_cons_of_pos (by simp)] at hy
          cases hy
  | cons x xs ih =>
      cases ys with
      | nil =>
          have hx := h (f x)
          rw [List.filter_cons_of_pos (by simp)] at hx
          cases hx
      | cons y ys =>
          -- both lists begin with their least number, and it is the same one
          have heq : g y = f x := Nat.le_antisymm (key_le_of_forall₂ hys (h (f x)))
            (key_le_of_forall₂ hxs (h (g y)).flip)
          have hfirst := h (f x)
          rw [List.filter_cons_of_pos (by simp), List.filter_cons_of_pos (by simp [heq])] at hfirst
          obtain ⟨hxy, hrest⟩ := List.forall₂_cons.1 hfirst
          refine .cons hxy (ih hxs.of_cons hys.of_cons fun n => ?_)
          by_cases hn : f x = n
          · exact hn ▸ hrest
          · have hother := h n
            rw [List.filter_cons_of_neg (by simpa using hn),
              List.filter_cons_of_neg (by simpa [heq] using hn)] at hother
            exact hother

/-- Lists whose items go together number by number go together when they are sorted. -/
theorem forall₂_mergeSort {xs : List α} {ys : List β}
    (h : ∀ n, List.Forall₂ R (xs.filter fun x => f x == n) (ys.filter fun y => g y == n)) :
    List.Forall₂ R (xs.mergeSort fun x x' => f x ≤ f x') (ys.mergeSort fun y y' => g y ≤ g y') := by
  refine forall₂_of_sorted (pairwise_mergeSort f xs) (pairwise_mergeSort g ys) fun n => ?_
  rw [filter_mergeSort, filter_mergeSort]
  exact h n

end DiffGauge
