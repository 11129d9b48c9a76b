import DiffGauge.Total
import Mathlib

/-!
# Totals as sums

Totals are the sums of the library. What is said here goes beyond it: sums over what is left of some
items, and over the places that begin a list.
-/

namespace DiffGauge

/-- The total is the sum. -/
theorem total_eq_sum (ns : List Int) : total ns = ns.sum := rfl

/-- The total count is the sum. -/
theorem totalCount_eq_sum (ns : List Nat) : totalCount ns = ns.sum := rfl

/-- What is left out counts nothing. -/
theorem sum_map_filterMap {α β : Type} (f : α → Option β) (g : β → Int) (xs : List α) :
    ((xs.filterMap f).map g).sum = (xs.map fun x => ((f x).map g).getD 0).sum := by
  induction xs with
  | nil => rfl
  | cons x xs ih =>
      cases hx : f x with
      | none =>
          rw [List.filterMap_cons_none hx, ih, List.map_cons, List.sum_cons, hx]
          exact (Int.zero_add _).symm
      | some y =>
          rw [List.filterMap_cons_some hx, List.map_cons, List.sum_cons, ih, List.map_cons,
            List.sum_cons, hx]
          rfl

/-- Lists that have no sum may be left out of one. -/
theorem sum_flatMap_filter {α : Type} {f : α → List Int} {kept : α → Bool}
    (h : ∀ x, ¬kept x = true → (f x).sum = 0) (xs : List α) :
    ((xs.filter kept).flatMap f).sum = (xs.flatMap f).sum := by
  induction xs with
  | nil => rfl
  | cons x xs ih =>
      rw [List.flatMap_cons, List.sum_append]
      by_cases hkept : kept x = true
      · rw [List.filter_cons_of_pos hkept, List.flatMap_cons, List.sum_append, ih]
      · rw [List.filter_cons_of_neg hkept, h x hkept, ih, Int.zero_add]

/-- One item stands at one of the places that begin a list, if it stands there at all. -/
theorem sum_indicator (i n : Nat) :
    ((List.range n).map fun k => if i = k then 1 else 0).sum = if i < n then 1 else 0 := by
  have h : (∑ k ∈ Finset.range n, if i = k then 1 else 0) = if i ∈ Finset.range n then 1 else 0 :=
    Finset.sum_ite_eq _ i fun _ => 1
  simp only [Finset.mem_range] at h
  exact h

end DiffGauge
