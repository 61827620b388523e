import Mathlib.Algebra.BigOperators.Fin
import Mathlib.Algebra.Order.BigOperators.Group.Finset
import Mathlib.Data.List.FinRange

/-! # Families of lists

    Finitely many lists that together hold some items: the queues of a receiver,
    say. Items are counted over all lists.
-/

namespace Family

/-- The lists of a family, one after the other. -/
def all {n : Nat} (f : Fin n → List α) : List α := (List.finRange n).flatMap f

@[simp] theorem all_nil {n : Nat} : all (fun _ : Fin n => ([] : List α)) = [] := by
  simp [all]

variable [DecidableEq α] {n : Nat}

theorem count_all (f : Fin n → List α) (x : α) : (all f).count x = ∑ i, (f i).count x := by
  rw [all, List.count_flatMap, Fin.sum_univ_def]
  rfl

/-- Replacing one list exchanges its items. -/
theorem count_all_update (f : Fin n → List α) (i : Fin n) (xs : List α) (x : α) :
    (all (Function.update f i xs)).count x + (f i).count x = (all f).count x + xs.count x := by
  have hrest : ∑ j ∈ Finset.univ.erase i, (Function.update f i xs j).count x =
      ∑ j ∈ Finset.univ.erase i, (f j).count x := by
    apply Finset.sum_congr rfl
    intro j hj
    rw [Function.update_of_ne (Finset.ne_of_mem_erase hj)]
  rw [count_all, count_all, ← Finset.add_sum_erase _ _ (Finset.mem_univ i), hrest,
    ← Finset.add_sum_erase _ (fun j => (f j).count x) (Finset.mem_univ i), Function.update_self]
  omega

/-- A family of parts holds no more than the family does. -/
theorem count_all_le {f g : Fin n → List α} (h : ∀ i, (f i).Sublist (g i)) (x : α) :
    (all f).count x ≤ (all g).count x := by
  rw [count_all, count_all]
  exact Finset.sum_le_sum fun i _ => (h i).count_le x

end Family
