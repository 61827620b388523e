import Mathlib.Algebra.BigOperators.Group.List.Basic
import Mathlib.Tactic.Abel

/-! # Counts over lists

    How a sum or a count over a list changes when one element of it changes.
-/

namespace Counting

variable {α : Type u} {l : List α} {i : Nat} {a : α}

/-! ### Sums -/

theorem sum_map_set_add {M : Type v} [AddCommMonoid M] (h : l[i]? = some a) (b : α) (f : α → M) :
    ((l.set i b).map f).sum + f a = (l.map f).sum + f b := by
  induction l generalizing i with
  | nil => cases h
  | cons c l ih =>
    cases i with
    | zero =>
      cases h
      simp only [List.set_cons_zero, List.map_cons, List.sum_cons]
      abel
    | succ i =>
      have ih := ih h
      simp only [List.set_cons_succ, List.map_cons, List.sum_cons]
      rw [add_assoc, ih, add_assoc]

theorem modify_of_some (h : l[i]? = some a) (g : α → α) : l.modify i g = l.set i (g a) := by
  rw [List.modify_eq_set_getElem?, h]
  rfl

theorem modify_of_none (h : l[i]? = none) (g : α → α) : l.modify i g = l := by
  rw [List.modify_eq_set_getElem?, h]
  rfl

theorem sum_map_modify_add {M : Type v} [AddCommMonoid M] (h : l[i]? = some a) (g : α → α)
    (f : α → M) :
    ((l.modify i g).map f).sum + f a = (l.map f).sum + f (g a) := by
  rw [modify_of_some h]
  exact sum_map_set_add h _ f

/-- An element is part of the sum. -/
theorem le_sum_map (h : a ∈ l) (f : α → Nat) : f a ≤ (l.map f).sum := by
  induction l with
  | nil => cases h
  | cons c l ih =>
    rw [List.map_cons, List.sum_cons]
    rcases List.mem_cons.mp h with rfl | h
    · exact Nat.le_add_right _ _
    · exact Nat.le_trans (ih h) (Nat.le_add_left _ _)

/-! ### Counts -/

theorem countP_eq_sum_map (l : List α) (p : α → Bool) :
    l.countP p = (l.map fun a => (p a).toNat).sum := by
  induction l with
  | nil => rfl
  | cons a l ih =>
    rw [List.countP_cons, List.map_cons, List.sum_cons, ih, Nat.add_comm]
    cases p a <;> rfl

theorem countP_set_add (h : l[i]? = some a) (b : α) (p : α → Bool) :
    (l.set i b).countP p + (p a).toNat = l.countP p + (p b).toNat := by
  rw [countP_eq_sum_map, countP_eq_sum_map]
  exact sum_map_set_add h b fun a => (p a).toNat

theorem countP_modify_add (h : l[i]? = some a) (g : α → α) (p : α → Bool) :
    (l.modify i g).countP p + (p a).toNat = l.countP p + (p (g a)).toNat := by
  rw [modify_of_some h]
  exact countP_set_add h _ p

end Counting
