import Mathlib.Algebra.BigOperators.Group.List.Basic
import Mathlib.Tactic.Abel

/-! # Combining a sequence into one value

    A common way to hash a sequence combines the hash of the tail with a
    function of the head. When the combination is an addition, the order of the
    elements can only matter through the element that is treated differently: the
    last one, which ends the recursion.

    The lemmas hold over any commutative group, so they apply to machine words
    of every width.
-/

namespace Combine

variable {G : Type u} [AddCommGroup G]

/-- Combine from the right: the last element stands for itself, every other one
    adds `w` of it. -/
def combine (w : G → G) : List G → G
  | [] => 0
  | [x] => x
  | x :: y :: ys => combine w (y :: ys) + w x

/-- What the last element contributes beyond its symmetric share. -/
def excess (w : G → G) (x : G) : G := x - w x

@[simp] theorem combine_nil (w : G → G) : combine w [] = 0 := rfl

@[simp] theorem combine_singleton (w : G → G) (x : G) : combine w [x] = x := rfl

theorem combine_cons (w : G → G) (x : G) {ys : List G} (h : ys ≠ []) :
    combine w (x :: ys) = combine w ys + w x := by
  cases ys with
  | nil => exact absurd rfl h
  | cons y ys => rfl

/-- A combination is a symmetric sum plus the excess of the last element. -/
theorem combine_concat (w : G → G) (xs : List G) (a : G) :
    combine w (xs ++ [a]) = ((xs ++ [a]).map w).sum + excess w a := by
  induction xs with
  | nil => simp [excess]
  | cons x xs ih =>
    rw [List.cons_append, combine_cons w x (by simp), ih, List.map_cons, List.sum_cons]
    abel

/-- **Combining separates two orderings exactly by the last element.** -/
theorem combine_perm_eq_iff (w : G → G) {xs ys : List G} {a b : G}
    (h : (xs ++ [a]).Perm (ys ++ [b])) :
    combine w (xs ++ [a]) = combine w (ys ++ [b]) ↔ excess w a = excess w b := by
  rw [combine_concat, combine_concat, (h.map w).sum_eq]
  exact add_right_inj _

end Combine
