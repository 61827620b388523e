import Mathlib.Data.List.Pairwise
import Mathlib.Order.Lattice

/-! # Lists that are ordered by a key

    A sorted multimap keeps its elements in the order of their keys, and those with the
    same key in the order in which they came. What is known of every two elements of such
    a list is kept by an insertion, if the new element is related to those before it and
    to those behind it.
-/

namespace Multimap

variable {α κ : Type} [LinearOrder κ] (key : α → κ)

/-- Insert an element in front of the first one with a greater key. -/
def emplace (x : α) : List α → List α
  | [] => [x]
  | y :: ys => if key x < key y then x :: y :: ys else y :: emplace x ys

theorem emplace_perm (x : α) (l : List α) : (emplace key x l).Perm (x :: l) := by
  induction l with
  | nil => exact .refl _
  | cons y ys ih =>
    rw [emplace]
    split
    · exact .refl _
    · exact (ih.cons y).trans (.swap x y ys)

theorem mem_emplace {x y : α} {l : List α} : y ∈ emplace key x l ↔ y = x ∨ y ∈ l :=
  (emplace_perm key x l).mem_iff.trans List.mem_cons

/-- The elements in front have keys that are not greater, those behind have greater keys. -/
theorem pairwise_emplace {r : α → α → Prop} {x : α} {l : List α} (h : l.Pairwise r)
    (hsorted : ∀ a b, r a b → key a ≤ key b) (hfront : ∀ y ∈ l, key y ≤ key x → r y x)
    (hbehind : ∀ y ∈ l, key x < key y → r x y) : (emplace key x l).Pairwise r := by
  induction l with
  | nil => exact List.pairwise_singleton _ _
  | cons y ys ih =>
    rw [List.pairwise_cons] at h
    rw [emplace]
    split
    · next hlt =>
      -- all that follow have keys as great as the first
      refine List.pairwise_cons.mpr ⟨?_, List.pairwise_cons.mpr h⟩
      intro z hz
      apply hbehind z hz
      rcases List.mem_cons.mp hz with rfl | hz
      · exact hlt
      · exact lt_of_lt_of_le hlt (hsorted _ _ (h.1 z hz))
    · next hle =>
      refine List.pairwise_cons.mpr ⟨?_, ?_⟩
      · intro z hz
        rcases (mem_emplace key).mp hz with rfl | hz
        · exact hfront y List.mem_cons_self (le_of_not_gt hle)
        · exact h.1 z hz
      · apply ih h.2
        · intro z hz
          exact hfront z (List.mem_cons_of_mem _ hz)
        · intro z hz
          exact hbehind z (List.mem_cons_of_mem _ hz)

end Multimap
