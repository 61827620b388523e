import Mathlib.Data.List.TakeWhile

/-! # Pairing a list from both ends

    The first element goes with the last one, the second with the last but one, and so on
    up to the middle. A scan over these pairs that stops at the first pair without some
    property finds all pairs with the property, if the property of a pair carries over to
    the pairs outside of it.
-/

namespace TwoEnded

variable {α : Type u}

/-- The pairs, from the outside to the inside. -/
def ends (xs : List α) : List (α × α) := (xs.zip xs.reverse).take (xs.length / 2)

@[simp] theorem length_ends (xs : List α) : (ends xs).length = xs.length / 2 := by
  simp [ends]
  omega

theorem getElem_ends {xs : List α} {i j : Nat} (h : i < (ends xs).length) (hi : i < xs.length)
    (hj : j < xs.length) (hends : i + j + 1 = xs.length) : (ends xs)[i] = (xs[i], xs[j]) := by
  have hlast : xs.length - 1 - i = j := by omega
  simp [ends, hlast]

/-- Element `i` goes with element `j` if they are equally far from the ends. -/
theorem drop_ends {xs : List α} {i j : Nat} (hij : i < j) (hj : j < xs.length)
    (hends : i + j + 1 = xs.length) :
    (ends xs).drop i = (xs[i], xs[j]) :: (ends xs).drop (i + 1) := by
  have hi : i < (ends xs).length := by
    rw [length_ends]
    omega
  rw [List.drop_eq_getElem_cons hi, getElem_ends hi (Nat.lt_trans hij hj) hj hends]

theorem drop_ends_nil {xs : List α} {i j : Nat} (hij : ¬ i < j) (hends : i + j + 1 = xs.length) :
    (ends xs).drop i = [] := by
  apply List.drop_of_length_le
  rw [length_ends]
  omega

/-! ### Every element is in one pair at most -/

theorem map_fst_ends (xs : List α) : (ends xs).map Prod.fst = xs.take (xs.length / 2) := by
  rw [ends, List.map_take, List.map_fst_zip (by simp)]

theorem map_snd_ends (xs : List α) :
    (ends xs).map Prod.snd = (xs.drop (xs.length - xs.length / 2)).reverse := by
  rw [ends, List.map_take, List.map_snd_zip (by simp), List.take_reverse]

theorem nodup_ends {xs : List α} (h : xs.Nodup) :
    ((ends xs).map Prod.fst ++ (ends xs).map Prod.snd).Nodup := by
  rw [map_fst_ends, map_snd_ends]
  -- the second half of the pairs is at the other side of the middle
  have hsplit : (xs.take (xs.length / 2) ++ xs.drop (xs.length - xs.length / 2)).Sublist xs := by
    calc xs.take (xs.length / 2) ++ xs.drop (xs.length - xs.length / 2)
        |>.Sublist (xs.take (xs.length / 2) ++ xs.drop (xs.length / 2)) :=
          (List.drop_sublist_drop_left xs (by omega)).append_left _
      _ = xs := List.take_append_drop _ _
  exact ((List.reverse_perm _).append_left _).nodup_iff.mpr (h.sublist hsplit)

theorem nodup_of_sublist_ends {xs : List α} (h : xs.Nodup) {ps : List (α × α)}
    (hsub : ps.Sublist (ends xs)) : (ps.map Prod.fst ++ ps.map Prod.snd).Nodup :=
  (nodup_ends h).sublist ((hsub.map _).append (hsub.map _))

/-! ### In a sorted list -/

section sorted

variable {r : α → α → Prop} {xs : List α}

theorem rel_of_mem_ends (h : xs.Pairwise r) : ∀ p ∈ ends xs, r p.1 p.2 := by
  intro p hp
  obtain ⟨i, hi, rfl⟩ := List.getElem_of_mem hp
  have hhalf := hi
  rw [length_ends] at hhalf
  have hlt : i < xs.length - 1 - i := by omega
  rw [getElem_ends hi (j := xs.length - 1 - i) (by omega) (by omega) (by omega)]
  exact List.pairwise_iff_getElem.mp h _ _ _ _ hlt

/-- A pair lies between the elements of the pairs outside of it. -/
theorem pairwise_ends (h : xs.Pairwise r) :
    (ends xs).Pairwise fun p q => r p.1 q.1 ∧ r q.2 p.2 := by
  rw [List.pairwise_iff_getElem]
  intro i j hi hj hij
  have hhalf := hj
  rw [length_ends] at hhalf
  rw [getElem_ends hi (j := xs.length - 1 - i) (by omega) (by omega) (by omega),
    getElem_ends hj (j := xs.length - 1 - j) (by omega) (by omega) (by omega)]
  constructor
  · exact List.pairwise_iff_getElem.mp h _ _ _ _ hij
  · exact List.pairwise_iff_getElem.mp h _ _ _ _ (by omega)

end sorted

/-! ### Stopping early -/

/-- Nothing is missed if a property carries over to all elements in front. -/
theorem takeWhile_eq_filter {p : α → Bool} {xs : List α}
    (h : xs.Pairwise fun x y => p y = true → p x = true) : xs.takeWhile p = xs.filter p := by
  induction xs with
  | nil => rfl
  | cons x xs ih =>
    obtain ⟨hx, hxs⟩ := List.pairwise_cons.mp h
    cases hp : p x with
    | true => rw [List.takeWhile_cons_of_pos hp, List.filter_cons_of_pos hp, ih hxs]
    | false =>
      rw [List.takeWhile_cons_of_neg (by simp [hp]), List.filter_cons_of_neg (by simp [hp]),
        eq_comm, List.filter_eq_nil_iff]
      intro y hy hpy
      rw [hx y hy hpy] at hp
      cases hp

end TwoEnded
