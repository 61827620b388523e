import Mathlib.Data.List.Perm.Basic

/-! # Removing an element by swapping

    The usual way to remove an element from an array without keeping the order:
    the last element takes its place. What is left is a permutation of the other
    elements.
-/

namespace SwapRemove

open scoped List

variable {α : Type u}

/-- `xs[i] = xs.back(); xs.pop_back()` -/
def swap_remove (xs : List α) (i : Nat) : List α :=
  match xs.getLast? with
  | some b => (xs.set i b).dropLast
  | none => xs

/-- The removed element and what is left are what there was. -/
theorem swap_remove_perm {xs : List α} {i : Nat} {a : α} (h : xs[i]? = some a) :
    (a :: swap_remove xs i).Perm xs := by
  rcases List.eq_nil_or_concat' xs with rfl | ⟨ys, b, rfl⟩
  · cases h
  obtain ⟨hi, ha⟩ := List.getElem?_eq_some_iff.mp h
  rw [List.length_append, List.length_singleton] at hi
  rw [swap_remove, List.getLast?_append, List.getLast?_singleton, Option.some_or]
  by_cases hlast : i = ys.length
  · -- the last element itself is removed
    subst hlast
    rw [List.getElem_concat_length rfl] at ha
    subst ha
    simpa using List.perm_append_singleton b ys |>.symm
  · have hlt : i < ys.length := by omega
    rw [List.getElem_append_left hlt] at ha
    subst ha
    simp only [List.set_append_left _ _ hlt, List.dropLast_concat]
    calc ys[i] :: ys.set i b
        ~ ys[i] :: b :: ys.eraseIdx i := (List.set_perm_cons_eraseIdx hlt b).cons _
      _ ~ b :: ys[i] :: ys.eraseIdx i := .swap ..
      _ ~ b :: ys := (List.getElem_cons_eraseIdx_perm hlt).cons _
      _ ~ ys ++ [b] := (List.perm_append_singleton b ys).symm

/-- One occurrence of the removed element is gone, and nothing else. -/
theorem swap_remove_count [DecidableEq α] {xs : List α} {i : Nat} {a : α}
    (h : xs[i]? = some a) (b : α) :
    (swap_remove xs i).count b + (if a = b then 1 else 0) = xs.count b := by
  rw [← (swap_remove_perm h).count_eq b, List.count_cons]
  simp only [beq_iff_eq]

/-- What is left after the removal is what has another key. -/
theorem swap_remove_filter {β : Type v} [DecidableEq β] {f : α → β} {xs : List α} {i : Nat} {a : α}
    (h : xs[i]? = some a) (hnodup : (xs.map f).Nodup) :
    (swap_remove xs i).Perm (xs.filter fun x => f x ≠ f a) := by
  have hperm := swap_remove_perm h
  rw [← (hperm.map f).nodup_iff, List.map_cons, List.nodup_cons] at hnodup
  have hkeep : (a :: swap_remove xs i).filter (fun x => f x ≠ f a) = swap_remove xs i := by
    rw [List.filter_cons_of_neg (by simp), List.filter_eq_self]
    intro x hx
    have hne : f x ≠ f a := fun heq => hnodup.1 (heq ▸ List.mem_map_of_mem hx)
    simpa using hne
  rw [← hkeep]
  exact hperm.filter _

/-- Behind an element that stays, removal goes on in the rest. -/
theorem swap_remove_cons (a : α) {xs : List α} (h : xs ≠ []) (i : Nat) :
    swap_remove (a :: xs) (i + 1) = a :: swap_remove xs i := by
  obtain ⟨ys, b, rfl⟩ := (List.eq_nil_or_concat' xs).resolve_left h
  have hne : (ys ++ [b]).set i b ≠ [] := by simp
  have hlast : (a :: (ys ++ [b])).getLast? = some b := by
    rw [← List.cons_append, List.getLast?_concat]
  rw [swap_remove, swap_remove, hlast, List.getLast?_concat]
  exact List.dropLast_cons_of_ne_nil hne

/-- What stands from the place of the removed element on is what stood behind it. -/
theorem drop_swap_remove {xs : List α} {i : Nat} (h : i < xs.length) :
    ((swap_remove xs i).drop i).Perm (xs.drop (i + 1)) := by
  induction i generalizing xs with
  | zero =>
    cases xs with
    | nil => cases h
    | cons a xs =>
      have ha : (a :: xs)[0]? = some a := rfl
      exact (swap_remove_perm ha).cons_inv
  | succ i ih =>
    cases xs with
    | nil => cases h
    | cons a xs =>
      have hi : i < xs.length := Nat.lt_of_succ_lt_succ h
      rw [swap_remove_cons a (List.ne_nil_of_length_pos (by omega)) i]
      exact ih hi

/-- The first element stays. -/
theorem head_swap_remove {xs : List α} {i : Nat} (hi : i ≠ 0) (h : i < xs.length) :
    (swap_remove xs i).head? = xs.head? := by
  obtain ⟨i, rfl⟩ := Nat.exists_eq_succ_of_ne_zero hi
  cases xs with
  | nil => rfl
  | cons a xs =>
    have hpos : 0 < xs.length := by
      rw [List.length_cons] at h
      omega
    rw [swap_remove_cons a (List.ne_nil_of_length_pos hpos) i]
    rfl

theorem length_swap_remove {xs : List α} {i : Nat} (h : i < xs.length) :
    (swap_remove xs i).length + 1 = xs.length :=
  (swap_remove_perm (List.getElem?_eq_getElem h)).length_eq

/-- `std::swap(xs[i], xs.back())` -/
def swap_with_back (xs : List α) (i : Nat) : List α :=
  match xs[i]?, xs.getLast? with
  | some a, some b => (xs.set i b).set (xs.length - 1) a
  | _, _ => xs

theorem getLast?_swap_with_back {xs : List α} {i : Nat} {a : α} (h : xs[i]? = some a) :
    (swap_with_back xs i).getLast? = some a := by
  rcases List.eq_nil_or_concat' xs with rfl | ⟨ys, b, rfl⟩
  · cases h
  · rw [swap_with_back, h, List.getLast?_concat]
    simp [List.getLast?_eq_getElem?]

/-- Swapping with the last element and taking that off removes. -/
theorem dropLast_swap_with_back {xs : List α} {i : Nat} {a : α} (h : xs[i]? = some a) :
    (swap_with_back xs i).dropLast = swap_remove xs i := by
  rcases List.eq_nil_or_concat' xs with rfl | ⟨ys, b, rfl⟩
  · cases h
  · rw [swap_with_back, swap_remove, h, List.getLast?_concat]
    simp only [List.dropLast_eq_take, List.length_set]
    rw [List.take_set, List.set_eq_of_length_le]
    rw [List.length_take]
    omega

/-- Taking the last element off removes it. -/
theorem dropLast_eq_swap_remove (xs : List α) : xs.dropLast = swap_remove xs (xs.length - 1) := by
  rcases List.eq_nil_or_concat' xs with rfl | ⟨ys, b, rfl⟩
  · rfl
  · rw [swap_remove, List.getLast?_concat]
    simp

/-- An element behind the first one is removed from those behind the first one. -/
theorem drop_one_swap_remove {xs : List α} {i : Nat} {a : α} (hi : i ≠ 0) (h : xs[i]? = some a) :
    (a :: (swap_remove xs i).drop 1).Perm (xs.drop 1) := by
  obtain ⟨i, rfl⟩ := Nat.exists_eq_succ_of_ne_zero hi
  cases xs with
  | nil => cases h
  | cons b xs =>
    have h : xs[i]? = some a := h
    have hne : xs ≠ [] := by
      rintro rfl
      cases h
    rw [swap_remove_cons b hne i]
    exact swap_remove_perm h

theorem map_swap_remove {β : Type v} (f : α → β) (xs : List α) (i : Nat) :
    (swap_remove xs i).map f = swap_remove (xs.map f) i := by
  unfold swap_remove
  rw [List.getLast?_map]
  cases xs.getLast? with
  | none => rfl
  | some b => simp only [Option.map_some, List.map_dropLast, List.map_set]

end SwapRemove
