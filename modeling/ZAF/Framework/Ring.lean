import Mathlib.Data.Nat.Bitwise
import Mathlib.Data.Nat.ModEq
import Mathlib.Logic.Function.Basic

/-! # Rings addressed by free-running counters

    A ring of `cap` cells is addressed by counters that only ever grow: counter
    value `i` names the cell `i % cap`. The content of the ring is the list of
    the values at the counters `r`, `r + 1`, ..., where `r` is the counter of
    the reader.

    The counters live in machine words, so the second half relates a counter to
    its 32-bit image: masking with `2 ^ k - 1` gives the cell, subtraction gives
    the distance of two counters that are close enough, and the bit `2 ^ k`
    tells whether the counter is in an even or an odd lap.
-/

namespace Ring

variable {α : Type u}

/-! ### Content of a ring -/

/-- The ring of `cap` cells holds `xs` from counter `r` on. -/
structure Holds (cells : Nat → α) (cap r : Nat) (xs : List α) : Prop where
  /-- No two values share a cell. -/
  length_le : xs.length ≤ cap
  cell_eq : ∀ i (h : i < xs.length), cells ((r + i) % cap) = xs[i]

/-- The values at the counters `r`, ..., `r + n - 1`. -/
def window (cells : Nat → α) (cap r n : Nat) : List α :=
  (List.range n).map fun i => cells ((r + i) % cap)

@[simp] theorem window_length (cells : Nat → α) (cap r n : Nat) :
    (window cells cap r n).length = n := by
  simp [window]

/-- A ring that holds `xs` shows exactly `xs` in its window. -/
theorem Holds.window_eq {cells : Nat → α} {cap r : Nat} {xs : List α}
    (h : Holds cells cap r xs) : window cells cap r xs.length = xs := by
  apply List.ext_getElem
  · simp
  · intro i h₁ h₂
    simp only [window, List.getElem_map, List.getElem_range]
    exact h.cell_eq i h₂

/-- An empty ring. -/
theorem holds_nil (cells : Nat → α) (cap r : Nat) : Holds cells cap r [] :=
  ⟨Nat.zero_le _, by intro i h; exact absurd h (Nat.not_lt_zero i)⟩

/-- Counters less than one lap apart name different cells. -/
theorem slot_inj {cap r i j : Nat} (hi : i < cap) (hj : j < cap)
    (h : (r + i) % cap = (r + j) % cap) : i = j := by
  have hmod : i ≡ j [MOD cap] := Nat.ModEq.add_left_cancel' r h
  rwa [Nat.ModEq, Nat.mod_eq_of_lt hi, Nat.mod_eq_of_lt hj] at hmod

/-- Writing the first free cell does not disturb the content. -/
theorem Holds.write_free {cells : Nat → α} {cap r : Nat} {xs : List α}
    (h : Holds cells cap r xs) (hlt : xs.length < cap) (x : α) :
    Holds (Function.update cells ((r + xs.length) % cap) x) cap r xs := by
  refine ⟨h.length_le, ?_⟩
  intro i hi
  have hne : (r + i) % cap ≠ (r + xs.length) % cap := by
    intro heq
    have := slot_inj (lt_trans hi hlt) hlt heq
    omega
  rw [Function.update_of_ne hne]
  exact h.cell_eq i hi

/-- A ring whose first free cell contains `x` holds `x` as its last value. -/
theorem Holds.extend {cells : Nat → α} {cap r : Nat} {xs : List α} {x : α}
    (h : Holds cells cap r xs) (hlt : xs.length < cap)
    (hx : cells ((r + xs.length) % cap) = x) : Holds cells cap r (xs ++ [x]) := by
  refine ⟨by rw [List.length_append]; exact hlt, ?_⟩
  intro i hi
  rcases Nat.lt_or_ge i xs.length with hlt' | hge
  · rw [List.getElem_append_left hlt']
    exact h.cell_eq i hlt'
  · have hi' : i = xs.length := by
      simp only [List.length_append, List.length_singleton] at hi
      omega
    subst hi'
    rw [List.getElem_append_right (Nat.le_refl _)]
    simpa using hx

/-- The first value is in the cell of the reader's counter. -/
theorem Holds.head {cells : Nat → α} {cap r : Nat} {x : α} {xs : List α}
    (h : Holds cells cap r (x :: xs)) : cells (r % cap) = x :=
  h.cell_eq 0 (Nat.succ_pos _)

/-- Advancing the reader's counter drops the first value. -/
theorem Holds.pop {cells : Nat → α} {cap r : Nat} {x : α} {xs : List α}
    (h : Holds cells cap r (x :: xs)) : Holds cells cap (r + 1) xs := by
  have hle : xs.length + 1 ≤ cap := by simpa using h.length_le
  refine ⟨by omega, ?_⟩
  intro i hi
  have := h.cell_eq (i + 1) (by simpa using hi)
  rw [show r + 1 + i = r + (i + 1) from by omega]
  simpa using this

/-! ### Doubling a ring -/

/-- The cells after doubling a ring of `cap` cells: the first `m` cells are
    copied behind the old end, every other cell stays where it is. -/
def doubled (cells : Nat → α) (cap m : Nat) (j : Nat) : α :=
  if cap ≤ j ∧ j < cap + m then cells (j - cap) else cells j

/-- A counter in an even lap keeps its offset when the ring doubles. -/
theorem mod_double_even {cap r : Nat} (heven : r / cap % 2 = 0) :
    r % (2 * cap) = r % cap := by
  rw [Nat.mul_comm, Nat.mod_mul, heven]
  simp

/-- A counter in an odd lap moves to the upper half when the ring doubles. -/
theorem mod_double_odd {cap r : Nat} (hodd : r / cap % 2 = 1) :
    r % (2 * cap) = cap + r % cap := by
  rw [Nat.mul_comm, Nat.mod_mul, hodd]
  omega

/-- Doubling keeps the content when the reader is in an even lap: the values
    up to the old end stay, the wrapped ones follow them. -/
theorem Holds.double {cells : Nat → α} {cap r : Nat} {xs : List α}
    (h : Holds cells cap r xs) (hcap : 0 < cap) (heven : r / cap % 2 = 0) :
    Holds (doubled cells cap (r % cap)) (2 * cap) r xs := by
  have hle := h.length_le
  refine ⟨by omega, ?_⟩
  intro i hi
  have hm : r % cap < cap := Nat.mod_lt r hcap
  have hslot : (r + i) % (2 * cap) = r % cap + i := by
    rw [Nat.add_mod, mod_double_even heven, Nat.mod_eq_of_lt (a := i) (by omega),
      Nat.mod_eq_of_lt (by omega)]
  have hold : (r + i) % cap = (r % cap + i) % cap := (Nat.mod_add_mod r cap i).symm
  rw [hslot, ← h.cell_eq i hi, hold]
  rcases Nat.lt_or_ge (r % cap + i) cap with hlow | hhigh
  · -- not wrapped: the cell is below the old end
    rw [Nat.mod_eq_of_lt hlow, doubled, if_neg (by omega)]
  · -- wrapped: the cell is one of the `r % cap` copied ones
    rw [Nat.mod_eq_sub_mod hhigh, Nat.mod_eq_of_lt (a := r % cap + i - cap) (by omega), doubled,
      if_pos (by omega)]

/-- In an odd lap the reader looks, after doubling, at a cell that doubling
    did not fill. -/
theorem doubled_reader_odd (cells : Nat → α) {cap r : Nat} (hodd : r / cap % 2 = 1) :
    doubled cells cap (r % cap) (r % (2 * cap)) = cells (cap + r % cap) := by
  rw [mod_double_odd hodd, doubled, if_neg (by omega)]

/-! ### Counters in 32-bit words -/

/-- The counter `i` as an `unsigned`. -/
abbrev word (i : Nat) : UInt32 := UInt32.ofNat i

@[simp] theorem word_toNat (i : Nat) : (word i).toNat = i % 2 ^ 32 := rfl

theorem word_add (i j : Nat) : word i + word j = word (i + j) := by
  simp [word]

/-- Masking a counter with `2 ^ k - 1` gives its cell in a ring of `2 ^ k`. -/
theorem word_and_mask {i k : Nat} (hk : k ≤ 31) {mask : UInt32}
    (hmask : mask.toNat = 2 ^ k - 1) : (word i &&& mask).toNat = i % 2 ^ k := by
  rw [UInt32.toNat_and, hmask, Nat.and_two_pow_sub_one_eq_mod, word_toNat,
    Nat.mod_mod_of_dvd _ (Nat.pow_dvd_pow 2 (by omega))]

/-- The distance of two counters less than `2 ^ 32` apart survives wrapping. -/
theorem word_sub {r n : Nat} (hn : n < 2 ^ 32) : (word (r + n) - word r).toNat = n := by
  rw [← word_add, UInt32.toNat_sub, UInt32.toNat_add, word_toNat, word_toNat]
  omega

/-- Counters less than `2 ^ 32` apart have different images. -/
theorem word_inj {r n m : Nat} (hn : n < 2 ^ 32) (hm : m < 2 ^ 32) :
    word (r + n) = word (r + m) ↔ n = m := by
  constructor
  · intro h
    rw [← word_sub (r := r) hn, h, word_sub hm]
  · rintro rfl
    rfl

/-- The bit `2 ^ k` of a counter is clear exactly in the even laps of a ring of
    `2 ^ k` cells. -/
theorem word_and_cap {i k : Nat} (hk : k ≤ 31) {cap : UInt32}
    (hcap : cap.toNat = 2 ^ k) : word i &&& cap = 0 ↔ i / 2 ^ k % 2 = 0 := by
  have hbit : (word i &&& cap).toNat = (i / 2 ^ k % 2) * 2 ^ k := by
    rw [UInt32.toNat_and, hcap, word_toNat, Nat.and_two_pow, Nat.testBit_mod_two_pow]
    have : k < 32 := by omega
    simp only [this, decide_true, Bool.true_and, Nat.testBit_eq_decide_div_mod_eq]
    rcases Nat.mod_two_eq_zero_or_one (i / 2 ^ k) with h | h <;> simp [h]
  rw [← UInt32.toNat_inj, hbit]
  have : 0 < 2 ^ k := Nat.two_pow_pos k
  simp
end Ring
