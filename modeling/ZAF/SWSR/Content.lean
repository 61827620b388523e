import ZAF.SWSR.Queue

/-! # What a delivery queue holds

    `Content q k r xs` says that the queue `q` of capacity `2 ^ k` holds the
    unread items `xs`, the first of them at counter value `r`. The counters of
    the source are the 32-bit images of `r` and `r + xs.length`, so nothing here
    changes when they wrap.

    Every operation has one lemma that says what it does to the content.
-/

namespace ZAF.SWSRDeliveryQueue

open Ring

variable {Item : Type} [Inhabited Item]

/-- The queue `q` has capacity `2 ^ k` and holds `xs` from counter `r` on. -/
structure Content (q : SWSRDeliveryQueue Item) (k r : Nat) (xs : List Item) : Prop where
  scale_le : k ≤ 31
  cap_eq : q.cap.toNat = 2 ^ k
  mask_eq : q.bit_mask.toNat = 2 ^ k - 1
  items_length : q.items.length = 2 ^ k
  read_eq : q.read_idx = word r
  write_eq : q.write_idx = word (r + xs.length)
  holds : Holds (fun j => q.items.getD j default) (2 ^ k) r xs

/-! ### Words and lists -/

/-- `1u << scale` does not overflow for the scales of the source. -/
theorem one_shiftLeft {k : Nat} (hk : k ≤ 31) :
    ((1 : UInt32) <<< UInt32.ofNat k).toNat = 2 ^ k := by
  have hlt : 2 ^ k < 2 ^ 32 := Nat.pow_lt_pow_right (by decide) (by omega)
  rw [UInt32.toNat_shiftLeft, word_toNat, Nat.mod_eq_of_lt (a := k) (by omega),
    Nat.mod_eq_of_lt (a := k) (by omega), UInt32.toNat_one, Nat.shiftLeft_eq, Nat.one_mul,
    Nat.mod_eq_of_lt hlt]

/-- Doubling a capacity below `2 ^ 31` does not overflow. -/
theorem cap_shiftLeft {cap : UInt32} {k : Nat} (hcap : cap.toNat = 2 ^ k) (hk : k < 31) :
    (cap <<< 1).toNat = 2 ^ (k + 1) := by
  have hlt : 2 ^ (k + 1) < 2 ^ 32 := Nat.pow_lt_pow_right (by decide) (by omega)
  rw [UInt32.toNat_shiftLeft, hcap, UInt32.toNat_one, Nat.shiftLeft_eq]
  have hdouble : 2 ^ k * 2 ^ (1 % 32) = 2 ^ (k + 1) := (Nat.pow_succ ..).symm
  rw [hdouble, Nat.mod_eq_of_lt hlt]

/-- The mask that belongs to a capacity. -/
theorem mask_of_cap {cap : UInt32} {k : Nat} (hcap : cap.toNat = 2 ^ k) :
    (cap - 1).toNat = 2 ^ k - 1 := by
  have hpos : 0 < 2 ^ k := Nat.two_pow_pos k
  have hle : (1 : UInt32) ≤ cap := by
    rw [UInt32.le_iff_toNat_le, hcap, UInt32.toNat_one]
    exact hpos
  rw [UInt32.toNat_sub_of_le _ _ hle, hcap, UInt32.toNat_one]

/-- Reading a list after a write. -/
theorem getD_set (items : List Item) {n : Nat} (hn : n < items.length) (x : Item) :
    (fun j => (items.set n x).getD j default) =
      Function.update (fun j => items.getD j default) n x := by
  funext j
  by_cases hj : j = n
  · subst hj
    simp [hn]
  · rw [Function.update_of_ne hj]
    simp [List.getD_eq_getElem?_getD, List.getElem?_set_ne (Ne.symm hj)]

@[simp] theorem vector_resize_length (items : List Item) {n : Nat} (hn : items.length ≤ n) :
    (vector_resize items n).length = n := by
  simp [vector_resize]
  omega

/-- Growing a vector keeps its items. -/
theorem vector_resize_getD (items : List Item) {n j : Nat} (hn : items.length ≤ n) :
    (vector_resize items n).getD j default = items.getD j default := by
  rw [vector_resize, List.take_of_length_le hn]
  rcases Nat.lt_or_ge j items.length with hj | hj
  · simp [List.getD_eq_getElem?_getD, List.getElem?_append_left hj]
  · simp only [List.getD_eq_getElem?_getD, List.getElem?_append_right hj, List.getElem?_replicate]
    rw [List.getElem?_eq_none hj]
    split <;> rfl

/-- Moving a range keeps the length. -/
@[simp] theorem move_range_length (items : List Item) (m dest : Nat) :
    (move_range items m dest).length = items.length := by
  induction m with
  | zero => rfl
  | succ m ih =>
    rw [move_range, List.range_succ, List.foldl_append]
    simpa [move_range] using ih

/-- Moving the first `m` items behind position `dest ≥ m` is the copy that
    doubles a ring. -/
theorem move_range_getD (items : List Item) {m dest : Nat} (hm : m ≤ dest)
    (hlen : dest + m ≤ items.length) :
    (fun j => (move_range items m dest).getD j default) =
      doubled (fun j => items.getD j default) dest m := by
  induction m with
  | zero =>
    funext j
    simp [move_range, doubled]
  | succ m ih =>
    have ih' := ih (by omega) (by omega)
    have hstep : move_range items (m + 1) dest =
        (move_range items m dest).set (dest + m) ((move_range items m dest).getD m default) := by
      simp [move_range, List.range_succ, List.foldl_append]
    have hread : (move_range items m dest).getD m default = items.getD m default := by
      rw [congrFun ih' m, doubled, if_neg (by omega)]
    -- Position `dest + m` is the only new one.
    rw [hstep, hread, getD_set _ (by simp; omega), ih']
    funext j
    by_cases hj : j = dest + m
    · subst hj
      simp [doubled]
    · rw [Function.update_of_ne hj]
      simp only [doubled]
      rcases Nat.lt_or_ge j (dest + m) with hlt | hge
      · simp only [hlt, show j < dest + (m + 1) from by omega, and_true]
      · rw [if_neg (by omega), if_neg (by omega)]

/-! ### Reading the content -/

section content

variable {q : SWSRDeliveryQueue Item} {k r : Nat} {xs : List Item}

theorem Content.length_le (h : Content q k r xs) : xs.length ≤ 2 ^ k := h.holds.length_le

theorem Content.length_lt (h : Content q k r xs) : xs.length < 2 ^ 32 :=
  Nat.lt_of_le_of_lt h.length_le
    (Nat.pow_lt_pow_right (by decide) (Nat.lt_succ_of_le h.scale_le))

/-- The slot of a counter. -/
theorem Content.slot_eq (h : Content q k r xs) (i : Nat) : q.slot (word i) = i % 2 ^ k :=
  word_and_mask h.scale_le h.mask_eq

/-- The number of unread items. -/
theorem Content.size_eq (h : Content q k r xs) : q.size.toNat = xs.length := by
  rw [size, h.write_eq, h.read_eq, word_sub h.length_lt]

/-- The readable items are the content. -/
theorem Content.readable_eq (h : Content q k r xs) : q.readable = xs := by
  rw [← h.holds.window_eq, readable, h.size_eq, window]
  apply List.map_congr_left
  intro i _
  rw [h.read_eq, word_add, item, h.slot_eq]

/-- The queue is empty exactly when it has no content. -/
theorem Content.empty_iff (h : Content q k r xs) : q.empty = true ↔ xs = [] := by
  rw [empty, beq_iff_eq, h.write_eq, h.read_eq]
  have := word_inj (r := r) h.length_lt (m := 0) (by decide)
  rw [Nat.add_zero] at this
  rw [this, List.length_eq_zero_iff]

/-- The full test, on the current counters, holds exactly at capacity. -/
theorem Content.push_blocked_iff (h : Content q k r xs) :
    q.push_blocked q.write_idx q.read_idx = true ↔ xs.length = 2 ^ k := by
  have hk : 2 ^ k < 2 ^ 32 := Nat.pow_lt_pow_right (by decide) (Nat.lt_succ_of_le h.scale_le)
  have hcap : q.cap = word (2 ^ k) := by
    rw [← UInt32.toNat_inj, h.cap_eq, word_toNat, Nat.mod_eq_of_lt hk]
  rw [push_blocked, beq_iff_eq, h.write_eq, h.read_eq]
  rw [← word_inj (r := r) h.length_lt hk, ← word_add r (2 ^ k), ← hcap]
  constructor
  · intro heq
    rw [← heq, UInt32.sub_add_cancel]
  · intro heq
    rw [heq, UInt32.add_sub_cancel]

/-- A slot is free. -/
theorem Content.length_lt_of_not_blocked (h : Content q k r xs)
    (hfree : ¬ q.push_blocked q.write_idx q.read_idx = true) : xs.length < 2 ^ k :=
  lt_of_le_of_ne h.length_le fun heq => hfree (h.push_blocked_iff.mpr heq)

/-- The oldest item. -/
theorem Content.top_eq {x : Item} (h : Content q k r (x :: xs)) : q.top = x := by
  rw [top, item, h.read_eq, h.slot_eq]
  exact h.holds.head

/-! ### Operations -/

/-- A fresh queue after `resize(scale)` is empty. -/
theorem content_resize {k : Nat} (hk : k ≤ 31) :
    Content (({} : SWSRDeliveryQueue Item).resize k) k 0 [] := by
  have hcap := one_shiftLeft hk
  refine ⟨hk, hcap, mask_of_cap hcap, ?_, rfl, rfl, holds_nil _ _ _⟩
  show (vector_resize [] _).length = _
  rw [vector_resize_length _ (Nat.zero_le _), hcap]

/-- Writing the slot of `write_idx` in a queue that is not full leaves the
    content alone and puts the item where `publish` will count it in. -/
theorem Content.store (h : Content q k r xs) (hlt : xs.length < 2 ^ k) (x : Item) :
    Content (q.store q.write_idx x) k r xs ∧
      (q.store q.write_idx x).items.getD ((r + xs.length) % 2 ^ k) default = x := by
  have hslot : q.slot q.write_idx = (r + xs.length) % 2 ^ k := by rw [h.write_eq, h.slot_eq]
  have hin : (r + xs.length) % 2 ^ k < q.items.length := by
    rw [h.items_length]
    exact Nat.mod_lt _ (Nat.two_pow_pos k)
  refine ⟨⟨h.scale_le, h.cap_eq, h.mask_eq, ?_, h.read_eq, h.write_eq, ?_⟩, ?_⟩
  · simpa [SWSRDeliveryQueue.store] using h.items_length
  · show Holds (fun j => (q.items.set (q.slot q.write_idx) x).getD j default) _ _ _
    rw [hslot, getD_set _ hin]
    exact h.holds.write_free hlt x
  · show (q.items.set (q.slot q.write_idx) x).getD _ default = x
    rw [hslot, congrFun (getD_set _ hin x) _, Function.update_self]

/-- Counting in the item written to the slot of `write_idx`. -/
theorem Content.publish {x : Item} (h : Content q k r xs) (hlt : xs.length < 2 ^ k)
    (hx : q.items.getD ((r + xs.length) % 2 ^ k) default = x) :
    Content q.publish k r (xs ++ [x]) := by
  refine ⟨h.scale_le, h.cap_eq, h.mask_eq, h.items_length, h.read_eq, ?_, h.holds.extend hlt hx⟩
  show q.write_idx + 1 = _
  rw [h.write_eq, List.length_append, List.length_singleton, ← Nat.add_assoc]
  exact word_add _ 1

/-- Releasing the oldest item. -/
theorem Content.release {x : Item} (h : Content q k r (x :: xs)) :
    Content q.release k (r + 1) xs := by
  refine ⟨h.scale_le, h.cap_eq, h.mask_eq, h.items_length, ?_, ?_, h.holds.pop⟩
  · show q.read_idx + 1 = _
    rw [h.read_eq]
    exact word_add _ 1
  · show q.write_idx = _
    rw [h.write_eq, List.length_cons, Nat.add_right_comm, Nat.add_assoc]

/-- The capacity, mask and cells of a full queue after it has grown. -/
theorem Content.grow_cells (h : Content q k r xs) (hfull : xs.length = 2 ^ k) (hk : k < 31) :
    (q.grow q.write_idx).cap.toNat = 2 ^ (k + 1) ∧
      (q.grow q.write_idx).bit_mask.toNat = 2 ^ (k + 1) - 1 ∧
      (q.grow q.write_idx).items.length = 2 ^ (k + 1) ∧
      (fun j => (q.grow q.write_idx).items.getD j default) =
        doubled (fun j => q.items.getD j default) (2 ^ k) (r % 2 ^ k) := by
  have hcap := cap_shiftLeft h.cap_eq hk
  have hlen : q.items.length ≤ (q.cap <<< 1).toNat := by
    rw [h.items_length, hcap]
    exact Nat.pow_le_pow_right (by decide) (Nat.le_succ k)
  -- In a full queue both counters are at the same slot.
  have hslot : q.slot q.write_idx = r % 2 ^ k := by
    rw [h.write_eq, h.slot_eq, hfull, Nat.add_mod_right]
  have hm : r % 2 ^ k < 2 ^ k := Nat.mod_lt _ (Nat.two_pow_pos k)
  refine ⟨hcap, mask_of_cap hcap, ?_, ?_⟩
  · show (move_range (vector_resize q.items _) _ _).length = _
    rw [move_range_length, vector_resize_length _ hlen, hcap]
  · show (fun j => (move_range (vector_resize q.items _) _ _).getD j default) = _
    rw [hslot, h.cap_eq, move_range_getD _ (Nat.le_of_lt hm)]
    · simp only [vector_resize_getD _ hlen]
    · rw [vector_resize_length _ hlen, hcap, Nat.pow_succ]
      omega

/-- Growing a full queue keeps the content when the bit `cap` of `read_idx` is
    clear. -/
theorem Content.grow (h : Content q k r xs) (hfull : xs.length = 2 ^ k) (hk : k < 31)
    (haligned : q.read_idx &&& q.cap = 0) : Content (q.grow q.write_idx) (k + 1) r xs := by
  obtain ⟨hcap, hmask, hlen, hcells⟩ := h.grow_cells hfull hk
  rw [h.read_eq, word_and_cap h.scale_le h.cap_eq] at haligned
  refine ⟨by omega, hcap, hmask, hlen, h.read_eq, h.write_eq, ?_⟩
  rw [hcells, Nat.pow_succ, Nat.mul_comm]
  exact h.holds.double (Nat.two_pow_pos k) haligned

/-- After growing a full queue while the bit `cap` of `read_idx` is set, the
    reader looks at a slot that was never written. -/
theorem Content.grow_misaligned (h : Content q k r xs) (hfull : xs.length = 2 ^ k) (hk : k < 31)
    (hodd : q.read_idx &&& q.cap ≠ 0) : (q.grow q.write_idx).top = default := by
  obtain ⟨-, hmask, -, hcells⟩ := h.grow_cells hfull hk
  rw [h.read_eq, Ne, word_and_cap h.scale_le h.cap_eq] at hodd
  have hodd' : r / 2 ^ k % 2 = 1 := by omega
  have hread : (q.grow q.write_idx).read_idx = word r := h.read_eq
  rw [top, item, slot, hread, word_and_mask (k := k + 1) (by omega) hmask, congrFun hcells _,
    Nat.pow_succ, Nat.mul_comm, doubled_reader_odd _ hodd']
  -- `items.resize` has filled this slot.
  rw [List.getD_eq_getElem?_getD, List.getElem?_eq_none]
  · rfl
  · rw [h.items_length]
    exact Nat.le_add_right _ _

/-- The content does not depend on the flag that breaks `pop_some`. -/
theorem Content.set_stop (h : Content q k r xs) (b : Bool) :
    Content { q with flag_stop_pop_some := b } k r xs :=
  ⟨h.scale_le, h.cap_eq, h.mask_eq, h.items_length, h.read_eq, h.write_eq, h.holds⟩

/-- The content does not depend on what the two sides tell each other about it. -/
theorem Content.set_progress (h : Content q k r xs) (may_have_message is_writing : Bool)
    (num_empty_read : UInt32) :
    Content { q with
      may_have_message := may_have_message
      is_writing_by_sender := is_writing
      num_empty_read := num_empty_read } k r xs :=
  ⟨h.scale_le, h.cap_eq, h.mask_eq, h.items_length, h.read_eq, h.write_eq, h.holds⟩

end content

end ZAF.SWSRDeliveryQueue
