import ZAF.CountPointer.Exactness

/-! # Where pointers come from

    An operation leaves the pointer of a variable where it is, puts that of another one in its
    place, or a new one. Only the last pointer to an object has an effect when it is given
    up.
-/

namespace ZAF.CountPointers

variable {D : Type}

namespace State

/-! ### The flow of pointers -/

/-- The object of a variable. -/
def object (s : State D) (i : Nat) : Option Nat := (s.read i).bind CountPointer.value

/-- The variable whose pointer is in variable `i` after an operation. An assignment
    between pointers to the same object leaves both where they are, or gives up the one
    that is moved. -/
def origin (s : State D) (op : Operation D) (i : Nat) : Option Nat :=
  match op with
  | .construct _ => if i = s.pointers.length then none else some i
  | .copy_construct j => if i = s.pointers.length then some j else some i
  | .move_construct j =>
    if i = s.pointers.length then some j
    else if i = j then none
    else some i
  | .assign_raw k _ => if i = k then none else some i
  | .assign_copy k j => if i = k ∧ s.object k ≠ s.object j then some j else some i
  | .assign_move k j =>
    if k = j then some i
    else if i = j then none
    else if i = k ∧ s.object k ≠ s.object j then some j
    else some i
  | .assign_null k => if i = k then none else some i
  | .set_destructor _ _ => some i
  | .destroy k => if i = k then none else some i

/-- The variable whose pointer is given up by an operation. -/
def gives_up (s : State D) : Operation D → Option Nat
  | .assign_raw i _ => some i
  | .assign_copy i j => if s.object i = s.object j then none else some i
  | .assign_move i j => if i = j then none else some i
  | .assign_null i => some i
  | .destroy i => some i
  | _ => none

/-- The variable whose pointer is given up, when it is the last one to an object. -/
def gives_up_last (s : State D) (o : Nat) (op : Operation D) : Option Nat :=
  (s.gives_up op).filter fun i => s.object i = some o ∧ refs s.pointers o = 1

variable {s s' : State D}

/-! ### Reading variables -/

theorem read_write {i k : Nat} {q : CountPointer D} (hi : s.read i = some q) (h : Heap D)
    (p : CountPointer D) :
    (s.write i h p).read k = if k = i then some p else s.read k := by
  have hlt := (List.getElem?_eq_some_iff.mp (read_eq_some.mp hi)).1
  by_cases hk : k = i
  · subst hk
    rw [if_pos rfl, read_eq_some]
    exact List.getElem?_set_self hlt
  · rw [if_neg hk]
    show (s.pointers.set i (some p))[k]?.join = _
    rw [List.getElem?_set_ne (Ne.symm hk)]
    rfl

theorem read_add {k : Nat} (h : Heap D) (p : CountPointer D) :
    (s.add h p).read k = if k = s.pointers.length then some p else s.read k := by
  show (s.pointers ++ [some p])[k]?.join = _
  split
  · next hk => rw [hk, getElem?_concat, Option.join_some]
  · next hk =>
    rcases Nat.lt_or_gt_of_ne hk with hlt | hgt
    · rw [List.getElem?_append_left hlt]
      rfl
    · rw [List.getElem?_eq_none (by simp; omega), read, List.getElem?_eq_none (by omega)]

theorem read_destroy {i k : Nat} {q : CountPointer D} (hi : s.read i = some q) (h : Heap D) :
    ({ s with pointers := s.pointers.set i none, heap := h } : State D).read k =
      if k = i then none else s.read k := by
  have hlt := (List.getElem?_eq_some_iff.mp (read_eq_some.mp hi)).1
  show (s.pointers.set i none)[k]?.join = _
  split
  · next hk => rw [hk, List.getElem?_set_self hlt, Option.join_some]
  · next hk =>
    rw [List.getElem?_set_ne (Ne.symm hk)]
    rfl

theorem read_hand_in {k : Nat} (ptr : Option Nat) : (s.hand_in ptr).read k = s.read k := rfl

theorem object_eq_some {i o : Nat} :
    s.object i = some o ↔ ∃ p, s.read i = some p ∧ p.value = some o := Option.bind_eq_some_iff

theorem object_of_read {i : Nat} {p : CountPointer D} (hi : s.read i = some p) :
    s.object i = p.value := by
  rw [object, hi, Option.bind_some]

/-! ### What is called and deleted -/

theorem inc_count_events (h : Heap D) (p : CountPointer D) :
    (p.inc_count h).events = h.events := by
  rw [CountPointer.inc_count]
  split
  · rw [Heap.update]
    split <;> rfl
  · rfl

/-- Counting down. -/
theorem Sound.dec_count_events (h : s.Sound) {i : Nat} {p : CountPointer D}
    (hi : s.read i = some p) :
    ((∀ o, p.value = some o → refs s.pointers o ≠ 1) ∧
        (p.dec_count s.heap).1.events = s.heap.events) ∨
      ∃ o, p.value = some o ∧ refs s.pointers o = 1 ∧
        (p.dec_count s.heap).1.events = s.heap.events ++ p.last_events o := by
  have hmem := List.mem_of_getElem? (read_eq_some.mp hi)
  rcases h.aligned p hmem with ⟨hnull, hcount⟩ | ⟨o, count, hvalue, hcount, hhanded⟩
  · refine .inl ⟨fun o hvalue => ?_, ?_⟩
    · rw [hnull] at hvalue
      cases hvalue
    · rw [CountPointer.dec_count, hcount]
  · have hpos := refs_pos hmem hvalue
    obtain ⟨n, hn⟩ := Nat.exists_eq_succ_of_ne_zero (Nat.ne_of_gt hpos)
    have hlt := h.few o (List.mem_of_getElem? hhanded)
    have hold := h.counter_eq hhanded hpos
    rw [hn] at hold
    obtain ⟨-, hevents, -⟩ := Sound.dec_count_heap hvalue hcount hold (by omega)
    by_cases hzero : n = 0
    · rw [if_pos hzero] at hevents
      exact .inr ⟨o, hvalue, by omega, hevents⟩
    · rw [if_neg hzero, List.append_nil] at hevents
      refine .inl ⟨fun o' hvalue' => ?_, hevents⟩
      rw [hvalue] at hvalue'
      cases hvalue'
      omega

/-- Only the last pointer to an object has an effect when it is given up. -/
theorem next_events (h : s.Sound) {op : Operation D} (hnext : s.next op = some s') :
    ((∀ o, s.gives_up_last o op = none) ∧ s'.heap.events = s.heap.events) ∨
      ∃ i o p, s.gives_up_last o op = some i ∧ s.read i = some p ∧ p.value = some o ∧
        s'.heap.events = s.heap.events ++ p.last_events o := by
  -- all operations that give up a pointer count it down
  have hcounts {i : Nat} {p : CountPointer D} (hi : s.read i = some p)
      (hgives : s.gives_up op = some i)
      (hcounted : s'.heap.events = (p.dec_count s.heap).1.events) :
      ((∀ o, s.gives_up_last o op = none) ∧ s'.heap.events = s.heap.events) ∨
      ∃ i o p, s.gives_up_last o op = some i ∧ s.read i = some p ∧ p.value = some o ∧
        s'.heap.events = s.heap.events ++ p.last_events o := by
    rw [hcounted]
    rcases h.dec_count_events hi with ⟨hmore, hsame⟩ | ⟨o, hvalue, hone, hevents⟩
    · refine .inl ⟨fun o => ?_, hsame⟩
      rw [gives_up_last, hgives, Option.filter_some, object_of_read hi]
      exact if_neg (by simpa using hmore o)
    · refine .inr ⟨i, o, p, ?_, hi, hvalue, hevents⟩
      rw [gives_up_last, hgives, Option.filter_some, object_of_read hi]
      exact if_pos (by simp [hvalue, hone])
  have hnone (hgives : s.gives_up op = none) : ∀ o, s.gives_up_last o op = none := by
    intro o
    rw [gives_up_last, hgives]
    rfl
  cases next_cases hnext with
  | construct ptr => exact .inl ⟨hnone rfl, by cases ptr <;> rfl⟩
  | copy_construct j ptr => exact .inl ⟨hnone rfl, inc_count_events s.heap ptr⟩
  | move_construct => exact .inl ⟨hnone rfl, rfl⟩
  | assign_raw i ptr p hi => exact hcounts hi rfl (by cases ptr <;> rfl)
  | assign_copy i j p ptr hi hj =>
    have hiff := h.value_eq_iff (List.mem_of_getElem? (read_eq_some.mp hi))
      (List.mem_of_getElem? (read_eq_some.mp hj))
    by_cases hcount : p.count = ptr.count
    · refine .inl ⟨hnone ?_, ?_⟩
      · rw [gives_up, object_of_read hi, object_of_read hj, if_pos (hiff.mpr hcount)]
      · show (p.assign_copy s.heap ptr).1.events = _
        rw [CountPointer.assign_copy, if_neg (not_not.mpr hcount)]
    · apply hcounts hi
      · rw [gives_up, object_of_read hi, object_of_read hj, if_neg fun hvalue =>
          hcount (hiff.mp hvalue)]
      · show (p.assign_copy s.heap ptr).1.events = _
        rw [CountPointer.assign_copy, if_pos hcount]
        exact inc_count_events _ _
  | assign_move_self => exact .inl ⟨hnone (if_pos rfl), rfl⟩
  | assign_move i j p ptr hij hi => exact hcounts hi (if_neg hij) rfl
  | assign_null i p hi => exact hcounts hi rfl rfl
  | set_destructor => exact .inl ⟨hnone rfl, rfl⟩
  | destroy i p hi => exact hcounts hi rfl rfl

theorem object_of_gives_up_last {op : Operation D} {i o : Nat}
    (h : s.gives_up_last o op = some i) : s.object i = some o := by
  have hlast := (Option.filter_eq_some_iff.mp h).2
  rw [decide_eq_true_eq] at hlast
  exact hlast.1

theorem gives_up_last_inj {op : Operation D} {i i' o o' : Nat}
    (h : s.gives_up_last o op = some i) (h' : s.gives_up_last o' op = some i') :
    i = i' ∧ o = o' := by
  have hgives := (Option.filter_eq_some_iff.mp h).1
  have hgives' := (Option.filter_eq_some_iff.mp h').1
  obtain rfl := Option.some.inj (hgives.symm.trans hgives')
  have hobject := object_of_gives_up_last h
  exact ⟨rfl, Option.some.inj (hobject.symm.trans (object_of_gives_up_last h'))⟩

/-! ### Where a pointer comes from -/

/-- What is in variable `i` after an operation: a pointer `p` to object `o`. -/
inductive Comes (s : State D) (op : Operation D) (i : Nat) (p : CountPointer D) (o : Nat) :
    Prop where
  /-- The object has just been handed in. -/
  | fresh : s.origin op i = none → o ∉ s.handed → p.destructor = none → Comes s op i p o
  | same (j : Nat) (q : CountPointer D) : (∀ d, op ≠ .set_destructor i d) →
      s.origin op i = some j → s.read j = some q → q.value = some o →
      p.destructor = q.destructor → Comes s op i p o
  | set (d : D) : op = .set_destructor i d → s.object i = some o → p.destructor = some d →
      Comes s op i p o

section operations

variable {i o : Nat} {p' : CountPointer D}

/-- A pointer that is made from a raw one has no destructor. -/
theorem construct_new (h : Heap D) (ptr : Option Nat) :
    (CountPointer.construct h ptr).2.destructor = none ∧
      (CountPointer.construct h ptr).2.value = ptr := by
  cases ptr <;> exact ⟨rfl, rfl⟩

theorem assign_raw_new (h : Heap D) (p : CountPointer D) (ptr : Option Nat) :
    (p.assign_raw h ptr).2.destructor = none ∧ (p.assign_raw h ptr).2.value = ptr := by
  cases ptr <;> exact ⟨rfl, rfl⟩

/-- A variable gets a pointer to a new object or a null pointer, or goes. -/
theorem comes_replace {op : Operation D} {k : Nat} {v : Option (CountPointer D)}
    (hop : ∀ d, op ≠ .set_destructor i d)
    (horigin : s.origin op i = if i = k then none else some i)
    (hread : s'.read i = if i = k then v else s.read i)
    (hv : ∀ p ∈ v, p.destructor = none ∧ ∀ o, p.value = some o → o ∉ s.handed)
    (hi : s'.read i = some p') (hvalue : p'.value = some o) : Comes s op i p' o := by
  rw [hread] at hi
  by_cases hik : i = k
  · rw [if_pos hik] at hi horigin
    obtain ⟨hdestructor, hnew⟩ := hv p' hi
    exact .fresh horigin (hnew o hvalue) hdestructor
  · rw [if_neg hik] at hi horigin
    exact .same i p' hop horigin hi hvalue rfl

theorem comes_copy_construct {j : Nat} {ptr : CountPointer D} (hj : s.read j = some ptr)
    (hi : (s.add (CountPointer.copy_construct s.heap ptr).1
      (CountPointer.copy_construct s.heap ptr).2).read i = some p')
    (hvalue : p'.value = some o) : Comes s (.copy_construct j) i p' o := by
  rw [read_add] at hi
  by_cases hlast : i = s.pointers.length
  · rw [if_pos hlast] at hi
    cases hi
    exact .same j ptr nofun (if_pos hlast) hj hvalue rfl
  · rw [if_neg hlast] at hi
    exact .same i p' nofun (if_neg hlast) hi hvalue rfl

theorem comes_move_construct {j : Nat} {ptr : CountPointer D} (hj : s.read j = some ptr)
    (hi : ((s.write j s.heap (CountPointer.move_construct ptr).2).add s.heap
      (CountPointer.move_construct ptr).1).read i = some p')
    (hvalue : p'.value = some o) : Comes s (.move_construct j) i p' o := by
  have hlength : (s.write j s.heap (CountPointer.move_construct ptr).2).pointers.length =
      s.pointers.length := List.length_set
  rw [read_add, hlength, read_write hj] at hi
  by_cases hlast : i = s.pointers.length
  · rw [if_pos hlast] at hi
    cases hi
    exact .same j ptr nofun (if_pos hlast) hj hvalue rfl
  · rw [if_neg hlast] at hi
    split at hi
    · -- the old pointer is null
      cases hi
      cases hvalue
    · next hne =>
      refine .same i p' nofun ?_ hi hvalue rfl
      rw [origin, if_neg hlast, if_neg hne]

theorem comes_assign_copy (h : s.Sound) {k j : Nat} {p ptr : CountPointer D}
    (hk : s.read k = some p) (hj : s.read j = some ptr)
    (hi : (s.write k (p.assign_copy s.heap ptr).1 (p.assign_copy s.heap ptr).2).read i = some p')
    (hvalue : p'.value = some o) : Comes s (.assign_copy k j) i p' o := by
  have hiff := h.value_eq_iff (List.mem_of_getElem? (read_eq_some.mp hk))
    (List.mem_of_getElem? (read_eq_some.mp hj))
  rw [read_write hk] at hi
  by_cases hik : i = k
  · subst hik
    rw [if_pos rfl] at hi
    cases hi
    by_cases hcount : p.count = ptr.count
    · have hsame : (p.assign_copy s.heap ptr).2 = p := by
        rw [CountPointer.assign_copy, if_neg (not_not.mpr hcount)]
      rw [hsame] at hvalue ⊢
      refine .same i p nofun ?_ hk hvalue rfl
      rw [origin, object_of_read hk, object_of_read hj,
        if_neg fun hne => hne.2 (hiff.mpr hcount)]
    · have hcopied : (p.assign_copy s.heap ptr).2 = ptr := by
        rw [CountPointer.assign_copy, if_pos hcount]
      rw [hcopied] at hvalue ⊢
      refine .same j ptr nofun ?_ hj hvalue rfl
      rw [origin, object_of_read hk, object_of_read hj,
        if_pos ⟨rfl, fun heq => hcount (hiff.mp heq)⟩]
  · rw [if_neg hik] at hi
    refine .same i p' nofun ?_ hi hvalue rfl
    rw [origin, if_neg fun hne => hik hne.1]

/-- What another object is moved to. -/
theorem assign_move_of_ne (h : Heap D) {p ptr : CountPointer D} (hcount : p.count ≠ ptr.count)
    (hvalue : (p.assign_move h ptr).2.1.value = some o) : (p.assign_move h ptr).2.1 = ptr := by
  unfold CountPointer.assign_move at hvalue ⊢
  dsimp only at hvalue ⊢
  split at hvalue
  · next hne => rw [if_pos hne]
  · next heq =>
    rw [not_not] at heq
    rcases p.dec_count_pointer h with hp | hp
    · rw [hp] at heq
      exact absurd heq hcount
    · rw [hp] at hvalue
      cases hvalue

theorem comes_assign_move (h : s.Sound) {k j : Nat} (hkj : k ≠ j) {p ptr : CountPointer D}
    (hk : s.read k = some p) (hj : s.read j = some ptr)
    (hi : ((s.write k (p.assign_move s.heap ptr).1 (p.assign_move s.heap ptr).2.1).write j
      (p.assign_move s.heap ptr).1 (p.assign_move s.heap ptr).2.2).read i = some p')
    (hvalue : p'.value = some o) : Comes s (.assign_move k j) i p' o := by
  have hiff := h.value_eq_iff (List.mem_of_getElem? (read_eq_some.mp hk))
    (List.mem_of_getElem? (read_eq_some.mp hj))
  have hj' : (s.write k (p.assign_move s.heap ptr).1 (p.assign_move s.heap ptr).2.1).read j =
      some ptr := by
    rw [read_write hk, if_neg (Ne.symm hkj), hj]
  rw [read_write hj', read_write hk] at hi
  by_cases hij : i = j
  · -- the other pointer is null
    rw [if_pos hij] at hi
    cases hi
    cases hvalue
  rw [if_neg hij] at hi
  by_cases hik : i = k
  · subst hik
    rw [if_pos rfl] at hi
    cases hi
    by_cases hcount : p.count = ptr.count
    · -- the share of the other pointer is given up
      have hsame : (p.assign_move s.heap ptr).2.1 = p := by
        rw [CountPointer.assign_move, h.dec_count_eq hkj (read_eq_some.mp hk) (read_eq_some.mp hj)
          hcount]
        exact if_neg (not_not.mpr hcount)
      rw [hsame] at hvalue ⊢
      refine .same i p nofun ?_ hk hvalue rfl
      rw [origin, if_neg hkj, if_neg hij, object_of_read hk, object_of_read hj,
        if_neg fun hne => hne.2 (hiff.mpr hcount)]
    · have hmoved := assign_move_of_ne s.heap hcount hvalue
      rw [hmoved] at hvalue ⊢
      refine .same j ptr nofun ?_ hj hvalue rfl
      rw [origin, if_neg hkj, if_neg hij, object_of_read hk, object_of_read hj,
        if_pos ⟨rfl, fun heq => hcount (hiff.mp heq)⟩]
  · rw [if_neg hik] at hi
    refine .same i p' nofun ?_ hi hvalue rfl
    rw [origin, if_neg hkj, if_neg hij, if_neg fun hne => hik hne.1]

theorem comes_set_destructor {k : Nat} {p : CountPointer D} (hk : s.read k = some p) {d : D}
    (hi : (s.write k s.heap (p.set_destructor d)).read i = some p')
    (hvalue : p'.value = some o) : Comes s (.set_destructor k d) i p' o := by
  rw [read_write hk] at hi
  by_cases hik : i = k
  · subst hik
    rw [if_pos rfl] at hi
    cases hi
    exact .set d rfl ((object_of_read hk).trans hvalue) rfl
  · rw [if_neg hik] at hi
    refine .same i p' ?_ rfl hi hvalue rfl
    rintro d' ⟨⟩
    exact hik rfl

/-- **Where the pointers to an object come from.** -/
theorem comes_of_next (h : s.Sound) {op : Operation D} (hnext : s.next op = some s')
    (hi : s'.read i = some p') (hvalue : p'.value = some o) : Comes s op i p' o := by
  cases next_cases hnext with
  | construct ptr hptr =>
    refine comes_replace (v := some (CountPointer.construct s.heap ptr).2)
      (fun d heq => by cases heq) rfl ((read_hand_in ptr).trans (read_add _ _)) ?_ hi hvalue
    rintro p ⟨rfl⟩
    obtain ⟨hdestructor, hnew⟩ := construct_new s.heap ptr
    rw [hnew]
    exact ⟨hdestructor, hptr⟩
  | copy_construct j ptr hj => exact comes_copy_construct hj hi hvalue
  | move_construct j ptr hj => exact comes_move_construct hj hi hvalue
  | assign_raw k ptr p hk hptr =>
    refine comes_replace (v := some (p.assign_raw s.heap ptr).2)
      (fun d heq => by cases heq) rfl ((read_hand_in ptr).trans (read_write hk _ _)) ?_ hi hvalue
    rintro q ⟨rfl⟩
    obtain ⟨hdestructor, hnew⟩ := assign_raw_new s.heap p ptr
    rw [hnew]
    exact ⟨hdestructor, hptr⟩
  | assign_copy k j p ptr hk hj => exact comes_assign_copy h hk hj hi hvalue
  | assign_move_self k =>
    exact .same i p' (fun d heq => by cases heq) (if_pos rfl) hi hvalue rfl
  | assign_move k j p ptr hkj hk hj => exact comes_assign_move h hkj hk hj hi hvalue
  | assign_null k p hk =>
    refine comes_replace (v := some {}) (fun d heq => by cases heq) rfl (read_write hk _ _) ?_ hi
      hvalue
    rintro q ⟨rfl⟩
    exact ⟨rfl, fun o hnull => by cases hnull⟩
  | set_destructor k d p hk => exact comes_set_destructor hk hi hvalue
  | destroy k p hk =>
    exact comes_replace (v := none) (fun d heq => by cases heq) rfl (read_destroy hk _)
      (fun q hq => by cases hq) hi hvalue

end operations

end State

end ZAF.CountPointers
