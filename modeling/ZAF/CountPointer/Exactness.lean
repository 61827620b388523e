import Mathlib.Data.List.Nodup
import ZAF.CountPointer.Pointer
import ZAF.Framework.Counting

/-! # Counters count exactly

    What is on the heap is determined by the variables: the counter of an object is the
    number of pointers to it, and an object that no pointer refers to has been deleted. Each
    special member releases what its pointer refers to, takes a share of another object, or
    both; each of these keeps the heap in step with the variables, as long as the number of
    pointers fits the counter.
-/

namespace ZAF.CountPointers

open LTS Counting

variable {D : Type}

/-! ### What is expected -/

/-- Does a variable hold a pointer to the object? One that has been destroyed does not. -/
def refers (o : Nat) (v : Option (CountPointer D)) : Bool := v.any fun p => p.value == some o

/-- The number of pointers to an object. -/
def refs (ps : List (Option (CountPointer D))) (o : Nat) : Nat :=
  ps.countP (refers o)

namespace State

/-- The number of pointers to an object fits its counter. -/
def Few (s : State D) : Prop := ∀ o ∈ s.handed, refs s.pointers o < 2 ^ 32

instance (s : State D) : Decidable s.Few := inferInstanceAs (Decidable (∀ o ∈ s.handed, _))

/-- What is right of counters and deletions in a state. -/
structure CountsExactly (s : State D) : Prop where
  both_null : ∀ p, some p ∈ s.pointers → (p.value = none ↔ p.count = none)
  one_to_one : ∀ p q, some p ∈ s.pointers → some q ∈ s.pointers →
    (p.value = q.value ↔ p.count = q.count)
  counted : ∀ p o count, some p ∈ s.pointers → p.value = some o → p.count = some count →
    ∃ n, s.heap.counters[count]? = some (some n) ∧ n.toNat = refs s.pointers o
  /-- An object has been deleted if there is no pointer to it, and then once. -/
  deleted : ∀ o, s.heap.deleted.count o =
    if o ∈ s.handed ∧ refs s.pointers o = 0 then 1 else 0
  defined : s.heap.undefined = false

end State

/-! ### Counting references -/

section refs

variable {ps : List (Option (CountPointer D))}

/-- A variable changes: one reference for another. -/
theorem refs_set {i : Nat} {v : Option (CountPointer D)} (h : ps[i]? = some v)
    (v' : Option (CountPointer D)) (o : Nat) :
    refs (ps.set i v') o + (refers o v).toNat = refs ps o + (refers o v').toNat :=
  countP_set_add h v' (refers o)

theorem refers_some {p : CountPointer D} {o : Nat} :
    refers o (some p) = true ↔ p.value = some o := by
  simp [refers]

theorem refers_of_null {p : CountPointer D} (h : p.value = none) (o : Nat) :
    refers o (some p) = false := by
  simp [refers, h]

theorem refers_of_ne {p : CountPointer D} {o o' : Nat} (h : p.value = some o) (hne : o' ≠ o) :
    refers o' (some p) = false := by
  simp only [refers, h, Option.any_some]
  simpa using Ne.symm hne

/-- A pointer to an object is one of those that refer to it. -/
theorem refs_pos {p : CountPointer D} {o : Nat} (hp : some p ∈ ps)
    (hvalue : p.value = some o) : 0 < refs ps o :=
  List.countP_pos_iff.mpr ⟨some p, hp, refers_some.mpr hvalue⟩

end refs

/-- A function over different elements, when it changes at one of them. -/
theorem map_set_of_nodup {α β : Type} {xs : List α} (hnodup : xs.Nodup) {i : Nat} {x : α}
    (hx : xs[i]? = some x) {f : α → β} (f' : α → β) (hf : ∀ y ∈ xs, y ≠ x → f' y = f y) :
    (xs.map f).set i (f' x) = xs.map f' := by
  apply List.ext_getElem?
  intro k
  rw [List.getElem?_set, List.getElem?_map, List.getElem?_map]
  split
  · next hk =>
    subst hk
    have hlt := (List.getElem?_eq_some_iff.mp hx).1
    rw [if_pos (by simpa using hlt), hx]
    rfl
  · next hk =>
    cases hy : xs[k]? with
    | none => rfl
    | some y =>
      have hne : y ≠ x := by
        rintro rfl
        obtain ⟨hi, hxi⟩ := List.getElem?_eq_some_iff.mp hx
        obtain ⟨hk', hyk⟩ := List.getElem?_eq_some_iff.mp hy
        exact hk (hnodup.getElem_inj_iff.mp (hxi.trans hyk.symm))
      rw [Option.map_some, Option.map_some, hf y (List.mem_of_getElem? hy) hne]

/-! ### The heap in step with the variables -/

/-- A null pointer, or one to an object with its counter. -/
def Aligned (handed : List Nat) (p : CountPointer D) : Prop :=
  (p.value = none ∧ p.count = none) ∨
    ∃ o count, p.value = some o ∧ p.count = some count ∧ handed[count]? = some o

/-- The counter of an object with `n` pointers to it. -/
def counter (n : Nat) : Option UInt32 := if n = 0 then none else some (UInt32.ofNat n)

/-- What the last pointer to an object does to it. -/
def CountPointer.last_events (p : CountPointer D) (o : Nat) : List (Event D) :=
  (p.destructor.map fun d => .called d (some o)).toList ++ [.deleted o]

/-- The destructor is called before the object is deleted, and counts as no deletion. -/
theorem Heap.deleted_of_last {h h' : Heap D} {p : CountPointer D} {o : Nat}
    (hevents : h'.events = h.events ++ p.last_events o) : h'.deleted = h.deleted ++ [o] := by
  have hlast : (p.last_events o).filterMap Event.object_deleted = [o] := by
    rw [CountPointer.last_events]
    cases p.destructor <;> rfl
  rw [Heap.deleted, hevents, List.filterMap_append, hlast, Heap.deleted]

/-- A pointer that is counted down stays as it is, or becomes null. -/
theorem CountPointer.dec_count_pointer (h : Heap D) (p : CountPointer D) :
    (p.dec_count h).2 = p ∨ (p.dec_count h).2 = {} := by
  unfold CountPointer.dec_count
  split
  · dsimp only
    split
    · exact .inr rfl
    · exact .inl rfl
  · exact .inl rfl

/-- **The heap is what the variables say.** Counters are created in the order in which objects are
    handed in, so the position of a counter is that of its object. -/
structure Sound (ps : List (Option (CountPointer D))) (h : Heap D) (handed : List Nat) :
    Prop where
  nodup : handed.Nodup
  aligned : ∀ p, some p ∈ ps → Aligned handed p
  few : ∀ o ∈ handed, refs ps o < 2 ^ 32
  counters : h.counters = handed.map fun o => counter (refs ps o)
  deleted : ∀ o, h.deleted.count o = if o ∈ handed ∧ refs ps o = 0 then 1 else 0
  defined : h.undefined = false

namespace Sound

variable {ps ps' : List (Option (CountPointer D))} {h : Heap D}
  {handed : List Nat}

/-- There is no pointer to what has not been handed in. -/
theorem refs_eq_zero (hs : Sound ps h handed) {o : Nat} (ho : o ∉ handed) :
    refs ps o = 0 := by
  apply List.countP_eq_zero.mpr
  intro v hv hrefers
  cases v with
  | none => cases hrefers
  | some p =>
    rw [refers_some] at hrefers
    rcases hs.aligned p hv with ⟨hnull, -⟩ | ⟨o', count, hvalue, -, hhanded⟩
    · rw [hnull] at hrefers
      cases hrefers
    · rw [hvalue] at hrefers
      cases hrefers
      exact ho (List.mem_of_getElem? hhanded)

/-- Only the number of pointers to each object matters. -/
theorem of_refs (hs : Sound ps h handed)
    (hrefs : ∀ o, refs ps' o = refs ps o)
    (haligned : ∀ p, some p ∈ ps' → Aligned handed p) : Sound ps' h handed where
  nodup := hs.nodup
  aligned := haligned
  few o ho := by
    rw [hrefs]
    exact hs.few o ho
  counters := by
    simp only [hrefs]
    exact hs.counters
  deleted o := by
    rw [hrefs]
    exact hs.deleted o
  defined := hs.defined

/-- One variable changes. -/
theorem aligned_set (hs : Sound ps h handed) {i : Nat} {v : Option (CountPointer D)}
    (hv : ∀ p, v = some p → Aligned handed p) :
    ∀ p, some p ∈ ps.set i v → Aligned handed p := by
  intro p hp
  rcases List.mem_or_eq_of_mem_set hp with hp | hp
  · exact hs.aligned p hp
  · exact hv p hp.symm

/-- The counter of an object with pointers to it is there. -/
theorem counter_eq (hs : Sound ps h handed) {count o : Nat}
    (hhanded : handed[count]? = some o) (hpos : 0 < refs ps o) :
    h.counters[count]? = some (some (UInt32.ofNat (refs ps o))) := by
  rw [hs.counters, List.getElem?_map, hhanded, Option.map_some, counter,
    if_neg (Nat.ne_of_gt hpos)]

/-! ### Counting down and up -/

/-- `--(*count)` in 32 bits. -/
theorem ofNat_succ_sub (n : Nat) : UInt32.ofNat (n + 1) - 1 = UInt32.ofNat n := by
  rw [UInt32.ofNat_add]
  exact UInt32.add_sub_cancel _ _

/-- Below 2^32 a counter is 0 only if nothing is counted. -/
theorem ofNat_eq_zero_iff {n : Nat} (h : n < 2 ^ 32) : UInt32.ofNat n = 0 ↔ n = 0 := by
  rw [← UInt32.toNat_inj, UInt32.toNat_ofNat_of_lt' h]
  exact Iff.rfl

/-- One of several pointers to an object. -/
theorem dec_count_of_shared {p : CountPointer D} {count n : Nat} (hcount : p.count = some count)
    (hold : h.counters[count]? = some (some (UInt32.ofNat (n + 1)))) (hlt : n < 2 ^ 32)
    (hpos : n ≠ 0) :
    p.dec_count h =
      ({ h with counters := h.counters.set count (some (UInt32.ofNat n)) }, p) := by
  obtain ⟨hin, -⟩ := List.getElem?_eq_some_iff.mp hold
  simp only [CountPointer.dec_count, hcount, Heap.update, hold, ofNat_succ_sub]
  rw [List.getElem?_set_self hin, if_neg]
  intro hzero
  exact hpos ((ofNat_eq_zero_iff hlt).mp (Option.some.inj (Option.some.inj hzero)))

/-- The last pointer to an object. -/
theorem dec_count_of_last {p : CountPointer D} {count : Nat} (hcount : p.count = some count)
    (hold : h.counters[count]? = some (some 1)) :
    p.dec_count h =
      (p.free { h with counters := h.counters.set count (some 0) } count, {}) := by
  obtain ⟨hin, -⟩ := List.getElem?_eq_some_iff.mp hold
  have hone : (1 : UInt32) - 1 = 0 := rfl
  simp only [CountPointer.dec_count, hcount, Heap.update, hold, hone]
  rw [List.getElem?_set_self hin, if_pos rfl]

/-- What counting down does to the heap, when `n` pointers are left. -/
theorem dec_count_heap {p : CountPointer D} {o count n : Nat} (hvalue : p.value = some o)
    (hcount : p.count = some count)
    (hold : h.counters[count]? = some (some (UInt32.ofNat (n + 1)))) (hlt : n < 2 ^ 32) :
    (p.dec_count h).1.counters = h.counters.set count (counter n) ∧
      (p.dec_count h).1.events = h.events ++ (if n = 0 then p.last_events o else []) ∧
      (p.dec_count h).1.undefined = h.undefined := by
  rcases Nat.eq_zero_or_pos n with rfl | hpos
  · rw [dec_count_of_last hcount hold]
    simp [CountPointer.free, CountPointer.last_events, counter, hvalue]
  · have hne : n ≠ 0 := Nat.ne_of_gt hpos
    rw [dec_count_of_shared hcount hold hlt hne]
    simp [counter, hne]

/-- A pointer is replaced by a null pointer, or destroyed. -/
theorem release (hs : Sound ps h handed) {i : Nat} {p : CountPointer D}
    (hi : ps[i]? = some (some p)) {v : Option (CountPointer D)}
    (hv : ∀ q, v = some q → q.value = none ∧ q.count = none) :
    Sound (ps.set i v) (p.dec_count h).1 handed := by
  have hmem : some p ∈ ps := List.mem_of_getElem? hi
  have haligned := hs.aligned_set (i := i) (v := v) fun q hq => .inl (hv q hq)
  -- what stands in the place of `p` refers to nothing
  have hrefers : ∀ o, refers o v = false := by
    intro o
    cases v with
    | none => rfl
    | some q => exact refers_of_null (hv q rfl).1 o
  have hset : ∀ o, refs (ps.set i v) o + (refers o (some p)).toNat = refs ps o := by
    intro o
    have hset := refs_set hi v o
    rwa [hrefers o] at hset
  rcases hs.aligned p hmem with ⟨hnull, hcount⟩ | ⟨o, count, hvalue, hcount, hhanded⟩
  -- a null pointer has no share to give up
  · have hdec : p.dec_count h = (h, p) := by simp only [CountPointer.dec_count, hcount]
    rw [hdec]
    apply hs.of_refs _ haligned
    intro o
    have hset := hset o
    rwa [refers_of_null hnull] at hset
  · have ho : o ∈ handed := List.mem_of_getElem? hhanded
    have hself : refs (ps.set i v) o + 1 = refs ps o := by
      have hset := hset o
      rwa [refers_some.mpr hvalue] at hset
    have hother : ∀ o', o' ≠ o → refs (ps.set i v) o' = refs ps o' := by
      intro o' hne
      have hset := hset o'
      rwa [refers_of_ne hvalue hne] at hset
    have hfew := hs.few o ho
    have hold := hs.counter_eq hhanded (by omega)
    rw [← hself] at hold
    obtain ⟨hcounters, hevents, hundefined⟩ :=
      dec_count_heap hvalue hcount hold (by omega)
    -- the object goes with its last pointer
    have hdeleted : (p.dec_count h).1.deleted =
        h.deleted ++ if refs (ps.set i v) o = 0 then [o] else [] := by
      split
      · next hzero =>
        rw [if_pos hzero] at hevents
        exact Heap.deleted_of_last hevents
      · next hpos =>
        rw [if_neg hpos, List.append_nil] at hevents
        rw [Heap.deleted, hevents, List.append_nil, Heap.deleted]
    refine ⟨hs.nodup, haligned, ?_, ?_, ?_, hundefined.trans hs.defined⟩
    · intro o' ho'
      have := hs.few o' ho'
      by_cases heq : o' = o
      · subst heq
        omega
      · rwa [hother o' heq]
    · rw [hcounters, hs.counters]
      exact map_set_of_nodup hs.nodup hhanded (fun o => counter (refs (ps.set i v) o))
        fun o' _ hne => by rw [hother o' hne]
    · intro o'
      rw [hdeleted, List.count_append, hs.deleted]
      by_cases heq : o' = o
      · subst heq
        rw [← hself]
        by_cases hzero : refs (ps.set i v) o' = 0
        · simp [hzero, ho]
        · simp [hzero]
      · have hnone : (if refs (ps.set i v) o = 0 then [o] else []).count o' = 0 := by
          split <;> simp [Ne.symm heq]
        rw [hother o' heq, hnone, Nat.add_zero]

/-- A null pointer becomes one more pointer to an object. -/
theorem acquire (hs : Sound ps h handed) {i : Nat} {q p : CountPointer D}
    (hi : ps[i]? = some (some q)) (hq : q.value = none) (hp : Aligned handed p)
    (hpos : ∀ o, p.value = some o → 0 < refs ps o)
    (hfew : ∀ o, p.value = some o → refs (ps.set i (some p)) o < 2 ^ 32) :
    Sound (ps.set i (some p)) (p.inc_count h) handed := by
  have haligned := hs.aligned_set (i := i) (v := some p) fun q hq => Option.some.inj hq ▸ hp
  have hset : ∀ o, refs (ps.set i (some p)) o = refs ps o + (refers o (some p)).toNat := by
    intro o
    have hset := refs_set hi (some p) o
    rwa [refers_of_null hq] at hset
  rcases hp with ⟨hnull, hcount⟩ | ⟨o, count, hvalue, hcount, hhanded⟩
  -- a null pointer shares nothing
  · have hinc : p.inc_count h = h := by simp only [CountPointer.inc_count, hcount]
    rw [hinc]
    apply hs.of_refs _ haligned
    intro o
    rw [hset, refers_of_null hnull]
    rfl
  · have ho : o ∈ handed := List.mem_of_getElem? hhanded
    have hself : refs (ps.set i (some p)) o = refs ps o + 1 := by
      rw [hset, refers_some.mpr hvalue]
      rfl
    have hother : ∀ o', o' ≠ o → refs (ps.set i (some p)) o' = refs ps o' := by
      intro o' hne
      rw [hset, refers_of_ne hvalue hne]
      rfl
    have hpos := hpos o hvalue
    have hold := hs.counter_eq hhanded hpos
    -- one more pointer, which still fits the counter
    have hinc : p.inc_count h =
        { h with counters := h.counters.set count (counter (refs (ps.set i (some p)) o)) } := by
      simp only [CountPointer.inc_count, hcount, Heap.update, hold, hself, counter]
      rw [if_neg (Nat.succ_ne_zero _), UInt32.ofNat_add]
      rfl
    rw [hinc]
    refine ⟨hs.nodup, haligned, ?_, ?_, ?_, hs.defined⟩
    · intro o' ho'
      by_cases heq : o' = o
      · subst heq
        exact hfew o' hvalue
      · rw [hother o' heq]
        exact hs.few o' ho'
    · dsimp only
      rw [hs.counters]
      exact map_set_of_nodup hs.nodup hhanded (fun o => counter (refs (ps.set i _) o))
        fun o' _ hne => by rw [hother o' hne]
    · intro o'
      show h.deleted.count o' = _
      rw [hs.deleted]
      by_cases heq : o' = o
      · subst heq
        have hne : refs ps o' ≠ 0 := Nat.ne_of_gt hpos
        simp [hself, hne]
      · rw [hother o' heq]

/-- A null pointer gets an object that has not been handed in before. -/
theorem adopt (hs : Sound ps h handed) {i : Nat} {q : CountPointer D}
    (hi : ps[i]? = some (some q)) (hq : q.value = none) {o : Nat} (ho : o ∉ handed)
    {p : CountPointer D} (hvalue : p.value = some o) (hcount : p.count = some h.new_count.2) :
    Sound (ps.set i (some p)) h.new_count.1 (handed ++ [o]) := by
  have hset : ∀ o', refs (ps.set i (some p)) o' = refs ps o' + (refers o' (some p)).toNat := by
    intro o'
    have hset := refs_set hi (some p) o'
    rwa [refers_of_null hq] at hset
  have hself : refs (ps.set i (some p)) o = 1 := by
    rw [hset, refers_some.mpr hvalue, hs.refs_eq_zero ho]
    rfl
  have hother : ∀ o', o' ≠ o → refs (ps.set i (some p)) o' = refs ps o' := by
    intro o' hne
    rw [hset, refers_of_ne hvalue hne]
    rfl
  -- objects are not handed in twice
  have hne : ∀ o' ∈ handed, o' ≠ o := fun o' ho' heq => ho (heq ▸ ho')
  refine ⟨?_, ?_, ?_, ?_, ?_, hs.defined⟩
  · rw [List.nodup_append]
    exact ⟨hs.nodup, List.nodup_singleton o, fun o' ho' o'' ho'' =>
      List.mem_singleton.mp ho'' ▸ hne o' ho'⟩
  · intro p' hp'
    rcases List.mem_or_eq_of_mem_set hp' with hp' | hp'
    · rcases hs.aligned p' hp' with hnull | ⟨o', count, hvalue', hcount', hhanded⟩
      · exact .inl hnull
      · refine .inr ⟨o', count, hvalue', hcount', ?_⟩
        rw [List.getElem?_append_left (List.getElem?_eq_some_iff.mp hhanded).1]
        exact hhanded
    · cases hp'
      refine .inr ⟨o, _, hvalue, hcount, ?_⟩
      have hlength : h.new_count.2 = handed.length := by
        rw [Heap.new_count, hs.counters, List.length_map]
      rw [hlength, List.getElem?_concat_length]
  · simp only [List.forall_mem_append, List.forall_mem_singleton, hself]
    refine ⟨fun o' ho' => ?_, by decide⟩
    rw [hother o' (hne o' ho')]
    exact hs.few o' ho'
  · rw [List.map_append, List.map_singleton, hself]
    show h.counters ++ [some 1] = _
    rw [hs.counters]
    congr 1
    apply List.map_congr_left
    intro o' ho'
    rw [hother o' (hne o' ho')]
  · intro o'
    show h.deleted.count o' = _
    rw [hs.deleted]
    by_cases heq : o' = o
    · subst heq
      simp [ho, hself]
    · simp [hother o' heq, heq]

/-- A null pointer and another pointer change places. -/
theorem transfer (hs : Sound ps h handed) {i j : Nat} {q p p' : CountPointer D} (hij : i ≠ j)
    (hi : ps[i]? = some (some q)) (hq : q.value = none) (hj : ps[j]? = some (some p))
    (hvalue : p'.value = p.value) (hcount : p'.count = p.count) :
    Sound ((ps.set i (some p')).set j (some {})) h handed := by
  have hrefers : ∀ o, refers o (some p') = refers o (some p) := by
    intro o
    simp only [refers, Option.any_some, hvalue]
  have hp' : Aligned handed p' := by
    rw [Aligned, hvalue, hcount]
    exact hs.aligned p (List.mem_of_getElem? hj)
  apply hs.of_refs
  · intro o
    have hfirst := refs_set hi (some p') o
    have hj' : (ps.set i (some p'))[j]? = some (some p) := by
      rw [List.getElem?_set_ne hij, hj]
    have hsecond := refs_set hj' (some {}) o
    rw [refers_of_null hq, hrefers] at hfirst
    rw [refers_of_null (p := ({} : CountPointer D)) rfl] at hsecond
    omega
  · intro p'' hp''
    rcases List.mem_or_eq_of_mem_set hp'' with hp'' | hp''
    · exact hs.aligned_set (fun _ h => Option.some.inj h ▸ hp') p'' hp''
    · cases hp''
      exact .inl ⟨rfl, rfl⟩

/-- A null pointer is constructed. -/
theorem add (hs : Sound ps h handed) : Sound (ps ++ [some ({} : CountPointer D)]) h handed := by
  apply hs.of_refs
  · intro o
    simp [refs, refers]
  · intro p hp
    rcases List.mem_append.mp hp with hp | hp
    · exact hs.aligned p hp
    · cases List.mem_singleton.mp hp
      exact .inl ⟨rfl, rfl⟩

end Sound

/-! ### The operations -/

namespace State

/-- The same for a state. -/
def Sound (s : State D) : Prop := CountPointers.Sound s.pointers s.heap s.handed

variable {s s' : State D}

/-- Before the first pointer is constructed. -/
theorem sound_empty : (empty : State D).Sound where
  nodup := List.nodup_nil
  aligned p hp := nomatch hp
  few o ho := nomatch ho
  counters := rfl
  deleted o := by simp [empty, Heap.empty, Heap.deleted]
  defined := rfl

/-- A variable that has not been destroyed. -/
theorem read_eq_some {i : Nat} {p : CountPointer D} :
    s.read i = some p ↔ s.pointers[i]? = some (some p) := by
  rw [read, Option.join_eq_some_iff]

/-- The number of pointers to the object of a variable fits its counter. -/
theorem Sound.lt_of_few (h : s.Sound) {p : CountPointer D} (hp : some p ∈ s.pointers)
    {ps : List (Option (CountPointer D))} (hfew : ∀ o ∈ s.handed, refs ps o < 2 ^ 32) {o : Nat}
    (ho : p.value = some o) : refs ps o < 2 ^ 32 := by
  rcases h.aligned p hp with ⟨hnull, -⟩ | ⟨o', count, hvalue, -, hhanded⟩
  · rw [hnull] at ho
    cases ho
  · rw [hvalue] at ho
    cases ho
    exact hfew o (List.mem_of_getElem? hhanded)

theorem set_of_getElem? {α : Type} {xs : List α} {i : Nat} {x : α} (h : xs[i]? = some x) :
    xs.set i x = xs := by
  obtain ⟨hi, rfl⟩ := List.getElem?_eq_some_iff.mp h
  exact List.set_getElem_self hi

/-- The last variable. -/
theorem concat_eq_set (ps : List (Option (CountPointer D))) (p : CountPointer D) :
    ps ++ [some p] = (ps ++ [some ({} : CountPointer D)]).set ps.length (some p) := by
  rw [List.set_append_right _ _ (le_refl _), Nat.sub_self, List.set_cons_zero]

theorem getElem?_concat {ps : List (Option (CountPointer D))} {v : Option (CountPointer D)} :
    (ps ++ [v])[ps.length]? = some v := by simp

/-- A pointer to a new object is a null pointer that adopts it. -/
theorem sound_construct (h : s.Sound) {ptr : Option Nat} (hptr : ∀ o ∈ ptr, o ∉ s.handed) :
    ((s.add (CountPointer.construct s.heap ptr).1 (CountPointer.construct s.heap ptr).2).hand_in
      ptr).Sound := by
  have hadd := CountPointers.Sound.add h
  cases ptr with
  | none =>
    show CountPointers.Sound (s.pointers ++ [_]) s.heap (s.handed ++ [])
    rw [List.append_nil]
    exact hadd
  | some o =>
    show CountPointers.Sound (s.pointers ++ [_]) s.heap.new_count.1 (s.handed ++ [o])
    rw [concat_eq_set]
    exact hadd.adopt getElem?_concat rfl (hptr o rfl) rfl rfl

/-- A copy is a null pointer that acquires a share. -/
theorem sound_copy_construct (h : s.Sound) {j : Nat} {ptr : CountPointer D}
    (hj : s.read j = some ptr)
    (hfew : ∀ o ∈ s.handed, refs (s.pointers ++ [some ptr]) o < 2 ^ 32) :
    (s.add (CountPointer.copy_construct s.heap ptr).1
      (CountPointer.copy_construct s.heap ptr).2).Sound := by
  have hmem := List.mem_of_getElem? (read_eq_some.mp hj)
  have hadd := CountPointers.Sound.add h
  show CountPointers.Sound (s.pointers ++ [some ptr]) (ptr.inc_count s.heap) s.handed
  rw [concat_eq_set]
  refine hadd.acquire getElem?_concat rfl (h.aligned ptr hmem) ?_ ?_
  · intro o ho
    exact refs_pos (List.mem_append_left _ hmem) ho
  · intro o ho
    rw [← concat_eq_set]
    exact h.lt_of_few hmem hfew ho

/-- A move is a null pointer that changes places with the other one. -/
theorem sound_move_construct (h : s.Sound) {j : Nat} {ptr : CountPointer D}
    (hj : s.read j = some ptr) :
    ((s.write j s.heap (CountPointer.move_construct ptr).2).add s.heap
      (CountPointer.move_construct ptr).1).Sound := by
  have hj := read_eq_some.mp hj
  have hlt := (List.getElem?_eq_some_iff.mp hj).1
  have hadd := CountPointers.Sound.add h
  have hlist : s.pointers.set j (some {}) ++ [some ptr] =
      ((s.pointers ++ [some ({} : CountPointer D)]).set s.pointers.length (some ptr)).set j
        (some {}) := by
    rw [← concat_eq_set, List.set_append_left _ _ hlt]
  show CountPointers.Sound (s.pointers.set j (some {}) ++ [some ptr]) s.heap s.handed
  rw [hlist]
  refine hadd.transfer (Nat.ne_of_gt hlt) getElem?_concat rfl ?_ rfl rfl
  rw [List.getElem?_append_left hlt, hj]

/-- `operator=(U*)` gives up the share before it adopts the new object. -/
theorem sound_assign_raw (h : s.Sound) {i : Nat} {p : CountPointer D} (hi : s.read i = some p)
    {ptr : Option Nat} (hptr : ∀ o ∈ ptr, o ∉ s.handed) :
    ((s.write i (p.assign_raw s.heap ptr).1 (p.assign_raw s.heap ptr).2).hand_in ptr).Sound := by
  have hi := read_eq_some.mp hi
  have hrelease := CountPointers.Sound.release h hi (v := some {})
    fun q hq => Option.some.inj hq ▸ ⟨rfl, rfl⟩
  cases ptr with
  | none =>
    show CountPointers.Sound (s.pointers.set i _) (p.dec_count s.heap).1 (s.handed ++ [])
    rw [List.append_nil]
    exact hrelease
  | some o =>
    show CountPointers.Sound (s.pointers.set i (some _)) (p.dec_count s.heap).1.new_count.1
      (s.handed ++ [o])
    have hlt := (List.getElem?_eq_some_iff.mp hi).1
    have hadopt := hrelease.adopt (List.getElem?_set_self hlt) rfl (hptr o rfl)
      (p := { value := some o, count := some (p.dec_count s.heap).1.new_count.2 }) rfl rfl
    rw [List.set_set] at hadopt
    exact hadopt

/-- `operator=(const CountPointer&)` does nothing between pointers with one counter. Otherwise a
    share is given up and another one acquired, of an object that the other pointer keeps alive. -/
theorem sound_assign_copy (h : s.Sound) {i j : Nat} {p ptr : CountPointer D}
    (hi : s.read i = some p) (hj : s.read j = some ptr)
    (hfew : ∀ o ∈ s.handed,
      refs (s.write i (p.assign_copy s.heap ptr).1 (p.assign_copy s.heap ptr).2).pointers o <
        2 ^ 32) :
    (s.write i (p.assign_copy s.heap ptr).1 (p.assign_copy s.heap ptr).2).Sound := by
  have hi := read_eq_some.mp hi
  have hj := read_eq_some.mp hj
  have hlt := (List.getElem?_eq_some_iff.mp hi).1
  unfold CountPointer.assign_copy at hfew ⊢
  -- also for a pointer that is assigned to itself
  by_cases hcount : p.count = ptr.count
  · rw [if_neg (not_not.mpr hcount)]
    show CountPointers.Sound (s.pointers.set i (some p)) s.heap s.handed
    rw [set_of_getElem? hi]
    exact h
  · rw [if_pos hcount] at hfew ⊢
    have hij : i ≠ j := by
      rintro rfl
      rw [hi] at hj
      cases hj
      exact hcount rfl
    have hmem := List.mem_of_getElem? hj
    have hrelease := CountPointers.Sound.release h hi (v := some {})
      fun q hq => Option.some.inj hq ▸ ⟨rfl, rfl⟩
    have hacquire := hrelease.acquire (List.getElem?_set_self hlt) rfl (h.aligned ptr hmem)
      (fun o ho => refs_pos
        (List.mem_of_getElem? ((List.getElem?_set_ne hij).trans hj)) ho)
      (fun o ho => by
        rw [List.set_set]
        exact h.lt_of_few hmem hfew ho)
    rw [List.set_set] at hacquire
    exact hacquire

/-- Of two pointers to one object, either can be counted down. -/
theorem Sound.dec_count_eq (h : s.Sound) {i j : Nat} (hij : i ≠ j) {p ptr : CountPointer D}
    (hi : s.pointers[i]? = some (some p)) (hj : s.pointers[j]? = some (some ptr))
    (hcount : p.count = ptr.count) :
    p.dec_count s.heap = ((ptr.dec_count s.heap).1, p) := by
  have hmem := List.mem_of_getElem? hi
  rcases h.aligned p hmem with ⟨-, hnone⟩ | ⟨o, count, hvalue, hsome, hhanded⟩
  · rw [CountPointer.dec_count, CountPointer.dec_count, ← hcount, hnone]
  · -- the other pointer is to the same object
    have hmem' := List.mem_of_getElem? hj
    have hvalue' : ptr.value = some o := by
      rcases h.aligned ptr hmem' with ⟨-, hnone⟩ | ⟨o', count', hvalue', hsome', hhanded'⟩
      · rw [hsome, hnone] at hcount
        cases hcount
      · rw [hsome, hsome'] at hcount
        cases hcount
        rw [hhanded] at hhanded'
        cases hhanded'
        exact hvalue'
    have hset := refs_set hi none o
    rw [refers_some.mpr hvalue] at hset
    have hpos : 0 < refs (s.pointers.set i none) o :=
      refs_pos (List.mem_of_getElem? ((List.getElem?_set_ne hij).trans hj)) hvalue'
    have htwo : refs (s.pointers.set i none) o + 1 = refs s.pointers o := hset
    have hlt := h.few o (List.mem_of_getElem? hhanded)
    have hold := h.counter_eq hhanded (by omega)
    rw [← htwo] at hold
    rw [CountPointers.Sound.dec_count_of_shared hsome hold (by omega) (by omega),
      CountPointers.Sound.dec_count_of_shared (hcount ▸ hsome) hold (by omega) (by omega)]

/-- `operator=(CountPointer&&)` counts down first, also when both have one counter: then the other
    pointer is made null without being counted down. -/
theorem sound_assign_move (h : s.Sound) {i j : Nat} (hij : i ≠ j) {p ptr : CountPointer D}
    (hi : s.read i = some p) (hj : s.read j = some ptr) :
    ((s.write i (p.assign_move s.heap ptr).1 (p.assign_move s.heap ptr).2.1).write j
      (p.assign_move s.heap ptr).1 (p.assign_move s.heap ptr).2.2).Sound := by
  have hi := read_eq_some.mp hi
  have hj := read_eq_some.mp hj
  have hlt := (List.getElem?_eq_some_iff.mp hi).1
  have hnull : ∀ q, some ({} : CountPointer D) = some q → q.value = none ∧ q.count = none :=
    fun q hq => Option.some.inj hq ▸ ⟨rfl, rfl⟩
  unfold CountPointer.assign_move
  show CountPointers.Sound ((s.pointers.set i (some (if _ then _ else _))).set j (some {}))
    (p.dec_count s.heap).1 s.handed
  by_cases hcount : p.count = ptr.count
  · -- the share of the other pointer is given up
    rw [h.dec_count_eq hij hi hj hcount, if_neg (not_not.mpr hcount), set_of_getElem? hi]
    exact CountPointers.Sound.release h hj hnull
  · have hrelease := CountPointers.Sound.release h hi hnull
    have hj' : (s.pointers.set i (some {}))[j]? = some (some ptr) :=
      (List.getElem?_set_ne hij).trans hj
    have hp := p.dec_count_pointer s.heap
    have htransfer : ∀ p' : CountPointer D, p'.value = ptr.value → p'.count = ptr.count →
        CountPointers.Sound ((s.pointers.set i (some p')).set j (some {}))
          (p.dec_count s.heap).1 s.handed := by
      intro p' hvalue' hcount'
      have htransfer := hrelease.transfer hij (List.getElem?_set_self hlt) rfl hj' hvalue' hcount'
      rwa [List.set_set] at htransfer
    split
    · exact htransfer _ rfl rfl
    · next hsame =>
      -- the other pointer is null, and this one has become null
      rw [not_not] at hsame
      rcases hp with hp | hp
      · rw [hp] at hsame
        exact absurd hsame hcount
      · rw [hp] at hsame ⊢
        refine htransfer _ ?_ hsame
        rcases h.aligned ptr (List.mem_of_getElem? hj) with ⟨hvalue, -⟩ | ⟨o, count, -, hsome, -⟩
        · exact hvalue.symm
        · rw [hsome] at hsame
          cases hsame

/-- Each special member keeps the heap in step, if the pointers that there are afterwards still
    fit their counters. -/
theorem Sound.next (h : s.Sound) {op : Operation D} (hnext : s.next op = some s')
    (hfew : s'.Few) : s'.Sound := by
  cases next_cases hnext with
  | construct ptr hptr => exact sound_construct h hptr
  | copy_construct j ptr hj => exact sound_copy_construct h hj hfew
  | move_construct j ptr hj => exact sound_move_construct h hj
  | assign_raw i ptr p hi hptr => exact sound_assign_raw h hi hptr
  | assign_copy i j p ptr hi hj => exact sound_assign_copy h hi hj hfew
  | assign_move_self i p hi => exact h
  | assign_move i j p ptr hij hi hj => exact sound_assign_move h hij hi hj
  | assign_null i p hi =>
    exact CountPointers.Sound.release h (read_eq_some.mp hi)
      fun q hq => Option.some.inj hq ▸ ⟨rfl, rfl⟩
  | set_destructor i d p hi =>
    have hi := read_eq_some.mp hi
    apply CountPointers.Sound.of_refs h
    · intro o
      exact Nat.add_right_cancel (refs_set hi (some (p.set_destructor d)) o)
    · exact CountPointers.Sound.aligned_set h fun q hq =>
        Option.some.inj hq ▸ h.aligned p (List.mem_of_getElem? hi)
  | destroy i p hi =>
    exact CountPointers.Sound.release h (read_eq_some.mp hi) fun q hq => by cases hq

/-! ### Runs -/

/-- Two pointers to the same object are two pointers to the same counter. -/
theorem Sound.value_eq_iff (h : s.Sound) {p q : CountPointer D} (hp : some p ∈ s.pointers)
    (hq : some q ∈ s.pointers) : p.value = q.value ↔ p.count = q.count := by
  rcases h.aligned p hp with ⟨hvalue, hcount⟩ | ⟨o, count, hvalue, hcount, hhanded⟩ <;>
    rcases h.aligned q hq with ⟨hvalue', hcount'⟩ | ⟨o', count', hvalue', hcount', hhanded'⟩ <;>
    rw [hvalue, hcount, hvalue', hcount']
  · simp
  · simp
  · simp only [Option.some.injEq]
    obtain ⟨hlt, ho⟩ := List.getElem?_eq_some_iff.mp hhanded
    obtain ⟨hlt', ho'⟩ := List.getElem?_eq_some_iff.mp hhanded'
    rw [← ho, ← ho']
    exact h.nodup.getElem_inj_iff

/-- What is in step is counted exactly. -/
theorem Sound.counts_exactly (h : s.Sound) : s.CountsExactly where
  both_null p hp := by
    rcases h.aligned p hp with ⟨hvalue, hcount⟩ | ⟨o, count, hvalue, hcount, -⟩
    · simp [hvalue, hcount]
    · simp [hvalue, hcount]
  one_to_one p q hp hq := h.value_eq_iff hp hq
  counted p o count hp hvalue hcount := by
    rcases h.aligned p hp with ⟨hnull, -⟩ | ⟨o', count', hvalue', hcount', hhanded⟩
    · rw [hnull] at hvalue
      cases hvalue
    · rw [hvalue] at hvalue'
      rw [hcount] at hcount'
      cases hvalue'
      cases hcount'
      refine ⟨_, h.counter_eq hhanded (refs_pos hp hvalue), ?_⟩
      exact UInt32.toNat_ofNat_of_lt' (h.few o (List.mem_of_getElem? hhanded))
  deleted := h.deleted
  defined := h.defined

/-- A counter that is exact has not overflowed. -/
theorem CountsExactly.lt (h : s.CountsExactly) {p : CountPointer D} (hp : some p ∈ s.pointers)
    {o : Nat} (ho : p.value = some o) : refs s.pointers o < 2 ^ 32 := by
  cases hcount : p.count with
  | none =>
    rw [(h.both_null p hp).mpr hcount] at ho
    cases ho
  | some count =>
    obtain ⟨n, -, hn⟩ := h.counted p o count hp ho hcount
    rw [← hn]
    exact UInt32.toNat_lt n

/-- So the condition is needed in every state. -/
theorem CountsExactly.few (h : s.CountsExactly) : s.Few := by
  intro o _
  rcases Nat.eq_zero_or_pos (refs s.pointers o) with hzero | hpos
  · rw [hzero]
    exact Nat.two_pow_pos 32
  · obtain ⟨v, hv, hrefers⟩ := List.countP_pos_iff.mp hpos
    cases v with
    | none => cases hrefers
    | some p => exact h.lt hv (refers_some.mp hrefers)

/-- **Counters count exactly all along a run exactly when there are never 2^32 pointers to one
    object.** -/
theorem counts_exactly_iff_few {steps : List (State D × Operation D)}
    (hrun : Run (system D) empty steps s) :
    (∀ t ∈ passes steps s, t.CountsExactly) ↔ ∀ t ∈ passes steps s, t.Few := by
  constructor
  · intro hexact t ht
    exact (hexact t ht).few
  · intro hfew
    suffices hsound : ∀ t ∈ passes steps s, t.Sound from fun t ht => (hsound t ht).counts_exactly
    -- on the run: each state follows from the one before and its own condition
    induction hrun with
    | nil =>
      intro t ht
      cases List.mem_singleton.mp ht
      exact sound_empty
    | @snoc steps s s' op hrun hnext ih =>
      rw [forall_passes_snoc] at hfew ⊢
      have ih := ih hfew.1
      exact ⟨ih, (ih s (mem_passes_last steps s)).next hnext hfew.2⟩

/-- The pointers of this run share objects, also when one is assigned to another. -/
theorem counts_exactly_iff_few_shared :
    ∃ (steps : List (State Unit × Operation Unit)) (s : State Unit),
      Run (system Unit) empty steps s ∧ s.heap.deleted = [7, 8] ∧
        ∀ t ∈ passes steps s, t.CountsExactly := by
  obtain ⟨steps, s, hrun, hfew, hobs⟩ := (system Unit).run_of_exec (fun s _ => s.Few)
    [.construct (some 7), .copy_construct 0, .construct none, .assign_copy 2 0,
      .assign_move 0 2, .assign_copy 1 1, .assign_raw 1 (some 8), .assign_null 0, .destroy 1]
    (fun s => (s.heap.deleted, decide s.Few)) (s := empty) (b := ([7, 8], true))
    (by decide +kernel)
  rw [Prod.mk.injEq, decide_eq_true_eq] at hobs
  refine ⟨steps, s, hrun, hobs.1, (counts_exactly_iff_few hrun).mpr ?_⟩
  simp only [passes, List.forall_mem_append, List.forall_mem_singleton, List.forall_mem_map]
  exact ⟨hfew, hobs.2⟩

/-- Many copies of one pointer. -/
def copies (n : Nat) : State D where
  pointers := List.replicate n (some { value := some 0, count := some 0 })
  heap := ⟨[some (UInt32.ofNat n)], [], false⟩
  handed := [0]

/-- Each step of this run copies the first pointer. -/
theorem run_copies (n : Nat) : ∃ steps, Run (system D) empty steps (copies (n + 1)) := by
  induction n with
  | zero => exact ⟨_, Run.nil.snoc (.construct (some 0)) rfl⟩
  | succ n ih =>
    obtain ⟨steps, hrun⟩ := ih
    refine ⟨_, hrun.snoc (.copy_construct 0) ?_⟩
    have hread : (copies (D := D) (n + 1)).read 0 = some { value := some 0, count := some 0 } :=
      rfl
    simp only [system, State.next, hread, Option.bind_eq_bind, Option.bind_some]
    simp [CountPointer.copy_construct, CountPointer.inc_count, Heap.update, State.add, copies,
      ← List.replicate_succ']

/-- The counter of an object with 2^32 pointers is 0. -/
theorem not_counts_exactly :
    ¬ ∀ (steps : List (State Unit × Operation Unit)) (s : State Unit),
      Run (system Unit) empty steps s → s.CountsExactly := by
  intro hall
  obtain ⟨steps, hrun⟩ := run_copies (D := Unit) (2 ^ 32 - 1)
  have hlt := (hall steps _ hrun).lt (p := { value := some 0, count := some 0 }) (o := 0)
    (List.mem_replicate.mpr ⟨by decide, rfl⟩) rfl
  rw [refs, copies, List.countP_replicate, refers_some.mpr rfl] at hlt
  exact absurd hlt (by decide)

end State

end ZAF.CountPointers
