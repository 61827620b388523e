import Mathlib.Data.List.Induction
import ZAF.CountPointer.Origin

/-! # A registered destructor runs once

    The destructor is a member of the pointers, not of what they share. A pointer that is
    made from another one takes it along, and nothing else brings it to a pointer. So the
    destructor of an object is called just if the pointer that is given up last comes from
    the one that it was registered with.
-/

namespace ZAF.CountPointers

open LTS

variable {D : Type}

/-! ### What is registered -/

/-- The object that a destructor is set for, and the destructor. -/
def State.registers (s : State D) : Operation D → Option (Nat × D)
  | .set_destructor i d => (s.object i).map fun o => (o, d)
  | _ => none

/-- The objects that destructors have been set for, with these. -/
def registrations (steps : List (State D × Operation D)) : List (Nat × D) :=
  steps.filterMap fun step => step.1.registers step.2

def registered_after (o : Nat) (registered : Nat → Option D) :
    State D × Operation D → Nat → Option D
  | (s, .set_destructor k d), i =>
    if i = k ∧ s.object k = some o then some d else registered i
  | (s, op), i => (s.origin op i).bind registered

/-- The destructor that was registered last for an object with the pointer in a variable, or
    with one that it comes from. -/
def registered (o : Nat) (steps : List (State D × Operation D)) : Nat → Option D :=
  steps.foldl (registered_after o) fun _ => none

/-- If a step gives up the last pointer to an object, then one that a destructor has been
    registered with, or that comes from it. -/
def LastRegistered (o : Nat) (before : List (State D × Operation D))
    (step : State D × Operation D) : Prop :=
  ∀ i ∈ step.1.gives_up_last o step.2, (registered o before i).isSome = true

instance (o : Nat) (before : List (State D × Operation D)) (step : State D × Operation D) :
    Decidable (LastRegistered o before step) :=
  inferInstanceAs (Decidable (∀ i ∈ step.1.gives_up_last o step.2, _))

/-- `set_destructor` is called once for the object, with `f`, and not with `f` for another
    one. -/
structure RegisteredOnce (f : D) (o : Nat) (steps : List (State D × Operation D)) : Prop where
  once : (registrations steps).filter (fun r => r.1 = o) = [(o, f)]
  only_here : ∀ r ∈ registrations steps, r.2 = f → r.1 = o

theorem RegisteredOnce.eq_of_mem {f : D} {o : Nat} {steps : List (State D × Operation D)}
    (h : RegisteredOnce f o steps) (d : D) (hd : (o, d) ∈ registrations steps) : d = f := by
  have hmem : (o, d) ∈ (registrations steps).filter fun r => r.1 = o :=
    List.mem_filter.mpr ⟨hd, decide_eq_true rfl⟩
  rw [h.once] at hmem
  exact congrArg Prod.snd (List.mem_singleton.mp hmem)

def Event.about (o : Nat) : Event D → Bool
  | .called _ value => value = some o
  | .deleted o' => o' = o

namespace State

/-- `f` is called for the object and for no other one, once, and then the object is deleted;
    this is done when there is no pointer to it any more. -/
structure RunsOnce (f : D) (o : Nat) (s : State D) : Prop where
  events : s.heap.events.filter (Event.about o) =
    if o ∈ s.handed ∧ refs s.pointers o = 0 then [.called f (some o), .deleted o] else []
  only_here : ∀ value, .called f value ∈ s.heap.events → value = some o

variable {s s' : State D}

/-! ### Which destructor a pointer has -/

/-- The pointers to an object have these destructors. -/
def Carries (s : State D) (o : Nat) (destructors : Nat → Option D) : Prop :=
  ∀ i p, s.read i = some p → p.value = some o → p.destructor = destructors i

variable {o : Nat} {op : Operation D}

theorem registered_after_of_ne {destructors : Nat → Option D} {i : Nat}
    (hop : ∀ d, op ≠ .set_destructor i d) :
    registered_after o destructors (s, op) i = (s.origin op i).bind destructors := by
  cases op with
  | set_destructor k d =>
    rw [registered_after]
    refine if_neg fun hboth => hop d ?_
    rw [hboth.1]
  | _ => rfl

theorem carries_next (h : s.Sound) {destructors : Nat → Option D}
    (hc : s.Carries o destructors) (hnext : s.next op = some s') :
    s'.Carries o (registered_after o destructors (s, op)) := by
  intro i p hi hvalue
  cases comes_of_next h hnext hi hvalue with
  | fresh horigin _ hdestructor =>
    have hop : ∀ d, op ≠ .set_destructor i d := by
      rintro d rfl
      cases horigin
    rw [registered_after_of_ne hop, horigin, hdestructor]
    rfl
  | same j q hop horigin hj hvalue hdestructor =>
    rw [registered_after_of_ne hop, horigin, hdestructor]
    exact hc j q hj hvalue
  | set d hop hobject hdestructor =>
    rw [hop, hdestructor]
    exact (if_pos ⟨rfl, hobject⟩).symm

/-! ### What is known of a run -/

variable {steps : List (State D × Operation D)}

theorem registered_snoc :
    registered o (steps ++ [(s, op)]) =
      registered_after o (registered o steps) (s, op) := by
  rw [registered, List.foldl_append]
  rfl

theorem registrations_snoc :
    registrations (steps ++ [(s, op)]) = registrations steps ++ (s.registers op).toList := by
  rw [registrations, List.filterMap_append, registrations]
  congr 1

theorem mem_registrations_snoc {r : Nat × D} (h : r ∈ registrations steps) :
    r ∈ registrations (steps ++ [(s, op)]) := by
  rw [registrations_snoc]
  exact List.mem_append_left _ h

/-- The destructor of a pointer has been registered for its object. -/
theorem mem_registrations {i : Nat} {d : D} (h : registered o steps i = some d) :
    (o, d) ∈ registrations steps := by
  induction steps using List.reverseRecOn generalizing i with
  | nil => cases h
  | append_singleton steps step ih =>
    obtain ⟨s, op⟩ := step
    rw [registered_snoc] at h
    cases op with
    | set_destructor k d' =>
      rw [registered_after] at h
      split at h
      · next hboth =>
        cases h
        rw [registrations_snoc, registers, hboth.2]
        exact List.mem_append_right _ (List.mem_singleton_self _)
      · exact mem_registrations_snoc (ih h)
    | _ =>
      obtain ⟨j, -, h⟩ := Option.bind_eq_some_iff.mp h
      exact mem_registrations_snoc (ih h)

/-- What is known after some steps. -/
structure Traced (steps : List (State D × Operation D)) (s : State D) : Prop where
  sound : s.Sound
  carries : ∀ o, s.Carries o (registered o steps)
  called : ∀ d value, .called d value ∈ s.heap.events →
    ∃ o, value = some o ∧ (o, d) ∈ registrations steps

theorem traced_empty : Traced [] (empty : State D) where
  sound := sound_empty
  carries _ _ _ hi := nomatch hi
  called _ _ h := nomatch h

theorem called_mem_last_events {p : CountPointer D} {d : D} {value : Option Nat} :
    .called d value ∈ p.last_events o ↔ p.destructor = some d ∧ value = some o := by
  rw [CountPointer.last_events]
  cases p.destructor with
  | none => simp
  | some d' => simp [eq_comm]

theorem Traced.next (h : Traced steps s) (hnext : s.next op = some s') (hfew : s'.Few) :
    Traced (steps ++ [(s, op)]) s' where
  sound := h.sound.next hnext hfew
  carries o := by
    rw [registered_snoc]
    exact carries_next h.sound (h.carries o) hnext
  called d value hcalled := by
    have hold (hmem : .called d value ∈ s.heap.events) :
        ∃ o, value = some o ∧ (o, d) ∈ registrations (steps ++ [(s, op)]) := by
      obtain ⟨o, hvalue, hd⟩ := h.called d value hmem
      exact ⟨o, hvalue, mem_registrations_snoc hd⟩
    rcases next_events h.sound hnext with ⟨-, hevents⟩ | ⟨i, o, p, -, hi, hvalue, hevents⟩
    · rw [hevents] at hcalled
      exact hold hcalled
    · rw [hevents] at hcalled
      rcases List.mem_append.mp hcalled with hcalled | hcalled
      · exact hold hcalled
      · obtain ⟨hd, rfl⟩ := called_mem_last_events.mp hcalled
        rw [h.carries o i p hi hvalue] at hd
        exact ⟨o, rfl, mem_registrations_snoc (mem_registrations hd)⟩

theorem traced_of_run (hrun : Run (system D) empty steps s)
    (hfew : ∀ t ∈ passes steps s, t.Few) : Traced steps s := by
  induction hrun with
  | nil => exact traced_empty
  | snoc op hrun hnext ih =>
    obtain ⟨hfew, hfew'⟩ := forall_passes_snoc.mp hfew
    exact (ih hfew).next hnext hfew'

/-! ### Runs -/

/-- Each object is deleted once, when no pointer to it is left. -/
theorem Sound.gone_iff (h : s.Sound) :
    o ∈ s.handed ∧ refs s.pointers o = 0 ↔ s.heap.deleted.count o = 1 := by
  rw [h.deleted]
  split
  · next hgone => exact iff_of_true hgone rfl
  · next hnot => exact iff_of_false hnot nofun

theorem Sound.count_deleted_le (h : s.Sound) : s.heap.deleted.count o ≤ 1 := by
  rw [h.deleted]
  split
  · exact le_refl _
  · exact Nat.zero_le _

theorem filter_last_events (p : CountPointer D) (o : Nat) :
    (p.last_events o).filter (Event.about o) = p.last_events o := by
  rw [CountPointer.last_events]
  cases p.destructor <;> simp [Event.about]

theorem filter_last_events_of_ne (p : CountPointer D) {o' : Nat} (hne : o' ≠ o) :
    (p.last_events o').filter (Event.about o) = [] := by
  rw [CountPointer.last_events]
  cases p.destructor <;> simp [Event.about, hne]

variable {f : D}

/-- Nothing happens to the object. -/
theorem RunsOnce.keep (honce : RunsOnce f o s) (hs : s.Sound) (hs' : s'.Sound)
    (hfilter : s'.heap.events.filter (Event.about o) = s.heap.events.filter (Event.about o))
    (hcount : s'.heap.deleted.count o = s.heap.deleted.count o)
    (hhere : ∀ value, .called f value ∈ s'.heap.events → value = some o) : RunsOnce f o s' := by
  refine ⟨?_, hhere⟩
  rw [hfilter, honce.events]
  refine if_congr ?_ rfl rfl
  rw [hs.gone_iff, hs'.gone_iff, hcount]

/-- The object is deleted. -/
theorem RunsOnce.delete_iff (honce : RunsOnce f o s) (hs : s.Sound) (hs' : s'.Sound)
    {p : CountPointer D} (hevents : s'.heap.events = s.heap.events ++ p.last_events o)
    (hhere : ∀ value, .called f value ∈ s'.heap.events → value = some o) :
    RunsOnce f o s' ↔ p.destructor = some f := by
  have hcount : s'.heap.deleted.count o = s.heap.deleted.count o + 1 := by
    have hdeleted : s'.heap.deleted = s.heap.deleted ++ [o] := Heap.deleted_of_last hevents
    rw [hdeleted, List.count_append, List.count_singleton_self]
  have hle := hs'.count_deleted_le (o := o)
  have hgone : o ∈ s'.handed ∧ refs s'.pointers o = 0 := by
    rw [hs'.gone_iff]
    omega
  have hnothing : s.heap.events.filter (Event.about o) = [] := by
    rw [honce.events, if_neg]
    rw [hs.gone_iff]
    omega
  have hfilter : s'.heap.events.filter (Event.about o) = p.last_events o := by
    rw [hevents, List.filter_append, hnothing, List.nil_append, filter_last_events]
  constructor
  · intro honce'
    have hlast := honce'.events
    rw [if_pos hgone, hfilter, CountPointer.last_events] at hlast
    cases hd : p.destructor with
    | none =>
      rw [hd] at hlast
      cases hlast
    | some d =>
      rw [hd] at hlast
      cases hlast
      rfl
  · intro hd
    refine ⟨?_, hhere⟩
    rw [if_pos hgone, hfilter, CountPointer.last_events, hd]
    rfl

/-- What a step does, when `f` is all that has been registered for the object. -/
theorem Traced.runs_once_next (h : Traced steps s) (hs' : s'.Sound)
    (hnext : s.next op = some s') (hf : ∀ d, (o, d) ∈ registrations steps → d = f)
    (hhere : ∀ value, .called f value ∈ s'.heap.events → value = some o)
    (honce : RunsOnce f o s) : RunsOnce f o s' ↔ LastRegistered o steps (s, op) := by
  rcases next_events h.sound hnext with ⟨hnone, hevents⟩ | ⟨i, o', p, hlast, hi, hvalue, hevents⟩
  · have hdeleted : s'.heap.deleted = s.heap.deleted := by rw [Heap.deleted, hevents, Heap.deleted]
    refine iff_of_true (honce.keep h.sound hs' ?_ ?_ hhere) ?_
    · rw [hevents]
    · rw [hdeleted]
    · intro i hi
      rw [hnone o] at hi
      cases hi
  · by_cases hne : o' = o
    · subst hne
      rw [honce.delete_iff h.sound hs' hevents hhere, h.carries o' i p hi hvalue]
      constructor
      · intro hd j hj
        rw [hlast] at hj
        cases hj
        rw [hd]
        rfl
      · intro hregistered
        obtain ⟨d, hd⟩ := Option.isSome_iff_exists.mp (hregistered i hlast)
        rw [hd, hf d (mem_registrations hd)]
    · have hdeleted : s'.heap.deleted = s.heap.deleted ++ [o'] := Heap.deleted_of_last hevents
      refine iff_of_true (honce.keep h.sound hs' ?_ ?_ hhere) ?_
      · rw [hevents, List.filter_append, filter_last_events_of_ne p hne, List.append_nil]
      · rw [hdeleted, List.count_append, List.count_singleton, if_neg (by simpa using hne),
          Nat.add_zero]
      · -- the last pointer is one to the other object
        intro j hj
        exact absurd (gives_up_last_inj hlast hj).2 hne

theorem runs_once_empty : RunsOnce f o empty where
  events := rfl
  only_here := nofun

/-- The run lemma: `f` may also be registered for the object more often, or not at all. -/
theorem runs_once_iff_of (hrun : Run (system D) empty steps s)
    (hfew : ∀ t ∈ passes steps s, t.Few) (hf : ∀ d, (o, d) ∈ registrations steps → d = f)
    (hhere : ∀ o', (o', f) ∈ registrations steps → o' = o) :
    (∀ t ∈ passes steps s, RunsOnce f o t) ↔
      ∀ before step, before ++ [step] <+: steps → LastRegistered o before step := by
  induction hrun with
  | nil =>
    refine iff_of_true ?_ forall_prefix_nil
    intro t ht
    cases List.mem_singleton.mp ht
    exact runs_once_empty
  | @snoc steps s s' op hrun hnext ih =>
    obtain ⟨hfew, hfew'⟩ := forall_passes_snoc.mp hfew
    have h := traced_of_run hrun hfew
    have h' := h.next hnext hfew'
    have hf' : ∀ d, (o, d) ∈ registrations steps → d = f := fun d hd =>
      hf d (mem_registrations_snoc hd)
    have hcalled : ∀ value, .called f value ∈ s'.heap.events → value = some o := by
      intro value hmem
      obtain ⟨o', rfl, ho'⟩ := h'.called f value hmem
      rw [hhere o' ho']
    rw [forall_passes_snoc, forall_prefix_snoc,
      ← ih hfew hf' fun o' ho' => hhere o' (mem_registrations_snoc ho')]
    refine and_congr_right fun hall => ?_
    exact h.runs_once_next h'.sound hnext hf' hcalled (hall s (mem_passes_last steps s))

/-- **A destructor that is registered once runs once, just before the deletion, exactly when
    the pointer that is given up last comes from the one that it was registered with.** -/
theorem runs_once_iff (hrun : Run (system D) empty steps s)
    (hfew : ∀ t ∈ passes steps s, t.Few) (honce : RegisteredOnce f o steps) :
    (∀ t ∈ passes steps s, RunsOnce f o t) ↔
      ∀ before step, before ++ [step] <+: steps → LastRegistered o before step := by
  apply runs_once_iff_of hrun hfew
  · exact honce.eq_of_mem
  · exact fun o' ho' => honce.only_here _ ho' rfl

/-- The destructor is registered when there is another pointer already, which is given up
    before the copies of the one that it was registered with. -/
theorem runs_once_iff_shared :
    ∃ (steps : List (State Unit × Operation Unit)) (s : State Unit),
      Run (system Unit) empty steps s ∧
        s.heap.events = [.called () (some 7), .deleted 7] ∧
        ∀ t ∈ passes steps s, RunsOnce () 7 t := by
  have hrun : Run (system Unit) empty _ _ :=
    Run.nil.snoc (.construct (some 7)) rfl
      |>.snoc (.copy_construct 0) rfl
      |>.snoc (.set_destructor 1 ()) rfl
      |>.snoc (.copy_construct 1) rfl
      |>.snoc (.assign_null 0) rfl
      |>.snoc (.destroy 1) rfl
      |>.snoc (.destroy 2) rfl
  refine ⟨_, _, hrun, rfl, (runs_once_iff hrun ?_ ⟨rfl, ?_⟩).mpr ?_⟩
  · decide +kernel
  · decide +kernel
  · simp only [forall_prefix_snoc]
    refine ⟨⟨⟨⟨⟨⟨⟨forall_prefix_nil, ?_⟩, ?_⟩, ?_⟩, ?_⟩, ?_⟩, ?_⟩, ?_⟩ <;> decide +kernel

/-- Of two pointers to one object, the one that `f` has been registered with is moved to the
    other: `f` is never called. -/
theorem not_runs_once :
    ¬ ∀ (D : Type) (steps : List (State D × Operation D)) (s : State D) (f : D) (o : Nat),
      Run (system D) empty steps s → RegisteredOnce f o steps →
        ∀ t ∈ passes steps s, RunsOnce f o t := by
  intro hall
  have hrun : Run (system Unit) empty _ _ :=
    Run.nil.snoc (.construct (some 7)) rfl
      |>.snoc (.copy_construct 0) rfl
      |>.snoc (.set_destructor 1 ()) rfl
      |>.snoc (.assign_move 0 1) rfl
      |>.snoc (.destroy 0) rfl
  have hlast := hall Unit _ _ () 7 hrun ⟨rfl, by decide +kernel⟩ _ (mem_passes_last _ _)
  exact absurd hlast.events (by decide +kernel)

/-! ### A destructor that is registered before copies are made -/

theorem mem_handed_next (hnext : s.next op = some s') (ho : o ∈ s.handed) : o ∈ s'.handed := by
  cases next_cases hnext with
  | construct | assign_raw => exact List.mem_append_left _ ho
  | _ => exact ho

theorem Sound.mem_handed (h : s.Sound) {i : Nat} (hi : s.object i = some o) :
    o ∈ s.handed := by
  obtain ⟨p, hread, hvalue⟩ := object_eq_some.mp hi
  rcases h.aligned p (List.mem_of_getElem? (read_eq_some.mp hread)) with
    ⟨hnull, -⟩ | ⟨o', count, hvalue', -, hhanded⟩
  · rw [hnull] at hvalue
    cases hvalue
  · rw [hvalue] at hvalue'
    cases hvalue'
    exact List.mem_of_getElem? hhanded

/-- The only pointer to an object. -/
theorem eq_of_refs_one (hone : refs s.pointers o = 1) {i k : Nat} (hi : s.object i = some o)
    (hk : s.object k = some o) : i = k := by
  by_contra hne
  obtain ⟨p, hread, hvalue⟩ := object_eq_some.mp hi
  obtain ⟨q, hread', hvalue'⟩ := object_eq_some.mp hk
  have hset := refs_set (read_eq_some.mp hread') none o
  have hpos : 0 < refs (s.pointers.set k none) o :=
    refs_pos (List.mem_of_getElem? ((List.getElem?_set_ne (Ne.symm hne)).trans
      (read_eq_some.mp hread))) hvalue
  have hzero : (refers o (none : Option (CountPointer D))).toNat = 0 := rfl
  rw [refers_some.mpr hvalue', hone, hzero, Bool.toNat_true] at hset
  omega

theorem registers_eq_some {d : D} :
    s.registers op = some (o, d) ↔ ∃ k, op = .set_destructor k d ∧ s.object k = some o := by
  constructor
  · intro h
    cases op with
    | set_destructor k d' =>
      obtain ⟨o', hobject, heq⟩ := Option.map_eq_some_iff.mp h
      cases heq
      exact ⟨k, rfl, hobject⟩
    | _ => cases h
  · rintro ⟨k, rfl, hobject⟩
    rw [registers, hobject]
    rfl

/-- All pointers to the object come from one that a destructor has been registered with. -/
structure AllRegistered (o : Nat) (steps : List (State D × Operation D)) (s : State D) :
    Prop where
  handed : o ∈ s.handed
  registered : ∀ i, s.object i = some o → (registered o steps i).isSome = true

theorem AllRegistered.next (hall : AllRegistered o steps s) (h : s.Sound)
    (hnext : s.next op = some s') : AllRegistered o (steps ++ [(s, op)]) s' where
  handed := mem_handed_next hnext hall.handed
  registered i hi := by
    obtain ⟨p, hread, hvalue⟩ := object_eq_some.mp hi
    rw [registered_snoc]
    cases comes_of_next h hnext hread hvalue with
    | fresh _ hnew _ => exact absurd hall.handed hnew
    | same j q hop horigin hj hvalue' _ =>
      rw [registered_after_of_ne hop, horigin]
      exact hall.registered j ((object_of_read hj).trans hvalue')
    | set d hop hobject _ =>
      rw [hop, registered_after, if_pos ⟨rfl, hobject⟩]
      rfl

theorem all_registered_of_alone (h : s.Sound) {k : Nat} {d : D}
    (hk : s.object k = some o) (hone : refs s.pointers o = 1)
    (hnext : s.next (.set_destructor k d) = some s') :
    AllRegistered o (steps ++ [(s, .set_destructor k d)]) s' where
  handed := mem_handed_next hnext (h.mem_handed hk)
  registered i hi := by
    obtain ⟨p, hread, hvalue⟩ := object_eq_some.mp hi
    rw [registered_snoc]
    cases comes_of_next h hnext hread hvalue with
    | fresh horigin => cases horigin
    | same j q hop horigin hj hvalue' _ =>
      -- no other variable has a pointer to the object
      cases horigin
      have heq := eq_of_refs_one hone ((object_of_read hj).trans hvalue') hk
      exact absurd rfl (heq ▸ hop d)
    | set d' hop hobject _ =>
      cases hop
      rw [registered_after, if_pos ⟨rfl, hobject⟩]
      rfl

/-- An object that is gone stays so. -/
theorem gone_next (h : s.Sound) (h' : s'.Sound) (hnext : s.next op = some s')
    (hgone : o ∈ s.handed ∧ refs s.pointers o = 0) :
    o ∈ s'.handed ∧ refs s'.pointers o = 0 := by
  have hle := h'.count_deleted_le (o := o)
  rw [h.gone_iff] at hgone
  rw [h'.gone_iff]
  rcases next_events h hnext with ⟨-, hevents⟩ | ⟨i, o', p, -, -, -, hevents⟩
  · rw [Heap.deleted, hevents]
    exact hgone
  · have hdeleted : s'.heap.deleted = s.heap.deleted ++ [o'] := Heap.deleted_of_last hevents
    rw [hdeleted, List.count_append] at hle ⊢
    omega

theorem gone_of_gives_up_last (h : s.Sound) (h' : s'.Sound) (hnext : s.next op = some s')
    {i : Nat} (hlast : s.gives_up_last o op = some i) :
    o ∈ s'.handed ∧ refs s'.pointers o = 0 := by
  rw [h'.gone_iff]
  have hle := h'.count_deleted_le (o := o)
  rcases next_events h hnext with ⟨hnone, -⟩ | ⟨i', o', p, hlast', -, -, hevents⟩
  · rw [hnone o] at hlast
    cases hlast
  · obtain ⟨rfl, rfl⟩ := gives_up_last_inj hlast hlast'
    have hdeleted : s'.heap.deleted = s.heap.deleted ++ [o] := Heap.deleted_of_last hevents
    rw [hdeleted, List.count_append, List.count_singleton_self] at hle ⊢
    omega

/-- Either the object is gone before a destructor has been registered for it, or only
    registered pointers are the last ones: after the registration all of them are. -/
theorem last_registered_of_alone (hrun : Run (system D) empty steps s)
    (hfew : ∀ t ∈ passes steps s, t.Few)
    (halone : ∀ step ∈ steps, ∀ d, step.1.registers step.2 = some (o, d) →
      refs step.1.pointers o = 1) :
    ((o ∈ s.handed ∧ refs s.pointers o = 0) ∧ ∀ d, (o, d) ∉ registrations steps) ∨
      ((∀ before step, before ++ [step] <+: steps → LastRegistered o before step) ∧
        ((∀ d, (o, d) ∉ registrations steps) ∨ AllRegistered o steps s)) := by
  induction hrun with
  | nil => exact .inr ⟨forall_prefix_nil, .inl nofun⟩
  | @snoc steps s s' op hrun hnext ih =>
    obtain ⟨hbefore, hfew'⟩ := forall_passes_snoc.mp hfew
    have h := traced_of_run hrun hbefore
    have hs' := h.sound.next hnext hfew'
    have ih := ih hbefore fun step hstep => halone step (List.mem_append_left _ hstep)
    have hone : ∀ d, s.registers op = some (o, d) → refs s.pointers o = 1 :=
      halone (s, op) (List.mem_append_right _ (List.mem_singleton_self _))
    -- without a registration in this step there is none if there was none
    have hkeep (hop : ∀ d, s.registers op ≠ some (o, d))
        (hnot : ∀ d, (o, d) ∉ registrations steps) :
        ∀ d, (o, d) ∉ registrations (steps ++ [(s, op)]) := by
      intro d hd
      rw [registrations_snoc] at hd
      rcases List.mem_append.mp hd with hd | hd
      · exact hnot d hd
      · exact hop d (Option.mem_toList.mp hd)
    rcases ih with ⟨hgone, hnot⟩ | ⟨hlast, hregistered⟩
    · refine .inl ⟨gone_next h.sound hs' hnext hgone, hkeep ?_ hnot⟩
      intro d hd
      have hone := hone d hd
      omega
    · by_cases hop : ∃ d, s.registers op = some (o, d)
      · obtain ⟨d, hd⟩ := hop
        obtain ⟨k, rfl, hk⟩ := registers_eq_some.mp hd
        refine .inr ⟨forall_prefix_snoc.mpr ⟨hlast, nofun⟩, .inr ?_⟩
        exact all_registered_of_alone h.sound hk (hone d hd) hnext
      · have hop : ∀ d, s.registers op ≠ some (o, d) := not_exists.mp hop
        rcases hregistered with hnot | hall
        · cases hgives : s.gives_up_last o op with
          | none =>
            refine .inr ⟨forall_prefix_snoc.mpr ⟨hlast, ?_⟩, .inl (hkeep hop hnot)⟩
            intro i hi
            rw [hgives] at hi
            cases hi
          | some i => exact .inl ⟨gone_of_gives_up_last h.sound hs' hnext hgives, hkeep hop hnot⟩
        · refine .inr ⟨forall_prefix_snoc.mpr ⟨hlast, ?_⟩, .inr (hall.next h.sound hnext)⟩
          intro i hi
          exact hall.registered i (object_of_gives_up_last hi)

/-- A destructor that is registered once, with the only pointer to the object, runs once,
    however this pointer is copied and moved afterwards. -/
theorem runs_once_of_alone (hrun : Run (system D) empty steps s)
    (hfew : ∀ t ∈ passes steps s, t.Few) (honce : RegisteredOnce f o steps)
    (halone : ∀ step ∈ steps, ∀ d, step.1.registers step.2 = some (o, d) →
      refs step.1.pointers o = 1) : ∀ t ∈ passes steps s, RunsOnce f o t := by
  have hregistered : (o, f) ∈ registrations steps := by
    have hmem := List.mem_singleton_self (o, f)
    rw [← honce.once] at hmem
    exact List.mem_of_mem_filter hmem
  rcases last_registered_of_alone hrun hfew halone with ⟨-, hnot⟩ | ⟨hlast, -⟩
  · exact absurd hregistered (hnot f)
  · exact (runs_once_iff_of hrun hfew honce.eq_of_mem fun o' ho' =>
      honce.only_here _ ho' rfl).mpr hlast

end State

end ZAF.CountPointers
