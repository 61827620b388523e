import Mathlib.Data.List.Nodup
import ZAF.ActorGroup.Await

/-! # Terminators

    The waiter takes the terminators that have been added and invokes them. If actors are
    alive after that, it sleeps until the counts differ or no actor is alive, but only the
    last actor to finish notifies it. A terminator that is added after the others have been
    taken is seen when the waiter comes back, if it does.
-/

namespace ZAF.Awaiting

/-! ### What is asked of the waiter -/

/-- Will the thread notify `all_actors_done_cv`? -/
def Call.notifies_all : Call → Bool
  | .dec_num_alive_actors num_alive => num_alive == 0
  | .notify_alive _ num_alive => num_alive == some 0
  | .notify_all .lock | .notify_all .act => true
  | _ => false

namespace Group

/-- The waiter sleeps, only detached actors are alive and a terminator waits, but nobody is
    about to wake it up. -/
structure Stranded (s : Group) : Prop where
  asleep : s.waiter = .sleep_all
  counts : s.num_alive_actors = s.num_detached_actors
  alive : s.num_alive_actors ≠ 0
  waits : s.taken ++ s.terminators ≠ []
  unnoticed : ∀ t ∈ s.threads, (t.call.any Call.notifies_all) = false

/-- What `await_all_actors_done` does with terminators. -/
structure Terminates (s : Group) : Prop where
  /-- When it returns, all that have been added have been invoked. -/
  returned : s.waiter = .returned → s.invoked = List.range s.added
  once : s.invoked.Nodup
  not_stranded : ¬ s.Stranded

end Group

/-- Has the waiter taken the terminators, and is it not back in `await_alive_actors_done`? -/
def Waiter.away : Waiter → Bool
  | .unlock_terminators | .create | .invoke | .deleting | .load_all | .lock_all | .test_all
  | .test_all_detached _ | .sleep_all | .unlock_all | .returned | .terminating _
  | .destroyed => true
  | _ => false

/-- No terminator is added while the waiter is away. -/
def InTime (s : Group) (label : GroupStep) : Prop :=
  s.adds label = true → s.waiter.away = false

instance (s : Group) (label : GroupStep) : Decidable (InTime s label) := by
  unfold InTime
  infer_instance

/-! ### Where the terminators are -/

/-- May the waiter have terminators that it has not invoked? -/
def Waiter.has_taken : Waiter → Bool
  | .unlock_terminators | .create | .invoke => true
  | _ => false

/-- The terminators that have been added are invoked, taken or waiting, in order, and none
    waits while the waiter is away. -/
structure Keeps (s : Group) : Prop where
  order : s.invoked ++ s.taken ++ s.terminators = List.range s.added
  taken : s.waiter.has_taken = false → s.taken = []
  away : s.waiter.away = true → s.terminators = []

variable {s s' : Group}

theorem keeps_init (h : s.init) : Keeps s := by
  obtain ⟨engine, period, n, -, rfl⟩ := h
  exact ⟨rfl, fun _ => rfl, fun _ => rfl⟩

/-- The waiter goes on. -/
theorem Keeps.go (h : Keeps s) (terminators : s'.terminators = s.terminators)
    (added : s'.added = s.added) (invoked : s'.invoked = s.invoked) (taken : s'.taken = s.taken)
    (htaken : s.waiter.has_taken = true → s'.waiter.has_taken = true ∨ s.taken = [])
    (haway : s'.waiter.away = true → s.waiter.away = true) : Keeps s' where
  order := by rw [invoked, taken, terminators, added, h.order]
  taken hw := by
    rw [taken]
    cases hold : s.waiter.has_taken with
    | false => exact h.taken hold
    | true => exact (htaken hold).resolve_left (by rw [hw]; exact nofun)
  away hw := by rw [terminators, h.away (haway hw)]

theorem Keeps.leaves (h : Keeps s) (hleaves : Leaves s s') : Keeps s' := by
  apply h.go hleaves.terminators hleaves.added hleaves.invoked hleaves.taken
  · rcases hleaves.waiter with hw | ⟨hw, -⟩ | ⟨hw, -⟩ <;> rw [hw]
    · exact .inl
    · exact nofun
    · exact nofun
  · rcases hleaves.waiter with hw | ⟨hw, hw'⟩ | ⟨hw, hw'⟩ <;> rw [hw]
    · exact id
    · rw [hw']
      exact nofun
    · exact fun _ => rfl

theorem Keeps.adds (h : Keeps s) (hadds : Adds s s') (haway : s.waiter.away = false) :
    Keeps s' where
  order := by
    rw [hadds.invoked, hadds.taken, hadds.terminators, hadds.added, ← List.append_assoc, h.order,
      List.range_succ]
  taken := by
    rw [hadds.waiter, hadds.taken]
    exact h.taken
  away := by
    rw [hadds.waiter, haway]
    exact nofun

/-- The waiter goes on, and has no terminators before. -/
theorem Keeps.go_empty (h : Keeps s) (hw : s.waiter.has_taken = false)
    (terminators : s'.terminators = s.terminators) (added : s'.added = s.added)
    (invoked : s'.invoked = s.invoked) (taken : s'.taken = s.taken)
    (haway : s'.waiter.away = true → s.waiter.away = true) : Keeps s' :=
  h.go terminators added invoked taken (by rw [hw]; exact nofun) haway

theorem Keeps.waiter_next (h : Keeps s) (hnext : s.waiter_next = some s') : Keeps s' := by
  have htaken := h.taken
  cases hw : s.waiter <;> rw [hw] at htaken <;>
    simp only [Group.waiter_next, hw, Group.lock_mtx, Group.unlock_mtx] at hnext
  -- in `await_alive_actors_done`, and before the lock of the terminators
  case running | lock_alive | lock_terminators =>
    split at hnext <;> cases hnext
    exact h.go_empty (by rw [hw]; rfl) rfl rfl rfl rfl nofun
  case load_alive | test_alive | unlock_alive =>
    cases hnext
    exact h.go_empty (by rw [hw]; rfl) rfl rfl rfl rfl nofun
  case load_detached =>
    cases hnext
    refine h.go_empty (by rw [hw]; rfl) rfl rfl rfl rfl ?_
    dsimp only
    split <;> exact nofun
  case test_detached =>
    split at hnext <;> cases hnext <;> exact h.go_empty (by rw [hw]; rfl) rfl rfl rfl rfl nofun
  case sleep_alive | sleep_all | destroyed => cases hnext
  case take_terminators =>
    cases hnext
    have horder := h.order
    rw [htaken rfl, List.append_nil] at horder
    exact ⟨by rw [List.append_nil, horder], nofun, fun _ => rfl⟩
  case unlock_terminators =>
    cases hnext
    refine h.go rfl rfl rfl rfl (fun _ => ?_) (fun _ => by rw [hw]; rfl)
    dsimp only
    split
    · next hnone => exact .inr hnone
    · exact .inl rfl
  case create =>
    split at hnext
    · cases hnext
      exact h.go rfl rfl rfl rfl (fun _ => .inl rfl) (fun _ => by rw [hw]; rfl)
    · split at hnext <;> cases hnext
      exact h.go rfl rfl rfl rfl (fun _ => .inl rfl) (fun _ => by rw [hw]; rfl)
  case invoke =>
    have haway := h.away (by rw [hw]; rfl)
    split at hnext
    · next t taken heq =>
      cases hnext
      have horder := h.order
      rw [heq] at horder
      refine ⟨?_, nofun, fun _ => haway⟩
      show s.invoked ++ [t] ++ taken ++ s.terminators = List.range s.added
      rw [← horder, List.append_assoc s.invoked [t] taken, List.singleton_append]
    · next hnone =>
      split at hnext <;> cases hnext <;>
        exact h.go rfl rfl rfl rfl (fun _ => .inr hnone) (fun _ => by rw [hw]; rfl)
  -- after the terminators have been invoked
  case deleting | lock_all =>
    split at hnext <;> cases hnext
    exact h.go_empty (by rw [hw]; rfl) rfl rfl rfl rfl (fun _ => by rw [hw]; rfl)
  case load_all | test_all | unlock_all | returned =>
    cases hnext
    refine h.go_empty (by rw [hw]; rfl) rfl rfl rfl ?_ (fun _ => by rw [hw]; rfl)
    rfl
  case test_all_detached | terminating =>
    split at hnext <;> cases hnext <;>
      exact h.go_empty (by rw [hw]; rfl) rfl rfl rfl rfl (fun _ => by rw [hw]; rfl)

theorem keeps_of_in_time (h : LTS.ReachableVia Group.system InTime s) : Keeps s := by
  apply h.invariant Keeps
  · intro s h0
    exact keeps_init h0
  · intro s label s' hs hin hnext
    by_cases hwaiter : label = .waiter
    · subst hwaiter
      exact hs.waiter_next hnext
    · cases hadds : s.adds label with
      | true => exact hs.adds (Group.adds_of_adds hadds hnext) (hin hadds)
      | false => exact hs.leaves (Group.leaves_of_not_adds hwaiter hadds hnext)

/-- A waiter that is away has invoked all terminators, once it has come to the end of
    `flush_terminators`. -/
theorem Keeps.invoked_eq (h : Keeps s) (htaken : s.waiter.has_taken = false)
    (haway : s.waiter.away = true) : s.invoked = List.range s.added := by
  have horder := h.order
  rwa [h.taken htaken, h.away haway, List.append_nil, List.append_nil] at horder

/-- **If no terminator is added while the waiter is away, all terminators are invoked before
    it returns, each once and in order, and it is never stranded.** -/
theorem terminates_of_in_time (h : LTS.ReachableVia Group.system InTime s) : s.Terminates := by
  have hkeeps := keeps_of_in_time h
  refine ⟨?_, ?_, ?_⟩
  · intro hreturned
    exact hkeeps.invoked_eq (by rw [hreturned]; rfl) (by rw [hreturned]; rfl)
  · have hnodup : (s.invoked ++ s.taken ++ s.terminators).Nodup := by
      rw [hkeeps.order]
      exact List.nodup_range
    rw [List.append_assoc] at hnodup
    exact hnodup.of_append_left
  · intro hstranded
    apply hstranded.waits
    rw [hkeeps.taken (by rw [hstranded.asleep]; rfl), hkeeps.away (by rw [hstranded.asleep]; rfl)]
    rfl

/-! ### Runs -/

/-- A detached actor that has added its terminator before the waiter comes. -/
theorem terminates_of_in_time_detached :
    ∃ s, LTS.ReachableVia Group.system InTime s ∧ (s.waiter, s.invoked) = (.returned, [0]) ∧
      s.Terminates := by
  obtain ⟨s, hs, hobs⟩ := Group.system.reachable_of_exec InTime
    (List.flatten [[.spawn none 0, .add_terminator (some 0)], List.replicate 3 (.call 0),
      [.inc_num_detached_actors 0 0], List.replicate 4 (.call 0),
      -- the counts are equal, so that the terminator is invoked, and the waiter sleeps
      List.replicate 9 .waiter, List.replicate 4 .waiter_call, List.replicate 5 .waiter,
      [.dec_num_detached_actors 0, .finish 0], List.replicate 7 (.call 0),
      List.replicate 9 .waiter])
    (fun s => (s.waiter, s.invoked)) (b := (.returned, [0])) Group.init_actor_system
    (by decide +kernel)
  exact ⟨s, hs, hobs, terminates_of_in_time hs⟩

/-- An actor detaches itself, the waiter finds the counts equal and goes to sleep, and then
    the actor adds its terminator. -/
theorem not_terminates : ¬ ∀ s, LTS.Reachable Group.system s → s.Terminates := by
  intro hall
  obtain ⟨s, hs, hobs⟩ := Group.system.reachable_of_exec (fun _ _ => True)
    (List.flatten [[.spawn none 0, .inc_num_detached_actors 0 0], List.replicate 4 (.call 0),
      List.replicate 10 .waiter, [.add_terminator (some 0)], List.replicate 3 (.call 0)])
    (fun s => (s.waiter, s.num_alive_actors, s.num_detached_actors, s.terminators,
      s.threads.all fun t => !t.call.any Call.notifies_all))
    (b := (.sleep_all, 1, 1, [0], true)) Group.init_actor_system (by decide +kernel)
  simp only [Prod.mk.injEq] at hobs
  obtain ⟨hwaiter, halive, hdetached, hterminators, hcalls⟩ := hobs
  refine (hall s hs).not_stranded ⟨hwaiter, by rw [halive, hdetached], ?_, ?_, ?_⟩
  · rw [halive]
    decide
  · rw [hterminators]
    simp
  · simpa using hcalls

end ZAF.Awaiting
