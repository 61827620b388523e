import ZAF.ActorGroup.Destruction
import ZAF.ActorGroup.Terminators
import ZAF.Framework.Continuation
import ZAF.Framework.Mutex

/-! # Sleeping and waking up

    The counts are changed without the mutex that goes with the condition variables. The
    thread that changes a count compares afterwards, and notifies under the mutex if that is
    called for. The waiter compares under the mutex and goes to sleep if it has to. So when
    what it waits for comes about, the thread that has brought it about still has to notify,
    and nobody else can have kept it from doing so.

    This needs that the number of detached actors is never larger than the number of those
    that are alive, since `spawn` and `dec_num_detached_actors` do not notify. It also needs
    that all threads see the two counts change in the same order, as on machines where an
    atomic addition is a barrier; `memory_order_relaxed` alone does not promise this.
-/

namespace ZAF.Awaiting

/-! ### Who holds a mutex -/

/-- The two mutexes of a group. -/
inductive GroupMutex where
  | await_actors_done_mtx
  | terminator_mutex

/-- Does a thread hold the mutex there? -/
def Call.holds : GroupMutex → Call → Bool
  | .await_actors_done_mtx, .notify_alive .act _
  | .await_actors_done_mtx, .notify_alive .unlock _
  | .await_actors_done_mtx, .notify_all .act
  | .await_actors_done_mtx, .notify_all .unlock
  | .terminator_mutex, .add_terminator .act
  | .terminator_mutex, .add_terminator .unlock => true
  | _, _ => false

/-- Does the waiter? Asleep in a `wait` it does not. -/
def Waiter.holds : GroupMutex → Waiter → Bool
  | .await_actors_done_mtx, .test_alive
  | .await_actors_done_mtx, .test_detached _
  | .await_actors_done_mtx, .unlock_alive
  | .await_actors_done_mtx, .test_all
  | .await_actors_done_mtx, .test_all_detached _
  | .await_actors_done_mtx, .unlock_all
  | .terminator_mutex, .take_terminators
  | .terminator_mutex, .unlock_terminators => true
  | _, _ => false

/-! ### Who sleeps, and who will notify -/

/-- Will the thread notify `alive_actors_done_cv`, if the counts stay as they are? -/
def Call.notifies_alive (num_alive num_detached : UInt64) : Call → Bool
  | .inc_num_detached_actors n => n == num_alive
  | .dec_num_alive_actors n => n == num_detached
  | .notify_alive .lock _ | .notify_alive .act _ => true
  | _ => false

/-- Does the waiter sleep, or will it because it has found the counts different? -/
def Waiter.sleeps_alive (num_detached : UInt64) : Waiter → Bool
  | .test_detached num_alive => num_alive != num_detached
  | .sleep_alive => true
  | _ => false

/-- Does the waiter sleep, or may it because it has found actors alive? -/
def Waiter.sleeps_all : Waiter → Bool
  | .test_all_detached _ | .sleep_all => true
  | _ => false

/-- Does the step take one from `num_detached_actors`? -/
def GroupStep.uncounts : GroupStep → Bool
  | .dec_num_detached_actors _ => true
  | _ => false

/-- `num_detached_actors` "must be not larger than `num_alive_actors`". -/
def InBounds (s : Group) (label : GroupStep) : Prop :=
  (label.uncounts = true → s.num_detached_actors ≠ 0) ∧
    ∀ s' ∈ s.next label, s'.num_detached_actors ≤ s'.num_alive_actors

instance (s : Group) (label : GroupStep) : Decidable (InBounds s label) := by
  unfold InBounds
  infer_instance

namespace Group

/-- Where thread `i` is in a function of the group. -/
def call_of (s : Group) (i : Nat) : Option Call := s.threads[i]?.bind fun t => t.call

/-- Who has locked a mutex. -/
def mutex (s : Group) : GroupMutex → Option (Option Nat)
  | .await_actors_done_mtx => s.await_actors_done_mtx
  | .terminator_mutex => s.terminator_mutex

/-- Is a thread, or the waiter, where it holds the mutex? -/
def holds (s : Group) (m : GroupMutex) : Option Nat → Bool
  | some i => (s.call_of i).any (Call.holds m)
  | none => s.waiter.holds m || s.waiter_call.any (Call.holds m)

/-- The mutexes are held by those who have locked them. -/
structure Locked (s : Group) : Prop where
  mutex : ∀ m, Mutex.Held (s.mutex m) (s.holds m)
  waiter_call : s.waiter_call ≠ none → s.waiter = .running ∨ s.waiter = .deleting

/-- Nobody has missed what it sleeps for. -/
structure Watches (s : Group) : Prop extends Locked s where
  bounds : s.num_detached_actors ≤ s.num_alive_actors
  /-- What the waiter sleeps for has come about by a thread that has not notified it yet. -/
  alive : s.waiter.sleeps_alive s.num_detached_actors = true →
    s.num_alive_actors = s.num_detached_actors → ∃ i c, s.call_of i = some c ∧
      c.notifies_alive s.num_alive_actors s.num_detached_actors = true
  all : s.waiter.sleeps_all = true → s.num_alive_actors = 0 → ∃ i c, s.call_of i = some c ∧
    c.notifies_all = true

variable {s s' : Group} {i : Nat}

/-! ### What a step does -/

/-- One thread changes. -/
theorem call_of_set_thread {t : Thread} (h : s.threads[i]? = some t) (t' : Thread) :
    (s.set_thread i t').call_of = Function.update s.call_of i t'.call := by
  funext j
  unfold call_of set_thread
  dsimp only
  by_cases hj : j = i
  · subst hj
    obtain ⟨hlt, -⟩ := List.getElem?_eq_some_iff.mp h
    rw [List.getElem?_set_self hlt, Function.update_self]
    rfl
  · rw [List.getElem?_set_ne (Ne.symm hj), Function.update_of_ne hj]

/-- Another step in the same function, or none of a function of the group. -/
theorem call_of_set_thread_same {t t' : Thread} (h : s.threads[i]? = some t)
    (hcall : t'.call = t.call) : (s.set_thread i t').call_of = s.call_of := by
  have hi : s.call_of i = t.call := by
    rw [call_of, h]
    rfl
  rw [call_of_set_thread h, hcall, ← hi, Function.update_eq_self]

/-- Being counted as detached is not being in a function. -/
theorem call_of_set_detached (s : Group) (i : Nat) (detached : Bool) :
    (s.set_detached i detached).call_of = s.call_of := by
  funext j
  unfold call_of set_detached
  dsimp only
  rw [List.getElem?_modify]
  split <;> cases s.threads[j]? <;> rfl

/-- Nor is a message to an executor. -/
theorem call_of_post (s : Group) (e : Nat) (m : ExecutorMessage) :
    (s.post e m).call_of = s.call_of := by
  funext j
  unfold call_of post
  dsimp only
  rw [List.getElem?_modify]
  split
  · cases s.threads[j]? with
    | none => rfl
    | some t =>
      obtain ⟨work, call⟩ := t
      cases work <;> rfl
  · cases s.threads[j]? <;> rfl

theorem call_of_posts (messages : List (Nat × Nat)) (s : Group) :
    (messages.foldl (fun s (e, peer) => s.post e (.rebalance peer)) s).call_of = s.call_of := by
  induction messages generalizing s with
  | nil => rfl
  | cons m messages ih => exact (ih _).trans (call_of_post s m.1 (.rebalance m.2))

theorem call_of_set_executor {x : Executor} (h : s.executor_of i = some x) (x' : Executor) :
    (s.set_executor i x').call_of = s.call_of :=
  call_of_set_thread_same (threads_of_executor_of h) rfl

/-- The steps of executors outside the functions of the group. -/
theorem call_of_receive {x : Executor} (hx : s.executor_of i = some x)
    (h : s.receive i x = some s') : s'.call_of = s.call_of := by
  unfold receive at h
  split at h
  · split at h <;> cases h
    exact call_of_set_executor hx _
  · cases h
    exact call_of_set_executor hx _
  · split at h <;> cases h
    · exact call_of_set_executor hx _
    · exact (call_of_post ..).trans (call_of_set_executor hx _)
  · cases h
    exact call_of_set_executor hx _
  · cases h
    exact call_of_set_executor hx _

theorem call_of_started {x : Executor} (hx : s.executor_of i = some x) (r : Started) :
    (s.started i x r).call_of = s.call_of := by
  cases r <;> exact call_of_set_executor hx _

theorem call_of_end_round {x : Executor} (hx : s.executor_of i = some x) :
    (s.end_round i x).call_of = s.call_of := by
  unfold end_round
  split <;> exact call_of_set_executor hx _

theorem call_of_rebalance {x : Executor} (hx : s.executor_of i = some x)
    {messages : List (Nat × Nat)} (h : s.rebalance i x messages = some s') :
    s'.call_of = s.call_of := by
  unfold rebalance at h
  split at h <;> cases h
  exact (call_of_posts ..).trans (call_of_set_executor hx _)

/-- The mutexes and the waiter are as before. -/
structure Frame (s s' : Group) : Prop where
  mutex : s'.mutex = s.mutex
  waiter : s'.waiter = s.waiter
  waiter_call : s'.waiter_call = s.waiter_call

/-- A step of a thread by itself. -/
theorem frame_of_only_threads (h : OnlyThreads s s') : Frame s s' := by
  obtain ⟨threads, rfl⟩ := h
  exact ⟨rfl, rfl, rfl⟩

/-- What a step of another than the waiter does to the mutexes, the counts and the threads that
    are in functions of the group. -/
inductive Does (s : Group) (label : GroupStep) : Group → Prop where
  | other (s' : Group) (frame : Frame s s') (alive : s'.num_alive_actors = s.num_alive_actors)
      (detached : s'.num_detached_actors = s.num_detached_actors)
      (calls : s'.call_of = s.call_of) : Does s label s'
  | wake_alive (hw : s.waiter = .sleep_alive) : Does s label { s with waiter := .lock_alive }
  | wake_all (hw : s.waiter = .sleep_all) : Does s label { s with waiter := .lock_all }
  | spawn (s' : Group) (frame : Frame s s') (room : s.has_room)
      (alive : s'.num_alive_actors = s.num_alive_actors + 1)
      (detached : s'.num_detached_actors = s.num_detached_actors)
      (calls : s'.call_of = s.call_of) : Does s label s'
  | add_terminator_waiter (hw : s.waiter = .running) (hcall : s.waiter_call = none) :
      Does s label { s with waiter_call := some (.add_terminator .lock) }
  /-- A thread enters a function of the group. -/
  | enter (i : Nat) (c : Call) (s' : Group) (frame : Frame s s') (hnone : s.call_of i = none)
      (entered : c = .add_terminator .lock ∧ s'.num_alive_actors = s.num_alive_actors ∧
          s'.num_detached_actors = s.num_detached_actors ∨
        c = .inc_num_detached_actors s'.num_detached_actors ∧
          s'.num_alive_actors = s.num_alive_actors ∨
        c = .dec_num_alive_actors s'.num_alive_actors ∧
          s'.num_detached_actors = s.num_detached_actors)
      (calls : s'.call_of = Function.update s.call_of i (some c)) : Does s label s'
  | dec_num_detached_actors (s' : Group) (frame : Frame s s')
      (uncounts : label.uncounts = true)
      (alive : s'.num_alive_actors = s.num_alive_actors)
      (detached : s'.num_detached_actors = s.num_detached_actors - 1)
      (calls : s'.call_of = s.call_of) : Does s label s'
  | call (i : Nat) (c : Call) (r : Option Call × Group) (s' : Group) (hc : s.call_of i = some c)
      (hr : s.call_next (some i) c = some r) (frame : Frame r.2 s')
      (alive : s'.num_alive_actors = r.2.num_alive_actors)
      (detached : s'.num_detached_actors = r.2.num_detached_actors)
      (calls : s'.call_of = Function.update s.call_of i r.1) : Does s label s'
  | waiter_call (c : Call) (r : Option Call × Group) (hc : s.waiter_call = some c)
      (hr : s.call_next none c = some r) : Does s label { r.2 with waiter_call := r.1 }

variable {label : GroupStep}

/-- Outside the functions of the group a thread does nothing that matters here. -/
theorem does_of_only_threads (h : OnlyThreads s s') (hcalls : s'.call_of = s.call_of) :
    Does s label s' := by
  have hframe := frame_of_only_threads h
  obtain ⟨threads, rfl⟩ := h
  exact .other _ hframe rfl rfl hcalls

/-- A new actor is counted, whether it gets a thread or goes to an executor. -/
theorem does_of_spawn {executor : Nat} (h : s.spawn executor = some s') : Does s label s' := by
  unfold spawn at h
  split at h
  · next hroom =>
    dsimp only at h
    split at h
    · split at h <;> cases h
      exact .spawn _ ⟨rfl, rfl, rfl⟩ hroom rfl rfl (call_of_post ..)
    · cases h
      refine .spawn _ ⟨rfl, rfl, rfl⟩ hroom rfl rfl ?_
      -- the new thread is in no function
      funext j
      show ((s.threads ++ [_])[j]?).bind _ = s.threads[j]?.bind _
      rw [List.getElem?_append]
      split
      · rfl
      · next hlt =>
        rw [List.getElem?_eq_none (Nat.le_of_not_lt hlt)]
        cases hj : j - s.threads.length with
        | zero => rfl
        | succ n => rfl
  · cases h

/-- The own code of an actor runs outside of these functions. -/
theorem call_of_actor_of {t : Thread} (h : s.actor_of i = some t) : s.call_of i = none := by
  obtain ⟨ht, hin⟩ := thread_of_actor_of h
  rw [Thread.in_actor, Bool.and_eq_true] at hin
  rw [call_of, ht]
  exact Option.isNone_iff_eq_none.mp hin.1

theorem call_of_eq {t : Thread} (h : s.threads[i]? = some t) : s.call_of i = t.call := by
  rw [call_of, h]
  rfl

/-- The inversion of a step, from which everything below is derived. -/
theorem does_of_next (hwaiter : label ≠ .waiter) (hnext : s.next label = some s') :
    Does s label s' := by
  cases stepped_of_next hnext with
  | waiter => exact absurd rfl hwaiter
  | waiter_call c r hcall hr => exact .waiter_call c r hcall hr
  | wake_alive hw => exact .wake_alive hw
  | wake_all hw => exact .wake_all hw
  | spawn_waiter executor s' hw hspawn => exact does_of_spawn hspawn
  | spawn_actor i executor t s' ht hspawn => exact does_of_spawn hspawn
  | add_terminator_waiter hw hcall => exact .add_terminator_waiter hw hcall
  | add_terminator_actor i t ht =>
    exact .enter i _ _ (frame_of_only_threads (only_threads_set_thread ..))
      (call_of_actor_of ht) (.inl ⟨rfl, rfl, rfl⟩) (call_of_set_thread (thread_of_actor_of ht).1 _)
  | inc_num_detached_actors i j t ht =>
    exact .enter i _ _ ⟨rfl, rfl, rfl⟩ (call_of_actor_of ht) (.inr (.inl ⟨rfl, rfl⟩))
      ((call_of_set_detached ..).trans (call_of_set_thread (thread_of_actor_of ht).1 _))
  | dec_num_detached_actors i t ht =>
    exact .dec_num_detached_actors _ ⟨rfl, rfl, rfl⟩ rfl rfl rfl (call_of_set_detached ..)
  | finish i t work ht hwork =>
    exact .enter i _ _ ⟨rfl, rfl, rfl⟩ (call_of_actor_of ht) (.inr (.inr ⟨rfl, rfl⟩))
      (call_of_set_thread (thread_of_actor_of ht).1 _)
  | call i t c r ht hcall hr =>
    have hthreads := (call_next_frame hr).1
    have hthread : r.2.threads[i]? = some t := by rw [hthreads, ht]
    refine .call i c r _ ((call_of_eq ht).trans hcall) hr ⟨rfl, rfl, rfl⟩ rfl rfl ?_
    rw [call_of_set_thread hthread]
    congr 1
    funext j
    rw [call_of, call_of, hthreads]
  | receive i x s' hx hpoint hreceive =>
    exact does_of_only_threads (only_threads_receive hreceive) (call_of_receive hx hreceive)
  | started i r x hx hpoint =>
    exact does_of_only_threads (only_threads_started ..) (call_of_started hx r)
  | end_round i x hx hpoint =>
    exact does_of_only_threads (only_threads_end_round ..) (call_of_end_round hx)
  | rebalance i messages x s' hx hpoint hrebalance =>
    exact does_of_only_threads (only_threads_rebalance hrebalance)
      (call_of_rebalance hx hrebalance)

/-! ### The mutexes -/

/-- A call locks a mutex that is free, unlocks one that it holds, or does neither: by the line of
    the function where it is. -/
theorem access_call_next (m : GroupMutex) {caller : Option Nat} {c : Call}
    {r : Option Call × Group} (h : s.call_next caller c = some r) :
    Mutex.Access caller (s.mutex m) (c.holds m) (r.1.any (Call.holds m)) (r.2.mutex m) := by
  unfold call_next at h
  split at h
  · cases h
    split <;> cases m <;> exact .pass _ _
  · cases h
    unfold all_done
    split
    · cases m <;> exact .pass _ _
    · split <;> cases m <;> exact .pass _ _
  · split at h <;> cases h
    next hfree =>
    cases m with
    | await_actors_done_mtx =>
      rw [mutex, hfree]
      exact .lock
    | terminator_mutex => exact .pass _ _
  · cases h
    unfold notify_alive
    split <;> cases m <;> exact .pass _ _
  · next num_alive =>
    cases h
    -- after the first notification there may be another one, with the mutex locked anew
    have hnone : (num_alive.bind all_done).any (Call.holds m) = false := by
      cases num_alive with
      | none => rfl
      | some n =>
        simp only [Option.bind_some, all_done]
        split <;> cases m <;> rfl
    rw [hnone]
    cases m with
    | await_actors_done_mtx => exact .unlock _
    | terminator_mutex => exact .pass _ _
  · split at h <;> cases h
    next hfree =>
    cases m with
    | await_actors_done_mtx =>
      rw [mutex, hfree]
      exact .lock
    | terminator_mutex => exact .pass _ _
  · cases h
    unfold notify_all
    split <;> cases m <;> exact .pass _ _
  · cases h
    cases m with
    | await_actors_done_mtx => exact .unlock _
    | terminator_mutex => exact .pass _ _
  · split at h <;> cases h
    next hfree =>
    cases m with
    | await_actors_done_mtx => exact .pass _ _
    | terminator_mutex =>
      rw [mutex, hfree]
      exact .lock
  · cases h
    cases m <;> exact .pass _ _
  · cases h
    cases m with
    | await_actors_done_mtx => exact .pass _ _
    | terminator_mutex => exact .unlock _

/-- The rest of what a function of the group leaves alone. -/
theorem call_next_keeps {caller : Option Nat} {c : Call} {r : Option Call × Group}
    (h : s.call_next caller c = some r) :
    r.2.num_detached_actors = s.num_detached_actors ∧ r.2.waiter_call = s.waiter_call := by
  unfold call_next at h
  split at h
  case h_4 =>
    cases h
    unfold notify_alive
    split <;> exact ⟨rfl, rfl⟩
  case h_7 =>
    cases h
    unfold notify_all
    split <;> exact ⟨rfl, rfl⟩
  case h_3 | h_6 | h_9 =>
    split at h <;> cases h
    exact ⟨rfl, rfl⟩
  all_goals
    cases h
    exact ⟨rfl, rfl⟩

/-- A waiter that has been woken up holds no mutex, and it had none in its sleep. -/
theorem waiter_of_call_next {caller : Option Nat} {c : Call} {r : Option Call × Group}
    (h : s.call_next caller c = some r) : r.2.waiter = s.waiter ∨
      s.waiter = .sleep_alive ∧ r.2.waiter = .lock_alive ∨
      s.waiter = .sleep_all ∧ r.2.waiter = .lock_all := by
  by_cases hc : c = .add_terminator .act
  · subst hc
    exact .inl (adds_call_next h).waiter
  · exact (leaves_call_next h hc).waiter

/-- Calls do not change what the waiter holds, since they wake it up only from its sleep. -/
theorem waiter_holds_call_next (m : GroupMutex) {caller : Option Nat} {c : Call}
    {r : Option Call × Group} (h : s.call_next caller c = some r) :
    r.2.waiter.holds m = s.waiter.holds m := by
  rcases waiter_of_call_next h with heq | ⟨hw, hw'⟩ | ⟨hw, hw'⟩
  · rw [heq]
  · rw [hw, hw']
    cases m <;> rfl
  · rw [hw, hw']
    cases m <;> rfl

/-- Nobody has gone on. -/
theorem holds_of_frame (frame : Frame s s') (calls : s'.call_of = s.call_of) :
    s'.holds = s.holds := by
  funext m who
  cases who with
  | none => rw [holds, holds, frame.waiter, frame.waiter_call]
  | some i => rw [holds, holds, calls]

/-- A thread goes on. -/
theorem holds_of_update {m : GroupMutex} {c : Option Call}
    (waiter : s'.waiter.holds m = s.waiter.holds m) (waiter_call : s'.waiter_call = s.waiter_call)
    (calls : s'.call_of = Function.update s.call_of i c) :
    s'.holds m = Function.update (s.holds m) (some i) (c.any (Call.holds m)) := by
  funext who
  cases who with
  | none =>
    have hne : none ≠ some i := fun heq => by cases heq
    rw [Function.update_of_ne hne, holds, holds, waiter, waiter_call]
  | some j =>
    rw [holds, calls]
    by_cases hj : j = i
    · subst hj
      rw [Function.update_self, Function.update_self]
    · rw [Function.update_of_ne hj, Function.update_of_ne (fun heq => hj (Option.some.inj heq)),
        holds]

/-- The waiter goes on. -/
theorem Locked.held_of_waiter (h : Locked s) {m : GroupMutex} (calls : s'.call_of = s.call_of)
    (haccess : Mutex.Access none (s.mutex m) (s.waiter.holds m || s.waiter_call.any (Call.holds m))
      (s'.waiter.holds m || s'.waiter_call.any (Call.holds m)) (s'.mutex m)) :
    Mutex.Held (s'.mutex m) (s'.holds m) := by
  have hholds : s'.holds m = Function.update (s.holds m) none
      (s'.waiter.holds m || s'.waiter_call.any (Call.holds m)) := by
    funext who
    cases who with
    | none =>
      rw [Function.update_self]
      rfl
    | some j =>
      have hne : some j ≠ none := fun heq => by cases heq
      rw [Function.update_of_ne hne, holds, holds, calls]
  rw [hholds]
  exact (h.mutex m).access haccess

/-- A mutex and its holder stay in step, whoever goes on. -/
theorem Locked.mutex_does (h : Locked s) (hdoes : Does s label s') (m : GroupMutex) :
    Mutex.Held (s'.mutex m) (s'.holds m) := by
  cases hdoes with
  | other _ frame _ _ calls | spawn _ frame _ _ _ calls
      | dec_num_detached_actors _ frame _ _ _ calls =>
    rw [frame.mutex, holds_of_frame frame calls]
    exact h.mutex m
  | wake_alive hw | wake_all hw =>
    refine h.held_of_waiter rfl ?_
    rw [hw]
    cases m <;> exact .pass _ _
  | add_terminator_waiter hw hcall =>
    refine h.held_of_waiter rfl ?_
    rw [hw, hcall]
    cases m <;> exact .pass _ _
  | enter i c s' frame hnone entered calls =>
    rw [frame.mutex, holds_of_update (by rw [frame.waiter]) frame.waiter_call calls]
    apply (h.mutex m).access
    rw [holds, hnone]
    rcases entered with ⟨rfl, -⟩ | ⟨rfl, -⟩ | ⟨rfl, -⟩ <;> cases m <;> exact .pass _ _
  | call i c r s' hc hr frame alive detached calls =>
    obtain ⟨-, hwaiter_call⟩ := call_next_keeps hr
    rw [frame.mutex, holds_of_update (by rw [frame.waiter, waiter_holds_call_next m hr])
      (frame.waiter_call.trans hwaiter_call) calls]
    apply (h.mutex m).access
    rw [holds, hc]
    exact access_call_next m hr
  | waiter_call c r hc hr =>
    -- a waiter in such a call is before the destructor, or ends a scoped actor
    have hwaiter : s.waiter.holds m = false := by
      rcases h.waiter_call (by rw [hc]; exact fun heq => by cases heq) with hw | hw
      · rw [hw]
        cases m <;> rfl
      · rw [hw]
        cases m <;> rfl
    apply h.held_of_waiter
    · obtain ⟨hthreads, -⟩ := call_next_frame hr
      funext j
      rw [call_of, call_of, hthreads]
    · dsimp only
      rw [hc, waiter_holds_call_next m hr, hwaiter, Bool.false_or, Bool.false_or]
      have haccess := access_call_next m hr
      cases m <;> exact haccess

/-! ### Who will notify -/

/-- A thread that will notify goes on to it, until it does. -/
theorem notifies_alive_call_next {caller : Option Nat} {c : Call} {r : Option Call × Group}
    (h : s.call_next caller c = some r)
    (hc : c.notifies_alive s.num_alive_actors s.num_detached_actors = true) :
    (∃ num_alive, c = .notify_alive .act num_alive) ∨ ∃ c', r.1 = some c' ∧
      c'.notifies_alive s.num_alive_actors s.num_detached_actors = true := by
  cases c with
  | inc_num_detached_actors n =>
    cases h
    exact .inr ⟨_, if_pos (beq_iff_eq.mp hc), rfl⟩
  | dec_num_alive_actors n =>
    cases h
    exact .inr ⟨_, if_pos (beq_iff_eq.mp hc), rfl⟩
  | notify_alive g num_alive =>
    cases g with
    | lock =>
      simp only [call_next] at h
      split at h <;> cases h
      exact .inr ⟨_, rfl, rfl⟩
    | act => exact .inl ⟨num_alive, rfl⟩
    | unlock => cases hc
  | notify_all g => cases hc
  | add_terminator g => cases hc

/-- The same for the other condition variable, which is notified after the first one. -/
theorem notifies_all_call_next {caller : Option Nat} {c : Call} {r : Option Call × Group}
    (h : s.call_next caller c = some r) (hc : c.notifies_all = true) :
    c = .notify_all .act ∨ ∃ c', r.1 = some c' ∧ c'.notifies_all = true := by
  cases c with
  | inc_num_detached_actors n => cases hc
  | dec_num_alive_actors n =>
    have hzero : n = 0 := beq_iff_eq.mp hc
    subst hzero
    cases h
    refine .inr ?_
    split
    · exact ⟨_, rfl, rfl⟩
    · exact ⟨.notify_all .lock, rfl, rfl⟩
  | notify_alive g num_alive =>
    have hzero : num_alive = some 0 := beq_iff_eq.mp hc
    subst hzero
    refine .inr ?_
    cases g with
    | lock =>
      simp only [call_next] at h
      split at h <;> cases h
      exact ⟨_, rfl, rfl⟩
    | act =>
      cases h
      exact ⟨_, rfl, rfl⟩
    | unlock =>
      cases h
      exact ⟨.notify_all .lock, rfl, rfl⟩
  | notify_all g =>
    cases g with
    | lock =>
      simp only [call_next] at h
      split at h <;> cases h
      exact .inr ⟨_, rfl, rfl⟩
    | act => exact .inl rfl
    | unlock => cases hc
  | add_terminator g => cases hc

/-- Thread `i` goes on, and some thread is still on its way. -/
theorem exists_call_of_update {p : Call → Prop} {c : Option Call}
    (h : ∃ j c, s.call_of j = some c ∧ p c) (calls : s'.call_of = Function.update s.call_of i c)
    (hi : ∀ b, s.call_of i = some b → p b → ∃ c', c = some c' ∧ p c') :
    ∃ j c, s'.call_of j = some c ∧ p c := by
  obtain ⟨j, b, hb, hp⟩ := h
  by_cases hj : j = i
  · subst hj
    obtain ⟨c', hc', hp'⟩ := hi b hb hp
    exact ⟨j, c', by rw [calls, Function.update_self, hc'], hp'⟩
  · exact ⟨j, b, by rw [calls, Function.update_of_ne hj, hb], hp⟩

/-- A count that goes up does not come to the one below it. -/
theorem succ_ne_of_le {a d : UInt64} (hle : d ≤ a) (hroom : a.toNat + 1 < 2 ^ 64) :
    a + 1 ≠ d ∧ a + 1 ≠ 0 := by
  have hle : d.toNat ≤ a.toNat := UInt64.le_iff_toNat_le.mp hle
  have hone : (a + 1).toNat = (a.toNat + 1) % 2 ^ 64 := UInt64.toNat_add ..
  have hzero : (0 : UInt64).toNat = 0 := rfl
  constructor <;> rw [ne_eq, ← UInt64.toNat_inj] <;> omega

/-- Nor does one that goes down come to the one above it. -/
theorem ne_pred_of_le {a d : UInt64} (hle : d ≤ a) (hpos : d ≠ 0) : a ≠ d - 1 := by
  have hle : d.toNat ≤ a.toNat := UInt64.le_iff_toNat_le.mp hle
  have hlt := d.toNat_lt
  have hone : (d - 1).toNat = (2 ^ 64 - 1 + d.toNat) % 2 ^ 64 := UInt64.toNat_sub ..
  have hzero : (0 : UInt64).toNat = 0 := rfl
  rw [ne_eq, ← UInt64.toNat_inj] at hpos ⊢
  omega

/-- A waiter that is about to sleep, or sleeps, and has not been woken up. -/
theorem waiter_of_sleeps {caller : Option Nat} {c : Call} {r : Option Call × Group}
    (hr : s.call_next caller c = some r) {p : Waiter → Bool} (halive : p .lock_alive = false)
    (hall : p .lock_all = false) (hp : p r.2.waiter = true) : r.2.waiter = s.waiter := by
  rcases waiter_of_call_next hr with heq | ⟨-, hw⟩ | ⟨-, hw⟩
  · exact heq
  · rw [hw, halive] at hp
    cases hp
  · rw [hw, hall] at hp
    cases hp

/-- Nobody notifies while the waiter holds the mutex. -/
theorem Locked.not_holds (h : Locked s) {c : Call} (hc : s.call_of i = some c) {m : GroupMutex}
    (hholds : c.holds m = true) : s.waiter.holds m = false := by
  rw [← Bool.not_eq_true]
  intro hwaiter
  have hnone : s.holds m none = true := by rw [holds, hwaiter, Bool.true_or]
  have hsome : s.holds m (some i) = true := by rw [holds, hc, Option.any_some, hholds]
  cases (h.mutex m).exclusive hnone hsome

/-- The waiter sleeps while a thread notifies, and it is woken up. -/
theorem Locked.awake_alive (h : Locked s) {num_alive : Option UInt64}
    (hc : s.call_of i = some (.notify_alive .act num_alive)) (d : UInt64) :
    s.notify_alive.waiter.sleeps_alive d = false := by
  have hnot := h.not_holds hc (m := .await_actors_done_mtx) rfl
  unfold notify_alive
  split
  · rfl
  · next hne =>
    cases hw : s.waiter with
    | test_detached n =>
      rw [hw] at hnot
      cases hnot
    | sleep_alive => exact absurd hw hne
    | _ => rfl

/-- The same for the second sleep. -/
theorem Locked.awake_all (h : Locked s) (hc : s.call_of i = some (.notify_all .act)) :
    s.notify_all.waiter.sleeps_all = false := by
  have hnot := h.not_holds hc (m := .await_actors_done_mtx) rfl
  unfold notify_all
  split
  · rfl
  · next hne =>
    cases hw : s.waiter with
    | test_all_detached n =>
      rw [hw] at hnot
      cases hnot
    | sleep_all => exact absurd hw hne
    | _ => rfl

/-- If the counts have become equal by this step, the thread that has made them equal will notify;
    if they were equal before, the one that would notify still will, or has just done so. -/
theorem Watches.alive_does (h : Watches s) (hdoes : Does s label s') (hin : InBounds s label)
    (hsleeps : s'.waiter.sleeps_alive s'.num_detached_actors = true)
    (heq : s'.num_alive_actors = s'.num_detached_actors) : ∃ i c, s'.call_of i = some c ∧
      c.notifies_alive s'.num_alive_actors s'.num_detached_actors = true := by
  cases hdoes with
  | other _ frame alive detached calls =>
    rw [frame.waiter, detached] at hsleeps
    rw [alive, detached] at heq ⊢
    rw [calls]
    exact h.alive hsleeps heq
  | wake_alive hw | wake_all hw => cases hsleeps
  | spawn _ frame room alive detached calls =>
    rw [alive, detached] at heq
    exact absurd heq (succ_ne_of_le h.bounds room).1
  | add_terminator_waiter hw hcall =>
    dsimp only at hsleeps
    rw [hw] at hsleeps
    cases hsleeps
  | enter i c s' frame hnone entered calls =>
    rcases entered with ⟨-, alive, detached⟩ | ⟨rfl, alive⟩ | ⟨rfl, detached⟩
    · rw [frame.waiter, detached] at hsleeps
      rw [alive, detached] at heq ⊢
      refine exists_call_of_update (h.alive hsleeps heq) calls fun b hb _ => ?_
      rw [hnone] at hb
      cases hb
    -- the one that enters compares the counts
    · exact ⟨i, .inc_num_detached_actors _, by rw [calls, Function.update_self],
        beq_iff_eq.mpr heq.symm⟩
    · exact ⟨i, .dec_num_alive_actors _, by rw [calls, Function.update_self], beq_iff_eq.mpr heq⟩
  | dec_num_detached_actors _ frame uncounts alive detached calls =>
    rw [alive, detached] at heq
    exact absurd heq (ne_pred_of_le h.bounds (hin.1 uncounts))
  | call i c r s' hc hr frame alive detached calls =>
    obtain ⟨-, halive⟩ := call_next_frame hr
    obtain ⟨hdetached, -⟩ := call_next_keeps hr
    rw [frame.waiter, detached, hdetached] at hsleeps
    rw [alive, detached, halive, hdetached] at heq ⊢
    have hwaiter := waiter_of_sleeps hr (p := Waiter.sleeps_alive s.num_detached_actors) rfl rfl
      hsleeps
    rw [hwaiter] at hsleeps
    refine exists_call_of_update (h.alive hsleeps heq) calls fun b hb hnotifies => ?_
    rw [hc, Option.some.injEq] at hb
    subst hb
    -- either it has notified, and then the waiter is awake, or it is still on its way
    rcases notifies_alive_call_next hr hnotifies with ⟨num_alive, rfl⟩ | hgoes
    · cases hr
      have hawake := h.awake_alive hc s.num_detached_actors
      rw [hwaiter, hsleeps] at hawake
      cases hawake
    · exact hgoes
  | waiter_call c r hc hr =>
    have hrests := h.waiter_call (by rw [hc]; exact fun heq => by cases heq)
    dsimp only at hsleeps
    rw [waiter_of_sleeps hr (p := Waiter.sleeps_alive _) rfl rfl hsleeps] at hsleeps
    rcases hrests with hw | hw <;> rw [hw] at hsleeps <;> cases hsleeps

/-- The same for the second sleep. The count gets to 0 in `dec_num_alive_actors` only. -/
theorem Watches.all_does (h : Watches s) (hdoes : Does s label s')
    (hsleeps : s'.waiter.sleeps_all = true) (hzero : s'.num_alive_actors = 0) :
    ∃ i c, s'.call_of i = some c ∧ c.notifies_all = true := by
  cases hdoes with
  | other _ frame alive detached calls | dec_num_detached_actors _ frame _ alive _ calls =>
    rw [frame.waiter] at hsleeps
    rw [alive] at hzero
    rw [calls]
    exact h.all hsleeps hzero
  | wake_alive hw | wake_all hw => cases hsleeps
  | spawn _ frame room alive detached calls =>
    rw [alive] at hzero
    exact absurd hzero (succ_ne_of_le h.bounds room).2
  | add_terminator_waiter hw hcall =>
    dsimp only at hsleeps
    rw [hw] at hsleeps
    cases hsleeps
  | enter i c s' frame hnone entered calls =>
    rw [frame.waiter] at hsleeps
    rcases entered with ⟨-, alive, -⟩ | ⟨-, alive⟩ | ⟨rfl, -⟩
    · rw [alive] at hzero
      refine exists_call_of_update (h.all hsleeps hzero) calls fun b hb _ => ?_
      rw [hnone] at hb
      cases hb
    · rw [alive] at hzero
      refine exists_call_of_update (h.all hsleeps hzero) calls fun b hb _ => ?_
      rw [hnone] at hb
      cases hb
    · exact ⟨i, .dec_num_alive_actors _, by rw [calls, Function.update_self], beq_iff_eq.mpr hzero⟩
  | call i c r s' hc hr frame alive detached calls =>
    obtain ⟨-, halive⟩ := call_next_frame hr
    rw [frame.waiter] at hsleeps
    rw [alive, halive] at hzero
    have hwaiter := waiter_of_sleeps hr (p := Waiter.sleeps_all) rfl rfl hsleeps
    rw [hwaiter] at hsleeps
    refine exists_call_of_update (h.all hsleeps hzero) calls fun b hb hnotifies => ?_
    rw [hc, Option.some.injEq] at hb
    subst hb
    rcases notifies_all_call_next hr hnotifies with rfl | hgoes
    · cases hr
      have hawake := h.awake_all hc
      rw [hwaiter, hsleeps] at hawake
      cases hawake
    · exact hgoes
  | waiter_call c r hc hr =>
    have hrests := h.waiter_call (by rw [hc]; exact fun heq => by cases heq)
    dsimp only at hsleeps
    rw [waiter_of_sleeps hr (p := Waiter.sleeps_all) rfl rfl hsleeps] at hsleeps
    rcases hrests with hw | hw <;> rw [hw] at hsleeps <;> cases hsleeps

/-- The waiter does not go on while it is in a call. -/
theorem Locked.waiter_call_does (h : Locked s) (hdoes : Does s label s')
    (hcall : s'.waiter_call ≠ none) : s'.waiter = .running ∨ s'.waiter = .deleting := by
  have hframe {t : Group} (hwaiter : t.waiter = s.waiter)
      (hwaiter_call : t.waiter_call = s.waiter_call) (hcall : t.waiter_call ≠ none) :
      t.waiter = .running ∨ t.waiter = .deleting := by
    rw [hwaiter]
    exact h.waiter_call (hwaiter_call ▸ hcall)
  cases hdoes with
  | other _ frame _ _ _ | spawn _ frame _ _ _ _ | dec_num_detached_actors _ frame _ _ _ _
      | enter _ _ _ frame _ _ _ => exact hframe frame.waiter frame.waiter_call hcall
  | wake_alive hw | wake_all hw =>
    rcases h.waiter_call hcall with hrests | hrests <;> rw [hw] at hrests <;> cases hrests
  | add_terminator_waiter hw _ => exact .inl hw
  | call i c r s' hc hr frame _ _ _ =>
    obtain ⟨-, hwaiter_call⟩ := call_next_keeps hr
    have hrests := h.waiter_call (hwaiter_call ▸ frame.waiter_call ▸ hcall)
    apply hframe _ (frame.waiter_call.trans hwaiter_call) hcall
    rw [frame.waiter]
    rcases waiter_of_call_next hr with heq | ⟨hw, -⟩ | ⟨hw, -⟩
    · exact heq
    · rcases hrests with hrests | hrests <;> rw [hw] at hrests <;> cases hrests
    · rcases hrests with hrests | hrests <;> rw [hw] at hrests <;> cases hrests
  | waiter_call c r hc hr =>
    have hrests := h.waiter_call (by rw [hc]; exact fun heq => by cases heq)
    rcases waiter_of_call_next hr with heq | ⟨hw, -⟩ | ⟨hw, -⟩
    · dsimp only
      rw [heq]
      exact hrests
    · rcases hrests with hrests | hrests <;> rw [hw] at hrests <;> cases hrests
    · rcases hrests with hrests | hrests <;> rw [hw] at hrests <;> cases hrests

/-! ### Steps of the waiter -/

/-- The waiter leaves the threads where they are. -/
theorem call_of_waiter_next (hnext : s.waiter_next = some s') : s'.call_of = s.call_of := by
  cases hw : s.waiter <;>
    simp only [waiter_next, hw, lock_mtx, unlock_mtx] at hnext
  case terminating e =>
    split at hnext <;> cases hnext
    · exact call_of_post s e .termination
    · rfl
  case create | invoke =>
    split at hnext
    · cases hnext
      rfl
    · split at hnext <;> cases hnext <;> rfl
  case sleep_alive | sleep_all | destroyed => cases hnext
  case running | lock_alive | lock_terminators | deleting | lock_all | test_detached
      | test_all_detached =>
    split at hnext <;> cases hnext <;> rfl
  all_goals
    cases hnext
    rfl

/-- The waiter is in no other function of the group when it goes on. -/
theorem Locked.waiter_call_none (h : Locked s) (hnext : s.waiter_next = some s') :
    s.waiter_call = none := by
  by_contra hne
  rcases h.waiter_call hne with hw | hw
  · simp only [waiter_next, hw, if_neg hne] at hnext
    cases hnext
  · simp only [waiter_next, hw, if_neg hne] at hnext
    cases hnext

/-- The waiter locks a mutex that is free and unlocks what it holds; a `wait` unlocks as well. -/
theorem access_waiter_next (m : GroupMutex) (hnone : s.waiter_call = none)
    (hnext : s.waiter_next = some s') :
    Mutex.Access none (s.mutex m) (s.waiter.holds m)
      (s'.waiter.holds m || s'.waiter_call.any (Call.holds m)) (s'.mutex m) := by
  have hpass {t : Group} (hholds : t.waiter.holds m = s.waiter.holds m)
      (hcall : t.waiter_call.any (Call.holds m) = false) (hmutex : t.mutex m = s.mutex m) :
      Mutex.Access none (s.mutex m) (s.waiter.holds m)
        (t.waiter.holds m || t.waiter_call.any (Call.holds m)) (t.mutex m) := by
    rw [hholds, hcall, hmutex, Bool.or_false]
    exact .pass _ _
  have hunlock {t : Group} (hbefore : s.waiter.holds m = true) (hafter : t.waiter.holds m = false)
      (hcall : t.waiter_call = none) (hmutex : t.mutex m = none) :
      Mutex.Access none (s.mutex m) (s.waiter.holds m)
        (t.waiter.holds m || t.waiter_call.any (Call.holds m)) (t.mutex m) := by
    rw [hbefore, hafter, hcall, hmutex]
    exact .unlock _
  have hidle : s.waiter_call.any (Call.holds m) = false := by rw [hnone]; rfl
  cases hw : s.waiter <;> rw [hw] at hpass hunlock <;>
    simp only [waiter_next, hw, lock_mtx, unlock_mtx] at hnext
  -- the mutexes are locked
  case lock_alive | lock_all =>
    split at hnext <;> cases hnext
    next hfree =>
    cases m with
    | await_actors_done_mtx =>
      rw [mutex, hfree]
      exact .lock
    | terminator_mutex => exact hpass rfl hidle rfl
  case lock_terminators =>
    split at hnext <;> cases hnext
    next hfree =>
    cases m with
    | await_actors_done_mtx => exact hpass rfl hidle rfl
    | terminator_mutex =>
      rw [mutex, hfree]
      exact .lock
  -- and unlocked
  case test_detached =>
    split at hnext <;> cases hnext
    · cases m <;> exact hpass rfl hidle rfl
    · cases m with
      | await_actors_done_mtx => exact hunlock rfl rfl hnone rfl
      | terminator_mutex => exact hpass rfl hidle rfl
  case test_all_detached =>
    split at hnext <;> cases hnext
    · cases m with
      | await_actors_done_mtx => exact hunlock rfl rfl hnone rfl
      | terminator_mutex => exact hpass rfl hidle rfl
    · cases m <;> exact hpass rfl hidle rfl
  case unlock_alive | unlock_all =>
    cases hnext
    cases m with
    | await_actors_done_mtx => exact hunlock rfl rfl hnone rfl
    | terminator_mutex => exact hpass rfl hidle rfl
  case unlock_terminators =>
    cases hnext
    have hholds : (if s.taken = [] then Waiter.load_all else .create).holds m = false := by
      split <;> cases m <;> rfl
    cases m with
    | await_actors_done_mtx => exact hpass hholds hidle rfl
    | terminator_mutex => exact hunlock rfl hholds hnone rfl
  -- the rest does without them
  case running | deleting =>
    rw [if_pos hnone] at hnext
    cases hnext
    cases m <;> exact hpass rfl hidle rfl
  case load_detached | load_all | test_all | returned =>
    cases hnext
    refine hpass ?_ hidle (by cases m <;> rfl)
    dsimp only
    split <;> cases m <;> rfl
  case load_alive | test_alive | take_terminators =>
    cases hnext
    cases m <;> exact hpass rfl hidle rfl
  case create =>
    split at hnext
    · cases hnext
      cases m <;> exact hpass rfl hidle rfl
    · split at hnext <;> cases hnext
      cases m <;> exact hpass rfl hidle rfl
  case invoke =>
    split at hnext
    · cases hnext
      cases m <;> exact hpass rfl hidle rfl
    · split at hnext <;> cases hnext
      · cases m <;> exact hpass rfl hidle rfl
      · cases m <;> exact hpass rfl rfl rfl
  case terminating e =>
    split at hnext <;> cases hnext <;> cases m <;> exact hpass rfl hidle rfl
  case sleep_alive | sleep_all | destroyed => cases hnext

/-- The waiter in `s'` will sleep only if it does in `s`, and nothing has come about there. -/
structure SleepsOn (s s' : Group) : Prop where
  alive : s'.waiter.sleeps_alive s'.num_detached_actors = true →
    s'.num_alive_actors = s'.num_detached_actors →
      s.waiter.sleeps_alive s.num_detached_actors = true ∧
        s'.num_alive_actors = s.num_alive_actors ∧ s'.num_detached_actors = s.num_detached_actors
  all : s'.waiter.sleeps_all = true → s'.num_alive_actors = 0 →
    s.waiter.sleeps_all = true ∧ s'.num_alive_actors = s.num_alive_actors
  waiter_call : s.waiter_call = none → s'.waiter_call ≠ none → s'.waiter = .deleting

/-- A waiter that is awake sleeps on nothing. -/
theorem sleeps_on_of_awake (halive : s'.waiter.sleeps_alive s'.num_detached_actors = false)
    (hall : s'.waiter.sleeps_all = false)
    (hcall : s.waiter_call = none → s'.waiter_call ≠ none → s'.waiter = .deleting) :
    SleepsOn s s' := by
  refine ⟨?_, ?_, hcall⟩
  · rw [halive]
    exact fun heq => by cases heq
  · rw [hall]
    exact fun heq => by cases heq

/-- By where the waiter is. It gets to sleep only through tests that it makes under the mutex. -/
theorem sleeps_on_waiter_next (hnext : s.waiter_next = some s') : SleepsOn s s' := by
  cases hw : s.waiter <;>
    simp only [Group.waiter_next, hw, lock_mtx, unlock_mtx] at hnext
  -- on the way to sleep, the waiter has found the counts different
  case test_alive =>
    cases hnext
    refine ⟨fun hsleeps heq => ?_, (fun heq => by cases heq), fun h h' => absurd h h'⟩
    exact absurd heq (bne_iff_ne.mp hsleeps)
  case test_detached =>
    split at hnext <;> cases hnext
    · exact sleeps_on_of_awake rfl rfl fun h h' => absurd h h'
    · next hne =>
      refine ⟨fun _ _ => ⟨?_, rfl, rfl⟩, (fun heq => by cases heq), fun h h' => absurd h h'⟩
      rw [hw]
      exact bne_iff_ne.mpr hne
  case test_all =>
    cases hnext
    refine ⟨?_, fun _ hzero => ?_, fun h h' => absurd h h'⟩
    · dsimp only
      split <;> exact fun heq => by cases heq
    · next hsleeps =>
      have hzero : s.num_alive_actors = 0 := hzero
      dsimp only at hsleeps
      rw [if_pos hzero] at hsleeps
      cases hsleeps
  case test_all_detached =>
    split at hnext <;> cases hnext
    · refine ⟨(fun heq => by cases heq), fun _ _ => ⟨?_, rfl⟩, fun h h' => absurd h h'⟩
      rw [hw]
      rfl
    · exact sleeps_on_of_awake rfl rfl fun h h' => absurd h h'
  -- elsewhere it does not sleep
  case running | lock_alive | lock_terminators | deleting | lock_all | terminating =>
    split at hnext <;> cases hnext <;>
      exact sleeps_on_of_awake rfl rfl fun h h' => absurd h h'
  case load_alive | unlock_alive | take_terminators | unlock_all =>
    cases hnext
    exact sleeps_on_of_awake rfl rfl fun h h' => absurd h h'
  case load_detached | unlock_terminators | load_all | returned =>
    cases hnext
    refine sleeps_on_of_awake ?_ ?_ fun h h' => absurd h h'
    · dsimp only
      split <;> rfl
    · dsimp only
      split <;> rfl
  case create =>
    split at hnext
    · cases hnext
      exact sleeps_on_of_awake rfl rfl fun h h' => absurd h h'
    · split at hnext <;> cases hnext
      exact sleeps_on_of_awake rfl rfl fun h h' => absurd h h'
  case invoke =>
    split at hnext
    · cases hnext
      exact sleeps_on_of_awake rfl rfl fun h h' => absurd h h'
    · split at hnext <;> cases hnext
      · exact sleeps_on_of_awake rfl rfl fun h h' => absurd h h'
      · exact sleeps_on_of_awake rfl rfl fun _ _ => rfl
  case sleep_alive | sleep_all | destroyed => cases hnext

/-! ### Every step -/

/-- Every step keeps the mutexes with their holders. -/
theorem Locked.next (h : Locked s) (hnext : s.next label = some s') : Locked s' := by
  by_cases hwaiter : label = .waiter
  · subst hwaiter
    have hnone := h.waiter_call_none hnext
    refine ⟨fun m => h.held_of_waiter (call_of_waiter_next hnext) ?_, fun hcall => ?_⟩
    · rw [hnone, Option.any_none, Bool.or_false]
      exact access_waiter_next m hnone hnext
    · exact .inr ((sleeps_on_waiter_next hnext).waiter_call hnone hcall)
  · have hdoes := does_of_next hwaiter hnext
    exact ⟨h.mutex_does hdoes, h.waiter_call_does hdoes⟩

/-- Every step that keeps the counts in their bounds keeps the waiter from missing anything. -/
theorem Watches.next (h : Watches s) (hin : InBounds s label) (hnext : s.next label = some s') :
    Watches s' := by
  refine ⟨h.toLocked.next hnext, hin.2 s' hnext, ?_, ?_⟩
  · by_cases hwaiter : label = .waiter
    · subst hwaiter
      intro hsleeps heq
      obtain ⟨hsleeps, hsame, hsame'⟩ := (sleeps_on_waiter_next hnext).alive hsleeps heq
      rw [hsame, hsame'] at heq ⊢
      rw [call_of_waiter_next hnext]
      exact h.alive hsleeps heq
    · exact h.alive_does (does_of_next hwaiter hnext) hin
  · by_cases hwaiter : label = .waiter
    · subst hwaiter
      intro hsleeps hzero
      obtain ⟨hsleeps, hsame⟩ := (sleeps_on_waiter_next hnext).all hsleeps hzero
      rw [call_of_waiter_next hnext]
      exact h.all hsleeps (hsame ▸ hzero)
    · exact h.all_does (does_of_next hwaiter hnext)

theorem call_of_init (h : s.init) (i : Nat) : s.call_of i = none := by
  obtain ⟨engine, period, n, -, rfl⟩ := h
  show ((List.replicate n _)[i]?).bind _ = none
  rw [List.getElem?_replicate]
  split <;> rfl

/-- At the start no mutex is locked. -/
theorem locked_init (h : s.init) : Locked s := by
  have hcalls := call_of_init h
  obtain ⟨engine, period, n, -, rfl⟩ := h
  refine ⟨fun m => ?_, fun h => absurd rfl h⟩
  cases m <;> refine Mutex.held_free fun who => ?_
  · cases who with
    | none => rfl
    | some i => rw [holds, hcalls, Option.any_none]
  · cases who with
    | none => rfl
    | some i => rw [holds, hcalls, Option.any_none]

/-- By induction over the run. -/
theorem watches_of_in_bounds (h : LTS.ReachableVia system InBounds s) : Watches s := by
  apply h.invariant Watches
  · intro s h0
    have hlocked := locked_init h0
    obtain ⟨engine, period, n, -, rfl⟩ := h0
    exact ⟨hlocked, UInt64.le_refl _, (fun heq => by cases heq), fun heq => by cases heq⟩
  · intro s label s' hs hin hnext
    exact hs.next hin hnext

end Group

/-! ### Threads come to the end of a function -/

/-- The mutex that is locked next. -/
def Call.locks : Call → Option GroupMutex
  | .notify_alive .lock _ | .notify_all .lock => some .await_actors_done_mtx
  | .add_terminator .lock => some .terminator_mutex
  | _ => none

/-- A bound on the steps to the end of a function of the group. -/
def Call.steps_left : Call → Nat
  | .inc_num_detached_actors _ | .dec_num_alive_actors _ => 7
  | .notify_alive .lock _ => 6
  | .notify_alive .act _ => 5
  | .notify_alive .unlock _ => 4
  | .notify_all .lock | .add_terminator .lock => 3
  | .notify_all .act | .add_terminator .act => 2
  | .notify_all .unlock | .add_terminator .unlock => 1

/-- Summed over the threads, this is what goes down with each step in a call. -/
def Thread.steps_left (t : Thread) : Nat := t.call.elim 0 Call.steps_left

/-- A step of a thread in a function of the group. -/
def InCall (_ : Group) (label : GroupStep) : Prop := ∃ i, label = .call i

/-- No function locks a second mutex while it holds one. -/
theorem Call.locks_of_holds {c : Call} {m : GroupMutex} (h : c.holds m = true) :
    c.locks = none := by
  cases c with
  | inc_num_detached_actors n | dec_num_alive_actors n => rfl
  | notify_alive g n | notify_all g | add_terminator g => cases g <;> cases m <;> cases h <;> rfl

namespace Group

def steps_left (s : Group) : Nat := (s.threads.map Thread.steps_left).sum

variable {s s' : Group} {i : Nat}

/-- Every step in a call comes closer to its end. -/
theorem steps_left_call_next {caller : Option Nat} {c : Call} {r : Option Call × Group}
    (h : s.call_next caller c = some r) : r.1.elim 0 Call.steps_left < c.steps_left := by
  have hall_done (n : UInt64) : (all_done n).elim 0 Call.steps_left ≤ 3 := by
    unfold all_done
    split <;> decide
  unfold call_next at h
  split at h
  case h_1 =>
    cases h
    split
    · exact Nat.lt_succ_self _
    · exact Nat.succ_pos _
  case h_2 n =>
    cases h
    split
    · exact Nat.lt_succ_self _
    · exact Nat.lt_of_le_of_lt (hall_done n) (by decide : 3 < 7)
  case h_5 num_alive =>
    cases h
    cases num_alive with
    | none => exact Nat.succ_pos _
    | some n => exact Nat.lt_succ_of_le (hall_done n)
  case h_3 | h_6 | h_9 =>
    split at h <;> cases h
    exact Nat.lt_succ_self _
  all_goals
    cases h
    exact Nat.lt_succ_self _

/-- Only a mutex can keep a call from going on. -/
theorem exists_call_next {c : Call} (hfree : ∀ m, c.locks = some m → s.mutex m = none)
    (caller : Option Nat) : ∃ r, s.call_next caller c = some r := by
  cases c with
  | inc_num_detached_actors n | dec_num_alive_actors n => exact ⟨_, rfl⟩
  | notify_alive g num_alive | notify_all g =>
    cases g with
    | lock => exact ⟨_, if_pos (hfree .await_actors_done_mtx rfl)⟩
    | act | unlock => exact ⟨_, rfl⟩
  | add_terminator g =>
    cases g with
    | lock => exact ⟨_, if_pos (hfree .terminator_mutex rfl)⟩
    | act | unlock => exact ⟨_, rfl⟩

/-- A thread that is not kept from it takes a step. -/
theorem exists_next_call {c : Call} (hc : s.call_of i = some c)
    (hfree : ∀ m, c.locks = some m → s.mutex m = none) :
    ∃ s', s.next (.call i) = some s' ∧ s'.steps_left < s.steps_left := by
  obtain ⟨r, hr⟩ := exists_call_next hfree (some i)
  obtain ⟨t, ht, hcall⟩ := Option.bind_eq_some_iff.mp hc
  refine ⟨r.2.set_thread i { t with call := r.1 }, ?_, ?_⟩
  · simp only [next, ht, hcall, hr, Option.bind_eq_bind, Option.bind_some, Option.pure_def]
  · have hcount := Counting.sum_map_set_add ht ({ t with call := r.1 } : Thread) Thread.steps_left
    have hlt := steps_left_call_next hr
    have hbefore : t.steps_left = c.steps_left := by rw [Thread.steps_left, hcall, Option.elim_some]
    have hafter : ({ t with call := r.1 } : Thread).steps_left = r.1.elim 0 Call.steps_left := rfl
    show ((r.2.threads.set i _).map Thread.steps_left).sum < _
    rw [(call_next_frame hr).1, steps_left]
    omega

/-- While the waiter holds no mutex, some thread can go on. -/
theorem Locked.exists_next_call (h : Locked s) (hwaiter : ∀ m, s.holds m none = false) {c : Call}
    (hc : s.call_of i = some c) :
    ∃ j s', s.next (.call j) = some s' ∧ s'.steps_left < s.steps_left := by
  by_cases hfree : ∀ m, c.locks = some m → s.mutex m = none
  · exact ⟨i, Group.exists_next_call hc hfree⟩
  · -- the thread that holds the mutex waits for no other
    push Not at hfree
    obtain ⟨m, -, hne⟩ := hfree
    obtain ⟨who, hwho⟩ := Option.ne_none_iff_exists'.mp hne
    have hholds := (h.mutex m who).mpr hwho
    cases who with
    | none =>
      rw [hwaiter m] at hholds
      cases hholds
    | some j =>
      obtain ⟨b, hb, hb'⟩ := Option.any_eq_true _ _ |>.mp hholds
      have hlocks := Call.locks_of_holds hb'
      exact ⟨j, Group.exists_next_call hb fun m hm => by rw [hlocks] at hm; cases hm⟩

/-- The counts have been changed before. -/
theorem counts_of_call (hnext : s.next (.call i) = some s') :
    s'.num_alive_actors = s.num_alive_actors ∧
      s'.num_detached_actors = s.num_detached_actors := by
  cases stepped_of_next hnext with
  | call i t c r ht hcall hr => exact ⟨(call_next_frame hr).2, (call_next_keeps hr).1⟩

/-- So these steps keep the bounds. -/
theorem Watches.in_bounds_call (h : Watches s) (i : Nat) : InBounds s (.call i) := by
  refine ⟨(fun heq => by cases heq), fun s' hnext => ?_⟩
  obtain ⟨halive, hdetached⟩ := counts_of_call hnext
  rw [halive, hdetached]
  exact h.bounds

/-- A waiter that sleeps holds no mutex. -/
theorem Locked.holds_none (h : Locked s) (hwaiter : ∀ m, s.waiter.holds m = false)
    (hrests : s.waiter ≠ .running ∧ s.waiter ≠ .deleting) (m : GroupMutex) :
    s.holds m none = false := by
  have hnone : s.waiter_call = none := by
    by_contra hne
    exact (h.waiter_call hne).elim hrests.1 hrests.2
  rw [holds, hwaiter m, hnone]
  rfl

/-! ### Nobody sleeps on -/

/-- The waiter is woken up by threads that go on in functions of the group. -/
structure Notices (s : Group) : Prop where
  alive : s.waiter = .sleep_alive → s.num_alive_actors = s.num_detached_actors →
    system.CanReach InCall s fun s' => s'.waiter = .lock_alive
  all : s.waiter = .sleep_all → s.num_alive_actors = 0 →
    system.CanReach InCall s fun s' => s'.waiter = .lock_all

/-- Threads go on until the waiter is awake, if one of them is in a function of the group as
    long as it is asleep. -/
theorem Watches.can_wake (h : Watches s) (asleep awake : Waiter) (done : UInt64 → UInt64 → Prop)
    (hholds : ∀ m, asleep.holds m = false) (hrests : asleep ≠ .running ∧ asleep ≠ .deleting)
    (hawake : ∀ {t t' : Group} {i : Nat}, t.next (.call i) = some t' → t.waiter = asleep →
      t'.waiter = asleep ∨ t'.waiter = awake)
    (howed : ∀ t, Watches t → t.waiter = asleep → done t.num_alive_actors t.num_detached_actors →
      ∃ i c, t.call_of i = some c)
    (hwaiter : s.waiter = asleep) (hdone : done s.num_alive_actors s.num_detached_actors) :
    system.CanReach InCall s fun s' => s'.waiter = awake := by
  have hreach : system.CanReach InCall s fun t =>
      (Watches t ∧ (t.waiter = asleep ∨ t.waiter = awake) ∧
        done t.num_alive_actors t.num_detached_actors) ∧ t.waiter = awake := by
    -- as long as it sleeps some thread is in a call, and one of these can go on
    refine LTS.System.can_reach_of_measure _ steps_left ?_ ⟨h, .inl hwaiter, hdone⟩
    rintro t ⟨ht, hor, hdone⟩ hgoal
    have hwaiter := hor.resolve_right hgoal
    obtain ⟨i, c, hc⟩ := howed t ht hwaiter hdone
    have hnone := ht.holds_none (by rw [hwaiter]; exact hholds) (by rw [hwaiter]; exact hrests)
    obtain ⟨j, t', hnext, hlt⟩ := ht.exists_next_call hnone hc
    obtain ⟨halive, hdetached⟩ := counts_of_call hnext
    refine LTS.System.can_reach_next (.call j) ⟨j, rfl⟩ hnext ⟨⟨?_, hawake hnext hwaiter, ?_⟩, hlt⟩
    · exact ht.next (ht.in_bounds_call j) hnext
    · rw [halive, hdetached]
      exact hdone
  exact hreach.mono fun t ht => ht.2

/-- **No notification is lost: whenever what the waiter sleeps for has come about, the threads
    that are in functions of the group wake it up.** -/
theorem notices (h : LTS.ReachableVia system InBounds s) : s.Notices := by
  have hwatches := watches_of_in_bounds h
  constructor
  · intro hwaiter heq
    apply hwatches.can_wake .sleep_alive .lock_alive fun alive detached => alive = detached
    · exact fun m => by cases m <;> rfl
    · exact ⟨(fun heq => by cases heq), fun heq => by cases heq⟩
    · intro t t' i hnext hw
      rcases (waiter_eq_or_awake (fun heq => by cases heq) hnext).2 with heq | ⟨-, heq⟩ | ⟨hne, -⟩
      · exact .inl (heq.trans hw)
      · exact .inr heq
      · rw [hw] at hne
        cases hne
    · intro t ht hw hdone
      obtain ⟨i, c, hc, -⟩ := ht.alive (by rw [hw]; rfl) hdone
      exact ⟨i, c, hc⟩
    · exact hwaiter
    · exact heq
  · intro hwaiter hzero
    apply hwatches.can_wake .sleep_all .lock_all fun alive _ => alive = 0
    · exact fun m => by cases m <;> rfl
    · exact ⟨(fun heq => by cases heq), fun heq => by cases heq⟩
    · intro t t' i hnext hw
      rcases (waiter_eq_or_awake (fun heq => by cases heq) hnext).2 with heq | ⟨hne, -⟩ | ⟨-, heq⟩
      · exact .inl (heq.trans hw)
      · rw [hw] at hne
        cases hne
      · exact .inr heq
    · intro t ht hw hdone
      obtain ⟨i, c, hc, -⟩ := ht.all (by rw [hw]; rfl) hdone
      exact ⟨i, c, hc⟩
    · exact hwaiter
    · exact hzero

/-- An actor is done between the waiter's look at the counts and its sleep. -/
theorem notices_done_before_sleep :
    ∃ s, LTS.ReachableVia system InBounds s ∧
      (s.waiter, s.num_alive_actors, s.num_detached_actors) = (.sleep_alive, 0, 0) ∧
        s.Notices := by
  obtain ⟨s, hs, hobs⟩ := system.reachable_of_exec InBounds
    ([.spawn none 0] ++ List.replicate 5 .waiter ++ [.finish 0, .waiter])
    (fun s => (s.waiter, s.num_alive_actors, s.num_detached_actors))
    (b := (.sleep_alive, 0, 0)) init_actor_system (by decide +kernel)
  exact ⟨s, hs, hobs, notices hs⟩

end Group
end ZAF.Awaiting
