import ZAF.ActorGroup.Await
import ZAF.Framework.Counting

/-! # The end of a group

    The destructor of a group ends when the waiter has seen that no actor is alive, in an
    `ActorEngine` after a message to each executor. The thread of the last actor may have
    more to do in `dec_num_alive_actors` then, and an executor may go on for a round.
-/

namespace ZAF.Awaiting

/-! ### What must not happen -/

namespace Group

/-- Does a thread of an actor or of an executor access a member of the group in this step? -/
def touches (s : Group) : GroupStep → Bool
  | .spawn caller _ | .add_terminator caller => caller.isSome
  | .inc_num_detached_actors _ _ | .dec_num_detached_actors _ | .finish _ | .call _
  | .rebalance _ _ => true
  -- an executor that goes on reads `load_rebalance_period`
  | .end_round i => (s.executor_of i).any fun x => x.activated
  | _ => false

/-- No thread accesses a member of the group after it has been destroyed. -/
def Untouched (s : Group) : Prop :=
  s.waiter = .destroyed → ∀ label, s.touches label = true → s.next label = none

end Group

/-- The thread is in no function of the group, and if it is an executor, it waits for
    messages or is about to leave its loop. -/
def Thread.settled (t : Thread) : Bool :=
  t.call.isNone && match t.work with
    | .actor _ _ => true
    | .executor x => match x.point with
      | .polling | .stopping => true
      | .handling => !x.activated
      | .starting | .rebalancing => false

/-- All threads are settled when the destructor ends, and executors receive nothing but
    `Termination` after that. -/
def Settles (s : Group) : GroupStep → Prop
  | .waiter =>
    (s.waiter_next.any fun s' => s'.waiter == .destroyed) = true →
      s.threads.all Thread.settled = true
  | .receive i =>
    s.waiter = .destroyed →
      (s.executor_of i).all (fun x => x.inbox.head? == some .termination) = true
  | _ => True

instance (s : Group) (label : GroupStep) : Decidable (Settles s label) := by
  unfold Settles
  split <;> infer_instance

/-! ### The actors of a thread -/

/-- Does the message carry an actor? -/
def ExecutorMessage.carries : ExecutorMessage → Bool
  | .new_actor | .actor_transfer => true
  | .rebalance _ | .termination => false

/-- The actor in `start`. -/
def ExecutorPoint.counted : ExecutorPoint → Nat
  | .starting => 1
  | _ => 0

/-- The actors of an executor that have not been counted out, also those on their way to it. -/
def Executor.counted (x : Executor) : Nat :=
  x.actors + x.point.counted + x.inbox.countP ExecutorMessage.carries

/-- How many actors the thread has to count out. -/
def Work.counted : Work → Nat
  | .actor alive _ => alive.toNat
  | .executor x => x.counted

def Thread.counted (t : Thread) : Nat := t.work.counted

/-- The actors of all threads. -/
def Group.thread_actors (s : Group) : Nat := (s.threads.map Thread.counted).sum

theorem Thread.counted_of_in_actor {t : Thread} (h : t.in_actor = true) : 0 < t.counted := by
  obtain ⟨work, call⟩ := t
  rw [in_actor, Bool.and_eq_true] at h
  cases work with
  | actor alive detached =>
    have halive : alive = true := h.2
    subst halive
    exact Nat.one_pos
  | executor x =>
    obtain ⟨point, inbox, actors, activated⟩ := x
    have hpoint := h.2
    show 0 < actors + point.counted + inbox.countP ExecutorMessage.carries
    cases point with
    | starting => simp only [ExecutorPoint.counted]; omega
    | handling | stopping =>
      have hpos : 0 < actors := of_decide_eq_true hpoint
      omega
    | polling | rebalancing => cases hpoint

/-- An actor is deleted. -/
theorem Work.counted_finished {t : Thread} {w : Work} (h : t.work.finished = some w)
    (hin : t.in_actor = true) : w.counted + 1 = t.counted := by
  obtain ⟨work, call⟩ := t
  rw [Thread.in_actor, Bool.and_eq_true] at hin
  cases work with
  | actor alive detached =>
    cases h
    have halive : alive = true := hin.2
    subst halive
    rfl
  | executor x =>
    obtain ⟨point, inbox, actors, activated⟩ := x
    have hpoint := hin.2
    cases point with
    | handling | stopping =>
      have hpos : 0 < actors := of_decide_eq_true hpoint
      cases h
      simp only [Work.counted, Thread.counted, Executor.counted]
      omega
    | starting => cases h
    | polling | rebalancing => cases hpoint

theorem Work.counted_set_detached (detached : Bool) (w : Work) :
    (w.set_detached detached).counted = w.counted := by
  cases w <;> rfl

namespace Group

variable {s s' : Group} {i : Nat}

theorem thread_actors_set_thread {t : Thread} (h : s.threads[i]? = some t) (t' : Thread) :
    (s.set_thread i t').thread_actors + t.counted = s.thread_actors + t'.counted :=
  Counting.sum_map_set_add h t' _

@[simp] theorem thread_actors_set_detached (s : Group) (i : Nat) (detached : Bool) :
    (s.set_detached i detached).thread_actors = s.thread_actors := by
  cases hi : s.threads[i]? with
  | none =>
    have hsame : (s.set_detached i detached).threads = s.threads := Counting.modify_of_none hi _
    rw [thread_actors, hsame, thread_actors]
  | some t =>
    have hcount : (s.set_detached i detached).thread_actors + t.counted = s.thread_actors + _ :=
      Counting.sum_map_modify_add hi _ _
    have hsame := t.work.counted_set_detached detached
    simp only [Thread.counted] at hcount
    omega

/-- A message may carry an actor to an executor. -/
theorem thread_actors_post (s : Group) (e : Nat) (m : ExecutorMessage) :
    (s.post e m).thread_actors ≤ s.thread_actors + m.carries.toNat := by
  cases he : s.threads[e]? with
  | none =>
    have hsame : (s.post e m).threads = s.threads := Counting.modify_of_none he _
    rw [thread_actors, hsame]
    exact Nat.le_add_right _ _
  | some t =>
    have hcount : (s.post e m).thread_actors + t.counted = s.thread_actors + _ :=
      Counting.sum_map_modify_add he _ _
    obtain ⟨work, call⟩ := t
    cases work with
    | actor alive detached => dsimp only at hcount; omega
    | executor x =>
      simp only [Thread.counted, Work.counted, Executor.counted, List.countP_append,
        List.countP_singleton] at hcount
      have htoNat : m.carries.toNat = if m.carries = true then 1 else 0 := by
        cases m.carries <;> rfl
      omega

theorem threads_of_executor_of {x : Executor} (h : s.executor_of i = some x) :
    s.threads[i]? = some ⟨.executor x, none⟩ := by
  unfold executor_of at h
  split at h
  · next heq =>
    cases h
    exact heq
  · cases h

theorem thread_actors_set_executor {x : Executor} (h : s.executor_of i = some x)
    (x' : Executor) :
    (s.set_executor i x').thread_actors + x.counted = s.thread_actors + x'.counted :=
  thread_actors_set_thread (threads_of_executor_of h) _

/-- By induction on the messages: those that rebalance carry no actor. -/
theorem thread_actors_posts (messages : List (Nat × Nat)) (s : Group) :
    (messages.foldl (fun s (e, peer) => s.post e (.rebalance peer)) s).thread_actors ≤
      s.thread_actors := by
  induction messages generalizing s with
  | nil => exact Nat.le_refl _
  | cons m messages ih => exact Nat.le_trans (ih _) (thread_actors_post s m.1 (.rebalance m.2))

/-! ### What a step does to the counts -/

/-- The actor in the message is now one of the executor. -/
theorem thread_actors_receive {x : Executor} (hx : s.executor_of i = some x)
    (hpoint : x.point = .polling) (h : s.receive i x = some s') :
    s'.thread_actors ≤ s.thread_actors := by
  obtain ⟨point, inbox, actors, activated⟩ := x
  cases hpoint
  have hcount (x' : Executor) := thread_actors_set_executor hx x'
  simp only [Executor.counted, ExecutorPoint.counted] at hcount
  unfold receive at h
  dsimp only at h
  split at h
  · split at h <;> cases h
    have hcount := hcount ⟨.handling, [], actors, activated⟩
    simp only at hcount
    omega
  · next inbox =>
    cases h
    have hcount := hcount ⟨.starting, inbox, actors, activated⟩
    simp only [List.countP_cons, ExecutorMessage.carries, if_true] at hcount
    omega
  · next peer inbox =>
    split at h <;> cases h
    · have hcount := hcount ⟨.handling, inbox, actors, activated⟩
      simp only [List.countP_cons, ExecutorMessage.carries] at hcount
      omega
    · have hcount := hcount ⟨.handling, inbox, actors - 1, activated⟩
      have hpost := thread_actors_post (s.set_executor i ⟨.handling, inbox, actors - 1, activated⟩)
        peer .actor_transfer
      simp only [List.countP_cons, ExecutorMessage.carries] at hcount
      simp only [ExecutorMessage.carries, Bool.toNat_true] at hpost
      omega
  · next inbox =>
    cases h
    have hcount := hcount ⟨.handling, inbox, actors + 1, activated⟩
    simp only [List.countP_cons, ExecutorMessage.carries, if_true] at hcount
    omega
  · next inbox =>
    cases h
    have hcount := hcount ⟨.handling, inbox, actors, false⟩
    simp only [List.countP_cons, ExecutorMessage.carries] at hcount
    omega

theorem thread_actors_started {x : Executor} (hx : s.executor_of i = some x)
    (hpoint : x.point = .starting) (r : Started) :
    (s.started i x r).thread_actors ≤ s.thread_actors := by
  obtain ⟨point, inbox, actors, activated⟩ := x
  cases hpoint
  have hcount (x' : Executor) := thread_actors_set_executor hx x'
  simp only [Executor.counted, ExecutorPoint.counted] at hcount
  cases r with
  | activated =>
    have hcount := hcount ⟨.handling, inbox, actors + 1, activated⟩
    simp only at hcount
    show (s.set_executor i ⟨.handling, inbox, actors + 1, activated⟩).thread_actors ≤ _
    omega
  | deactivated =>
    have hcount := hcount ⟨.handling, inbox, actors, activated⟩
    simp only at hcount
    show (s.set_executor i ⟨.handling, inbox, actors, activated⟩).thread_actors ≤ _
    omega
  | thrown =>
    have hcount := hcount ⟨.handling, inbox, actors, false⟩
    simp only at hcount
    show (s.set_executor i ⟨.handling, inbox, actors, false⟩).thread_actors ≤ _
    omega

/-- An executor goes to another point, where it starts no actor. -/
theorem thread_actors_set_point {x : Executor} (hx : s.executor_of i = some x)
    {point : ExecutorPoint} (hpoint : point ≠ .starting) :
    (s.set_executor i { x with point }).thread_actors ≤ s.thread_actors := by
  have hcount := thread_actors_set_executor hx { x with point }
  have hzero : point.counted = 0 := by
    cases point with
    | starting => exact absurd rfl hpoint
    | _ => rfl
  simp only [Executor.counted, hzero] at hcount
  omega

theorem thread_actors_end_round {x : Executor} (hx : s.executor_of i = some x) :
    (s.end_round i x).thread_actors ≤ s.thread_actors := by
  unfold end_round
  split
  · apply thread_actors_set_point hx
    split <;> exact nofun
  · exact thread_actors_set_point hx nofun

theorem thread_actors_rebalance {x : Executor} (hx : s.executor_of i = some x)
    {messages : List (Nat × Nat)} (h : s.rebalance i x messages = some s') :
    s'.thread_actors ≤ s.thread_actors := by
  unfold rebalance at h
  split at h <;> cases h
  exact Nat.le_trans (thread_actors_posts _ _) (thread_actors_set_point hx nofun)

/-- What a step of another than the waiter does to the counts. -/
inductive Moves (s s' : Group) : Prop where
  | stays (alive : s'.num_alive_actors = s.num_alive_actors)
      (actors : s'.thread_actors ≤ s.thread_actors)
  | spawns (room : s.has_room) (alive : s'.num_alive_actors = s.num_alive_actors + 1)
      (actors : s'.thread_actors ≤ s.thread_actors + 1)
      (spawner : s.waiter = .running ∨ 0 < s.thread_actors)
  | finishes (alive : s'.num_alive_actors = s.num_alive_actors - 1)
      (actors : s'.thread_actors + 1 ≤ s.thread_actors)

/-- A call in the group waits, locks, notifies and leaves; it starts no thread and ends none. -/
theorem call_next_frame {caller : Option Nat} {call : Call} {r : Option Call × Group}
    (h : s.call_next caller call = some r) :
    r.2.threads = s.threads ∧ r.2.num_alive_actors = s.num_alive_actors := by
  unfold call_next at h
  split at h
  case h_4 =>
    cases h
    unfold notify_alive
    split <;> exact ⟨rfl, rfl⟩
  case h_7 =>
    cases h
    unfold notify_all
    split <;> exact ⟨rfl, rfl⟩
  case h_3 | h_6 | h_9 =>
    split at h <;> cases h
    exact ⟨rfl, rfl⟩
  all_goals
    cases h
    exact ⟨rfl, rfl⟩

theorem moves_of_spawn {executor : Nat} (h : s.spawn executor = some s')
    (spawner : s.waiter = .running ∨ 0 < s.thread_actors) : Moves s s' := by
  unfold spawn at h
  split at h
  · next hroom =>
    dsimp only at h
    split at h
    · split at h <;> cases h
      exact .spawns hroom rfl (thread_actors_post _ _ .new_actor) spawner
    · cases h
      refine .spawns hroom rfl ?_ spawner
      simp [thread_actors, Thread.counted, Work.counted]
  · cases h

theorem thread_of_actor_of {t : Thread} (h : s.actor_of i = some t) :
    s.threads[i]? = some t ∧ t.in_actor = true :=
  Option.filter_eq_some_iff.mp h

theorem thread_actors_pos {t : Thread} (h : s.actor_of i = some t) : 0 < s.thread_actors := by
  obtain ⟨ht, hin⟩ := thread_of_actor_of h
  exact Nat.lt_of_lt_of_le (Thread.counted_of_in_actor hin)
    (Counting.le_sum_map (List.mem_of_getElem? ht) _)

/-- The thread of an actor changes, and the number of its actors does not. -/
theorem thread_actors_eq {t t' : Thread} (h : s.threads[i]? = some t)
    (hcounted : t'.counted = t.counted) : (s.set_thread i t').thread_actors = s.thread_actors := by
  have hcount := thread_actors_set_thread h t'
  omega

/-- What the step of a thread does to the two counts, one label after the other. -/
theorem moves_of_next {label : GroupStep} (hwaiter : label ≠ .waiter)
    (hnext : s.next label = some s') : Moves s s' := by
  cases stepped_of_next hnext with
  | waiter => exact absurd rfl hwaiter
  | waiter_call c r hcall hr =>
    obtain ⟨hthreads, halive⟩ := call_next_frame hr
    exact .stays halive (by simp only [thread_actors, hthreads, Nat.le_refl])
  | wake_alive | wake_all | add_terminator_waiter => exact .stays rfl (Nat.le_refl _)
  | spawn_waiter executor s' hw hspawn => exact moves_of_spawn hspawn (.inl hw)
  | spawn_actor i executor t s' ht hspawn =>
    exact moves_of_spawn hspawn (.inr (thread_actors_pos ht))
  | add_terminator_actor i t ht =>
    exact .stays rfl (Nat.le_of_eq (thread_actors_eq (thread_of_actor_of ht).1 rfl))
  | inc_num_detached_actors i j t ht =>
    exact .stays rfl (Nat.le_of_eq ((thread_actors_set_detached ..).trans
      (thread_actors_eq (thread_of_actor_of ht).1 rfl)))
  | dec_num_detached_actors i t ht =>
    exact .stays rfl (Nat.le_of_eq (thread_actors_set_detached ..))
  | finish i t work ht hwork =>
    obtain ⟨hthread, hin⟩ := thread_of_actor_of ht
    have hcounted := Work.counted_finished hwork hin
    have hcount := thread_actors_set_thread hthread
      ⟨work, some (.dec_num_alive_actors (s.num_alive_actors - 1))⟩
    refine .finishes rfl ?_
    simp only [Thread.counted] at hcount hcounted
    show (s.set_thread i _).thread_actors + 1 ≤ _
    omega
  | call i t c r ht hcall hr =>
    obtain ⟨hthreads, halive⟩ := call_next_frame hr
    have hthread : r.2.threads[i]? = some t := by rw [hthreads, ht]
    have heq : (r.2.set_thread i { t with call := r.1 }).thread_actors = r.2.thread_actors :=
      thread_actors_eq hthread rfl
    have hsame : r.2.thread_actors = s.thread_actors := by
      rw [thread_actors, hthreads, thread_actors]
    exact .stays halive (Nat.le_of_eq (heq.trans hsame))
  | receive i x s' hx hpoint hreceive =>
    obtain ⟨threads, rfl⟩ := only_threads_receive hreceive
    exact .stays rfl (thread_actors_receive hx hpoint hreceive)
  | started i r x hx hpoint =>
    obtain ⟨threads, heq⟩ := only_threads_started s i x r
    exact .stays (by rw [heq]) (thread_actors_started hx hpoint r)
  | end_round i x hx hpoint =>
    obtain ⟨threads, heq⟩ := only_threads_end_round s i x
    exact .stays (by rw [heq]) (thread_actors_end_round hx)
  | rebalance i messages x s' hx hpoint hrebalance =>
    obtain ⟨threads, rfl⟩ := only_threads_rebalance hrebalance
    exact .stays rfl (thread_actors_rebalance hx hrebalance)

end Group

/-! ### No actor is alive at the end -/

/-- Has the waiter returned from `await_all_actors_done`? -/
def Waiter.ending : Waiter → Bool
  | .returned | .terminating _ | .destroyed => true
  | _ => false

/-- The scoped actor of the waiter, if it is counted in the group. -/
def Group.scoped_actors (s : Group) : Nat :=
  if s.waiter = .invoke ∧ s.engine = false then 1 else 0

/-- `num_alive_actors` counts at least the actors of the threads and the scoped actor of the
    waiter; and when the waiter is past its last test, no thread has an actor. -/
structure Counted (s : Group) : Prop where
  le : s.thread_actors + s.scoped_actors ≤ s.num_alive_actors.toNat
  ending : s.waiter.ending = true → s.thread_actors = 0

variable {s s' : Group}

theorem counted_init (h : s.init) : Counted s := by
  obtain ⟨engine, period, n, -, rfl⟩ := h
  have hzero : ((List.replicate n (⟨.executor ⟨.polling, [], 0, true⟩, none⟩ : Thread)).map
      Thread.counted).sum = 0 := by
    rw [List.map_replicate, List.sum_replicate]
    rfl
  refine ⟨?_, nofun⟩
  show ((List.replicate n _).map Thread.counted).sum + 0 ≤ 0
  exact Nat.le_of_eq hzero

/-- The waiter of the next state, when another has taken the step. -/
theorem waiter_eq_or_awake {label : GroupStep} (hwaiter : label ≠ .waiter)
    (hnext : s.next label = some s') : s'.engine = s.engine ∧
      (s'.waiter = s.waiter ∨ s.waiter = .sleep_alive ∧ s'.waiter = .lock_alive ∨
        s.waiter = .sleep_all ∧ s'.waiter = .lock_all) := by
  cases hadds : s.adds label with
  | true =>
    have h := Group.adds_of_adds hadds hnext
    exact ⟨h.engine, .inl h.waiter⟩
  | false =>
    have h := Group.leaves_of_not_adds hwaiter hadds hnext
    exact ⟨h.engine, h.waiter⟩

/-- While the group ends nobody spawns: the waiter does not run its own code any more, and no
    actor is left that could. -/
theorem Counted.next_thread (h : Counted s) {label : GroupStep} (hwaiter : label ≠ .waiter)
    (hnext : s.next label = some s') : Counted s' := by
  obtain ⟨hengine, hwaiter'⟩ := waiter_eq_or_awake hwaiter hnext
  have hscoped : s'.scoped_actors = s.scoped_actors := by
    unfold Group.scoped_actors
    rcases hwaiter' with hw | ⟨hw, hw'⟩ | ⟨hw, hw'⟩
    · rw [hw, hengine]
    · rw [hw, hw', if_neg nofun, if_neg nofun]
    · rw [hw, hw', if_neg nofun, if_neg nofun]
  have hending (hend : s'.waiter.ending = true) : s.waiter.ending = true ∧ s.waiter ≠ .running := by
    rcases hwaiter' with hw | ⟨-, hw'⟩ | ⟨-, hw'⟩
    · rw [hw] at hend
      exact ⟨hend, fun hrunning => by rw [hrunning] at hend; cases hend⟩
    · rw [hw'] at hend
      cases hend
    · rw [hw'] at hend
      cases hend
  have hle := h.le
  have hlt := s.num_alive_actors.toNat_lt
  cases Group.moves_of_next hwaiter hnext with
  | stays halive hactors =>
    refine ⟨by rw [halive]; omega, fun hend => ?_⟩
    have hzero := h.ending (hending hend).1
    omega
  | spawns hroom halive hactors hspawner =>
    have hroom : s.num_alive_actors.toNat + 1 < 2 ^ 64 := hroom
    have hone : (s.num_alive_actors + 1).toNat = (s.num_alive_actors.toNat + 1) % 2 ^ 64 :=
      UInt64.toNat_add ..
    refine ⟨by rw [halive, hone]; omega, fun hend => ?_⟩
    have hzero := h.ending (hending hend).1
    rcases hspawner with hrunning | hpos
    · exact absurd hrunning (hending hend).2
    · omega
  | finishes halive hactors =>
    have hone : (s.num_alive_actors - 1).toNat =
        (2 ^ 64 - 1 + s.num_alive_actors.toNat) % 2 ^ 64 := UInt64.toNat_sub ..
    refine ⟨by rw [halive, hone]; omega, fun hend => ?_⟩
    have hzero := h.ending (hending hend).1
    omega

/-- The waiter goes on, and does not change the counts. -/
theorem Counted.go (h : Counted s) (halive : s'.num_alive_actors = s.num_alive_actors)
    (hactors : s'.thread_actors ≤ s.thread_actors) (hscoped : s'.scoped_actors ≤ s.scoped_actors)
    (hending : s'.waiter.ending = true → s.thread_actors = 0) : Counted s' := by
  have hle := h.le
  refine ⟨by rw [halive]; omega, fun hend => ?_⟩
  have hzero := hending hend
  omega

/-- The waiter goes on in `await_all_actors_done`. -/
theorem Counted.go_on (h : Counted s) (halive : s'.num_alive_actors = s.num_alive_actors)
    (hthreads : s'.threads = s.threads) (hinvoke : s'.waiter ≠ .invoke)
    (hending : s'.waiter.ending = false) : Counted s' := by
  apply h.go halive
  · rw [Group.thread_actors, hthreads]
    exact Nat.le_refl _
  · rw [Group.scoped_actors, if_neg fun hand => hinvoke hand.1]
    exact Nat.zero_le _
  · rw [hending]
    exact nofun

theorem Counted.waiter_next (h : Counted s) (hnext : s.waiter_next = some s') : Counted s' := by
  have hle := h.le
  have hlt := s.num_alive_actors.toNat_lt
  cases hw : s.waiter <;>
    simp only [Group.waiter_next, hw, Group.lock_mtx, Group.unlock_mtx] at hnext
  case running | lock_alive | lock_terminators | deleting | lock_all =>
    split at hnext <;> cases hnext
    exact h.go_on rfl rfl nofun rfl
  case load_alive | test_alive | unlock_alive | take_terminators | unlock_all =>
    cases hnext
    exact h.go_on rfl rfl nofun rfl
  case load_detached | unlock_terminators | test_all =>
    cases hnext
    refine h.go_on rfl rfl ?_ ?_
    · dsimp only
      split <;> exact nofun
    · dsimp only
      split <;> rfl
  case test_detached | test_all_detached =>
    split at hnext <;> cases hnext <;> exact h.go_on rfl rfl nofun rfl
  case sleep_alive | sleep_all | destroyed => cases hnext
  case create =>
    split at hnext
    · next hengine =>
      -- the scoped actor of an engine is counted elsewhere
      cases hnext
      refine h.go rfl (Nat.le_refl _) ?_ nofun
      rw [Group.scoped_actors, if_neg (by rw [hengine]; exact nofun)]
      exact Nat.zero_le _
    · split at hnext <;> cases hnext
      next hroom =>
      have hroom : s.num_alive_actors.toNat + 1 < 2 ^ 64 := hroom
      have hone : (s.num_alive_actors + 1).toNat = (s.num_alive_actors.toNat + 1) % 2 ^ 64 :=
        UInt64.toNat_add ..
      refine ⟨?_, nofun⟩
      show s.thread_actors + (if Waiter.invoke = .invoke ∧ s.engine = false then 1 else 0) ≤
        (s.num_alive_actors + 1).toNat
      split <;> omega
  case invoke =>
    split at hnext
    · cases hnext
      refine h.go rfl (Nat.le_refl _) ?_ nofun
      exact Nat.le_of_eq (by rw [Group.scoped_actors, Group.scoped_actors, hw])
    · split at hnext
      · cases hnext
        exact h.go_on rfl rfl nofun rfl
      · next hengine =>
        cases hnext
        rw [Bool.not_eq_true] at hengine
        rw [Group.scoped_actors, if_pos ⟨hw, hengine⟩] at hle
        have hone : (s.num_alive_actors - 1).toNat =
            (2 ^ 64 - 1 + s.num_alive_actors.toNat) % 2 ^ 64 := UInt64.toNat_sub ..
        refine ⟨?_, nofun⟩
        show s.thread_actors + 0 ≤ (s.num_alive_actors - 1).toNat
        omega
  case load_all =>
    cases hnext
    refine h.go rfl (Nat.le_refl _) ?_ ?_
    · rw [Group.scoped_actors, if_neg]
      · exact Nat.zero_le _
      · dsimp only
        split <;> exact nofun
    · dsimp only
      split
      · next hzero =>
        rw [hzero] at hle
        exact fun _ => Nat.le_zero.mp (Nat.le_trans (Nat.le_add_right _ _) hle)
      · exact nofun
  case returned =>
    cases hnext
    have hzero := h.ending (by rw [hw]; rfl)
    refine h.go rfl (Nat.le_refl _) ?_ fun _ => hzero
    rw [Group.scoped_actors, if_neg]
    · exact Nat.zero_le _
    · dsimp only
      split <;> exact nofun
  case terminating e =>
    have hzero := h.ending (by rw [hw]; rfl)
    split at hnext <;> cases hnext
    · exact h.go rfl (Group.thread_actors_post s e .termination) (Nat.zero_le _) fun _ => hzero
    · exact h.go rfl (Nat.le_refl _) (Nat.zero_le _) fun _ => hzero

theorem counted_of_reachable {guard : Group → GroupStep → Prop}
    (h : LTS.ReachableVia Group.system guard s) : Counted s := by
  apply h.invariant Counted
  · intro s h0
    exact counted_init h0
  · intro s label s' hs _ hnext
    by_cases hwaiter : label = .waiter
    · subst hwaiter
      exact hs.waiter_next hnext
    · exact hs.next_thread hwaiter hnext

/-! ### After the end -/

/-- All threads are settled once the group has been destroyed. -/
def Settled (s : Group) : Prop := s.waiter = .destroyed → ∀ t ∈ s.threads, t.settled = true

theorem settled_executor {x : Executor} {i : Nat} (h : ∀ t ∈ s.threads, t.settled = true)
    (hx : s.executor_of i = some x) : (⟨.executor x, none⟩ : Thread).settled = true :=
  h _ (List.mem_of_getElem? (Group.threads_of_executor_of hx))

/-- The code of an actor runs in no thread any more. -/
theorem actor_of_eq_none (h : Counted s) (hending : s.waiter.ending = true) (i : Nat) :
    s.actor_of i = none := by
  cases hi : s.actor_of i with
  | none => rfl
  | some t =>
    have hpos := Group.thread_actors_pos hi
    have hzero := h.ending hending
    omega

/-- No code of an actor runs, no thread is in a function of the group, and no executor is at the
    end of a round: so nobody accesses a member. -/
theorem Settled.untouched (h : Settled s) (hcounted : Counted s) : s.Untouched := by
  intro hdestroyed label htouches
  have hall := h hdestroyed
  have hnone (i : Nat) : s.actor_of i = none :=
    actor_of_eq_none hcounted (by rw [hdestroyed]; rfl) i
  cases label with
  | waiter | waiter_call | wake | receive _ | started _ _ => cases htouches
  | spawn caller executor =>
    cases caller with
    | none => cases htouches
    | some i => simp only [Group.next, hnone, Option.bind_none]
  | add_terminator caller =>
    cases caller with
    | none => cases htouches
    | some i => simp only [Group.next, hnone, Option.map_none]
  | inc_num_detached_actors i j => simp only [Group.next, hnone, Option.map_none]
  | dec_num_detached_actors i => simp only [Group.next, hnone, Option.map_none]
  | finish i => simp [Group.next, hnone]
  | call i =>
    cases hi : s.threads[i]? with
    | none => simp [Group.next, hi]
    | some t =>
      have hsettled := hall t (List.mem_of_getElem? hi)
      rw [Thread.settled, Bool.and_eq_true, Option.isNone_iff_eq_none] at hsettled
      simp [Group.next, hi, hsettled.1]
  | end_round i =>
    cases hx : s.executor_of i with
    | none => simp [Group.next, hx]
    | some x =>
      have hsettled := settled_executor hall hx
      simp only [Group.touches, hx, Option.any_some] at htouches
      simp only [Group.next, hx, Option.bind_some]
      -- the executor is not at the end of a round
      apply if_neg
      intro hpoint
      simp [Thread.settled, hpoint, htouches] at hsettled
  | rebalance i messages =>
    cases hx : s.executor_of i with
    | none => simp [Group.next, hx]
    | some x =>
      have hsettled := settled_executor hall hx
      simp only [Group.next, hx, Option.bind_some]
      apply if_neg
      intro hpoint
      simp [Thread.settled, hpoint] at hsettled

/-- An executor that is settled stays so. -/
theorem settled_set_executor {i : Nat} {x : Executor} (h : ∀ t ∈ s.threads, t.settled = true)
    (hx : (⟨.executor x, none⟩ : Thread).settled = true) :
    ∀ t ∈ (s.set_executor i x).threads, t.settled = true := by
  intro t ht
  rcases List.mem_or_eq_of_mem_set ht with ht | rfl
  · exact h t ht
  · exact hx

/-- The last step of the waiter leaves the threads alone. -/
theorem threads_of_destroyed (hnext : s.waiter_next = some s')
    (hdestroyed : s'.waiter = .destroyed) : s'.threads = s.threads := by
  cases hw : s.waiter <;>
    simp only [Group.waiter_next, hw, Group.lock_mtx, Group.unlock_mtx] at hnext
  case terminating =>
    split at hnext <;> cases hnext
    · cases hdestroyed
    · rfl
  case create | invoke =>
    split at hnext
    · cases hnext
      rfl
    · split at hnext <;> cases hnext <;> rfl
  case sleep_alive | sleep_all | destroyed => cases hnext
  case running | lock_alive | lock_terminators | deleting | lock_all | test_detached
      | test_all_detached =>
    split at hnext <;> cases hnext <;> rfl
  all_goals
    cases hnext
    rfl

/-- The last step of the waiter finds all threads settled; after it an executor receives nothing
    but `Termination`. -/
theorem Settled.next (h : Settled s) (hcounted : Counted s) {label : GroupStep}
    (hsettles : Settles s label) (hnext : s.next label = some s') : Settled s' := by
  intro hdestroyed'
  by_cases hwaiter : label = .waiter
  · subst hwaiter
    rw [threads_of_destroyed hnext hdestroyed']
    have hnext : s.waiter_next = some s' := hnext
    exact List.all_eq_true.mp (hsettles (by rw [hnext, Option.any_some, hdestroyed']; rfl))
  · have hdestroyed : s.waiter = .destroyed := by
      rcases (waiter_eq_or_awake hwaiter hnext).2 with hw | ⟨-, hw⟩ | ⟨-, hw⟩
      · rw [← hw, hdestroyed']
      · rw [hw] at hdestroyed'
        cases hdestroyed'
      · rw [hw] at hdestroyed'
        cases hdestroyed'
    have hall := h hdestroyed
    have htouches : s.touches label = false := by
      rw [← Bool.not_eq_true]
      intro htouches
      rw [h.untouched hcounted hdestroyed label htouches] at hnext
      cases hnext
    cases Group.stepped_of_next hnext with
    | waiter => exact absurd rfl hwaiter
    | waiter_call c r hcall hr =>
      rw [← (Group.call_next_frame hr).1] at hall
      exact hall
    | wake_alive hw | wake_all hw | spawn_waiter _ _ hw _ | add_terminator_waiter hw _ =>
      rw [hdestroyed] at hw
      cases hw
    | receive i x s' hx hpoint hreceive =>
      have hhead := hsettles hdestroyed
      rw [hx, Option.all_some, beq_iff_eq] at hhead
      unfold Group.receive at hreceive
      split at hreceive
      case h_5 inbox hinbox =>
        cases hreceive
        exact settled_set_executor hall rfl
      all_goals
        next hinbox =>
        rw [hinbox] at hhead
        cases hhead
    | started i r x hx hpoint =>
      have hsettled := settled_executor hall hx
      simp [Thread.settled, hpoint] at hsettled
    | end_round i x hx hpoint =>
      rw [Group.touches, hx, Option.any_some] at htouches
      rw [Group.end_round, if_neg (by rw [htouches]; exact Bool.false_ne_true)]
      exact settled_set_executor hall rfl
    | spawn_actor | add_terminator_actor | inc_num_detached_actors | dec_num_detached_actors
    | finish | call | rebalance => cases htouches

/-- **If all threads are settled when the destructor ends, and executors receive nothing but
    `Termination` after that, the group is not touched any more.** -/
theorem untouched_of_settles (h : LTS.ReachableVia Group.system Settles s) : s.Untouched := by
  have hsettled : Settled s := by
    apply h.invariant_of Settled (fun s hs => counted_of_reachable hs)
    · rintro s ⟨engine, period, n, -, rfl⟩
      exact nofun
    · intro s label s' hcounted hs hsettles hnext
      exact hs.next hcounted hsettles hnext
  exact hsettled.untouched (counted_of_reachable h)

/-! ### Runs -/

/-- An `ActorEngine` with one executor that does not rebalance. -/
def Group.actor_engine : Group :=
  { Group.actor_system with engine := true, threads := [⟨.executor ⟨.polling, [], 0, true⟩, none⟩] }

theorem Group.init_actor_engine : Group.actor_engine.init := ⟨true, 0, 1, nofun, rfl⟩

/-- The executor is back at `zmq::poll` before the waiter comes. -/
theorem untouched_of_settles_engine :
    ∃ s, LTS.ReachableVia Group.system Settles s ∧ s.waiter = .destroyed ∧ s.Untouched := by
  obtain ⟨s, hs, hobs⟩ := Group.system.reachable_of_exec Settles
    (List.flatten [[.spawn none 0, .receive 0, .started 0 .activated, .finish 0],
      List.replicate 7 (.call 0), [.end_round 0], List.replicate 10 .waiter,
      [.receive 0, .end_round 0]])
    Group.waiter (b := .destroyed) Group.init_actor_engine (by decide +kernel)
  exact ⟨s, hs, hobs, untouched_of_settles hs⟩

/-- The last actor has not come to the end of `dec_num_alive_actors` when its system is
    destroyed; an executor has not come to the end of a round when its engine is. -/
theorem not_untouched :
    (¬ ∀ s, LTS.Reachable Group.system s → s.engine = false → s.Untouched) ∧
      ¬ ∀ s, LTS.Reachable Group.system s → s.engine = true → s.Untouched := by
  constructor
  · intro hall
    obtain ⟨s, hs, hobs⟩ := Group.system.reachable_of_exec (fun _ _ => True)
      ([.spawn none 0, .finish 0] ++ List.replicate 8 .waiter)
      (fun s => (s.engine, s.waiter, (s.next (.call 0)).isSome)) (b := (false, .destroyed, true))
      Group.init_actor_system (by decide +kernel)
    simp only [Prod.mk.injEq] at hobs
    obtain ⟨hengine, hwaiter, hsome⟩ := hobs
    rw [hall s hs hengine hwaiter (.call 0) rfl] at hsome
    cases hsome
  · intro hall
    obtain ⟨s, hs, hobs⟩ := Group.system.reachable_of_exec (fun _ _ => True)
      (List.flatten [[.spawn none 0, .receive 0, .started 0 .activated, .finish 0],
        List.replicate 7 (.call 0), List.replicate 10 .waiter])
      (fun s => (s.engine, s.waiter, s.touches (.end_round 0), (s.next (.end_round 0)).isSome))
      (b := (true, .destroyed, true, true)) Group.init_actor_engine (by decide +kernel)
    simp only [Prod.mk.injEq] at hobs
    obtain ⟨hengine, hwaiter, htouches, hsome⟩ := hobs
    rw [hall s hs hengine hwaiter (.end_round 0) htouches] at hsome
    cases hsome

end ZAF.Awaiting
