import Mathlib.Algebra.Order.BigOperators.Group.List
import Mathlib.Algebra.Order.Group.Nat
import ZAF.ActorGroup.Waking

/-! # The destructor can end

    When the actors of an `ActorSystem` come to their ends, its destructor does as well:
    nobody waits for a mutex that is not given back, and a waiter that sleeps is woken up by
    the last actor. This holds wherever a run has come to, with the waiter at any point.

    First the actors end, one after the other, and their threads leave the functions of the
    group. Then the waiter goes on by itself.

    The two counts must be paired: an actor is counted as detached while it is alive, and
    uncounted before it is done. Otherwise the counts may be equal too late or never, and then
    nobody tells the waiter.
-/

namespace ZAF.Awaiting

/-- Is the thread that of an actor that is alive, and has it been counted as detached? -/
def Work.is_detached : Work → Bool
  | .actor alive detached => alive && detached
  | .executor _ => false

/-- Only actors that are alive are counted as detached, and only those are uncounted, before
    they are done. -/
def Pairs (s : Group) : GroupStep → Prop
  | .inc_num_detached_actors _ j =>
    (s.threads[j]?.any fun t => t.work == .actor true false) = true
  | .dec_num_detached_actors i => (s.threads[i]?.any fun t => t.work.is_detached) = true
  | .finish i => (s.threads[i]?.any fun t => t.work.is_detached) = false
  | _ => True

instance (s : Group) (label : GroupStep) : Decidable (Pairs s label) := by
  unfold Pairs
  split <;> infer_instance

/-- The actors come to their ends. Nothing is spawned or added, and nobody is woken up without
    a notification. -/
def Ends (s : Group) : GroupStep → Prop
  | .waiter | .waiter_call | .call _ => True
  | .dec_num_detached_actors i => Pairs s (.dec_num_detached_actors i)
  | .finish i => Pairs s (.finish i)
  | _ => False

/-! ### The actors of an `ActorSystem` -/

/-- Is the thread that of an actor, and not an executor of an engine? -/
def Work.is_actor : Work → Bool
  | .actor _ _ => true
  | .executor _ => false

/-- Is the waiter in `~ActorEngine`? -/
def Waiter.is_terminating : Waiter → Bool
  | .terminating _ => true
  | _ => false

/-- All actors that have been spawned and have not ended are counted. -/
structure Plain (s : Group) : Prop where
  engine : s.engine = false
  actors : ∀ t ∈ s.threads, t.work.is_actor = true
  counted : s.thread_actors + s.scoped_actors = s.num_alive_actors.toNat
  waiter : s.waiter.is_terminating = false

/-- Neither its end nor its being counted makes an actor an executor. -/
theorem Work.is_actor_finished {w w' : Work} (h : w.finished = some w') (hw : w.is_actor = true) :
    w'.is_actor = true := by
  cases w with
  | actor alive detached => cases h; rfl
  | executor x => cases hw

theorem Work.is_actor_set_detached {w : Work} (hw : w.is_actor = true) (detached : Bool) :
    (w.set_detached detached).is_actor = true := by
  cases w with
  | actor alive detached' => rfl
  | executor x => cases hw

variable {s s' : Group} {i : Nat} {label : GroupStep}

/-- The steps to the end keep the counts paired. -/
theorem pairs_of_ends (h : Ends s label) : Pairs s label := by
  cases label with
  | waiter | waiter_call | call | wake | spawn | add_terminator => trivial
  | receive | started | end_round | rebalance => trivial
  | dec_num_detached_actors i => exact h
  | finish i => exact h
  | inc_num_detached_actors i j => cases h

/-- One thread changes. -/
theorem is_actor_set {threads : List Thread} {t' : Thread}
    (h : ∀ t ∈ threads, t.work.is_actor = true) (ht' : t'.work.is_actor = true) :
    ∀ t ∈ threads.set i t', t.work.is_actor = true := by
  intro t ht
  rcases List.mem_or_eq_of_mem_set ht with ht | rfl
  · exact h t ht
  · exact ht'

theorem is_actor_set_detached {threads : List Thread} {detached : Bool}
    (h : ∀ t ∈ threads, t.work.is_actor = true) :
    ∀ t ∈ threads.modify i fun t => { t with work := t.work.set_detached detached },
      t.work.is_actor = true := by
  cases hi : threads[i]? with
  | none => rwa [Counting.modify_of_none hi]
  | some t =>
    rw [Counting.modify_of_some hi]
    exact is_actor_set h (Work.is_actor_set_detached (h t (List.mem_of_getElem? hi)) detached)

/-- There are no executors in an `ActorSystem`. -/
theorem Plain.executor_of_none (h : Plain s) (i : Nat) : s.executor_of i = none := by
  cases hx : s.executor_of i with
  | none => rfl
  | some x =>
    have hactor := h.actors _ (List.mem_of_getElem? (Group.threads_of_executor_of hx))
    cases hactor

theorem Plain.is_actor (h : Plain s) {t : Thread} (ht : s.threads[i]? = some t) :
    t.work.is_actor = true :=
  h.actors t (List.mem_of_getElem? ht)

/-- The scoped actor is there while the waiter invokes terminators. -/
theorem scoped_actors_eq_zero (h : s.waiter ≠ .invoke) : s.scoped_actors = 0 :=
  if_neg fun hand => h hand.1

/-- Others can wake the waiter up, which has no scoped actor when it sleeps. -/
theorem scoped_actors_of_next (hwaiter : label ≠ .waiter) (hnext : s.next label = some s') :
    s'.scoped_actors = s.scoped_actors := by
  obtain ⟨hengine, hw⟩ := waiter_eq_or_awake hwaiter hnext
  rcases hw with hw | ⟨hw, hw'⟩ | ⟨hw, hw'⟩
  · unfold Group.scoped_actors
    rw [hw, hengine]
  · rw [scoped_actors_eq_zero (by rw [hw']; exact fun heq => by cases heq),
      scoped_actors_eq_zero (by rw [hw]; exact fun heq => by cases heq)]
  · rw [scoped_actors_eq_zero (by rw [hw']; exact fun heq => by cases heq),
      scoped_actors_eq_zero (by rw [hw]; exact fun heq => by cases heq)]

theorem is_terminating_of_next (hwaiter : label ≠ .waiter) (hnext : s.next label = some s') :
    s'.waiter.is_terminating = s.waiter.is_terminating := by
  rcases (waiter_eq_or_awake hwaiter hnext).2 with hw | ⟨hw, hw'⟩ | ⟨hw, hw'⟩
  · rw [hw]
  · rw [hw, hw']
    rfl
  · rw [hw, hw']
    rfl

/-- A step of another than the waiter, which has left the count of the actors alone. -/
theorem Plain.stays (h : Plain s) (hwaiter : label ≠ .waiter) (hnext : s.next label = some s')
    (hactors : ∀ t ∈ s'.threads, t.work.is_actor = true)
    (hcount : s'.thread_actors = s.thread_actors)
    (halive : s'.num_alive_actors = s.num_alive_actors) : Plain s' where
  engine := (waiter_eq_or_awake hwaiter hnext).1.trans h.engine
  actors := hactors
  counted := by rw [hcount, scoped_actors_of_next hwaiter hnext, halive, h.counted]
  waiter := (is_terminating_of_next hwaiter hnext).trans h.waiter

/-- Below their bounds 64-bit counts count as numbers do. -/
theorem toNat_succ {a : UInt64} (h : a.toNat + 1 < 2 ^ 64) : (a + 1).toNat = a.toNat + 1 := by
  have hone : (a + 1).toNat = (a.toNat + 1) % 2 ^ 64 := UInt64.toNat_add ..
  omega

theorem toNat_pred {a : UInt64} (h : 0 < a.toNat) : (a - 1).toNat + 1 = a.toNat := by
  have hlt := a.toNat_lt
  have hone : (a - 1).toNat = (2 ^ 64 - 1 + a.toNat) % 2 ^ 64 := UInt64.toNat_sub ..
  omega

namespace Group

/-- A thread in a function of the group has been counted before it got there. -/
theorem thread_actors_of_call (hnext : s.next (.call i) = some s') :
    s'.thread_actors = s.thread_actors := by
  cases stepped_of_next hnext with
  | call i t c r ht hcall hr =>
    obtain ⟨hthreads, -⟩ := call_next_frame hr
    have hthread : r.2.threads[i]? = some t := by rw [hthreads, ht]
    have heq : (r.2.set_thread i { t with call := r.1 }).thread_actors = r.2.thread_actors :=
      thread_actors_eq hthread rfl
    rw [heq, thread_actors, hthreads, thread_actors]

/-- An actor is done. -/
theorem thread_actors_of_finish (hnext : s.next (.finish i) = some s') :
    s'.thread_actors + 1 = s.thread_actors ∧ s'.num_alive_actors = s.num_alive_actors - 1 := by
  cases stepped_of_next hnext with
  | finish i t work ht hwork =>
    obtain ⟨hthread, hin⟩ := thread_of_actor_of ht
    have hcounted := Work.counted_finished hwork hin
    have hcount := thread_actors_set_thread hthread
      ⟨work, some (.dec_num_alive_actors (s.num_alive_actors - 1))⟩
    simp only [Thread.counted] at hcount hcounted
    refine ⟨?_, rfl⟩
    show (s.set_thread i _).thread_actors + 1 = _
    omega

end Group

/-- A new actor has a thread, and is counted in `num_alive_actors`. -/
theorem Plain.spawn (h : Plain s) {executor : Nat} (hwaiter : label ≠ .waiter)
    (hnext : s.next label = some s') (hspawn : s.spawn executor = some s') : Plain s' := by
  have hscoped := scoped_actors_of_next hwaiter hnext
  unfold Group.spawn at hspawn
  split at hspawn
  · next hroom =>
    dsimp only at hspawn
    rw [h.engine, if_neg Bool.false_ne_true] at hspawn
    cases hspawn
    refine ⟨rfl, ?_, ?_, h.waiter⟩
    · exact List.forall_mem_append.mpr ⟨h.actors, List.forall_mem_singleton.mpr rfl⟩
    · rw [hscoped]
      show ((s.threads ++ [_]).map Thread.counted).sum + _ = (s.num_alive_actors + 1).toNat
      rw [toNat_succ hroom, ← h.counted, List.map_append, List.sum_append]
      show s.thread_actors + 1 + _ = _
      omega
  · cases hspawn

/-- The cases in which an actor comes or goes, and otherwise the count is left alone. -/
theorem Plain.next_thread (h : Plain s) (hwaiter : label ≠ .waiter)
    (hnext : s.next label = some s') : Plain s' := by
  cases Group.stepped_of_next hnext with
  | waiter => exact absurd rfl hwaiter
  | waiter_call c r hcall hr =>
    obtain ⟨hthreads, halive⟩ := Group.call_next_frame hr
    exact h.stays hwaiter hnext (hthreads ▸ h.actors)
      (by rw [Group.thread_actors, hthreads, Group.thread_actors]) halive
  | wake_alive | wake_all | add_terminator_waiter => exact h.stays hwaiter hnext h.actors rfl rfl
  | spawn_waiter executor s' hw hspawn => exact h.spawn hwaiter hnext hspawn
  | spawn_actor i executor t s' ht hspawn => exact h.spawn hwaiter hnext hspawn
  | add_terminator_actor i t ht =>
    have hthread := (Group.thread_of_actor_of ht).1
    have hactor := h.is_actor hthread
    exact h.stays hwaiter hnext (is_actor_set h.actors hactor)
      (Group.thread_actors_eq hthread rfl) rfl
  | inc_num_detached_actors i j t ht =>
    have hthread := (Group.thread_of_actor_of ht).1
    have hactor := h.is_actor hthread
    have hactors : ∀ t' ∈ s.threads.set i { t with
        call := some (.inc_num_detached_actors (s.num_detached_actors + 1)) },
          t'.work.is_actor = true := is_actor_set h.actors hactor
    exact h.stays hwaiter hnext (is_actor_set_detached hactors)
      ((Group.thread_actors_set_detached ..).trans (Group.thread_actors_eq hthread rfl)) rfl
  | dec_num_detached_actors i t ht =>
    exact h.stays hwaiter hnext (is_actor_set_detached h.actors)
      (Group.thread_actors_set_detached ..) rfl
  -- the thread is one actor less, and so is the count
  | finish i t work ht hwork =>
    obtain ⟨hactors, halive⟩ := Group.thread_actors_of_finish hnext
    have hscoped := scoped_actors_of_next hwaiter hnext
    have hcounted := h.counted
    refine ⟨(waiter_eq_or_awake hwaiter hnext).1.trans h.engine, ?_, ?_,
      (is_terminating_of_next hwaiter hnext).trans h.waiter⟩
    · have hthread := (Group.thread_of_actor_of ht).1
      exact is_actor_set h.actors (Work.is_actor_finished hwork (h.is_actor hthread))
    · have hpred := toNat_pred (a := s.num_alive_actors) (by omega)
      rw [halive]
      omega
  | call i t c r ht hcall hr =>
    refine h.stays hwaiter hnext ?_ (Group.thread_actors_of_call hnext)
      (Group.counts_of_call hnext).1
    have hactor := h.is_actor ht
    show ∀ t ∈ r.2.threads.set i _, t.work.is_actor = true
    rw [(Group.call_next_frame hr).1]
    exact is_actor_set h.actors hactor
  -- there are no executors
  | receive i x _ hx | started i _ x hx | end_round i x hx | rebalance i _ x _ hx =>
    rw [h.executor_of_none i] at hx
    cases hx

/-- The waiter goes on, and the counts are left alone. -/
theorem Plain.go (h : Plain s) (hengine : s'.engine = s.engine) (hthreads : s'.threads = s.threads)
    (halive : s'.num_alive_actors = s.num_alive_actors)
    (hscoped : s'.scoped_actors = s.scoped_actors)
    (hterminating : s'.waiter.is_terminating = false) : Plain s' where
  engine := hengine.trans h.engine
  actors := hthreads ▸ h.actors
  counted := by
    rw [Group.thread_actors, hthreads, hscoped, halive]
    exact h.counted
  waiter := hterminating

/-- The waiter itself counts a scoped actor up and down. -/
theorem Plain.waiter_next (h : Plain s) (hnext : s.waiter_next = some s') : Plain s' := by
  have hcounted := h.counted
  have hzero {t t' : Group} (ht : t.waiter ≠ .invoke) (ht' : t'.waiter ≠ .invoke) :
      t'.scoped_actors = t.scoped_actors := by
    rw [scoped_actors_eq_zero ht, scoped_actors_eq_zero ht']
  cases hw : s.waiter <;>
    simp only [Group.waiter_next, hw, Group.lock_mtx, Group.unlock_mtx] at hnext
  case running | lock_alive | lock_terminators | deleting | lock_all =>
    split at hnext <;> cases hnext
    exact h.go rfl rfl rfl (hzero (by rw [hw]; exact fun heq => by cases heq)
      fun heq => by cases heq) rfl
  case load_alive | test_alive | unlock_alive | take_terminators | unlock_all =>
    cases hnext
    exact h.go rfl rfl rfl (hzero (by rw [hw]; exact fun heq => by cases heq)
      fun heq => by cases heq) rfl
  case test_detached | test_all_detached =>
    split at hnext <;> cases hnext <;>
      exact h.go rfl rfl rfl (hzero (by rw [hw]; exact fun heq => by cases heq)
        fun heq => by cases heq) rfl
  case load_detached | unlock_terminators | load_all | test_all =>
    cases hnext
    refine h.go rfl rfl rfl (hzero (by rw [hw]; exact fun heq => by cases heq) ?_) ?_
    · dsimp only
      split <;> exact fun heq => by cases heq
    · dsimp only
      split <;> rfl
  case returned =>
    cases hnext
    rw [h.engine]
    exact h.go h.engine.symm rfl rfl (hzero (by rw [hw]; exact fun heq => by cases heq)
      fun heq => by cases heq) rfl
  -- a scoped actor is counted, and is no thread
  case create =>
    rw [h.engine, if_neg Bool.false_ne_true] at hnext
    split at hnext <;> cases hnext
    next hroom =>
    rw [scoped_actors_eq_zero (by rw [hw]; exact fun heq => by cases heq)] at hcounted
    refine ⟨rfl, h.actors, ?_, rfl⟩
    show s.thread_actors + 1 = (s.num_alive_actors + 1).toNat
    rw [toNat_succ hroom, ← hcounted]
  case invoke =>
    split at hnext
    · cases hnext
      exact h.go rfl rfl rfl (by rw [Group.scoped_actors, Group.scoped_actors, hw]) rfl
    · rw [h.engine, if_neg Bool.false_ne_true] at hnext
      cases hnext
      rw [Group.scoped_actors, if_pos ⟨hw, h.engine⟩] at hcounted
      refine ⟨rfl, h.actors, ?_, rfl⟩
      rw [scoped_actors_eq_zero (fun heq => by cases heq)]
      show s.thread_actors + 0 = (s.num_alive_actors - 1).toNat
      have hpred := toNat_pred (a := s.num_alive_actors) (by omega)
      omega
  case terminating e =>
    have hwaiter := h.waiter
    rw [hw] at hwaiter
    cases hwaiter
  case sleep_alive | sleep_all | destroyed => cases hnext

/-- A group is not turned into an engine. -/
theorem engine_of_waiter_next (hnext : s.waiter_next = some s') : s'.engine = s.engine := by
  cases hw : s.waiter <;>
    simp only [Group.waiter_next, hw, Group.lock_mtx, Group.unlock_mtx] at hnext
  case create | invoke =>
    split at hnext
    · cases hnext
      rfl
    · split at hnext <;> cases hnext <;> rfl
  case sleep_alive | sleep_all | destroyed => cases hnext
  case running | lock_alive | lock_terminators | deleting | lock_all | test_detached
      | test_all_detached | terminating =>
    split at hnext <;> cases hnext <;> rfl
  all_goals
    cases hnext
    rfl

theorem engine_of_next (hnext : s.next label = some s') : s'.engine = s.engine := by
  by_cases hwaiter : label = .waiter
  · subst hwaiter
    exact engine_of_waiter_next hnext
  · exact (waiter_eq_or_awake hwaiter hnext).1

theorem Plain.next (h : Plain s) (hnext : s.next label = some s') : Plain s' := by
  by_cases hwaiter : label = .waiter
  · subst hwaiter
    exact h.waiter_next hnext
  · exact h.next_thread hwaiter hnext

/-! ### The counts are paired -/

/-- Only those that are alive are detached. -/
theorem Work.is_detached_le (w : Work) : w.is_detached.toNat ≤ w.counted := by
  cases w with
  | actor alive detached =>
    cases alive with
    | false => exact Nat.le_refl 0
    | true => exact Bool.toNat_le detached
  | executor x => exact Nat.zero_le _

/-- Summed over the threads. -/
def Thread.detached (t : Thread) : Nat := t.work.is_detached.toNat

namespace Group

/-- The actors that are alive and counted as detached. -/
def detached_actors (s : Group) : Nat := (s.threads.map Thread.detached).sum

theorem detached_actors_set_thread {t : Thread} (h : s.threads[i]? = some t) (t' : Thread) :
    (s.set_thread i t').detached_actors + t.detached = s.detached_actors + t'.detached :=
  Counting.sum_map_set_add h t' _

/-- The thread of an actor changes, and the actor does not. -/
theorem detached_actors_eq {t t' : Thread} (h : s.threads[i]? = some t)
    (hwork : t'.work = t.work) : (s.set_thread i t').detached_actors = s.detached_actors := by
  have hcount := detached_actors_set_thread h t'
  rw [Thread.detached, Thread.detached, hwork] at hcount
  exact Nat.add_right_cancel hcount

/-- One actor is counted or uncounted. -/
theorem detached_actors_set_detached {t : Thread} (h : s.threads[i]? = some t)
    (detached : Bool) :
    (s.set_detached i detached).detached_actors + t.detached =
      s.detached_actors + (t.work.set_detached detached).is_detached.toNat :=
  Counting.sum_map_modify_add h _ _

theorem detached_actors_le (s : Group) : s.detached_actors ≤ s.thread_actors :=
  List.sum_le_sum fun t _ => t.work.is_detached_le

end Group

/-- `num_detached_actors` is the number of those that are alive and counted as detached. -/
structure Paired (s : Group) : Prop extends Plain s where
  detached : s.detached_actors = s.num_detached_actors.toNat

/-- What is asked of the counts in `actor_group.hpp`. -/
theorem Paired.le (h : Paired s) : s.num_detached_actors ≤ s.num_alive_actors := by
  have hle := s.detached_actors_le
  have hcounted := h.counted
  have hdetached := h.detached
  exact UInt64.le_iff_toNat_le.mpr (by omega)

/-- Nothing happens to the actor of a thread. -/
theorem Paired.set_thread (h : Paired s) {t t' : Thread} (ht : s.threads[i]? = some t)
    (hwork : t'.work = t.work) : Paired (s.set_thread i t') where
  engine := h.engine
  actors := is_actor_set h.actors (hwork ▸ h.is_actor ht)
  counted := by
    rw [Group.thread_actors_eq ht (by rw [Thread.counted, Thread.counted, hwork])]
    exact h.counted
  waiter := h.waiter
  detached := (Group.detached_actors_eq ht hwork).trans h.detached

/-- A waiter that has no executors to end leaves the threads alone. -/
theorem frame_of_waiter_next (hwaiter : s.waiter.is_terminating = false)
    (hnext : s.waiter_next = some s') :
    s'.threads = s.threads ∧ s'.num_detached_actors = s.num_detached_actors := by
  cases hw : s.waiter <;>
    simp only [Group.waiter_next, hw, Group.lock_mtx, Group.unlock_mtx] at hnext
  case create | invoke =>
    split at hnext
    · cases hnext
      exact ⟨rfl, rfl⟩
    · split at hnext <;> cases hnext <;> exact ⟨rfl, rfl⟩
  case sleep_alive | sleep_all | destroyed => cases hnext
  case running | lock_alive | lock_terminators | deleting | lock_all | test_detached
      | test_all_detached =>
    split at hnext <;> cases hnext <;> exact ⟨rfl, rfl⟩
  case terminating e =>
    rw [hw] at hwaiter
    cases hwaiter
  all_goals
    cases hnext
    exact ⟨rfl, rfl⟩

/-- An actor that has been counted as detached, or is uncounted. -/
theorem Paired.detached_set_detached (h : Paired s) {t : Thread} (ht : s.threads[i]? = some t) :
    (t.work = .actor true false →
      (s.set_detached i true).detached_actors = (s.num_detached_actors + 1).toNat) ∧
    (t.work.is_detached = true → s.num_detached_actors ≠ 0 ∧
      (s.set_detached i false).detached_actors = (s.num_detached_actors - 1).toNat) := by
  have hdetached := h.detached
  have hcounted := h.counted
  constructor
  -- there is room for it: those that are detached are alive, and these fit their count
  · intro hwork
    have hcount := Group.detached_actors_set_detached ht true
    rw [Thread.detached, hwork] at hcount
    have hle := (s.set_detached i true).detached_actors_le
    rw [Group.thread_actors_set_detached] at hle
    have hone : (s.set_detached i true).detached_actors = s.detached_actors + 1 := hcount
    have hlt := s.num_alive_actors.toNat_lt
    rw [toNat_succ (by omega), hone, hdetached]
  · intro hwork
    have hcount := Group.detached_actors_set_detached ht false
    rw [Thread.detached, hwork] at hcount
    have hzero : (t.work.set_detached false).is_detached = false := by
      cases t.work with
      | actor alive detached => exact Bool.and_false alive
      | executor x => rfl
    rw [hzero] at hcount
    have hone : (s.set_detached i false).detached_actors + 1 = s.detached_actors := hcount
    have hpred := toNat_pred (a := s.num_detached_actors) (by omega)
    refine ⟨fun heq => ?_, by omega⟩
    rw [heq] at hdetached
    have hzero : (0 : UInt64).toNat = 0 := rfl
    omega

/-- A new actor is not counted as detached. -/
theorem Paired.detached_spawn (h : Paired s) {executor : Nat}
    (hspawn : s.spawn executor = some s') :
    s'.detached_actors = s'.num_detached_actors.toNat := by
  unfold Group.spawn at hspawn
  split at hspawn
  · dsimp only at hspawn
    rw [h.engine, if_neg Bool.false_ne_true] at hspawn
    cases hspawn
    show ((s.threads ++ [_]).map Thread.detached).sum = s.num_detached_actors.toNat
    rw [List.map_append, List.sum_append]
    exact h.detached
  · cases hspawn

/-- By what a step does. Only the two functions for detached actors and the end of an actor need
    that the step is paired. -/
theorem Paired.detached_next (h : Paired s) (hpairs : Pairs s label)
    (hnext : s.next label = some s') : s'.detached_actors = s'.num_detached_actors.toNat := by
  have hstays {threads : List Thread} (hsame : threads = s.threads) :
      (threads.map Thread.detached).sum = s.num_detached_actors.toNat := by
    rw [hsame]
    exact h.detached
  cases Group.stepped_of_next hnext with
  | waiter s' hwaiter =>
    obtain ⟨hthreads, hdetached⟩ := frame_of_waiter_next h.waiter hwaiter
    rw [hdetached]
    exact hstays hthreads
  | waiter_call c r hcall hr =>
    rw [(Group.call_next_keeps hr).1]
    exact hstays (Group.call_next_frame hr).1
  | wake_alive | wake_all | add_terminator_waiter => exact h.detached
  | spawn_waiter executor s' hw hspawn => exact h.detached_spawn hspawn
  | spawn_actor i executor t s' ht hspawn => exact h.detached_spawn hspawn
  | add_terminator_actor i t ht =>
    have hthread := (Group.thread_of_actor_of ht).1
    have hset : Paired (s.set_thread i { t with call := some (.add_terminator .lock) }) :=
      h.set_thread hthread rfl
    exact hset.detached
  | inc_num_detached_actors i j t ht =>
    have hthread := (Group.thread_of_actor_of ht).1
    have hset : Paired (s.set_thread i { t with
        call := some (.inc_num_detached_actors (s.num_detached_actors + 1)) }) :=
      h.set_thread hthread rfl
    obtain ⟨t₁, ht₁, hwork₁⟩ := Option.any_eq_true _ _ |>.mp hpairs
    -- the caller may be the one that is counted
    obtain ⟨t₂, ht₂, hwork₂⟩ : ∃ t₂, (s.threads.set i { t with
        call := some (.inc_num_detached_actors (s.num_detached_actors + 1)) })[j]? = some t₂ ∧
          t₂.work = t₁.work := by
      by_cases hij : i = j
      · subst hij
        cases hthread.symm.trans ht₁
        exact ⟨_, List.getElem?_set_self (List.getElem?_eq_some_iff.mp hthread).1, rfl⟩
      · exact ⟨t₁, (List.getElem?_set_ne hij).trans ht₁, rfl⟩
    exact (hset.detached_set_detached ht₂).1 (hwork₂.trans (eq_of_beq hwork₁))
  | dec_num_detached_actors i t ht =>
    have hthread := (Group.thread_of_actor_of ht).1
    have hwork : t.work.is_detached = true := by
      rw [Pairs, hthread] at hpairs
      exact hpairs
    exact ((h.detached_set_detached hthread).2 hwork).2
  | finish i t work ht hwork =>
    have hthread := (Group.thread_of_actor_of ht).1
    -- an actor that is done has been uncounted before
    have hattached : t.work.is_detached = false := by
      rw [Pairs, hthread] at hpairs
      exact hpairs
    have hdone : work.is_detached = false := by
      have hactor := h.is_actor hthread
      cases hw : t.work with
      | actor alive detached =>
        rw [hw] at hwork
        cases hwork
        rfl
      | executor x =>
        rw [hw] at hactor
        cases hactor
    have hcount := Group.detached_actors_set_thread hthread
      ⟨work, some (.dec_num_alive_actors (s.num_alive_actors - 1))⟩
    rw [Thread.detached, Thread.detached, hattached, hdone] at hcount
    exact (Nat.add_right_cancel hcount).trans h.detached
  | call i t c r ht hcall hr =>
    obtain ⟨hthreads, -⟩ := Group.call_next_frame hr
    have hthread : r.2.threads[i]? = some t := by rw [hthreads, ht]
    have heq : (r.2.set_thread i { t with call := r.1 }).detached_actors = r.2.detached_actors :=
      Group.detached_actors_eq hthread rfl
    rw [heq]
    show r.2.detached_actors = r.2.num_detached_actors.toNat
    rw [(Group.call_next_keeps hr).1]
    exact hstays hthreads
  -- there are no executors
  | receive i x _ hx | started i _ x hx | end_round i x hx | rebalance i _ x _ hx =>
    rw [h.executor_of_none i] at hx
    cases hx

/-- Steps that are paired keep the counts paired. -/
theorem Paired.next (h : Paired s) (hpairs : Pairs s label) (hnext : s.next label = some s') :
    Paired s' :=
  ⟨h.toPlain.next hnext, h.detached_next hpairs hnext⟩

/-- Counts that are paired stay in their bounds. -/
theorem Paired.in_bounds (h : Paired s) (hpairs : Pairs s label) : InBounds s label := by
  refine ⟨fun huncounts => ?_, fun s' hnext => (h.next hpairs hnext).le⟩
  cases label with
  | dec_num_detached_actors i =>
    obtain ⟨t, ht, hwork⟩ := Option.any_eq_true _ _ |>.mp hpairs
    exact ((h.detached_set_detached ht).2 hwork).1
  | _ => cases huncounts

/-- By induction over the run. What `Watches` says of the waiter needs the bounds, which come from
    the pairing. -/
theorem paired_of_reachable (h : LTS.ReachableVia Group.system Pairs s)
    (hengine : s.engine = false) : s.Watches ∧ Paired s := by
  revert hengine
  apply h.invariant fun s => s.engine = false → s.Watches ∧ Paired s
  · intro s hinit hengine
    refine ⟨Group.watches_of_in_bounds (.init hinit), ?_⟩
    obtain ⟨engine, period, n, hn, rfl⟩ := hinit
    rw [hn hengine]
    cases hengine
    exact ⟨⟨rfl, (fun t ht => by cases ht), rfl, rfl⟩, rfl⟩
  · intro s label s' hs hpairs hnext hengine
    obtain ⟨hwatches, hpaired⟩ := hs ((engine_of_next hnext).symm.trans hengine)
    exact ⟨hwatches.next (hpaired.in_bounds hpairs) hnext, hpaired.next hpairs hnext⟩

/-! ### The actors end -/

/-- The steps until a mutex is unlocked. -/
def Call.held_for : Call → Nat
  | .notify_alive .act _ | .notify_all .act | .add_terminator .act => 2
  | .notify_alive .unlock _ | .notify_all .unlock | .add_terminator .unlock => 1
  | _ => 0

/-- The same for the waiter, which has a mutex through its tests. -/
def Waiter.held_for : Waiter → Nat
  | .test_alive | .test_all => 3
  | .test_detached _ | .test_all_detached _ | .take_terminators => 2
  | .unlock_alive | .unlock_all | .unlock_terminators => 1
  | _ => 0

/-- No actor is alive, and no thread is in a function of the group. -/
def Still (s : Group) : Prop := ∀ t ∈ s.threads, t.call = none ∧ t.counted = 0

namespace Group

/-- How long others may have to wait for the waiter. -/
def held_for (s : Group) : Nat := s.waiter.held_for + s.waiter_call.elim 0 Call.held_for

/-- A bound on the steps until all is still. An actor that is done goes through
    `dec_num_alive_actors`. -/
def to_still (s : Group) : Nat := 8 * (8 * s.thread_actors + s.steps_left) + s.held_for

end Group

/-- A call under a mutex comes closer to its end. -/
theorem held_for_call_next {caller : Option Nat} {c : Call} {m : GroupMutex}
    {r : Option Call × Group} (hc : c.holds m = true) (h : s.call_next caller c = some r) :
    r.1.elim 0 Call.held_for < c.held_for := by
  have hall_done (n : UInt64) : (Group.all_done n).elim 0 Call.held_for = 0 := by
    unfold Group.all_done
    split <;> rfl
  cases c with
  | inc_num_detached_actors n | dec_num_alive_actors n => cases m <;> cases hc
  | notify_alive g num_alive =>
    cases g with
    | lock => cases m <;> cases hc
    | act =>
      cases h
      exact Nat.lt_succ_self _
    | unlock =>
      cases h
      cases num_alive with
      | none => exact Nat.succ_pos _
      | some n => exact Nat.lt_of_le_of_lt (Nat.le_of_eq (hall_done n)) (Nat.succ_pos _)
  | notify_all g | add_terminator g =>
    cases g with
    | lock => cases m <;> cases hc
    | act =>
      cases h
      exact Nat.lt_succ_self _
    | unlock =>
      cases h
      exact Nat.succ_pos _

/-- A step towards giving a mutex back. -/
structure Releases (s s' : Group) : Prop where
  threads : s'.threads = s.threads
  held_for : s'.held_for < s.held_for

/-- Nothing keeps the waiter from giving back a mutex that it holds. -/
theorem exists_waiter_next {m : GroupMutex} (hholds : s.waiter.holds m = true) :
    ∃ s', s.waiter_next = some s' := by
  cases hw : s.waiter <;> rw [hw] at hholds <;> simp only [Group.waiter_next, hw]
  case test_detached | test_all_detached => split <;> exact ⟨_, rfl⟩
  case test_alive | unlock_alive | take_terminators | unlock_terminators | test_all | unlock_all =>
    exact ⟨_, rfl⟩
  all_goals cases m <;> cases hholds

/-- A waiter that holds a mutex tests, and then sleeps or unlocks: both give it back. -/
theorem releases_waiter_next {m : GroupMutex} (hnone : s.waiter_call = none)
    (hholds : s.waiter.holds m = true) (hnext : s.waiter_next = some s') : Releases s s' := by
  have hlt {t : Group} (hthreads : t.threads = s.threads)
      (hcall : t.waiter_call = s.waiter_call) (hwaiter : t.waiter.held_for < s.waiter.held_for) :
      Releases s t := by
    refine ⟨hthreads, ?_⟩
    rw [Group.held_for, Group.held_for, hcall, hnone]
    exact hwaiter
  cases hw : s.waiter <;> rw [hw] at hholds hlt <;>
    simp only [Group.waiter_next, hw, Group.unlock_mtx] at hnext
  case test_detached =>
    split at hnext <;> cases hnext
    · exact hlt rfl rfl (Nat.lt_succ_self _)
    · exact hlt rfl rfl (Nat.succ_pos _)
  case test_all_detached =>
    split at hnext <;> cases hnext
    · exact hlt rfl rfl (Nat.succ_pos _)
    · exact hlt rfl rfl (Nat.lt_succ_self _)
  case test_alive | take_terminators =>
    cases hnext
    exact hlt rfl rfl (Nat.lt_succ_self _)
  case unlock_alive | unlock_all =>
    cases hnext
    exact hlt rfl rfl (Nat.succ_pos _)
  case unlock_terminators =>
    cases hnext
    refine hlt rfl rfl ?_
    dsimp only
    split <;> exact Nat.succ_pos _
  case test_all =>
    cases hnext
    refine hlt rfl rfl ?_
    dsimp only
    split
    · exact (by decide : 1 < 3)
    · exact Nat.lt_succ_self _
  all_goals cases m <;> cases hholds

/-- The waiter wakes nobody up, since it is awake itself. -/
theorem Group.Locked.waiter_of_waiter_call (h : s.Locked) {c : Call} {r : Option Call × Group}
    (hc : s.waiter_call = some c) (hr : s.call_next none c = some r) :
    r.2.waiter = s.waiter := by
  have hrests := h.waiter_call (by rw [hc]; exact fun heq => by cases heq)
  rcases Group.waiter_of_call_next hr with heq | ⟨hw, -⟩ | ⟨hw, -⟩
  · exact heq
  all_goals
    rw [hw] at hrests
    rcases hrests with hrests | hrests <;> cases hrests

/-- Whoever waits for the waiter's mutex gets it back. -/
theorem Group.Locked.releases {m : GroupMutex} (h : s.Locked) (hholds : s.holds m none = true) :
    ∃ l s', Ends s l ∧ s.next l = some s' ∧ Releases s s' := by
  rcases Bool.or_eq_true_iff.mp hholds with hwaiter | hcall
  · have hnone : s.waiter_call = none := by
      by_contra hne
      rcases h.waiter_call hne with hw | hw <;> rw [hw] at hwaiter <;> cases m <;> cases hwaiter
    obtain ⟨s', hnext⟩ := exists_waiter_next hwaiter
    exact ⟨.waiter, s', trivial, hnext, releases_waiter_next hnone hwaiter hnext⟩
  · obtain ⟨c, hc, hc'⟩ := Option.any_eq_true _ _ |>.mp hcall
    have hlocks := Call.locks_of_holds hc'
    obtain ⟨r, hr⟩ := Group.exists_call_next (c := c)
      (fun m hm => by rw [hlocks] at hm; cases hm) (none : Option Nat) (s := s)
    refine ⟨.waiter_call, { r.2 with waiter_call := r.1 }, trivial, ?_,
      (Group.call_next_frame hr).1, ?_⟩
    · simp only [Group.next, hc, hr, Option.map_some]
    · rw [Group.held_for, Group.held_for, hc]
      show r.2.waiter.held_for + r.1.elim 0 Call.held_for < _
      rw [h.waiter_of_waiter_call hc hr]
      exact Nat.add_lt_add_left (held_for_call_next hc' hr) _

/-- What others do does not keep the waiter from giving back what it holds. -/
theorem held_for_of_next (hwaiter : label ≠ .waiter) (hcall : s'.waiter_call = s.waiter_call)
    (hnext : s.next label = some s') : s'.held_for = s.held_for := by
  unfold Group.held_for
  rw [hcall]
  rcases (waiter_eq_or_awake hwaiter hnext).2 with hw | ⟨hw, hw'⟩ | ⟨hw, hw'⟩
  · rw [hw]
  · rw [hw, hw']
    rfl
  · rw [hw, hw']
    rfl

/-- Threads do not touch a call of the waiter. -/
theorem waiter_call_of_call (hnext : s.next (.call i) = some s') :
    s'.waiter_call = s.waiter_call := by
  cases Group.stepped_of_next hnext with
  | call i t c r ht hcall hr => exact (Group.call_next_keeps hr).2

/-- Threads give back what they hold, and go on. -/
theorem can_call (h : s.Watches) (hp : Paired s) {c : Call} (hc : s.call_of i = some c) :
    Group.system.CanReach Ends s fun s' =>
      (s'.Watches ∧ Paired s') ∧ s'.to_still < s.to_still := by
  -- either some thread in a call can go on, or the waiter has what it waits for
  by_cases hfree : ∀ m, s.holds m none = false
  · obtain ⟨j, s', hnext, hlt⟩ := h.toLocked.exists_next_call hfree hc
    have hpairs : Pairs s (.call j) := trivial
    refine LTS.System.can_reach_next (.call j) trivial hnext
      ⟨⟨h.next (h.in_bounds_call j) hnext, hp.next hpairs hnext⟩, ?_⟩
    unfold Group.to_still
    rw [Group.thread_actors_of_call hnext,
      held_for_of_next (fun heq => by cases heq) (waiter_call_of_call hnext) hnext]
    omega
  · push Not at hfree
    obtain ⟨m, hm⟩ := hfree
    rw [ne_eq, Bool.not_eq_false] at hm
    obtain ⟨l, s', hends, hnext, hreleases⟩ := h.toLocked.releases hm
    have hpairs : Pairs s l := pairs_of_ends hends
    refine LTS.System.can_reach_next l hends hnext
      ⟨⟨h.next (hp.in_bounds hpairs) hnext, hp.next hpairs hnext⟩, ?_⟩
    unfold Group.to_still Group.thread_actors Group.steps_left
    rw [hreleases.threads]
    have hlt := hreleases.held_for
    omega

/-- The steps left of the thread are part of the sum. -/
theorem steps_left_set_thread {t : Thread} (ht : s.threads[i]? = some t) (t' : Thread) :
    (s.set_thread i t').steps_left + t.steps_left = s.steps_left + t'.steps_left :=
  Counting.sum_map_set_add ht t' _

/-- An actor that is not counted as detached is done. -/
theorem can_finish_of_attached (h : s.Watches) (hp : Paired s) {t : Thread}
    (ht : s.actor_of i = some t) (hattached : t.work.is_detached = false) :
    Group.system.CanReach Ends s fun s' =>
      (s'.Watches ∧ Paired s') ∧ s'.to_still < s.to_still := by
  obtain ⟨hthread, hin⟩ := Group.thread_of_actor_of ht
  have hcall : t.call = none := by
    rw [← Group.call_of_eq hthread]
    exact Group.call_of_actor_of ht
  obtain ⟨work, hwork⟩ : ∃ work, t.work.finished = some work := by
    have hactor := hp.is_actor hthread
    cases hw : t.work with
    | actor alive detached => exact ⟨_, rfl⟩
    | executor x =>
      rw [hw] at hactor
      cases hactor
  -- the thread goes on in `dec_num_alive_actors`
  obtain ⟨t', ht'⟩ : ∃ t' : Thread,
    t' = ⟨work, some (.dec_num_alive_actors (s.num_alive_actors - 1))⟩ := ⟨_, rfl⟩
  obtain ⟨s', hs'⟩ : ∃ s' : Group,
    s' = { s.set_thread i t' with num_alive_actors := s.num_alive_actors - 1 } := ⟨_, rfl⟩
  have hnext : s.next (.finish i) = some s' := by
    simp only [Group.next, ht, hwork, Option.bind_eq_bind, Option.bind_some, Option.pure_def, hs',
      ht']
  have hpairs : Pairs s (.finish i) := by
    rw [Pairs, hthread]
    exact hattached
  refine LTS.System.can_reach_next (.finish i) hpairs hnext
    ⟨⟨h.next (hp.in_bounds hpairs) hnext, hp.next hpairs hnext⟩, ?_⟩
  obtain ⟨hactors, -⟩ := Group.thread_actors_of_finish hnext
  have hsteps := steps_left_set_thread hthread t'
  have hbefore : t.steps_left = 0 := by rw [Thread.steps_left, hcall, Option.elim_none]
  have hafter : t'.steps_left = 7 := by rw [ht']; rfl
  have hsame : s'.steps_left = (s.set_thread i t').steps_left := by rw [hs']; rfl
  have hheld : s'.held_for = s.held_for :=
    held_for_of_next (fun heq => by cases heq) (by rw [hs']; rfl) hnext
  unfold Group.to_still
  omega

/-- Being counted as detached is no part of the way of a thread. -/
theorem Group.steps_left_set_detached (s : Group) (i : Nat) (detached : Bool) :
    (s.set_detached i detached).steps_left = s.steps_left := by
  cases hi : s.threads[i]? with
  | none =>
    have hsame : (s.set_detached i detached).threads = s.threads := Counting.modify_of_none hi _
    rw [steps_left, hsame, steps_left]
  | some t =>
    have hcount : (s.set_detached i detached).steps_left + t.steps_left =
      s.steps_left + t.steps_left := Counting.sum_map_modify_add hi _ _
    exact Nat.add_right_cancel hcount

/-- An actor that is counted as detached is uncounted before it is done. -/
theorem can_finish (h : s.Watches) (hp : Paired s) {t : Thread} (ht : s.actor_of i = some t) :
    Group.system.CanReach Ends s fun s' =>
      (s'.Watches ∧ Paired s') ∧ s'.to_still < s.to_still := by
  cases hdetached : t.work.is_detached with
  | false => exact can_finish_of_attached h hp ht hdetached
  | true =>
    obtain ⟨hthread, hin⟩ := Group.thread_of_actor_of ht
    obtain ⟨s', hs'⟩ : ∃ s' : Group, s' = { s.set_detached i false with
      num_detached_actors := s.num_detached_actors - 1 } := ⟨_, rfl⟩
    have hnext : s.next (.dec_num_detached_actors i) = some s' := by
      simp only [Group.next, ht, Option.map_some, hs']
    have hpairs : Pairs s (.dec_num_detached_actors i) := by
      rw [Pairs, hthread]
      exact hdetached
    -- the actor is as before
    obtain ⟨t', ht'⟩ : ∃ t' : Thread, t' = { t with work := t.work.set_detached false } :=
      ⟨_, rfl⟩
    have hset : s'.threads[i]? = some t' := by
      rw [hs', ht']
      show (s.threads.modify i _)[i]? = _
      rw [List.getElem?_modify_eq, hthread]
      rfl
    have hwork : t'.work.is_detached = false ∧ t'.in_actor = true := by
      obtain ⟨work, call⟩ := t
      cases work with
      | actor alive detached =>
        rw [ht']
        exact ⟨Bool.and_false alive, hin⟩
      | executor x => cases hdetached
    have hactor : s'.actor_of i = some t' := by
      rw [Group.actor_of, hset, Option.filter_some, if_pos hwork.2]
    have hstill : s'.to_still = s.to_still := by
      have hactors : s'.thread_actors = s.thread_actors := by
        rw [hs']
        exact Group.thread_actors_set_detached s i false
      have hsteps : s'.steps_left = s.steps_left := by
        rw [hs']
        exact s.steps_left_set_detached i false
      have hheld : s'.held_for = s.held_for :=
        held_for_of_next (fun heq => by cases heq) (by rw [hs']; rfl) hnext
      unfold Group.to_still
      rw [hactors, hsteps, hheld]
    rw [← hstill]
    refine (LTS.System.can_reach_next (.dec_num_detached_actors i) hpairs hnext rfl).bind ?_
    rintro _ rfl
    exact can_finish_of_attached (h.next (hp.in_bounds hpairs) hnext) (hp.next hpairs hnext)
      hactor hwork.1

/-- **All actors can end**, whoever holds a mutex. -/
theorem can_be_still (h : s.Watches) (hp : Paired s) :
    Group.system.CanReach Ends s fun s' => (s'.Watches ∧ Paired s') ∧ Still s' := by
  -- the measure goes down with each actor that is done and each call that goes on
  refine LTS.System.can_reach_of_measure _ Group.to_still ?_ ⟨h, hp⟩
  rintro s ⟨h, hp⟩ hleft
  unfold Still at hleft
  push Not at hleft
  obtain ⟨t, ht, hleft⟩ := hleft
  obtain ⟨i, hi⟩ := List.getElem?_of_mem ht
  cases hcall : t.call with
  | some c => exact can_call h hp (Group.call_of_eq hi ▸ hcall)
  | none =>
    have hactor := hp.is_actor hi
    have hcounted := hleft hcall
    apply can_finish h hp (t := t) (i := i)
    rw [Group.actor_of, hi, Option.filter_some, if_pos]
    -- an actor that is counted is alive
    obtain ⟨work, call⟩ := t
    cases work with
    | executor x => cases hactor
    | actor alive detached =>
      cases alive with
      | false => exact absurd rfl hcounted
      | true =>
        rw [Thread.in_actor, hcall]
        rfl

/-! ### The waiter goes on by itself -/

/-- Has the waiter nothing to wait for any more? -/
def Waiter.leaves : Waiter → Bool
  | .invoke | .deleting | .load_all | .returned | .destroyed => true
  | _ => false

/-- A bound on the steps of the waiter when no actor is alive. The scoped actor goes through
    `dec_num_alive_actors`. -/
def Waiter.steps_left : Waiter → Nat
  | .running => 34
  | .lock_all => 33
  | .test_all => 32
  | .test_all_detached _ => 32
  | .unlock_all => 31
  | .load_alive => 30
  | .load_detached _ => 29
  | .lock_alive => 28
  | .test_alive => 27
  | .test_detached _ => 26
  | .unlock_alive => 25
  | .lock_terminators => 24
  | .take_terminators => 23
  | .unlock_terminators => 22
  | .create => 21
  | .invoke => 20
  | .deleting => 4
  | .load_all => 3
  | .returned => 2
  | .sleep_alive | .sleep_all | .terminating _ | .destroyed => 0

namespace Group

/-- A bound on the steps to the end. Each terminator is taken and invoked. -/
def to_end (s : Group) : Nat :=
  s.waiter.steps_left + s.taken.length + s.terminators.length +
    2 * s.waiter_call.elim 0 Call.steps_left

/-- Only the waiter is left. -/
structure Draining (s : Group) : Prop extends Locked s where
  engine : s.engine = false
  still : ∀ i, s.call_of i = none
  alive : s.num_alive_actors.toNat = s.scoped_actors
  rest : s.waiter.leaves = true ∨ s.num_detached_actors = 0 ∧ s.waiter.sleeps_alive 0 = false ∧
    s.waiter.sleeps_all = false ∧ s.waiter.is_terminating = false

/-- When all is still, nobody is about to notify: a waiter that sleeps now would have missed its
    notification. -/
theorem draining_of_still (h : s.Watches) (hp : Plain s) (hstill : Still s) : s.Draining := by
  have hcalls (i : Nat) : s.call_of i = none := by
    cases hi : s.threads[i]? with
    | none => rw [call_of, hi, Option.bind_none]
    | some t => rw [call_of_eq hi, (hstill t (List.mem_of_getElem? hi)).1]
  have hzero : s.thread_actors = 0 := by
    apply List.sum_eq_zero
    intro n hn
    obtain ⟨t, ht, rfl⟩ := List.mem_map.mp hn
    exact (hstill t ht).2
  have hcounted := hp.counted
  refine ⟨h.toLocked, hp.engine, hcalls, by omega, ?_⟩
  by_cases hinvoke : s.waiter = .invoke
  · rw [hinvoke]
    exact .inl rfl
  · -- no actor is counted, and nobody is about to notify
    have hscoped := scoped_actors_eq_zero hinvoke
    have hnone : s.num_alive_actors = 0 := UInt64.toNat_inj.mp (by
      have hzero : (0 : UInt64).toNat = 0 := rfl
      omega)
    have hdetached : s.num_detached_actors = 0 := UInt64.toNat_inj.mp (by
      have hzero : (0 : UInt64).toNat = 0 := rfl
      have hle := UInt64.le_iff_toNat_le.mp h.bounds
      omega)
    refine .inr ⟨hdetached, ?_, ?_, hp.waiter⟩
    · rw [← Bool.not_eq_true]
      intro hsleeps
      obtain ⟨i, c, hc, -⟩ := h.alive (hdetached ▸ hsleeps) (hnone.trans hdetached.symm)
      rw [hcalls i] at hc
      cases hc
    · rw [← Bool.not_eq_true]
      intro hsleeps
      obtain ⟨i, c, hc, -⟩ := h.all hsleeps hnone
      rw [hcalls i] at hc
      cases hc

/-- A mutex that the waiter does not hold is free. -/
theorem Draining.free (h : s.Draining) {m : GroupMutex} (hnone : s.holds m none = false) :
    s.mutex m = none := by
  by_contra hne
  obtain ⟨who, hwho⟩ := Option.ne_none_iff_exists'.mp hne
  have hholds := (h.mutex m who).mpr hwho
  cases who with
  | none =>
    rw [hnone] at hholds
    cases hholds
  | some i =>
    rw [holds, h.still i] at hholds
    cases hholds

/-- A terminator that is added has been counted in the steps left. -/
theorem call_next_to_end {caller : Option Nat} {c : Call} {r : Option Call × Group}
    (h : s.call_next caller c = some r) : r.2.taken = s.taken ∧
      r.2.terminators.length + 2 * r.1.elim 0 Call.steps_left <
        s.terminators.length + 2 * c.steps_left := by
  have hlt := steps_left_call_next h
  by_cases hc : c = .add_terminator .act
  · subst hc
    have hadds := adds_call_next h
    refine ⟨hadds.taken, ?_⟩
    rw [hadds.terminators, List.length_append, List.length_singleton]
    omega
  · have hleaves := leaves_call_next h hc
    refine ⟨hleaves.taken, ?_⟩
    rw [hleaves.terminators]
    omega

/-- Calls leave the kind of the group alone. -/
theorem engine_of_call_next {caller : Option Nat} {c : Call} {r : Option Call × Group}
    (h : s.call_next caller c = some r) : r.2.engine = s.engine := by
  by_cases hc : c = .add_terminator .act
  · subst hc
    exact (adds_call_next h).engine
  · exact (leaves_call_next h hc).engine

/-- A call of the waiter goes on: the mutexes are free, and nobody else has a call. -/
theorem Draining.goes_call (h : s.Draining) {c : Call} (hc : s.waiter_call = some c) :
    ∃ s', s.next .waiter_call = some s' ∧ s'.Draining ∧ s'.to_end < s.to_end := by
  have hrests := h.waiter_call (by rw [hc]; exact fun heq => by cases heq)
  have hholds (m : GroupMutex) : s.waiter.holds m = false := by
    rcases hrests with hw | hw <;> rw [hw] <;> cases m <;> rfl
  obtain ⟨r, hr⟩ : ∃ r, s.call_next none c = some r := by
    refine exists_call_next (fun m hm => h.free ?_) none
    rw [holds, hholds m, hc, Bool.false_or, Option.any_some, ← Bool.not_eq_true]
    intro hholds
    rw [Call.locks_of_holds hholds] at hm
    cases hm
  obtain ⟨hthreads, halive⟩ := call_next_frame hr
  have hdetached := (call_next_keeps hr).1
  have hwaiter := h.toLocked.waiter_of_waiter_call hc hr
  have hengine := engine_of_call_next hr
  obtain ⟨htaken, hlt⟩ := call_next_to_end hr
  have hnext : s.next .waiter_call = some { r.2 with waiter_call := r.1 } := by
    simp only [next, hc, hr, Option.map_some]
  refine ⟨_, hnext, ⟨h.toLocked.next hnext, hengine.trans h.engine, fun i => ?_, ?_, ?_⟩, ?_⟩
  · rw [← h.still i, call_of, call_of, hthreads]
  · rw [scoped_actors]
    dsimp only
    rw [halive, hwaiter, hengine]
    exact h.alive
  · dsimp only
    rw [hwaiter, hdetached]
    exact h.rest
  · unfold to_end
    dsimp only
    rw [hwaiter, htaken, hc, Option.elim_some]
    omega

/-- Away from the scoped actor, no actor is counted. -/
theorem Draining.alive_eq_zero (h : s.Draining) (hinvoke : s.waiter ≠ .invoke) :
    s.num_alive_actors = 0 :=
  UInt64.toNat_inj.mp (h.alive.trans (scoped_actors_eq_zero hinvoke))

/-- Nothing keeps the waiter from going on. -/
theorem Draining.exists_waiter_next (h : s.Draining) (hcall : s.waiter_call = none)
    (hdestroyed : s.waiter ≠ .destroyed) : ∃ s', s.waiter_next = some s' := by
  have hfree (m : GroupMutex) (hm : s.waiter.holds m = false) : s.mutex m = none :=
    h.free (by rw [holds, hm, hcall]; rfl)
  have hrest := h.rest
  have hzero := h.alive_eq_zero
  cases hw : s.waiter <;> rw [hw] at hrest hzero hfree <;>
    simp only [Group.waiter_next, hw, lock_mtx, unlock_mtx]
  case running | deleting => exact ⟨_, if_pos hcall⟩
  case lock_alive | lock_all => exact ⟨_, if_pos (hfree .await_actors_done_mtx rfl)⟩
  case lock_terminators => exact ⟨_, if_pos (hfree .terminator_mutex rfl)⟩
  case create =>
    have hroom : s.has_room := by
      rw [has_room, hzero fun heq => by cases heq]
      decide
    exact ⟨_, by rw [h.engine, if_neg Bool.false_ne_true, if_pos hroom]⟩
  case invoke =>
    split
    · exact ⟨_, rfl⟩
    · exact ⟨_, by rw [h.engine, if_neg Bool.false_ne_true]⟩
  case test_detached | test_all_detached | terminating => split <;> exact ⟨_, rfl⟩
  case sleep_alive =>
    rcases hrest with hrest | ⟨-, hrest, -⟩ <;> cases hrest
  case sleep_all =>
    rcases hrest with hrest | ⟨-, -, hrest, -⟩ <;> cases hrest
  case destroyed => exact absurd hw hdestroyed
  all_goals exact ⟨_, rfl⟩

/-- What has to be shown of a step of the waiter. -/
theorem Draining.of_waiter_next (h : s.Draining) (hnext : s.waiter_next = some s')
    (halive : s'.num_alive_actors.toNat = s'.scoped_actors)
    (hrest : s'.waiter.leaves = true ∨ s'.num_detached_actors = 0 ∧
      s'.waiter.sleeps_alive 0 = false ∧ s'.waiter.sleeps_all = false ∧
      s'.waiter.is_terminating = false) : s'.Draining := by
  have hstep : s.next .waiter = some s' := hnext
  refine ⟨h.toLocked.next hstep, (engine_of_waiter_next hnext).trans h.engine, fun i => ?_, halive,
    hrest⟩
  rw [call_of_waiter_next hnext]
  exact h.still i

/-- The waiter goes on, and does not change the counts. -/
theorem Draining.go (h : s.Draining) (hnone : s.waiter_call = none)
    (hnext : s.waiter_next = some s') (hinvoke : s.waiter ≠ .invoke)
    (hinvoke' : s'.waiter ≠ .invoke) (halive : s'.num_alive_actors = s.num_alive_actors)
    (hdetached : s'.num_detached_actors = s.num_detached_actors) (hcall : s'.waiter_call = none)
    (hterminators : s'.taken.length + s'.terminators.length ≤
      s.taken.length + s.terminators.length)
    (hrest : s'.waiter.leaves = true ∨ s.waiter.leaves = false ∧ s'.waiter.sleeps_alive 0 = false ∧
      s'.waiter.sleeps_all = false ∧ s'.waiter.is_terminating = false)
    (hlt : s'.waiter.steps_left < s.waiter.steps_left) : s'.Draining ∧ s'.to_end < s.to_end := by
  refine ⟨h.of_waiter_next hnext ?_ ?_, ?_⟩
  · rw [halive, h.alive_eq_zero hinvoke, scoped_actors_eq_zero hinvoke']
    rfl
  · rcases hrest with hrest | ⟨hleaves, hrest⟩
    · exact .inl hrest
    · rcases h.rest with hrest' | ⟨hzero, -⟩
      · rw [hleaves] at hrest'
        cases hrest'
      · exact .inr ⟨hdetached.trans hzero, hrest⟩
  · unfold to_end
    rw [hcall, hnone, Option.elim_none]
    omega

/-- By where the waiter is. It finds every test true, since no actor is alive. -/
theorem Draining.waiter_next (h : s.Draining) (hcall : s.waiter_call = none)
    (hnext : s.waiter_next = some s') : s'.Draining ∧ s'.to_end < s.to_end := by
  have hstep := hnext
  have hrest := h.rest
  have hgo := h.go hcall hstep
  have hzero := h.alive_eq_zero
  cases hw : s.waiter <;> rw [hw] at hrest hzero hgo <;>
    simp only [Group.waiter_next, hw, lock_mtx, unlock_mtx] at hnext
  case running =>
    rw [if_pos hcall] at hnext
    cases hnext
    exact hgo (fun heq => by cases heq) (fun heq => by cases heq) rfl rfl hcall (Nat.le_refl _)
      (.inr ⟨rfl, rfl, rfl, rfl⟩) (by simp [Waiter.steps_left])
  case lock_alive | lock_all | lock_terminators =>
    split at hnext <;> cases hnext
    exact hgo (fun heq => by cases heq) (fun heq => by cases heq) rfl rfl hcall (Nat.le_refl _)
      (.inr ⟨rfl, rfl, rfl, rfl⟩) (by simp [Waiter.steps_left])
  case load_alive | unlock_alive | unlock_all =>
    cases hnext
    exact hgo (fun heq => by cases heq) (fun heq => by cases heq) rfl rfl hcall (Nat.le_refl _)
      (.inr ⟨rfl, rfl, rfl, rfl⟩) (by simp [Waiter.steps_left])
  case load_detached =>
    cases hnext
    refine hgo (fun heq => by cases heq) ?_ rfl rfl hcall (Nat.le_refl _)
      (.inr ⟨rfl, ?_, ?_, ?_⟩) ?_
    · dsimp only
      split <;> exact fun heq => by cases heq
    case refine_5 =>
      dsimp only
      split <;> simp [Waiter.steps_left]
    all_goals
      dsimp only
      split <;> rfl
  case test_alive =>
    cases hnext
    refine hgo (fun heq => by cases heq) (fun heq => by cases heq) rfl rfl hcall (Nat.le_refl _)
      (.inr ⟨rfl, ?_, rfl, rfl⟩) (by simp [Waiter.steps_left])
    show (s.num_alive_actors != 0) = false
    rw [hzero fun heq => by cases heq]
    rfl
  case test_detached n =>
    -- it has found the counts equal
    obtain ⟨hdetached, hsleeps, -⟩ := hrest.resolve_left fun heq => by cases heq
    have hn : n = 0 := bne_eq_false_iff_eq.mp hsleeps
    rw [if_pos (hn.trans hdetached.symm)] at hnext
    cases hnext
    exact hgo (fun heq => by cases heq) (fun heq => by cases heq) rfl rfl hcall (Nat.le_refl _)
      (.inr ⟨rfl, rfl, rfl, rfl⟩) (by simp [Waiter.steps_left])
  case test_all =>
    rw [if_pos (hzero fun heq => by cases heq)] at hnext
    cases hnext
    exact hgo (fun heq => by cases heq) (fun heq => by cases heq) rfl rfl hcall (Nat.le_refl _)
      (.inr ⟨rfl, rfl, rfl, rfl⟩) (by simp [Waiter.steps_left])
  case load_all =>
    rw [if_pos (hzero fun heq => by cases heq)] at hnext
    cases hnext
    exact hgo (fun heq => by cases heq) (fun heq => by cases heq) rfl rfl hcall (Nat.le_refl _)
      (.inl rfl) (by simp [Waiter.steps_left])
  case deleting =>
    rw [if_pos hcall] at hnext
    cases hnext
    exact hgo (fun heq => by cases heq) (fun heq => by cases heq) rfl rfl hcall (Nat.le_refl _)
      (.inl rfl) (by simp [Waiter.steps_left])
  case returned =>
    rw [h.engine, if_neg Bool.false_ne_true] at hnext
    cases hnext
    exact hgo (fun heq => by cases heq) (fun heq => by cases heq) rfl rfl hcall (Nat.le_refl _)
      (.inl rfl) (by simp [Waiter.steps_left])
  case take_terminators =>
    cases hnext
    refine hgo (fun heq => by cases heq) (fun heq => by cases heq) rfl rfl hcall ?_
      (.inr ⟨rfl, rfl, rfl, rfl⟩) (by simp [Waiter.steps_left])
    show s.terminators.length + 0 ≤ _
    omega
  -- with terminators it creates a scoped actor, otherwise it waits for all actors
  case unlock_terminators =>
    cases hnext
    refine hgo (fun heq => by cases heq) ?_ rfl rfl hcall (Nat.le_refl _)
      (.inr ⟨rfl, ?_, ?_, ?_⟩) ?_
    · dsimp only
      split <;> exact fun heq => by cases heq
    case refine_5 =>
      dsimp only
      split <;> simp [Waiter.steps_left]
    all_goals
      dsimp only
      split <;> rfl
  -- the scoped actor
  case create =>
    have hengine := h.engine
    rw [hengine, if_neg Bool.false_ne_true] at hnext
    split at hnext <;> cases hnext
    refine ⟨h.of_waiter_next hstep ?_ (.inl rfl), ?_⟩
    · rw [scoped_actors, if_pos ⟨rfl, rfl⟩]
      show (s.num_alive_actors + 1).toNat = 1
      rw [hzero fun heq => by cases heq]
      rfl
    · unfold to_end
      dsimp only
      rw [hw]
      simp only [Waiter.steps_left]
      omega
  case invoke =>
    have halive := h.alive
    split at hnext
    · next heq =>
      cases hnext
      -- one terminator less
      refine ⟨h.of_waiter_next hstep ?_ (.inl rfl), ?_⟩
      · rw [scoped_actors, hw] at halive
        exact halive
      · unfold to_end
        dsimp only
        rw [hw, heq, List.length_cons]
        omega
    · next heq =>
      have hengine := h.engine
      rw [hengine, if_neg Bool.false_ne_true] at hnext
      cases hnext
      rw [scoped_actors, if_pos ⟨hw, hengine⟩] at halive
      -- all have been invoked: the scoped actor ends
      have hpred := toNat_pred (a := s.num_alive_actors) (by omega)
      refine ⟨h.of_waiter_next hstep ?_ (.inl rfl), ?_⟩
      · rw [scoped_actors_eq_zero fun heq => by cases heq]
        show (s.num_alive_actors - 1).toNat = 0
        omega
      · unfold to_end
        dsimp only
        rw [hw, hcall, Option.elim_none, Option.elim_some]
        simp only [Waiter.steps_left, Call.steps_left]
        omega
  case test_all_detached =>
    obtain ⟨-, -, hsleeps, -⟩ := hrest.resolve_left fun heq => by cases heq
    cases hsleeps
  case terminating =>
    obtain ⟨-, -, -, hterminating⟩ := hrest.resolve_left fun heq => by cases heq
    cases hterminating
  case sleep_alive | sleep_all | destroyed => cases hnext

/-- The waiter comes to the end by itself. -/
theorem Draining.can_end (h : s.Draining) :
    system.CanReach Ends s fun s' => s'.waiter = .destroyed := by
  have hreach : system.CanReach Ends s fun s' => s'.Draining ∧ s'.waiter = .destroyed := by
    -- on the steps that are left of the waiter and of its call
    refine LTS.System.can_reach_of_measure _ to_end (fun s h hdestroyed => ?_) h
    cases hcall : s.waiter_call with
    | some c =>
      obtain ⟨s', hnext, hs'⟩ := h.goes_call hcall
      exact LTS.System.can_reach_next .waiter_call trivial hnext hs'
    | none =>
      obtain ⟨s', hnext⟩ := h.exists_waiter_next hcall hdestroyed
      have hstep : s.next .waiter = some s' := hnext
      exact LTS.System.can_reach_next .waiter trivial hstep (h.waiter_next hcall hnext)
  exact hreach.mono fun s' hs' => hs'.2

/-- **The destructor of an `ActorSystem` can end wherever a run with paired counts has come to,
    if the actors come to their ends.** -/
theorem can_be_destroyed (h : LTS.ReachableVia system Pairs s) (hengine : s.engine = false) :
    system.CanReach Ends s fun s' => s'.waiter = .destroyed := by
  obtain ⟨hwatches, hpaired⟩ := paired_of_reachable h hengine
  refine (can_be_still hwatches hpaired).bind ?_
  rintro s' ⟨⟨hwatches, hpaired⟩, hstill⟩
  exact (draining_of_still hwatches hpaired.toPlain hstill).can_end

/-- A detached actor has added a terminator while the waiter sleeps. -/
theorem can_be_destroyed_stranded :
    ∃ s, LTS.ReachableVia system Pairs s ∧
      (s.waiter, s.num_alive_actors, s.num_detached_actors, s.terminators) =
        (.sleep_all, 1, 1, [0]) ∧
      system.CanReach Ends s fun s' => s'.waiter = .destroyed := by
  obtain ⟨s, hs, hobs⟩ := system.reachable_of_exec Pairs
    (List.flatten [[.spawn none 0, .inc_num_detached_actors 0 0], List.replicate 4 (.call 0),
      List.replicate 10 .waiter, [.add_terminator (some 0)], List.replicate 3 (.call 0)])
    (fun s => (s.engine, s.waiter, s.num_alive_actors, s.num_detached_actors, s.terminators))
    (b := (false, .sleep_all, 1, 1, [0])) init_actor_system (by decide +kernel)
  obtain ⟨hengine, hrest⟩ := Prod.mk.inj hobs
  exact ⟨s, hs, hrest, can_be_destroyed hs hengine⟩

end Group

end ZAF.Awaiting
