import Mathlib.Algebra.BigOperators.Group.List.Basic
import ZAF.Framework.System

/-! # Waiting for the actors of a group

    The thread that destroys an `ActorSystem` or an `ActorEngine` waits until all actors of
    the group are done. It does so with two counts, which the threads of the actors change
    without a lock, a mutex and two condition variables. When only detached actors are
    alive, it invokes the terminators that have been added, and waits again.

    The actors of an `ActorSystem` have threads of their own. Those of an `ActorEngine` live
    in executors, which go on after the last of them is done, until they are told to
    terminate.

    A step is one atomic operation, one lock, wait or notification, or one of those steps of
    a thread that touch nothing of the group.
-/

namespace ZAF.Awaiting

/-! ### Threads -/

/-- The steps under a `lock_guard`. -/
inductive Guarded where
  | lock
  /-- What is done under the lock. -/
  | act
  | unlock
  deriving DecidableEq

/-- Where a thread is in a function of the group. -/
inductive Call where
  /-- After `fetch_add`. -/
  | inc_num_detached_actors (num_detached : UInt64)
  /-- After `fetch_sub`. -/
  | dec_num_alive_actors (num_alive : UInt64)
  /-- The notification of `alive_actors_done_cv`, in `dec_num_alive_actors` with the number
      of actors alive. -/
  | notify_alive (g : Guarded) (num_alive : Option UInt64)
  | notify_all (g : Guarded)
  | add_terminator (g : Guarded)
  deriving DecidableEq

inductive ExecutorMessage where
  | new_actor
  | rebalance (peer : Nat)
  | actor_transfer
  | termination
  deriving DecidableEq

inductive ExecutorPoint where
  | polling
  /-- In `start` of a new actor, which is not among its actors yet. -/
  | starting
  /-- In the loop over the poll items, after its own item. -/
  | handling
  /-- Its period is not 0. -/
  | rebalancing
  /-- After the loop, where the actors left are stopped. -/
  | stopping
  deriving DecidableEq

/-- How `start` of a new actor ends. -/
inductive Started where
  | activated
  | deactivated
  | thrown

structure Executor where
  point : ExecutorPoint
  inbox : List ExecutorMessage
  /-- The number of its actors. -/
  actors : Nat
  activated : Bool
  deriving DecidableEq

/-- What the thread of an actor of the group is. -/
inductive Work where
  /-- An actor that has a thread of its own. Has it been counted in `num_detached_actors`, and
      not been uncounted? No step looks at this. -/
  | actor (alive detached : Bool)
  | executor (e : Executor)
  deriving DecidableEq

structure Thread where
  work : Work
  call : Option Call
  deriving DecidableEq

/-- Where the thread is that destroys the group. -/
inductive Waiter where
  /-- Before the destructor. -/
  | running
  | load_alive
  | load_detached (num_alive : UInt64)
  /-- Before it locks the mutex in `await_alive_actors_done`, at first or after a wait. -/
  | lock_alive
  | test_alive
  | test_detached (num_alive : UInt64)
  | sleep_alive
  | unlock_alive
  | lock_terminators
  | take_terminators
  | unlock_terminators
  /-- Before it creates a scoped actor. -/
  | create
  | invoke
  /-- In `dec_num_alive_actors` for the scoped actor. -/
  | deleting
  | load_all
  | lock_all
  | test_all
  | test_all_detached (num_alive : UInt64)
  | sleep_all
  | unlock_all
  | returned
  /-- Before it sends `Termination` to an executor. -/
  | terminating (e : Nat)
  | destroyed
  deriving DecidableEq

/-! ### The group -/

structure Group where
  /-- Is it an `ActorEngine`? Its scoped actors are counted elsewhere. -/
  engine : Bool
  load_rebalance_period : UInt64
  num_alive_actors : UInt64
  num_detached_actors : UInt64
  /-- The holder of a mutex is a thread or, as `none`, the waiter. -/
  await_actors_done_mtx : Option (Option Nat)
  terminator_mutex : Option (Option Nat)
  /-- Terminators are named in the order in which they have been added. -/
  terminators : List Nat
  added : Nat
  invoked : List Nat
  waiter : Waiter
  /-- The terminators that it has taken. -/
  taken : List Nat
  /-- Where the waiter is in a function of the group that is not for waiting. -/
  waiter_call : Option Call
  threads : List Thread

inductive GroupStep where
  /-- The next step of the waiter; from `running`, the destructor begins. -/
  | waiter
  | waiter_call
  /-- The waiter wakes up without a notification. -/
  | wake
  /-- `spawn` by the waiter (`none`), or an actor of a thread; an engine hands the new actor
      to an executor. -/
  | spawn (caller : Option Nat) (executor : Nat)
  | add_terminator (caller : Option Nat)
  /-- `inc_num_detached_actors` by an actor of thread `i`, for the actor with thread `j`. -/
  | inc_num_detached_actors (i j : Nat)
  /-- By an actor for itself. -/
  | dec_num_detached_actors (i : Nat)
  /-- An actor is done: `fetch_sub`. -/
  | finish (i : Nat)
  /-- The next step of a thread in a function of the group. -/
  | call (i : Nat)
  /-- `zmq::poll` returns and the executor handles its next message, if there is one. -/
  | receive (i : Nat)
  | started (i : Nat) (started : Started)
  /-- The loop over the poll items ends. -/
  | end_round (i : Nat)
  /-- `load_infos`, and `Rebalance` messages to executors with their peers. -/
  | rebalance (i : Nat) (messages : List (Nat × Nat))

namespace Group

/-- The groups at the start: an `ActorSystem`, or an `ActorEngine` with executors. -/
def init (s : Group) : Prop :=
  ∃ (engine : Bool) (load_rebalance_period : UInt64) (num_executors : Nat),
    (engine = false → num_executors = 0) ∧
    s = {
      engine, load_rebalance_period
      num_alive_actors := 0, num_detached_actors := 0
      await_actors_done_mtx := none, terminator_mutex := none
      terminators := [], added := 0, invoked := []
      waiter := .running, taken := [], waiter_call := none
      threads := List.replicate num_executors ⟨.executor ⟨.polling, [], 0, true⟩, none⟩ }

/-- An `ActorSystem` in which nothing has been spawned. -/
def actor_system : Group where
  engine := false
  load_rebalance_period := 0
  num_alive_actors := 0
  num_detached_actors := 0
  await_actors_done_mtx := none
  terminator_mutex := none
  terminators := []
  added := 0
  invoked := []
  waiter := .running
  taken := []
  waiter_call := none
  threads := []

theorem init_actor_system : actor_system.init := ⟨false, 0, 0, fun _ => rfl, rfl⟩

/-! ### The functions of the group -/

/-- `alive_actors_done_cv.notify_one()` -/
def notify_alive (s : Group) : Group :=
  if s.waiter = .sleep_alive then { s with waiter := .lock_alive } else s

/-- `all_actors_done_cv.notify_one()` -/
def notify_all (s : Group) : Group :=
  if s.waiter = .sleep_all then { s with waiter := .lock_all } else s

/-- The end of `dec_num_alive_actors`. -/
def all_done (num_alive : UInt64) : Option Call :=
  if num_alive = 0 then some (.notify_all .lock) else none

/-- The next step in a function of the group. -/
def call_next (s : Group) (caller : Option Nat) : Call → Option (Option Call × Group)
  | .inc_num_detached_actors num_detached =>
    some (if num_detached = s.num_alive_actors then some (.notify_alive .lock none) else none, s)
  | .dec_num_alive_actors num_alive =>
    some (if num_alive = s.num_detached_actors then some (.notify_alive .lock (some num_alive))
      else all_done num_alive, s)
  | .notify_alive .lock num_alive =>
    if s.await_actors_done_mtx = none then
      some (some (.notify_alive .act num_alive), { s with await_actors_done_mtx := some caller })
    else none
  | .notify_alive .act num_alive =>
    some (some (.notify_alive .unlock num_alive), s.notify_alive)
  | .notify_alive .unlock num_alive =>
    some (num_alive.bind all_done, { s with await_actors_done_mtx := none })
  | .notify_all .lock =>
    if s.await_actors_done_mtx = none then
      some (some (.notify_all .act), { s with await_actors_done_mtx := some caller })
    else none
  | .notify_all .act => some (some (.notify_all .unlock), s.notify_all)
  | .notify_all .unlock => some (none, { s with await_actors_done_mtx := none })
  | .add_terminator .lock =>
    if s.terminator_mutex = none then
      some (some (.add_terminator .act), { s with terminator_mutex := some caller })
    else none
  | .add_terminator .act =>
    some (some (.add_terminator .unlock),
      { s with terminators := s.terminators ++ [s.added], added := s.added + 1 })
  | .add_terminator .unlock => some (none, { s with terminator_mutex := none })

/-! ### The waiter -/

def lock_mtx (s : Group) (waiter : Waiter) : Option Group :=
  if s.await_actors_done_mtx = none then
    some { s with await_actors_done_mtx := some none, waiter }
  else none

def unlock_mtx (s : Group) (waiter : Waiter) : Group :=
  { s with await_actors_done_mtx := none, waiter }

/-- A message to an executor. -/
def post (s : Group) (e : Nat) (m : ExecutorMessage) : Group :=
  { s with threads := s.threads.modify e fun t => match t.work with
    | .executor x => { t with work := .executor { x with inbox := x.inbox ++ [m] } }
    | .actor _ _ => t }

/-- Is there memory for one more actor? There are never as many as a `size_t` can count. -/
def has_room (s : Group) : Prop := s.num_alive_actors.toNat + 1 < 2 ^ 64

instance (s : Group) : Decidable s.has_room := by
  unfold has_room
  infer_instance

/-- `await_all_actors_done`, and the rest of the destructor. -/
def waiter_next (s : Group) : Option Group :=
  match s.waiter with
  | .running => if s.waiter_call = none then some { s with waiter := .load_alive } else none
  -- `await_alive_actors_done`
  | .load_alive => some { s with waiter := .load_detached s.num_alive_actors }
  | .load_detached num_alive =>
    some { s with
      waiter := if num_alive = s.num_detached_actors then .lock_terminators else .lock_alive }
  | .lock_alive => s.lock_mtx .test_alive
  | .test_alive => some { s with waiter := .test_detached s.num_alive_actors }
  | .test_detached num_alive =>
    if num_alive = s.num_detached_actors then some { s with waiter := .unlock_alive }
    else some (s.unlock_mtx .sleep_alive)
  | .sleep_alive => none
  | .unlock_alive => some (s.unlock_mtx .lock_terminators)
  -- `flush_terminators`
  | .lock_terminators =>
    if s.terminator_mutex = none then
      some { s with terminator_mutex := some none, waiter := .take_terminators }
    else none
  | .take_terminators =>
    some { s with terminators := [], taken := s.terminators, waiter := .unlock_terminators }
  | .unlock_terminators =>
    some { s with
      terminator_mutex := none
      waiter := if s.taken = [] then .load_all else .create }
  | .create =>
    if s.engine then some { s with waiter := .invoke }
    else if s.has_room then
      some { s with num_alive_actors := s.num_alive_actors + 1, waiter := .invoke }
    else none
  | .invoke =>
    match s.taken with
    | t :: taken => some { s with taken, invoked := s.invoked ++ [t] }
    | [] =>
      if s.engine then some { s with waiter := .load_all }
      else some { s with
        num_alive_actors := s.num_alive_actors - 1
        waiter_call := some (.dec_num_alive_actors (s.num_alive_actors - 1))
        waiter := .deleting }
  | .deleting => if s.waiter_call = none then some { s with waiter := .load_all } else none
  | .load_all =>
    some { s with waiter := if s.num_alive_actors = 0 then .returned else .lock_all }
  | .lock_all => s.lock_mtx .test_all
  | .test_all =>
    some { s with
      waiter := if s.num_alive_actors = 0 then .unlock_all
        else .test_all_detached s.num_alive_actors }
  | .test_all_detached num_alive =>
    if num_alive = s.num_detached_actors then some (s.unlock_mtx .sleep_all)
    else some { s with waiter := .unlock_all }
  | .sleep_all => none
  | .unlock_all => some (s.unlock_mtx .load_alive)
  -- `~ActorEngine`
  | .returned => some { s with waiter := if s.engine then .terminating 0 else .destroyed }
  | .terminating e =>
    if e < s.threads.length then some { s.post e .termination with waiter := .terminating (e + 1) }
    else some { s with waiter := .destroyed }
  | .destroyed => none

/-! ### Threads -/

def set_thread (s : Group) (i : Nat) (t : Thread) : Group :=
  { s with threads := s.threads.set i t }

/-- `spawn` -/
def spawn (s : Group) (executor : Nat) : Option Group :=
  if s.has_room then
    let s := { s with num_alive_actors := s.num_alive_actors + 1 }
    if s.engine then
      if executor < s.threads.length then some (s.post executor .new_actor) else none
    else some { s with threads := s.threads ++ [⟨.actor true false, none⟩] }
  else none

end Group

/-- Is the code of an actor running in the thread, outside the functions of the group? -/
def Thread.in_actor (t : Thread) : Bool :=
  t.call.isNone && match t.work with
    | .actor alive _ => alive
    | .executor x => match x.point with
      | .starting => true
      | .handling | .stopping => 0 < x.actors
      | .polling | .rebalancing => false

/-- The thread when an actor is done: it is deleted. -/
def Work.finished : Work → Option Work
  | .actor _ detached => some (.actor false detached)
  | .executor x => match x.point with
    | .starting => none
    | _ => some (.executor { x with actors := x.actors - 1 })

def Work.set_detached (detached : Bool) : Work → Work
  | .actor alive _ => .actor alive detached
  | .executor x => .executor x

namespace Group

/-- Thread `i` if the code of an actor is running in it. -/
def actor_of (s : Group) (i : Nat) : Option Thread := s.threads[i]?.filter Thread.in_actor

/-- The actor with thread `i` has been counted as detached, or uncounted. -/
def set_detached (s : Group) (i : Nat) (detached : Bool) : Group :=
  { s with threads := s.threads.modify i fun t => { t with work := t.work.set_detached detached } }

/-- Thread `i` if it is an executor, outside the functions of the group. -/
def executor_of (s : Group) (i : Nat) : Option Executor :=
  match s.threads[i]? with
  | some ⟨.executor x, none⟩ => some x
  | _ => none

def set_executor (s : Group) (i : Nat) (x : Executor) : Group :=
  s.set_thread i ⟨.executor x, none⟩

/-- `zmq::poll` and the handler of the next message. -/
def receive (s : Group) (i : Nat) (x : Executor) : Option Group :=
  match x.inbox with
  | [] =>
    -- there is a message for one of its actors
    if 0 < x.actors then some (s.set_executor i { x with point := .handling }) else none
  | .new_actor :: inbox => some (s.set_executor i { x with inbox, point := .starting })
  | .rebalance peer :: inbox =>
    if x.actors = 0 then some (s.set_executor i { x with inbox, point := .handling })
    else
      let s := s.set_executor i { x with inbox, point := .handling, actors := x.actors - 1 }
      some (s.post peer .actor_transfer)
  | .actor_transfer :: inbox =>
    some (s.set_executor i { x with inbox, point := .handling, actors := x.actors + 1 })
  | .termination :: inbox =>
    some (s.set_executor i { x with inbox, point := .handling, activated := false })

/-- The end of the handler of `NewActor`. An exception deactivates the executor itself. -/
def started (s : Group) (i : Nat) (x : Executor) : Started → Group
  | .activated => s.set_executor i { x with point := .handling, actors := x.actors + 1 }
  | .deactivated => s.set_executor i { x with point := .handling }
  | .thrown => s.set_executor i { x with point := .handling, activated := false }

/-- The end of a round: if the executor goes on, it reads `load_rebalance_period`. -/
def end_round (s : Group) (i : Nat) (x : Executor) : Group :=
  if x.activated then
    s.set_executor i
      { x with point := if s.load_rebalance_period = 0 then .polling else .rebalancing }
  else s.set_executor i { x with point := .stopping }

/-- Only the first executor sends `Rebalance` messages. -/
def rebalance (s : Group) (i : Nat) (x : Executor) (messages : List (Nat × Nat)) : Option Group :=
  if messages = [] ∨ i = 0 then
    let s := s.set_executor i { x with point := .polling }
    some (messages.foldl (fun s (e, peer) => s.post e (.rebalance peer)) s)
  else none

def next (s : Group) : GroupStep → Option Group
  | .waiter => s.waiter_next
  | .waiter_call =>
    match s.waiter_call with
    | some call => (s.call_next none call).map fun (waiter_call, s) => { s with waiter_call }
    | none => none
  | .wake =>
    match s.waiter with
    | .sleep_alive => some { s with waiter := .lock_alive }
    | .sleep_all => some { s with waiter := .lock_all }
    | _ => none
  | .spawn none executor => if s.waiter = .running then s.spawn executor else none
  | .spawn (some i) executor => (s.actor_of i).bind fun _ => s.spawn executor
  | .add_terminator none =>
    if s.waiter = .running ∧ s.waiter_call = none then
      some { s with waiter_call := some (.add_terminator .lock) }
    else none
  | .add_terminator (some i) =>
    (s.actor_of i).map fun t => s.set_thread i { t with call := some (.add_terminator .lock) }
  | .inc_num_detached_actors i j =>
    (s.actor_of i).map fun t =>
      let num_detached := s.num_detached_actors + 1
      let s := s.set_thread i { t with call := some (.inc_num_detached_actors num_detached) }
      { s.set_detached j true with num_detached_actors := num_detached }
  | .dec_num_detached_actors i =>
    (s.actor_of i).map fun _ =>
      { s.set_detached i false with num_detached_actors := s.num_detached_actors - 1 }
  | .finish i => do
    let t ← s.actor_of i
    let work ← t.work.finished
    let num_alive := s.num_alive_actors - 1
    let s := s.set_thread i ⟨work, some (.dec_num_alive_actors num_alive)⟩
    return { s with num_alive_actors := num_alive }
  | .call i => do
    let t ← s.threads[i]?
    let call ← t.call
    let (call, s) ← s.call_next (some i) call
    return s.set_thread i { t with call }
  | .receive i =>
    (s.executor_of i).bind fun x => if x.point = .polling then s.receive i x else none
  | .started i started =>
    (s.executor_of i).bind fun x =>
      if x.point = .starting then some (s.started i x started) else none
  | .end_round i =>
    (s.executor_of i).bind fun x => if x.point = .handling then some (s.end_round i x) else none
  | .rebalance i messages =>
    (s.executor_of i).bind fun x =>
      if x.point = .rebalancing then s.rebalance i x messages else none

def system : LTS.System Group GroupStep where
  init := init
  next := next

/-- What a step does. -/
inductive Stepped (s : Group) : GroupStep → Group → Prop where
  | waiter (s' : Group) (hwaiter : s.waiter_next = some s') : Stepped s .waiter s'
  | waiter_call (c : Call) (r : Option Call × Group) (hcall : s.waiter_call = some c)
      (hr : s.call_next none c = some r) : Stepped s .waiter_call { r.2 with waiter_call := r.1 }
  | wake_alive (hw : s.waiter = .sleep_alive) : Stepped s .wake { s with waiter := .lock_alive }
  | wake_all (hw : s.waiter = .sleep_all) : Stepped s .wake { s with waiter := .lock_all }
  | spawn_waiter (executor : Nat) (s' : Group) (hw : s.waiter = .running)
      (hspawn : s.spawn executor = some s') : Stepped s (.spawn none executor) s'
  | spawn_actor (i executor : Nat) (t : Thread) (s' : Group) (ht : s.actor_of i = some t)
      (hspawn : s.spawn executor = some s') : Stepped s (.spawn (some i) executor) s'
  | add_terminator_waiter (hw : s.waiter = .running) (hcall : s.waiter_call = none) :
      Stepped s (.add_terminator none) { s with waiter_call := some (.add_terminator .lock) }
  | add_terminator_actor (i : Nat) (t : Thread) (ht : s.actor_of i = some t) :
      Stepped s (.add_terminator (some i))
        (s.set_thread i { t with call := some (.add_terminator .lock) })
  | inc_num_detached_actors (i j : Nat) (t : Thread) (ht : s.actor_of i = some t) :
      Stepped s (.inc_num_detached_actors i j)
        { (s.set_thread i { t with
            call := some (.inc_num_detached_actors (s.num_detached_actors + 1)) }).set_detached
              j true with
          num_detached_actors := s.num_detached_actors + 1 }
  | dec_num_detached_actors (i : Nat) (t : Thread) (ht : s.actor_of i = some t) :
      Stepped s (.dec_num_detached_actors i)
        { s.set_detached i false with num_detached_actors := s.num_detached_actors - 1 }
  | finish (i : Nat) (t : Thread) (work : Work) (ht : s.actor_of i = some t)
      (hwork : t.work.finished = some work) : Stepped s (.finish i)
        { s.set_thread i ⟨work, some (.dec_num_alive_actors (s.num_alive_actors - 1))⟩ with
          num_alive_actors := s.num_alive_actors - 1 }
  | call (i : Nat) (t : Thread) (c : Call) (r : Option Call × Group)
      (ht : s.threads[i]? = some t) (hcall : t.call = some c)
      (hr : s.call_next (some i) c = some r) :
      Stepped s (.call i) (r.2.set_thread i { t with call := r.1 })
  | receive (i : Nat) (x : Executor) (s' : Group) (hx : s.executor_of i = some x)
      (hpoint : x.point = .polling) (hreceive : s.receive i x = some s') :
      Stepped s (.receive i) s'
  | started (i : Nat) (r : Started) (x : Executor) (hx : s.executor_of i = some x)
      (hpoint : x.point = .starting) : Stepped s (.started i r) (s.started i x r)
  | end_round (i : Nat) (x : Executor) (hx : s.executor_of i = some x)
      (hpoint : x.point = .handling) : Stepped s (.end_round i) (s.end_round i x)
  | rebalance (i : Nat) (messages : List (Nat × Nat)) (x : Executor) (s' : Group)
      (hx : s.executor_of i = some x) (hpoint : x.point = .rebalancing)
      (hrebalance : s.rebalance i x messages = some s') : Stepped s (.rebalance i messages) s'

variable {s s' s'' : Group}

theorem stepped_of_next {label : GroupStep} (hnext : s.next label = some s') :
    s.Stepped label s' := by
  cases label with
  | waiter => exact .waiter s' hnext
  | waiter_call =>
    simp only [next] at hnext
    split at hnext
    · next c hcall =>
      obtain ⟨r, hr, rfl⟩ := Option.map_eq_some_iff.mp hnext
      exact .waiter_call c r hcall hr
    · cases hnext
  | wake =>
    simp only [next] at hnext
    split at hnext
    · next hw =>
      cases hnext
      exact .wake_alive hw
    · next hw =>
      cases hnext
      exact .wake_all hw
    · cases hnext
  | spawn caller executor =>
    cases caller with
    | none =>
      simp only [next] at hnext
      split at hnext
      · next hw => exact .spawn_waiter executor s' hw hnext
      · cases hnext
    | some i =>
      simp only [next, Option.bind_eq_some_iff] at hnext
      obtain ⟨t, ht, hspawn⟩ := hnext
      exact .spawn_actor i executor t s' ht hspawn
  | add_terminator caller =>
    cases caller with
    | none =>
      simp only [next] at hnext
      split at hnext <;> cases hnext
      next hfree => exact .add_terminator_waiter hfree.1 hfree.2
    | some i =>
      simp only [next, Option.map_eq_some_iff] at hnext
      obtain ⟨t, ht, rfl⟩ := hnext
      exact .add_terminator_actor i t ht
  | inc_num_detached_actors i j =>
    simp only [next, Option.map_eq_some_iff] at hnext
    obtain ⟨t, ht, rfl⟩ := hnext
    exact .inc_num_detached_actors i j t ht
  | dec_num_detached_actors i =>
    simp only [next, Option.map_eq_some_iff] at hnext
    obtain ⟨t, ht, rfl⟩ := hnext
    exact .dec_num_detached_actors i t ht
  | finish i =>
    simp only [next, Option.bind_eq_bind, Option.bind_eq_some_iff] at hnext
    obtain ⟨t, ht, work, hwork, hnext⟩ := hnext
    cases hnext
    exact .finish i t work ht hwork
  | call i =>
    simp only [next, Option.bind_eq_bind, Option.bind_eq_some_iff] at hnext
    obtain ⟨t, ht, c, hcall, r, hr, hnext⟩ := hnext
    cases hnext
    exact .call i t c r ht hcall hr
  | receive i =>
    simp only [next, Option.bind_eq_some_iff] at hnext
    obtain ⟨x, hx, hnext⟩ := hnext
    split at hnext
    · next hpoint => exact .receive i x s' hx hpoint hnext
    · cases hnext
  | started i r =>
    simp only [next, Option.bind_eq_some_iff] at hnext
    obtain ⟨x, hx, hnext⟩ := hnext
    split at hnext <;> cases hnext
    next hpoint => exact .started i r x hx hpoint
  | end_round i =>
    simp only [next, Option.bind_eq_some_iff] at hnext
    obtain ⟨x, hx, hnext⟩ := hnext
    split at hnext <;> cases hnext
    next hpoint => exact .end_round i x hx hpoint
  | rebalance i messages =>
    simp only [next, Option.bind_eq_some_iff] at hnext
    obtain ⟨x, hx, hnext⟩ := hnext
    split at hnext
    · next hpoint => exact .rebalance i messages x s' hx hpoint hnext
    · cases hnext

/-! ### Steps that only change threads -/

def OnlyThreads (s s' : Group) : Prop := ∃ threads, s' = { s with threads }

theorem OnlyThreads.refl (s : Group) : OnlyThreads s s := ⟨s.threads, rfl⟩

theorem OnlyThreads.trans (h : OnlyThreads s s') (h' : OnlyThreads s' s'') : OnlyThreads s s'' := by
  obtain ⟨threads, rfl⟩ := h
  obtain ⟨threads', rfl⟩ := h'
  exact ⟨threads', rfl⟩

theorem only_threads_post (s : Group) (e : Nat) (m : ExecutorMessage) :
    OnlyThreads s (s.post e m) :=
  ⟨_, rfl⟩

theorem only_threads_set_thread (s : Group) (i : Nat) (t : Thread) :
    OnlyThreads s (s.set_thread i t) :=
  ⟨_, rfl⟩

theorem only_threads_receive {i : Nat} {x : Executor} (h : s.receive i x = some s') :
    OnlyThreads s s' := by
  unfold receive at h
  split at h
  · split at h <;> cases h
    exact only_threads_set_thread ..
  · cases h
    exact only_threads_set_thread ..
  · split at h <;> cases h
    · exact only_threads_set_thread ..
    · exact (only_threads_set_thread ..).trans (only_threads_post ..)
  · cases h
    exact only_threads_set_thread ..
  · cases h
    exact only_threads_set_thread ..

theorem only_threads_started (s : Group) (i : Nat) (x : Executor) (r : Started) :
    OnlyThreads s (s.started i x r) := by
  cases r <;> exact only_threads_set_thread ..

theorem only_threads_end_round (s : Group) (i : Nat) (x : Executor) :
    OnlyThreads s (s.end_round i x) := by
  unfold end_round
  split <;> exact only_threads_set_thread ..

theorem only_threads_posts (messages : List (Nat × Nat)) (s : Group) :
    OnlyThreads s (messages.foldl (fun s (e, peer) => s.post e (.rebalance peer)) s) := by
  induction messages generalizing s with
  | nil => exact .refl s
  | cons m messages ih => exact (only_threads_post s m.1 (.rebalance m.2)).trans (ih _)

theorem only_threads_rebalance {i : Nat} {x : Executor} {messages : List (Nat × Nat)}
    (h : s.rebalance i x messages = some s') : OnlyThreads s s' := by
  unfold rebalance at h
  split at h <;> cases h
  exact (only_threads_set_thread ..).trans (only_threads_posts ..)

end Group

/-! ### Steps of others than the waiter -/

/-- Is a terminator added in this step? -/
def Group.adds (s : Group) : GroupStep → Bool
  | .call i => s.threads[i]?.any fun t => t.call == some (.add_terminator .act)
  | .waiter_call => s.waiter_call == some (.add_terminator .act)
  | _ => false

/-- The waiter may be woken up, but the terminators are left alone. -/
structure Leaves (s s' : Group) : Prop where
  engine : s'.engine = s.engine
  terminators : s'.terminators = s.terminators
  added : s'.added = s.added
  invoked : s'.invoked = s.invoked
  taken : s'.taken = s.taken
  waiter : s'.waiter = s.waiter ∨ s.waiter = .sleep_alive ∧ s'.waiter = .lock_alive ∨
    s.waiter = .sleep_all ∧ s'.waiter = .lock_all

/-- A terminator is added. -/
structure Adds (s s' : Group) : Prop where
  engine : s'.engine = s.engine
  terminators : s'.terminators = s.terminators ++ [s.added]
  added : s'.added = s.added + 1
  invoked : s'.invoked = s.invoked
  taken : s'.taken = s.taken
  waiter : s'.waiter = s.waiter

namespace Group

variable {s s' : Group} {i : Nat}

theorem leaves_of_eq (engine : s'.engine = s.engine)
    (terminators : s'.terminators = s.terminators) (added : s'.added = s.added)
    (invoked : s'.invoked = s.invoked) (taken : s'.taken = s.taken)
    (waiter : s'.waiter = s.waiter) : Leaves s s' :=
  ⟨engine, terminators, added, invoked, taken, .inl waiter⟩

theorem leaves_refl (s : Group) : Leaves s s := leaves_of_eq rfl rfl rfl rfl rfl rfl

theorem leaves_notify_alive (s : Group) : Leaves s s.notify_alive := by
  unfold notify_alive
  split
  · next hwaiter => exact ⟨rfl, rfl, rfl, rfl, rfl, .inr (.inl ⟨hwaiter, rfl⟩)⟩
  · exact leaves_refl s

theorem leaves_notify_all (s : Group) : Leaves s s.notify_all := by
  unfold notify_all
  split
  · next hwaiter => exact ⟨rfl, rfl, rfl, rfl, rfl, .inr (.inr ⟨hwaiter, rfl⟩)⟩
  · exact leaves_refl s

theorem leaves_call_next {caller : Option Nat} {call : Call} {r : Option Call × Group}
    (h : s.call_next caller call = some r) (hcall : call ≠ .add_terminator .act) :
    Leaves s r.2 := by
  unfold call_next at h
  split at h
  · cases h
    exact leaves_refl s
  · cases h
    exact leaves_refl s
  · split at h <;> cases h
    exact leaves_of_eq rfl rfl rfl rfl rfl rfl
  · cases h
    exact leaves_notify_alive s
  · cases h
    exact leaves_of_eq rfl rfl rfl rfl rfl rfl
  · split at h <;> cases h
    exact leaves_of_eq rfl rfl rfl rfl rfl rfl
  · cases h
    exact leaves_notify_all s
  · cases h
    exact leaves_of_eq rfl rfl rfl rfl rfl rfl
  · split at h <;> cases h
    exact leaves_of_eq rfl rfl rfl rfl rfl rfl
  · exact absurd rfl hcall
  · cases h
    exact leaves_of_eq rfl rfl rfl rfl rfl rfl

theorem adds_call_next {caller : Option Nat} {r : Option Call × Group}
    (h : s.call_next caller (.add_terminator .act) = some r) : Adds s r.2 := by
  cases h
  exact ⟨rfl, rfl, rfl, rfl, rfl, rfl⟩

theorem leaves_spawn {executor : Nat} (h : s.spawn executor = some s') : Leaves s s' := by
  unfold spawn at h
  split at h
  · dsimp only at h
    split at h
    · split at h <;> cases h
      exact leaves_of_eq rfl rfl rfl rfl rfl rfl
    · cases h
      exact leaves_of_eq rfl rfl rfl rfl rfl rfl
  · cases h

theorem leaves_of_only_threads (h : OnlyThreads s s') : Leaves s s' := by
  obtain ⟨threads, rfl⟩ := h
  exact leaves_of_eq rfl rfl rfl rfl rfl rfl

theorem leaves_set_thread (h : Leaves s s') (i : Nat) (t : Thread) :
    Leaves s (s'.set_thread i t) :=
  ⟨h.engine, h.terminators, h.added, h.invoked, h.taken, h.waiter⟩

theorem adds_of_adds {label : GroupStep} (hadds : s.adds label = true)
    (hnext : s.next label = some s') : Adds s s' := by
  cases stepped_of_next hnext with
  | call i t c r ht hcall hr =>
    have hc : c = .add_terminator .act := by simpa [adds, ht, hcall] using hadds
    obtain ⟨h₁, h₂, h₃, h₄, h₅, h₆⟩ := adds_call_next (hc ▸ hr)
    exact ⟨h₁, h₂, h₃, h₄, h₅, h₆⟩
  | waiter_call c r hcall hr =>
    have hc : c = .add_terminator .act := by simpa [adds, hcall] using hadds
    obtain ⟨h₁, h₂, h₃, h₄, h₅, h₆⟩ := adds_call_next (hc ▸ hr)
    exact ⟨h₁, h₂, h₃, h₄, h₅, h₆⟩
  | _ => cases hadds

theorem leaves_of_not_adds {label : GroupStep} (hwaiter : label ≠ .waiter)
    (hadds : s.adds label = false) (hnext : s.next label = some s') : Leaves s s' := by
  cases stepped_of_next hnext with
  | waiter => exact absurd rfl hwaiter
  | waiter_call c r hcall hr =>
    have hne : c ≠ .add_terminator .act := by
      rintro rfl
      simp [adds, hcall] at hadds
    obtain ⟨h₁, h₂, h₃, h₄, h₅, h₆⟩ := leaves_call_next hr hne
    exact ⟨h₁, h₂, h₃, h₄, h₅, h₆⟩
  | wake_alive hw => exact ⟨rfl, rfl, rfl, rfl, rfl, .inr (.inl ⟨hw, rfl⟩)⟩
  | wake_all hw => exact ⟨rfl, rfl, rfl, rfl, rfl, .inr (.inr ⟨hw, rfl⟩)⟩
  | spawn_waiter executor s' hw hspawn => exact leaves_spawn hspawn
  | spawn_actor i executor t s' ht hspawn => exact leaves_spawn hspawn
  | call i t c r ht hcall hr =>
    have hne : c ≠ .add_terminator .act := by
      rintro rfl
      simp [adds, ht, hcall] at hadds
    exact leaves_set_thread (leaves_call_next hr hne) ..
  | receive i x s' hx hpoint hreceive =>
    exact leaves_of_only_threads (only_threads_receive hreceive)
  | started i r x hx hpoint => exact leaves_of_only_threads (only_threads_started ..)
  | end_round i x hx hpoint => exact leaves_of_only_threads (only_threads_end_round ..)
  | rebalance i messages x s' hx hpoint hrebalance =>
    exact leaves_of_only_threads (only_threads_rebalance hrebalance)
  | add_terminator_waiter | add_terminator_actor | inc_num_detached_actors
  | dec_num_detached_actors | finish => exact leaves_of_eq rfl rfl rfl rfl rfl rfl

end Group

end ZAF.Awaiting
