import ZAF.ActorBehavior.Step
import ZAF.EventLoop.Timeout
import ZAF.Framework.SwapRemove

/-! # Loops that host actors

    `ActorEngine::Executor::launch` and `NetGateActor::launch` wait in `zmq::poll` for
    the sockets of the actors that they host, and call `receive_once` for those that
    have something to read.

    A handler may wait for a reply. Other messages that arrive meanwhile are put into
    `pending_messages` of the actor, where `zmq::poll` does not see them. `receive_once`
    takes them out again, but it is called only when the socket has something to read.

    The actors are those of `ActorBehavior`, with their calls and their messages.
-/

namespace ZAF.Hosting

open LTS ActorBehavior SwapRemove

variable {Body : Type} {queues : Nat}

/-! ### Hosted actors -/

/-- Nothing has been put off, or the socket of the actor has something to read. -/
def Attended (a : State Body queues) : Prop :=
  a.pending_messages = [] ∨ a.recv_socket ≠ []

instance (a : State Body queues) : Decidable (Attended a) :=
  decidable_of_iff (a.pending_messages.isEmpty = true ∨ a.recv_socket.isEmpty = false)
    (by simp [Attended])

/-- The steps that others take: a message arrives. -/
def arrival : Label Body queues → Bool
  | .arrive _ => true
  | .push .. => true
  | _ => false

/-- The steps of the thread inside of a call. An exception that leaves all calls is not
    among them. -/
def inner (a : State Body queues) : Label Body queues → Bool
  | .arrive _ => false
  | .push .. => false
  | .user (.throws k) => k < a.stack.length
  | .user .terminate_actor => false
  | _ => true

/-- What an arrival keeps. -/
theorem next_arrival {a a' : State Body queues} {l : Label Body queues}
    (hl : arrival l = true) (hnext : a.next l = some a') :
    a'.activated = a.activated ∧ (Attended a → Attended a') := by
  unfold State.next at hnext
  split at hnext
  · cases hnext
  cases l with
  | arrive content =>
    cases hnext
    refine ⟨rfl, fun _ => .inr ?_⟩
    show a.recv_socket ++ [_] ≠ []
    simp
  | push queue content =>
    cases hnext
    exact ⟨rfl, id⟩
  | user step => cases hl
  | loop polls => cases hl
  | pop queue => cases hl
  | consumed => cases hl

/-! ### The loop of an executor -/

/-- An element of `actors` and the element of `poll_items` at the same index. -/
structure PollItem (Body : Type) (queues : Nat) where
  actor : State Body queues
  /-- `revents & ZMQ_POLLIN` -/
  revents : Bool

/-- Where the loop of an executor stands. -/
inductive ExecutorPoint where
  | polling
  /-- `actors[i]` is looked at next. -/
  | scanning (i : Nat)
  /-- In `receive_once` of `actors[i]`. -/
  | handling (i : Nat)
  | stopped
  deriving DecidableEq

/-- An executor. `items[0]` is the executor itself. -/
structure Executor (Body : Type) (queues : Nat) where
  items : List (PollItem Body queues)
  point : ExecutorPoint

inductive ExecutorLabel (Body : Type) (queues : Nat) where
  /-- A message arrives at an actor. -/
  | arrival (i : Nat) (l : Label Body queues)
  /-- `zmq::poll` returns. -/
  | poll (revents : List Bool)
  | visit (polls : Nat)
  /-- A step of the actor that handles something. -/
  | run (l : Label Body queues)
  /-- The executor catches an exception. -/
  | catch_exception
  /-- `receive_once` has returned. -/
  | handled
  /-- The handlers of `NewActor` and `ActorTransfer`, for an actor that has been started
      or that another executor has hosted. -/
  | listen_to_actor (new_actor : State Body queues)
  /-- The handler of `Rebalance` sends an actor away. -/
  | rebalance (i : Nat)
  /-- The end of the scan. -/
  | round

namespace Executor

def set_actor (s : Executor Body queues) (i : Nat) (item : PollItem Body queues)
    (point : ExecutorPoint) (actor : State Body queues) : Executor Body queues :=
  { items := s.items.set i { item with actor }, point }

/-- Does the executor run one of its own handlers? -/
def own_handler (s : Executor Body queues) : Bool :=
  s.point = .handling 0 && s.items[0]?.any fun own => !own.actor.stack.isEmpty

def poll (s : Executor Body queues) (revents : List Bool) : Option (Executor Body queues) :=
  if s.point = .polling ∧ revents.length = s.items.length ∧ true ∈ revents ∧
      (s.items.zip revents).all (fun p => !p.2 || !p.1.actor.recv_socket.isEmpty) then
    some { items := s.items.zipWith (fun item revents => { item with revents }) revents
           point := .scanning 0 }
  else none

def next (s : Executor Body queues) : ExecutorLabel Body queues → Option (Executor Body queues)
  | .arrival i l =>
    match s.items[i]? with
    | some item =>
      if arrival l then (item.actor.next l).map (s.set_actor i item s.point) else none
    | none => none
  | .poll revents => s.poll revents
  | .visit polls =>
    match s.point with
    | .scanning i =>
      match s.items[i]? with
      | some item =>
        if item.revents then
          (item.actor.next (.user (.receive_once polls))).map (s.set_actor i item (.handling i))
        else some { s with point := .scanning (i + 1) }
      | none => none
    | _ => none
  | .run l =>
    match s.point with
    | .handling i =>
      match s.items[i]? with
      | some item =>
        if !item.actor.stack.isEmpty && inner item.actor l then
          (item.actor.next l).map (s.set_actor i item (.handling i))
        else none
      | none => none
    | _ => none
  | .catch_exception =>
    match s.point with
    | .handling i =>
      match s.items[i]? with
      | some item =>
        if !item.actor.stack.isEmpty && user_code item.actor.stack then
          -- the exception ends all calls; `actors[i]->deactivate()`
          some (s.set_actor i item (.handling i)
            { item.actor with stack := [], activated := false })
        else none
      | none => none
    | _ => none
  | .handled =>
    match s.point with
    | .handling i =>
      match s.items[i]? with
      | some item =>
        if !item.actor.stack.isEmpty then none
        else if !item.actor.activated && i ≠ 0 then
          some { items := swap_remove s.items i, point := .scanning i }
        else some { s with point := .scanning (i + 1) }
      | none => none
    | _ => none
  | .listen_to_actor new_actor =>
    if s.own_handler && new_actor.stack.isEmpty && new_actor.activated then
      some { s with items := s.items ++ [⟨new_actor, false⟩] }
    else none
  | .rebalance i =>
    if s.own_handler && i ≠ 0 && i < s.items.length then
      some { s with items := swap_remove s.items i }
    else none
  | .round =>
    match s.point with
    | .scanning i =>
      match s.items[i]?, s.items[0]? with
      | none, some own =>
        some { s with point := if own.actor.activated then .polling else .stopped }
      | _, _ => none
    | _ => none

def system (Body : Type) (queues : Nat) :
    System (Executor Body queues) (ExecutorLabel Body queues) where
  init s := s = ⟨[⟨start Body queues, false⟩], .polling⟩
  next := next

/-- `zmq::poll` blocks. It has no timeout. -/
def Blocks (s : Executor Body queues) : Prop :=
  s.point = .polling ∧ ∀ item ∈ s.items, item.actor.recv_socket = []

/-- An actor that stays is attended when its call has returned, and when it comes. -/
def Attends (s : Executor Body queues) : ExecutorLabel Body queues → Prop
  | .handled =>
    match s.point with
    | .handling i => ∀ item ∈ s.items[i]?, item.actor.activated = true → Attended item.actor
    | _ => True
  | .listen_to_actor new_actor => Attended new_actor
  | _ => True

instance (s : Executor Body queues) (l : ExecutorLabel Body queues) : Decidable (s.Attends l) := by
  unfold Attends
  split
  · split <;> infer_instance
  · infer_instance
  · infer_instance

variable {s s' : Executor Body queues}

/-! ### What an executor keeps -/

/-- What holds of the actor at `i`, when no call of its `receive_once` is running. Only
    the executor itself stays when it is deactivated. -/
structure ItemSound (i : Nat) (a : State Body queues) : Prop where
  activated : i ≠ 0 → a.activated = true
  attended : a.activated = true → Attended a

theorem ItemSound.any {a : State Body queues} {i : Nat} (h : ItemSound i a) (hi : i ≠ 0) (j : Nat) :
    ItemSound j a :=
  ⟨fun _ => h.activated hi, h.attended⟩

theorem ItemSound.arrival {a a' : State Body queues} {i : Nat} {l : Label Body queues}
    (h : ItemSound i a) (hl : Hosting.arrival l = true) (hnext : a.next l = some a') :
    ItemSound i a' := by
  obtain ⟨hactivated, hattended⟩ := next_arrival hl hnext
  constructor
  · intro hi
    rw [hactivated]
    exact h.activated hi
  · intro ha
    exact hattended (h.attended (hactivated ▸ ha))

structure Sound (s : Executor Body queues) : Prop where
  items : ∀ i item, s.items[i]? = some item → s.point ≠ .handling i → ItemSound i item.actor
  /-- The executor polls only while it is activated. -/
  polling : s.point = .polling → ∀ own, s.items[0]? = some own → own.actor.activated = true

/-- What is left was there before, at another index or at the same. -/
theorem getElem?_swap_remove {items : List (PollItem Body queues)} {i j : Nat}
    {item : PollItem Body queues} (h : (swap_remove items i)[j]? = some item) :
    j ≠ i ∧ items[j]? = some item ∨ j = i ∧ ∃ k, i < k ∧ items[k]? = some item := by
  unfold swap_remove at h
  split at h
  · next last hlast =>
    rw [List.getElem?_dropLast, List.length_set] at h
    split at h
    · next hj =>
      by_cases hi : j = i
      · subst hi
        rw [List.getElem?_set_self (by omega)] at h
        cases h
        rw [List.getLast?_eq_getElem?] at hlast
        exact .inr ⟨rfl, items.length - 1, by omega, hlast⟩
      · rw [List.getElem?_set_ne (Ne.symm hi)] at h
        exact .inl ⟨hi, h⟩
    · cases h
  · next hlast =>
    rw [List.getLast?_eq_none_iff] at hlast
    subst hlast
    cases h

theorem getElem?_set_actor {i j : Nat} {item item' : PollItem Body queues} {point : ExecutorPoint}
    {a : State Body queues} (h : (s.set_actor i item point a).items[j]? = some item') :
    j ≠ i ∧ s.items[j]? = some item' ∨ j = i ∧ item'.actor = a := by
  change (s.items.set i { item with actor := a })[j]? = some item' at h
  by_cases hi : j = i
  · subst hi
    obtain ⟨hj, heq⟩ := List.getElem?_eq_some_iff.mp h
    rw [List.getElem_set_self] at heq
    exact .inr ⟨rfl, heq ▸ rfl⟩
  · rw [List.getElem?_set_ne (Ne.symm hi)] at h
    exact .inl ⟨hi, h⟩

/-- The actor at `i` runs. -/
theorem Sound.handling (h : s.Sound) {i : Nat} (item : PollItem Body queues)
    (a : State Body queues) (hpoint : s.point = .scanning i ∨ s.point = .handling i) :
    (s.set_actor i item (.handling i) a).Sound := by
  constructor
  · intro j item' hj hother
    rcases getElem?_set_actor hj with ⟨hi, hj⟩ | ⟨rfl, -⟩
    · apply h.items j item' hj
      rcases hpoint with hpoint | hpoint <;> rw [hpoint]
      · exact ExecutorPoint.noConfusion
      · exact fun heq => hi (ExecutorPoint.handling.inj heq).symm
    · exact absurd rfl hother
  · exact ExecutorPoint.noConfusion

theorem Sound.arrival (h : s.Sound) {i : Nat} {item : PollItem Body queues}
    (hitem : s.items[i]? = some item) {l : Label Body queues} (hl : Hosting.arrival l = true)
    {a : State Body queues} (hnext : item.actor.next l = some a) :
    (s.set_actor i item s.point a).Sound := by
  constructor
  · intro j item' hj hother
    rcases getElem?_set_actor hj with ⟨-, hj⟩ | ⟨rfl, rfl⟩
    · exact h.items j item' hj hother
    · exact (h.items j item hitem hother).arrival hl hnext
  · intro hpoint own hown
    rcases getElem?_set_actor hown with ⟨-, hown⟩ | ⟨rfl, rfl⟩
    · exact h.polling hpoint own hown
    · rw [(next_arrival hl hnext).1]
      exact h.polling hpoint item hitem

/-- An actor is removed that is not the executor. -/
theorem Sound.swap_remove (h : s.Sound) {i : Nat} (hi : i ≠ 0) {point : ExecutorPoint}
    (hother : ∀ j, j ≠ i → point ≠ .handling j → s.point ≠ .handling j)
    (hbehind : ∀ k, i < k → s.point ≠ .handling k) (hpoint : point ≠ .polling) :
    Sound { items := SwapRemove.swap_remove s.items i, point } := by
  constructor
  · intro j item hj hnot
    rcases getElem?_swap_remove hj with ⟨hji, hj⟩ | ⟨rfl, k, hk, hkitem⟩
    · exact h.items j item hj (hother j hji hnot)
    · exact (h.items k item hkitem (hbehind k hk)).any (by omega) j
  · exact fun hpolling => absurd hpolling hpoint

theorem Sound.poll (h : s.Sound) {revents : List Bool} (hpoll : s.poll revents = some s') :
    s'.Sound := by
  unfold Executor.poll at hpoll
  split at hpoll
  · next hready =>
    cases hpoll
    constructor
    · intro i item hitem _
      obtain ⟨item', r, hitem', -, rfl⟩ := List.getElem?_zipWith_eq_some.mp hitem
      exact h.items i item' hitem' (by rw [hready.1]; exact ExecutorPoint.noConfusion)
    · exact ExecutorPoint.noConfusion
  · cases hpoll

/-- An actor comes while the executor runs a handler of its own. -/
theorem Sound.listen_to_actor (h : s.Sound) {new_actor : State Body queues}
    (hactivated : new_actor.activated = true) (hattended : Attended new_actor)
    (hpoint : s.point = .handling 0) :
    Sound { s with items := s.items ++ [⟨new_actor, false⟩] } := by
  constructor
  · intro i item hitem hother
    rcases Nat.lt_or_ge i s.items.length with hi | hi
    · rw [List.getElem?_append_left hi] at hitem
      exact h.items i item hitem hother
    · rw [List.getElem?_append_right hi, List.getElem?_singleton] at hitem
      split at hitem
      · cases hitem
        exact ⟨fun _ => hactivated, fun _ => hattended⟩
      · cases hitem
  · intro hpolling
    rw [show s.point = .polling from hpolling] at hpoint
    cases hpoint

/-- `receive_once` has returned, and the actor stays. -/
theorem Sound.returned (h : s.Sound) {i : Nat} {item : PollItem Body queues}
    (hpoint : s.point = .handling i) (hitem : s.items[i]? = some item)
    (hstays : i ≠ 0 → item.actor.activated = true)
    (hattended : item.actor.activated = true → Attended item.actor) :
    Sound { s with point := .scanning (i + 1) } := by
  constructor
  · intro j item' hj _
    by_cases hji : j = i
    · subst hji
      cases hitem.symm.trans hj
      exact ⟨hstays, hattended⟩
    · apply h.items j item' hj
      rw [hpoint]
      exact fun heq => hji (ExecutorPoint.handling.inj heq).symm
  · exact ExecutorPoint.noConfusion

theorem own_handler_point (h : s.own_handler = true) : s.point = .handling 0 := by
  unfold own_handler at h
  rw [Bool.and_eq_true, decide_eq_true_eq] at h
  exact h.1

/-- A step of the actor at `i`, whose `receive_once` is running. -/
theorem exists_item_of_handling {f : Nat → PollItem Body queues → Option (Executor Body queues)}
    (h : (match s.point with
      | .handling i =>
        match s.items[i]? with
        | some item => f i item
        | none => none
      | _ => none) = some s') :
    ∃ i item, s.point = .handling i ∧ s.items[i]? = some item ∧ f i item = some s' := by
  split at h
  · next i hpoint =>
    split at h
    · next item hitem => exact ⟨i, item, hpoint, hitem, h⟩
    · cases h
  · cases h

theorem Sound.next (h : s.Sound) {l : ExecutorLabel Body queues} (hattends : s.Attends l)
    (hnext : s.next l = some s') : s'.Sound := by
  cases l with
  | arrival i l =>
    simp only [Executor.next] at hnext
    split at hnext
    · next item hitem =>
      split at hnext
      · next hl =>
        obtain ⟨a, ha, rfl⟩ := Option.map_eq_some_iff.mp hnext
        exact h.arrival hitem hl ha
      · cases hnext
    · cases hnext
  | poll revents => exact h.poll hnext
  | visit polls =>
    simp only [Executor.next] at hnext
    split at hnext
    · next i hpoint =>
      split at hnext
      · next item hitem =>
        split at hnext
        · obtain ⟨a, -, rfl⟩ := Option.map_eq_some_iff.mp hnext
          exact h.handling item a (.inl hpoint)
        · -- nothing has been reported of this actor
          cases hnext
          refine ⟨fun j item hj _ => h.items j item hj ?_, ExecutorPoint.noConfusion⟩
          rw [hpoint]
          exact ExecutorPoint.noConfusion
      · cases hnext
    · cases hnext
  | run l =>
    obtain ⟨i, item, hpoint, hitem, hnext⟩ := exists_item_of_handling hnext
    split at hnext
    · obtain ⟨a, -, rfl⟩ := Option.map_eq_some_iff.mp hnext
      exact h.handling item a (.inr hpoint)
    · cases hnext
  | catch_exception =>
    obtain ⟨i, item, hpoint, hitem, hnext⟩ := exists_item_of_handling hnext
    split at hnext
    · cases hnext
      exact h.handling item _ (.inr hpoint)
    · cases hnext
  | handled =>
    obtain ⟨i, item, hpoint, hitem, hnext⟩ := exists_item_of_handling hnext
    split at hnext
    · -- it has not returned
      cases hnext
    split at hnext
    · next hremoved =>
      -- the last actor takes the place of the one that is deactivated, and is visited next
      rw [Bool.and_eq_true, decide_eq_true_eq] at hremoved
      cases hnext
      refine h.swap_remove hremoved.2 ?_ ?_ ExecutorPoint.noConfusion <;> rw [hpoint]
      · exact fun j hj _ heq => hj (ExecutorPoint.handling.inj heq).symm
      · exact fun k hk heq => hk.ne (ExecutorPoint.handling.inj heq)
    · next hstays =>
      cases hnext
      refine h.returned hpoint hitem ?_ ?_
      · intro hi
        simpa [hi] using hstays
      · simp only [Attends, hpoint] at hattends
        exact hattends item hitem
  | listen_to_actor new_actor =>
    simp only [Executor.next] at hnext
    split at hnext
    · next hcond =>
      simp only [Bool.and_eq_true] at hcond
      cases hnext
      exact h.listen_to_actor hcond.2 hattends (own_handler_point hcond.1.1)
    · cases hnext
  | rebalance i =>
    simp only [Executor.next] at hnext
    split at hnext
    · next hcond =>
      simp only [Bool.and_eq_true, decide_eq_true_eq] at hcond
      have hpoint := own_handler_point hcond.1.1
      cases hnext
      refine h.swap_remove hcond.1.2 (fun _ _ hother => hother) ?_ ?_ <;> rw [hpoint]
      · exact fun k hk heq => absurd (ExecutorPoint.handling.inj heq) (by omega)
      · exact ExecutorPoint.noConfusion
    · cases hnext
  | round =>
    simp only [Executor.next] at hnext
    split at hnext
    · next i hpoint =>
      split at hnext
      · next own _ hown =>
        cases hnext
        constructor
        · intro j item hj _
          apply h.items j item hj
          rw [hpoint]
          exact ExecutorPoint.noConfusion
        · intro hpolling own' hown'
          cases hown.symm.trans hown'
          dsimp only at hpolling
          split at hpolling
          · assumption
          · cases hpolling
      · cases hnext
    · cases hnext

theorem sound_of_reachable (h : ReachableVia (system Body queues) Attends s) : s.Sound := by
  apply h.invariant Sound
  · rintro s rfl
    constructor
    · intro i item hitem _
      rw [List.getElem?_singleton] at hitem
      split at hitem
      · next hi =>
        cases hitem
        exact ⟨fun hne => absurd hi hne, fun _ => .inl rfl⟩
      · cases hitem
    · intro _ own hown
      cases hown
      rfl
  · intro s l s' hs hattends hnext
    exact hs.next hattends hnext

theorem pending_of_blocks (h : ReachableVia (system Body queues) Attends s) (hblocks : s.Blocks)
    {item : PollItem Body queues} (hitem : item ∈ s.items) :
    item.actor.pending_messages = [] := by
  have hsound := sound_of_reachable h
  obtain ⟨hpoint, hempty⟩ := hblocks
  obtain ⟨i, hi⟩ := List.getElem?_of_mem hitem
  have hitems := hsound.items i item hi (by rw [hpoint]; exact ExecutorPoint.noConfusion)
  have hactivated : item.actor.activated = true := by
    by_cases hi0 : i = 0
    · subst hi0
      exact hsound.polling hpoint item hi
    · exact hitems.activated hi0
  rcases hitems.attended hactivated with hpending | hsocket
  · exact hpending
  · exact absurd (hempty item hitem) hsocket

end Executor

/-! ### The loop of a net gate -/

/-- Where the loop of a net gate stands. `net` and `own` say whether `net_recv_socket` and
    the socket of the actor have been reported. -/
inductive NetGatePoint where
  | measuring
  /-- `zmq::poll` is entered; `delayed` says that the time has been measured. -/
  | polling (timeout : Int) (delayed : Bool)
  /-- In `flush_delayed_messages`. -/
  | flushing (net own : Bool)
  /-- In `receive_once_from_net_gate`. -/
  | net_handling (own : Bool)
  /-- `receive_once` is called next. -/
  | receiving
  | handling
  | stopped
  deriving DecidableEq

structure NetGate (Body : Type) (queues : Nat) where
  actor : State Body queues
  delayed_messages : DelayedMessages
  /-- How many frames `net_recv_socket` holds. -/
  net_recv_socket : Nat
  point : NetGatePoint

inductive NetGateLabel (Body : Type) (queues : Nat) where
  | arrival (l : Label Body queues)
  | frame
  | measure (now : Int)
  | poll (net own : Bool)
  /-- One turn of the loop in `flush_delayed_messages`. -/
  | flush (now : Int)
  | delayed_send (delay now : Int)
  | receive_once (polls : Nat)
  /-- A step of the handlers. -/
  | run (l : Label Body queues)
  /-- An exception ends `launch`. -/
  | exception
  /-- The handlers have returned. -/
  | handled

namespace NetGate

/-- `while (this->is_activated())` -/
def round (s : NetGate Body queues) : NetGate Body queues :=
  { s with point := if s.actor.activated then .measuring else .stopped }

/-- The loop goes on with what `zmq::poll` has reported. -/
def dispatch (s : NetGate Body queues) (net own : Bool) : NetGate Body queues :=
  match net, own with
  | true, own =>
    { s with net_recv_socket := s.net_recv_socket - 1, point := .net_handling own }
  | false, true => { s with point := .receiving }
  | false, false => s.round

/-- Do handlers run, those for a frame or those in `receive_once`? -/
def in_handlers (s : NetGate Body queues) : Bool :=
  match s.point with
  | .net_handling _ => true
  | .handling => !s.actor.stack.isEmpty
  | _ => false

def next (s : NetGate Body queues) : NetGateLabel Body queues → Option (NetGate Body queues)
  | .arrival l => if arrival l then (s.actor.next l).map fun actor => { s with actor } else none
  | .frame => some { s with net_recv_socket := s.net_recv_socket + 1 }
  | .measure now =>
    match s.point with
    | .measuring =>
      let timeout := s.delayed_messages.remaining_time now
      some { s with point := .polling (timeout.getD (-1)) timeout.isSome }
    | _ => none
  | .poll net own =>
    match s.point with
    | .polling timeout delayed =>
      if (net = true → s.net_recv_socket ≠ 0) ∧ (own = true → s.actor.recv_socket.isEmpty = false) ∧
          -- only a timeout ends a poll without anything to read
          (net = false → own = false → 0 ≤ timeout) then
        if delayed then some { s with point := .flushing net own } else some (s.dispatch net own)
      else none
    | _ => none
  | .flush now =>
    match s.point with
    | .flushing net own =>
      if s.delayed_messages.due_at now then
        some { s with delayed_messages := s.delayed_messages.erase_first }
      else some (s.dispatch net own)
    | _ =>
      -- in the handlers, by a `receive_once` of the actor
      if s.in_handlers && s.delayed_messages.due_at now then
        some { s with delayed_messages := s.delayed_messages.erase_first }
      else none
  | .delayed_send delay now =>
    if s.in_handlers && user_code s.actor.stack then
      some { s with delayed_messages := s.delayed_messages.emplace (now + delay) }
    else none
  | .receive_once polls =>
    match s.point with
    | .receiving =>
      (s.actor.next (.user (.receive_once polls))).map fun actor =>
        { s with actor, point := .handling }
    | _ => none
  | .run l =>
    if s.in_handlers && inner s.actor l then
      (s.actor.next l).map fun actor => { s with actor }
    else none
  | .exception =>
    if s.in_handlers && user_code s.actor.stack then
      some { s with actor := { s.actor with stack := [] }, point := .stopped }
    else none
  | .handled =>
    match s.point, s.actor.stack with
    | .net_handling own, [] => some (s.dispatch false own)
    | .handling, [] => some s.round
    | _, _ => none

def system (Body : Type) (queues : Nat) :
    System (NetGate Body queues) (NetGateLabel Body queues) where
  init s := s = ⟨start Body queues, .empty, 0, .measuring⟩
  next := next

/-- `zmq::poll` blocks without a finite timeout: every negative timeout is none. -/
def Blocks (s : NetGate Body queues) : Prop :=
  (∃ timeout delayed, s.point = .polling timeout delayed ∧ timeout < 0) ∧
    s.net_recv_socket = 0 ∧ s.actor.recv_socket = []

/-- The actor is attended when the handlers have returned, unless `receive_once` is called
    next or the loop ends. -/
def Attends (s : NetGate Body queues) : NetGateLabel Body queues → Prop
  | .handled =>
    s.point = .net_handling true ∨ (s.actor.activated = true → Attended s.actor)
  | _ => True

instance (s : NetGate Body queues) (l : NetGateLabel Body queues) : Decidable (s.Attends l) := by
  unfold Attends
  split <;> infer_instance

/-- The points outside of the handlers at which a message that has been put off would wait. -/
def Idle : NetGatePoint → Prop
  | .measuring => True
  | .polling .. => True
  | .flushing .. => True
  | _ => False

variable {s s' : NetGate Body queues}

/-! ### What a net gate keeps -/

def Sound (s : NetGate Body queues) : Prop := Idle s.point → Attended s.actor

theorem sound_round (h : s.actor.activated = true → Attended s.actor) : s.round.Sound := by
  intro hidle
  apply h
  unfold round at hidle
  dsimp only at hidle
  split at hidle
  · assumption
  · exact hidle.elim

theorem sound_dispatch {net own : Bool}
    (h : net = false → own = false → s.actor.activated = true → Attended s.actor) :
    (s.dispatch net own).Sound := by
  cases net with
  | true => exact fun hidle => hidle.elim
  | false =>
    cases own with
    | true => exact fun hidle => hidle.elim
    | false => exact sound_round (h rfl rfl)

theorem not_idle_of_in_handlers (h : s.in_handlers = true) : ¬ Idle s.point := by
  intro hidle
  unfold in_handlers at h
  split at h
  · next hpoint => rwa [hpoint] at hidle
  · next hpoint => rwa [hpoint] at hidle
  · cases h

theorem Sound.next (h : s.Sound) {l : NetGateLabel Body queues} (hattends : s.Attends l)
    (hnext : s.next l = some s') : s'.Sound := by
  cases l with
  | arrival l =>
    simp only [NetGate.next] at hnext
    split at hnext
    · next hl =>
      obtain ⟨a, ha, rfl⟩ := Option.map_eq_some_iff.mp hnext
      exact fun hidle => (next_arrival hl ha).2 (h hidle)
    · cases hnext
  | frame =>
    cases hnext
    exact h
  | measure now =>
    simp only [NetGate.next] at hnext
    split at hnext
    · next hpoint =>
      cases hnext
      exact fun _ => h (by rw [hpoint]; trivial)
    · cases hnext
  | poll net own =>
    simp only [NetGate.next] at hnext
    split at hnext
    · next hpoint =>
      have hattended : Attended s.actor := h (by rw [hpoint]; trivial)
      split at hnext
      · split at hnext <;> cases hnext
        · exact fun _ => hattended
        · exact sound_dispatch fun _ _ _ => hattended
      · cases hnext
    · cases hnext
  | flush now =>
    simp only [NetGate.next] at hnext
    split at hnext
    · next hpoint =>
      have hattended : Attended s.actor := h (by rw [hpoint]; trivial)
      split at hnext <;> cases hnext
      · exact fun _ => hattended
      · exact sound_dispatch fun _ _ _ => hattended
    · split at hnext <;> cases hnext
      exact h
  | delayed_send delay now =>
    simp only [NetGate.next] at hnext
    split at hnext <;> cases hnext
    exact h
  | receive_once polls =>
    simp only [NetGate.next] at hnext
    split at hnext
    · obtain ⟨a, -, rfl⟩ := Option.map_eq_some_iff.mp hnext
      exact fun hidle => hidle.elim
    · cases hnext
  | run l =>
    simp only [NetGate.next] at hnext
    split at hnext
    · next hcond =>
      rw [Bool.and_eq_true] at hcond
      have hbusy : ¬ Idle s.point := not_idle_of_in_handlers hcond.1
      obtain ⟨a, -, rfl⟩ := Option.map_eq_some_iff.mp hnext
      exact fun hidle => absurd hidle hbusy
    · cases hnext
  | exception =>
    simp only [NetGate.next] at hnext
    split at hnext <;> cases hnext
    exact fun hidle => hidle.elim
  | handled =>
    simp only [NetGate.next] at hnext
    split at hnext
    · next own hpoint _ =>
      cases hnext
      refine sound_dispatch fun _ hown => ?_
      rcases hattends with hreported | hattended
      · -- `own` has been reported
        rw [hpoint, hown] at hreported
        cases hreported
      · exact hattended
    · next hpoint _ =>
      cases hnext
      refine sound_round ?_
      rcases hattends with hreported | hattended
      · rw [hpoint] at hreported
        cases hreported
      · exact hattended
    · cases hnext

theorem pending_of_blocks (h : ReachableVia (system Body queues) Attends s) (hblocks : s.Blocks) :
    s.actor.pending_messages = [] := by
  have hsound : s.Sound := by
    apply h.invariant Sound
    · rintro s rfl _
      exact .inl rfl
    · intro s l s' hs hattends hnext
      exact hs.next hattends hnext
  obtain ⟨⟨timeout, delayed, hpoint, -⟩, -, hempty⟩ := hblocks
  rcases hsound (by rw [hpoint]; trivial) with hpending | hsocket
  · exact hpending
  · exact absurd hempty hsocket

end NetGate

/-! ### The loops compared -/

/-- **Nothing is stranded by a loop whose actors are attended when their calls return.** -/
theorem pending_of_attends :
    (∀ s : Executor Body queues, ReachableVia (Executor.system Body queues) Executor.Attends s →
      s.Blocks → ∀ item ∈ s.items, item.actor.pending_messages = []) ∧
    (∀ s : NetGate Body queues, ReachableVia (NetGate.system Body queues) NetGate.Attends s →
      s.Blocks → s.actor.pending_messages = []) :=
  ⟨fun _ hreach hblocks _ hitem => Executor.pending_of_blocks hreach hblocks hitem,
    fun _ hreach hblocks => NetGate.pending_of_blocks hreach hblocks⟩

/-! ### A message that arrives during `on_reply` -/

/-- A handler returns. -/
def returned : Label Unit 0 := .user (.returns fun _ => none)

/-- A handler waits for a reply. Before the reply, something else arrives (`inl`), which is
    put off. -/
def deferring_handler : List (Label Unit 0 ⊕ Label Unit 0) :=
  [.inr (.user (.request false)), .inr (.user (.on_reply 0)), .inl (.arrive .ordinary),
    .inr (.loop 0), .inl (.arrive (.response 0 ())), .inr (.loop 0), .inr returned, .inr (.loop 0)]

namespace Executor

/-- An executor at the start of its loop. -/
def started : Executor Unit 0 := ⟨[⟨start Unit 0, false⟩], .polling⟩

/-- An actor is hosted, and then handles a message with `deferring_handler`. -/
def deferring_run : List (ExecutorLabel Unit 0) :=
  [.arrival 0 (.arrive .ordinary), .poll [true], .visit 0, .listen_to_actor (start Unit 0),
    .run returned, .handled, .visit 0, .round,
    .arrival 1 (.arrive .ordinary), .poll [false, true], .visit 0, .visit 0] ++
  deferring_handler.map (Sum.elim (.arrival 1) .run) ++ [.run returned]

/-- One more message arrives before the call returns, and all are handled. -/
def attending_run : List (ExecutorLabel Unit 0) :=
  deferring_run ++
    [.arrival 1 (.arrive .ordinary), .handled, .round,
      .poll [false, true], .visit 0, .visit 0, .run returned, .handled, .round,
      .poll [false, true], .visit 0, .visit 0, .run returned, .handled, .round]

/-- Where the loop stands, and how many messages each actor has in its socket and in
    `pending_messages`. -/
def observe (s : Executor Unit 0) : ExecutorPoint × List (Nat × Nat) :=
  (s.point, s.items.map fun item =>
    (item.actor.recv_socket.length, item.actor.pending_messages.length))

theorem blocks_of_observe {s : Executor Unit 0} {waiting : List (Nat × Nat)}
    (h : s.observe = (.polling, waiting)) (hempty : ∀ w ∈ waiting, w.1 = 0) : s.Blocks := by
  obtain ⟨hpoint, hitems⟩ := Prod.mk.inj h
  refine ⟨hpoint, fun item hitem => ?_⟩
  apply List.length_eq_zero_iff.mp
  exact hempty (_, _) (hitems ▸ List.mem_map_of_mem hitem)

end Executor

namespace NetGate

/-- A net gate at the start of its loop. -/
def started : NetGate Unit 0 := ⟨start Unit 0, .empty, 0, .measuring⟩

/-- The handler of a frame is `deferring_handler`, as in `establish_connection`. -/
def deferring_run : List (NetGateLabel Unit 0) :=
  [.frame, .measure 0, .poll true false] ++ deferring_handler.map (Sum.elim .arrival .run)

/-- One more message arrives before the handler returns, and all are handled. -/
def attending_run : List (NetGateLabel Unit 0) :=
  deferring_run ++
    [.arrival (.arrive .ordinary), .handled,
      .measure 0, .poll false true, .receive_once 0, .run returned, .handled,
      .measure 0, .poll false true, .receive_once 0, .run returned, .handled, .measure 0]

def observe (s : NetGate Unit 0) : NetGatePoint × Nat × Nat × Nat :=
  (s.point, s.net_recv_socket, s.actor.recv_socket.length, s.actor.pending_messages.length)

theorem blocks_of_observe {s : NetGate Unit 0} {delayed : Bool} {waiting : Nat}
    (h : s.observe = (.polling (-1) delayed, 0, 0, waiting)) : s.Blocks := by
  simp only [observe, Prod.mk.injEq] at h
  exact ⟨⟨-1, delayed, h.1, by decide⟩, h.2.1, List.length_eq_zero_iff.mp h.2.2.1⟩

end NetGate

theorem pending_of_attends_attending :
    (∃ s, ReachableVia (Executor.system Unit 0) Executor.Attends s ∧ s.Blocks ∧
      s.items.length = 2 ∧ ∀ item ∈ s.items, item.actor.pending_messages = []) ∧
    (∃ s, ReachableVia (NetGate.system Unit 0) NetGate.Attends s ∧ s.Blocks ∧
      s.actor.arrived.length = 3 ∧ s.actor.pending_messages = []) := by
  constructor
  · obtain ⟨s, hs, hobs⟩ := (Executor.system Unit 0).reachable_of_exec Executor.Attends
      Executor.attending_run (fun s => (s.observe, s.items.length)) (s := Executor.started)
      (b := ((.polling, [(0, 0), (0, 0)]), 2)) rfl (by decide +kernel)
    obtain ⟨hobserve, hlength⟩ := Prod.mk.inj hobs
    have hblocks := Executor.blocks_of_observe hobserve (by decide)
    exact ⟨s, hs, hblocks, hlength, pending_of_attends.1 s hs hblocks⟩
  · obtain ⟨s, hs, hobs⟩ := (NetGate.system Unit 0).reachable_of_exec NetGate.Attends
      NetGate.attending_run (fun s => (s.observe, s.actor.arrived.length)) (s := NetGate.started)
      (b := ((.polling (-1) false, 0, 0, 0), 3)) rfl (by decide +kernel)
    obtain ⟨hobserve, harrived⟩ := Prod.mk.inj hobs
    have hblocks := NetGate.blocks_of_observe hobserve
    exact ⟨s, hs, hblocks, harrived, pending_of_attends.2 s hs hblocks⟩

/-- Without the other message, the one that was put off is left behind. -/
theorem not_pending_of_blocks :
    (¬ ∀ s : Executor Unit 0, Reachable (Executor.system Unit 0) s → s.Blocks →
      ∀ item ∈ s.items, item.actor.pending_messages = []) ∧
    (¬ ∀ s : NetGate Unit 0, Reachable (NetGate.system Unit 0) s → s.Blocks →
      s.actor.pending_messages = []) := by
  constructor
  · intro hall
    obtain ⟨s, hs, hobs⟩ := (Executor.system Unit 0).reachable_of_exec (fun _ _ => True)
      (Executor.deferring_run ++ [.handled, .round]) Executor.observe (s := Executor.started)
      (b := (.polling, [(0, 0), (0, 1)])) rfl (by decide +kernel)
    have hpending := hall s hs (Executor.blocks_of_observe hobs (by decide))
    have hitems := (Prod.mk.inj hobs).2
    obtain ⟨item, hitem, hone⟩ :=
      List.mem_map.mp (hitems ▸ (by decide : (0, 1) ∈ [(0, 0), (0, 1)]))
    rw [hpending item hitem] at hone
    cases (Prod.mk.inj hone).2
  · intro hall
    obtain ⟨s, hs, hobs⟩ := (NetGate.system Unit 0).reachable_of_exec (fun _ _ => True)
      (NetGate.deferring_run ++ [.handled, .measure 0]) NetGate.observe (s := NetGate.started)
      (b := (.polling (-1) false, 0, 0, 1)) rfl (by decide +kernel)
    have hpending := hall s hs (NetGate.blocks_of_observe hobs)
    simp only [NetGate.observe, hpending, Prod.mk.injEq] at hobs
    cases hobs.2.2.2

end ZAF.Hosting
