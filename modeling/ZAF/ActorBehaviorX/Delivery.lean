import ZAF.Framework.SwapRemove
import ZAF.SWSR.Concurrent

/-! # Delivery between two actors

    A sending `ActorBehaviorX` and a receiving one share a delivery queue. The
    sender pushes; when `inc_write_progress` tells it that the receiver is not
    reading, it sends a notification through its ZMQ socket, a FIFO channel. The
    receiver keeps the queues it reads in `active_recv_queues` and reads all of
    them each time it processes a consumption message, which it sends to itself.
    After `max_empty_read` empty reads it clears the progress flag, reads once
    more and takes the queue from the list; when the sender has stopped writing,
    it forgets the queue altogether.

    The steps inside `push` and `pop_some` are those of the two threads on one
    queue. The queues of other senders appear as other entries of the list.
-/

namespace ZAF.Delivery

open LTS Ring SWSRDeliveryQueue SwapRemove

variable {Item : Type}

/-! ### State -/

/-- The messages about the queue that the sender sends through its ZMQ socket. -/
inductive ControlMessage where
  /-- `SWSRMsgQueueRegistration`; it holds a reference to the queue. -/
  | Registration
  /-- `SWSRMsgQueueNotification` -/
  | Notification
  deriving DecidableEq, Repr

/-- An entry of `active_recv_queues`. -/
inductive ActiveQueue where
  /-- The queue of the two actors. -/
  | shared
  /-- The queue of another sender. -/
  | other
  deriving DecidableEq, Repr

/-- Where the sender is. -/
inductive SenderPc where
  | idle
  /-- In `push(elem, Blocking)`. -/
  | pushing
  /-- The item is published; next is `inc_write_progress`. -/
  | exchanging
  /-- The flag was false; next the notification is sent. -/
  | notifying
  /-- In the destructor, after `is_writing_by_sender = false`. -/
  | terminating
  | gone
  deriving DecidableEq, Repr

/-- Where the receiver is; `i` and `n` are the variables of the loop of
    `consume_swsr_recv_queues`. -/
inductive ReceiverPc where
  /-- Between messages from the ZMQ socket. -/
  | idle
  /-- At the head of the loop. -/
  | scanning (i n : Nat)
  /-- In the first or the second `pop_some` of the entry `i`. -/
  | reading (i n : Nat) (second : Bool)
  /-- `max_empty_read` is reached; next is `inc_read_progress`. -/
  | clearing (i n : Nat)
  /-- The flag is cleared; next is the second `pop_some`. -/
  | rereading (i n : Nat)
  /-- `on_reach_max_empty_read` has been called; next `is_writing_by_sender` is
      looked at and the entry is removed. -/
  | dropping (i n : Nat)
  deriving DecidableEq, Repr

/-- The two actors, as far as the queue is concerned. -/
structure State (Item : Type) where
  /-- The queue, with the threads inside `push` and `pop_some`. -/
  core : Concurrent.State Item
  sender : SenderPc
  receiver : ReceiverPc
  /-- Sent and not yet processed. -/
  channel : List ControlMessage
  /-- Whether the sender's map refers to the queue. -/
  swsr_send_queue : Bool
  /-- Whether the receiver's map has the queue under the sender's id. -/
  swsr_recv_queue : Bool
  active_recv_queues : List ActiveQueue
  /-- The consumption messages that the receiver has sent to itself. -/
  consumptions : Nat
  /-- The notifications whose lookup of the queue threw. -/
  failed_lookups : Nat
  /-- The items that the destructor of the queue deleted. -/
  destroyed : List Item

/-- Who does what next. -/
inductive Label (Item : Type) where
  /-- The sender sends a message. -/
  | send (x : Item)
  /-- The sender goes on. -/
  | sender
  /-- The sender is destroyed. -/
  | terminate
  /-- The receiver processes the next message from the sender's channel. -/
  | receive
  /-- The receiver processes a consumption message. -/
  | consume
  /-- The receiver goes on; inside a pop handler, the handler returns. -/
  | receiver
  /-- The receiver processes a notification of another sender. -/
  | other_notified
  /-- The receiver has read the queue of another sender, and removes it when it
      has reached `max_empty_read`. -/
  | other_read (empty : Bool)

/-! ### Steps -/

variable [Inhabited Item]

/-- The state with another queue. -/
def State.set_queue (s : State Item) (q : SWSRDeliveryQueue Item) : State Item :=
  { s with core := { s.core with queue := q } }

/-- `~SWSRDeliveryQueue` when the last reference is gone: the unread items are
    deleted. -/
def State.unreference (s : State Item) : State Item :=
  if s.swsr_send_queue || s.swsr_recv_queue || s.channel.contains .Registration then s
  else { s with destroyed := s.destroyed ++ s.core.queue.readable }

/-- Where the sender is after a step inside `push`: the exchange follows an
    accepted push. -/
def SenderPc.after_push : Concurrent.WriterPc Item → SenderPc
  | .idle (some true) => .exchanging
  | .idle _ => .idle
  | _ => .pushing

/-- The sender's next step. -/
def sender_next (s : State Item) : Option (State Item) :=
  match s.sender with
  | .idle => none
  | .pushing =>
    match Concurrent.next s.core .writer with
    | none => none
    | some core =>
      some { s with core := core, sender := .after_push core.writer }
  | .exchanging =>
    let (reader_idle, q) := s.core.queue.inc_write_progress
    some { s.set_queue q with sender := if reader_idle then .notifying else .idle }
  | .notifying => some { s with channel := s.channel ++ [.Notification], sender := .idle }
  | .terminating =>
    some (State.unreference { s with swsr_send_queue := false, sender := .gone })
  | .gone => none

/-- `notify_swsr_queue`, for a sender whose queue is in the map or not. -/
def notify_swsr_queue (s : State Item) (entry : ActiveQueue) (found : Bool) : State Item :=
  let s :=
    if s.active_recv_queues.isEmpty then { s with consumptions := s.consumptions + 1 } else s
  if found then { s with active_recv_queues := s.active_recv_queues ++ [entry] }
  else { s with failed_lookups := s.failed_lookups + 1 }

/-- The handlers of the messages from the sender. -/
def process_control (s : State Item) : ControlMessage → State Item
  | .Registration => { s with swsr_recv_queue := true }
  | .Notification => notify_swsr_queue s .shared s.swsr_recv_queue

/-- What follows a `pop_some` in the one with `on_reach_max_empty_read`. -/
def pop_some_returns (s : State Item) (i n : Nat) (second : Bool) (num_read : UInt32) :
    State Item :=
  let q := s.core.queue
  if second then
    { s.set_queue { q with num_empty_read := 0 } with receiver := .dropping i n }
  else if num_read = 0 then
    let s := s.set_queue { q with num_empty_read := q.num_empty_read + 1 }
    if q.num_empty_read + 1 = q.max_empty_read then { s with receiver := .clearing i n }
    else { s with receiver := .scanning (i + 1) n }
  else { s.set_queue { q with num_empty_read := 0 } with receiver := .scanning (i + 1) n }

/-- The receiver starts `pop_some`. The overload that `consume_swsr_recv_queues`
    calls passes `max_empty_read` on as the maximal number of messages. -/
def start_pop_some (s : State Item) (receiver : ReceiverPc) : Option (State Item) :=
  match Concurrent.next s.core (.pop_some s.core.queue.max_empty_read) with
  | none => none
  | some core => some { s with core := core, receiver := receiver }

/-- Remove the entry `i` from the active queues and go on with the loop. -/
def remove_active (s : State Item) (i n : Nat) : State Item :=
  { s with
    active_recv_queues := swap_remove s.active_recv_queues i
    receiver := .scanning i (n - 1) }

/-- The receiver's next step inside `consume_swsr_recv_queues`. -/
def receiver_next (s : State Item) : Option (State Item) :=
  match s.receiver with
  | .idle => none
  | .scanning i n =>
    if i < n then
      match s.active_recv_queues[i]? with
      | some .shared => start_pop_some s (.reading i n false)
      | _ => none
    else
      -- the handler of the consumption message sends the next one
      some { s with
        consumptions := if s.active_recv_queues.isEmpty then s.consumptions else s.consumptions + 1
        receiver := .idle }
  | .reading i n second =>
    match Concurrent.next s.core .reader with
    | none => none
    | some core =>
      let s := { s with core := core }
      match core.reader with
      | .idle (some num_read) => some (pop_some_returns s i n second num_read)
      | _ => some s
  | .clearing i n =>
    some { s.set_queue s.core.queue.inc_read_progress with receiver := .rereading i n }
  | .rereading i n => start_pop_some s (.reading i n true)
  | .dropping i n =>
    let s :=
      if s.core.queue.is_writing_by_sender then s
      else State.unreference { s with swsr_recv_queue := false }
    some (remove_active s i n)

/-- One atomic step of one of the actors. -/
def next (s : State Item) : Label Item → Option (State Item)
  | .send x =>
    match s.sender with
    | .idle =>
      match Concurrent.next s.core (.push x .Blocking) with
      | none => none
      | some core => some { s with core := core, sender := .pushing }
    | _ => none
  | .sender => sender_next s
  | .terminate =>
    match s.sender with
    | .idle =>
      some { s.set_queue { s.core.queue with is_writing_by_sender := false } with
        sender := .terminating }
    | _ => none
  | .receive =>
    match s.receiver, s.channel with
    | .idle, m :: rest => some (process_control { s with channel := rest } m)
    | _, _ => none
  | .consume =>
    match s.receiver with
    | .idle =>
      if s.consumptions = 0 then none
      else some { s with
        consumptions := s.consumptions - 1
        receiver := .scanning 0 s.active_recv_queues.length }
    | _ => none
  | .receiver => receiver_next s
  | .other_notified =>
    match s.receiver with
    | .idle => some (notify_swsr_queue s .other true)
    | _ => none
  | .other_read empty =>
    match s.receiver with
    | .scanning i n =>
      if i < n ∧ s.active_recv_queues[i]? = some .other then
        some (if empty then remove_active s i n else { s with receiver := .scanning (i + 1) n })
      else none
    | _ => none

/-- After `setup_swsr_connection`: a fresh queue, its registration on the way. -/
def start (Item : Type) [Inhabited Item] (scale : Nat)
    (max_messages_read max_empty_read : UInt32) : State Item where
  core :=
    { Concurrent.start Item scale with
      queue := { (Concurrent.start Item scale).queue with
        max_messages_read := max_messages_read
        max_empty_read := max_empty_read } }
  sender := .idle
  receiver := .idle
  channel := [.Registration]
  swsr_send_queue := true
  swsr_recv_queue := false
  active_recv_queues := []
  consumptions := 0
  failed_lookups := 0
  destroyed := []

/-- The two actors as a labelled system. -/
def system (Item : Type) [Inhabited Item] (scale : Nat)
    (max_messages_read max_empty_read : UInt32) : System (State Item) (Label Item) where
  init := fun s => s = start Item scale max_messages_read max_empty_read
  next := next

/-! ### What a step does -/

/-- A step, with what it needs. -/
inductive Stepped (s : State Item) : Label Item → State Item → Prop where
  | send (x : Item) {core : Concurrent.State Item} (hpc : s.sender = .idle)
      (hcore : Concurrent.next s.core (.push x .Blocking) = some core) :
      Stepped s (.send x) { s with core := core, sender := .pushing }
  | sender {s' : State Item} (hn : sender_next s = some s') : Stepped s .sender s'
  | terminate (hpc : s.sender = .idle) :
      Stepped s .terminate
        { s.set_queue { s.core.queue with is_writing_by_sender := false } with
          sender := .terminating }
  | receive {m : ControlMessage} {rest : List ControlMessage} (hpc : s.receiver = .idle)
      (hchannel : s.channel = m :: rest) :
      Stepped s .receive (process_control { s with channel := rest } m)
  | consume (hpc : s.receiver = .idle) :
      Stepped s .consume { s with
        consumptions := s.consumptions - 1
        receiver := .scanning 0 s.active_recv_queues.length }
  | receiver {s' : State Item} (hn : receiver_next s = some s') : Stepped s .receiver s'
  | other_notified (hpc : s.receiver = .idle) :
      Stepped s .other_notified (notify_swsr_queue s .other true)
  | other_emptied {i n : Nat} (hpc : s.receiver = .scanning i n)
      (hother : s.active_recv_queues[i]? = some .other) :
      Stepped s (.other_read true) (remove_active s i n)
  | other_read {i n : Nat} (hpc : s.receiver = .scanning i n) :
      Stepped s (.other_read false) { s with receiver := .scanning (i + 1) n }

theorem stepped_of_next {s s' : State Item} {l : Label Item} (hn : next s l = some s') :
    Stepped s l s' := by
  cases l with
  | send x =>
    simp only [next] at hn
    split at hn
    · next hpc =>
      split at hn
      · cases hn
      · next hcore =>
        cases hn
        exact .send x hpc hcore
    · cases hn
  | sender => exact .sender hn
  | terminate =>
    simp only [next] at hn
    split at hn
    · next hpc =>
      cases hn
      exact .terminate hpc
    · cases hn
  | receive =>
    simp only [next] at hn
    split at hn
    · next hpc hchannel =>
      cases hn
      exact .receive hpc hchannel
    · cases hn
  | consume =>
    simp only [next] at hn
    split at hn
    · next hpc =>
      split at hn <;> cases hn
      exact .consume hpc
    · cases hn
  | receiver => exact .receiver hn
  | other_notified =>
    simp only [next] at hn
    split at hn
    · next hpc =>
      cases hn
      exact .other_notified hpc
    · cases hn
  | other_read empty =>
    simp only [next] at hn
    split at hn
    · next hpc =>
      split at hn
      · next hother =>
        cases empty <;> cases hn
        · exact .other_read hpc
        · exact .other_emptied hpc hother.2
      · cases hn
    · cases hn

end ZAF.Delivery
