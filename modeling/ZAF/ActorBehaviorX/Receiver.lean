import Mathlib.Logic.Function.Basic
import ZAF.Framework.SwapRemove
import ZAF.Framework.System
import ZAF.SWSR.Queue

/-! # The receiver of all delivery queues

    An `ActorBehaviorX` (actor_behavior_x.cpp) with all the actors that send to it, itself
    included. Each of them creates one delivery queue for it and pushes to the queue;
    registrations, notifications and whatever else is sent by ZMQ arrive in the order in
    which the sender has sent them.

    Handlers are not fixed: while one runs, any of its operations may come next, and a
    label says which. A push to the queue of another actor changes nothing here. A handler
    may wait in `on_reply`, whose handlers may do the same; until the response comes the
    other messages are put off. Handlers do not throw and do not receive on their own.
-/

namespace ZAF.Receiving

open LTS SWSRDeliveryQueue SwapRemove

/-! ### Messages -/

/-- The messages that arrive at the socket. A queue is named by the actor that has
    created it. -/
inductive Content (ActorId : Type) where
  /-- `SWSRMsgQueueRegistration` -/
  | Registration (queue : ActorId)
  /-- `SWSRMsgQueueNotification` -/
  | Notification
  /-- `SWSRMsgQueueConsumption` -/
  | Consumption
  | Response (req_id : UInt32)
  /-- A message for the handlers of the user, requests included. -/
  | other
  deriving DecidableEq, Repr

structure Message (ActorId : Type) where
  sender : ActorId
  content : Content ActorId
  deriving DecidableEq, Repr

variable {ActorId Item : Type}

/-- Does the user's code send it? -/
def Content.by_user : Content ActorId → Bool
  | .Response _ | .other => true
  | _ => false

def Message.is_consumption (m : Message ActorId) : Bool :=
  match m.content with
  | .Consumption => true
  | _ => false

/-- Where `inner_receive_once` finds a message. -/
inductive Source where
  | socket
  | pending
  deriving DecidableEq, Repr

/-! ### Program counters -/

/-- Where a sender is in `push`. -/
inductive SenderPc where
  | idle
  /-- The item is published; next is `inc_write_progress`. -/
  | exchanging
  /-- The flag was false; next the notification is sent. -/
  | notifying
  deriving DecidableEq, Repr

/-- Where the receiver is with one entry of `active_recv_queues`. -/
inductive EntryPc (Item : Type) where
  /-- At the head of the loop of the first or the second `pop_some`, with its variables. -/
  | reading (second : Bool) (w r num_read : UInt32)
  /-- In the handler of an item. -/
  | popping (item : Item) (second : Bool) (w r num_read : UInt32)
  /-- `max_empty_read` is reached; next is `inc_read_progress`. -/
  | clearing
  /-- The flag is cleared; next is the second `pop_some`. -/
  | rereading
  /-- `empty` is true; the entry is removed next. -/
  | dropping
  deriving DecidableEq, Repr

/-- Where the receiver is in the handler of a consumption message; `i`, `n` and
    `recv_queue` are the variables of `consume_swsr_recv_queues`. -/
inductive ConsumePc (ActorId Item : Type) where
  | scanning (i n : Nat)
  | entry (i n : Nat) (recv_queue : ActorId) (pc : EntryPc Item)
  /-- In `post_swsr_consumption`, which a subclass may override. -/
  | post
  deriving DecidableEq, Repr

/-- What the receiver does, apart from the calls of `on_reply`. -/
inductive Base (ActorId Item : Type) where
  /-- Between messages. -/
  | loop
  /-- In a handler of the user. -/
  | handling (source : Source) (m : Message ActorId)
  /-- In the handler of a consumption message. -/
  | consuming (source : Source) (m : Message ActorId) (pc : ConsumePc ActorId Item)
  deriving DecidableEq, Repr

/-- A call that has been made on top of that. -/
inductive Call where
  /-- The loop of `on_reply`, with its local `cur_act`. -/
  | wait (req_id : UInt32) (cur_act : Bool)
  /-- The handlers of `on_reply` on the response. -/
  | reply (source : Source)
  /-- The same, on a response that was there. -/
  | stored
  /-- A callback of `recv_poll_callbacks`. -/
  | callback
  deriving DecidableEq, Repr

/-! ### State -/

structure State (ActorId Item : Type) where
  /-- The queues, by the actor that has created them. -/
  queues : ActorId → SWSRDeliveryQueue Item
  /-- Does `swsr_send_queues` of the actor have a queue to this one? -/
  swsr_send_queues : ActorId → Bool
  senders : ActorId → SenderPc
  /-- All that has been sent to this actor, the messages of each sender in order. -/
  recv_socket : List (Message ActorId)
  pending_messages : List (Message ActorId)
  waiting_for_response : Nat
  activated : Bool
  /-- From senders to queues. -/
  swsr_recv_queues : ActorId → Option ActorId
  /-- Senders and queues. -/
  active_recv_queues : List (ActorId × ActorId)
  base : Base ActorId Item
  calls : List Call
  /-- The notifications for which `swsr_recv_queues.at` has thrown. -/
  failed_lookups : Nat

variable [DecidableEq ActorId] [Inhabited Item]

namespace State

/-! ### Sending -/

/-- `ActorBehavior::send` to this actor. -/
def send (s : State ActorId Item) (sender : ActorId) (content : Content ActorId) :
    State ActorId Item :=
  { s with recv_socket := s.recv_socket ++ [⟨sender, content⟩] }

def set_queue (s : State ActorId Item) (a : ActorId) (q : SWSRDeliveryQueue Item) :
    State ActorId Item :=
  { s with queues := Function.update s.queues a q }

def set_sender (s : State ActorId Item) (a : ActorId) (pc : SenderPc) : State ActorId Item :=
  { s with senders := Function.update s.senders a pc }

def setup_swsr_connection (s : State ActorId Item) (a : ActorId) : State ActorId Item :=
  if s.swsr_send_queues a then s
  else
    { s.set_queue a (({} : SWSRDeliveryQueue Item).resize 15) with
      swsr_send_queues := Function.update s.swsr_send_queues a true }.send a (.Registration a)

/-- `send` to itself: `push` with `Resize`, and a notification. -/
def push_self (s : State ActorId Item) (self : ActorId) (x : Item) : Option (State ActorId Item) :=
  match (s.queues self).push x .Resize with
  | some (true, q) =>
    let (reader_idle, q) := q.inc_write_progress
    let s := s.set_queue self q
    some (if reader_idle then s.send self .Notification else s)
  | some (false, q) => some (s.set_queue self q)
  | none => none

/-! ### Receiving -/

/-- What `inner_receive_once` does when the message has been processed: a message from
    `pending_messages` is removed only now. -/
def receive_returns (s : State ActorId Item) : Source → State ActorId Item
  | .pending => { s with pending_messages := s.pending_messages.tail }
  | .socket => s

/-- `emplace` keeps an entry that is there. -/
def register_swsr_queue (s : State ActorId Item) (sender queue : ActorId) : State ActorId Item :=
  { s with
    swsr_recv_queues := Function.update s.swsr_recv_queues sender
      (some ((s.swsr_recv_queues sender).getD queue)) }

/-- `active_recv_queues.emplace_back(sender_id, swsr_recv_queues.at(sender_id).get())` -/
def emplace_back (s : State ActorId Item) (sender : ActorId) : State ActorId Item :=
  match s.swsr_recv_queues sender with
  | some queue => { s with active_recv_queues := s.active_recv_queues ++ [(sender, queue)] }
  | none => { s with failed_lookups := s.failed_lookups + 1 }

def notify_swsr_queue (s : State ActorId Item) (self sender : ActorId) : State ActorId Item :=
  (if s.active_recv_queues.isEmpty then s.send self .Consumption else s).emplace_back sender

/-- `inner_handlers.process(*m)`, with the handlers of the user as a child. -/
def process (s : State ActorId Item) (self : ActorId) (source : Source) (m : Message ActorId) :
    State ActorId Item :=
  match m.content with
  | .Registration queue => (s.register_swsr_queue m.sender queue).receive_returns source
  | .Notification => (s.notify_swsr_queue self m.sender).receive_returns source
  | .Consumption =>
    -- `n` is an `unsigned`
    { s with base := .consuming source m (.scanning 0 (s.active_recv_queues.length % 2 ^ 32)) }
  -- `store_response` keeps or ignores it
  | .Response _ => s.receive_returns source
  | .other => { s with base := .handling source m }

/-- The same while an `on_reply` waits: it has moved `inner_handlers` away, so that only its
    own two handlers are left. -/
def process_waiting (s : State ActorId Item) (req_id : UInt32) (source : Source)
    (m : Message ActorId) : State ActorId Item :=
  match m.content with
  | .Response id =>
    if id = req_id then { s with calls := .reply source :: s.calls }
    else s.receive_returns source
  | _ => { s with pending_messages := s.pending_messages ++ [m] }.receive_returns source

/-- The message that `inner_receive_once` passes on next; when it looks into the socket, it
    finds the first message of some sender. -/
def next_message (s : State ActorId Item) (a : ActorId) : Option (Source × Message ActorId) :=
  match s.waiting_for_response, s.pending_messages with
  | 0, m :: _ => some (.pending, m)
  | _, _ => (s.recv_socket.find? fun m => m.sender = a).map fun m => (.socket, m)

def take_from (s : State ActorId Item) (a : ActorId) : Source → State ActorId Item
  | .socket => { s with recv_socket := s.recv_socket.eraseP fun m => m.sender = a }
  | .pending => s

/-- The end of `on_reply` after its loop. -/
def reply_returns (s : State ActorId Item) (cur_act : Bool) (rest : List Call) :
    State ActorId Item :=
  { s with
    calls := rest
    activated := cur_act || s.activated
    waiting_for_response := s.waiting_for_response - 1 }

/-- One round of the loop of `receive`, in `launch` or in `on_reply`. -/
def loop (s : State ActorId Item) (self a : ActorId) : Option (State ActorId Item) :=
  match s.calls, s.base with
  | [], .loop =>
    if s.activated then
      (s.next_message a).map fun (source, m) => (s.take_from a source).process self source m
    else none
  | .wait req_id cur_act :: rest, _ =>
    if s.activated then
      (s.next_message a).map fun (source, m) =>
        (s.take_from a source).process_waiting req_id source m
    else some (s.reply_returns cur_act rest)
  | _, _ => none

/-- `on_reply`, when the response has been stored already or when it has to wait. Which
    responses are stored is left open. -/
def on_reply (s : State ActorId Item) (req_id : UInt32) (stored : Bool) : State ActorId Item :=
  if stored then { s with calls := .stored :: s.calls }
  else
    { s with
      waiting_for_response := s.waiting_for_response + 1
      activated := true
      calls := .wait req_id s.activated :: s.calls }

/-! ### Consumption -/

/-- The receiver goes on with the entry it is at. -/
def go_on (s : State ActorId Item) (source : Source) (m : Message ActorId)
    (pc : ConsumePc ActorId Item) : State ActorId Item :=
  { s with base := .consuming source m pc }

/-- What follows a `pop_some` in the one with `on_reach_max_empty_read`. -/
def pop_some_returns (s : State ActorId Item) (source : Source) (m : Message ActorId) (i n : Nat)
    (recv_queue : ActorId) (second : Bool) (num_read : UInt32) : State ActorId Item :=
  let q := s.queues recv_queue
  if second then
    (s.set_queue recv_queue { q with num_empty_read := 0 }).go_on source m
      (.entry i n recv_queue .dropping)
  else if num_read = 0 then
    (s.set_queue recv_queue { q with num_empty_read := q.num_empty_read + 1 }).go_on source m
      (if q.num_empty_read + 1 = q.max_empty_read then .entry i n recv_queue .clearing
      else .scanning (i + 1) n)
  else
    (s.set_queue recv_queue { q with num_empty_read := 0 }).go_on source m (.scanning (i + 1) n)

/-- `pop_some` starts: the counters are loaded, the flag that stops it is cleared. -/
def start_pop_some (s : State ActorId Item) (source : Source) (m : Message ActorId) (i n : Nat)
    (recv_queue : ActorId) (second : Bool) : State ActorId Item :=
  let q := s.queues recv_queue
  (s.set_queue recv_queue { q with flag_stop_pop_some := false }).go_on source m
    (.entry i n recv_queue (.reading second q.write_idx q.read_idx 0))

/-- The receiver's next step inside `consume_swsr_recv_queues`. -/
def consume_next (s : State ActorId Item) (source : Source) (m : Message ActorId) :
    ConsumePc ActorId Item → Option (State ActorId Item)
  | .scanning i n =>
    if i < n then
      s.active_recv_queues[i]?.map fun (_, recv_queue) =>
        s.start_pop_some source m i n recv_queue false
    else some (s.go_on source m .post)
  | .entry i n recv_queue (.reading second w r num_read) =>
    let q := s.queues recv_queue
    -- `consume_swsr_recv_queues` passes `max_empty_read` on as the maximal number of messages
    if r ≠ w ∧ q.flag_stop_pop_some = false ∧ num_read < q.max_empty_read then
      some (s.go_on source m (.entry i n recv_queue (.popping q.top second w r num_read)))
    else some (s.pop_some_returns source m i n recv_queue second num_read)
  | .entry i n recv_queue .clearing =>
    some ((s.set_queue recv_queue (s.queues recv_queue).inc_read_progress).go_on source m
      (.entry i n recv_queue .rereading))
  | .entry i n recv_queue .rereading => some (s.start_pop_some source m i n recv_queue true)
  | .entry i n recv_queue .dropping =>
    s.active_recv_queues[i]?.map fun (sender, _) =>
      { s with
        swsr_recv_queues :=
          if (s.queues recv_queue).is_writing_by_sender then s.swsr_recv_queues
          else Function.update s.swsr_recv_queues sender none
        active_recv_queues := swap_remove s.active_recv_queues i }.go_on source m
          (.scanning i (n - 1))
  | .entry _ _ _ (.popping ..) | .post => none

/-- The handler of an item returns. -/
def pop_returns (s : State ActorId Item) (source : Source) (m : Message ActorId) (i n : Nat)
    (recv_queue : ActorId) (second : Bool) (w r num_read : UInt32) : State ActorId Item :=
  let q := s.queues recv_queue
  let q := if s.activated then q else { q with flag_stop_pop_some := true }
  (s.set_queue recv_queue q.release).go_on source m
    (.entry i n recv_queue (.reading second w (r + 1) (num_read + 1)))

/-- The handler of the consumption message sends the next one, and returns. -/
def consumption_returns (s : State ActorId Item) (self : ActorId) (source : Source) :
    State ActorId Item :=
  let s := if s.active_recv_queues.isEmpty then s else s.send self .Consumption
  { s with base := .loop }.receive_returns source

end State

/-! ### Labels and steps -/

/-- What a sender does next. -/
inductive SenderStep (ActorId Item : Type) where
  | setup_swsr_connection
  /-- `push(x, Blocking)`, up to the publication of the item. -/
  | push (x : Item)
  | inc_write_progress
  | notify
  /-- A message of the user, sent by ZMQ. -/
  | send (content : Content ActorId)

/-- What the user's code may do next. -/
inductive UserStep (ActorId Item : Type) where
  | push_self (x : Item)
  /-- A message of the user, sent to itself by ZMQ. -/
  | send_self (content : Content ActorId)
  | on_reply (req_id : UInt32) (stored : Bool)
  | set_activated (activated : Bool)
  /-- The handler or callback returns. -/
  | returns

inductive Label (ActorId Item : Type) where
  | sender (a : ActorId) (step : SenderStep ActorId Item)
  | user (step : UserStep ActorId Item)
  /-- One round of a loop of `receive`; the socket may yield a message of `a`. -/
  | loop (a : ActorId)
  /-- A callback of another socket starts. -/
  | callback
  /-- `flush_delayed_messages` sends a message that the user has delayed for this actor. -/
  | delayed (content : Content ActorId)
  /-- The next step inside `consume_swsr_recv_queues`. -/
  | consume

namespace State

/-- A sender starts something only when it is done with the last push. -/
def sender_next (s : State ActorId Item) (a : ActorId) :
    SenderStep ActorId Item → Option (State ActorId Item)
  | .setup_swsr_connection =>
    if s.senders a = .idle then some (s.setup_swsr_connection a) else none
  | .push x =>
    -- `send` has set the connection up
    if s.senders a = .idle ∧ s.swsr_send_queues a = true then
      match (s.queues a).push x .Blocking with
      | some (true, q) => some ((s.set_queue a q).set_sender a .exchanging)
      | some (false, q) => some (s.set_queue a q)
      | none => none
    else none
  | .inc_write_progress =>
    if s.senders a = .exchanging then
      let (reader_idle, q) := (s.queues a).inc_write_progress
      some ((s.set_queue a q).set_sender a (if reader_idle then .notifying else .idle))
    else none
  | .notify =>
    if s.senders a = .notifying then some ((s.send a .Notification).set_sender a .idle)
    else none
  | .send content =>
    if s.senders a = .idle ∧ content.by_user = true then some (s.send a content) else none

/-- Is the user's code running? Between messages it is `start()`, `stop()` or a callback. -/
def user_code (s : State ActorId Item) : Bool :=
  match s.calls, s.base with
  | .wait .. :: _, _ => false
  | _ :: _, _ => true
  | [], .loop | [], .handling .. => true
  | [], .consuming _ _ (.entry _ _ _ (.popping ..)) | [], .consuming _ _ .post => true
  | [], .consuming .. => false

/-- The user's code returns to its caller. -/
def returns (s : State ActorId Item) (self : ActorId) : Option (State ActorId Item) :=
  match s.calls, s.base with
  -- `on_reply` deactivates its loop
  | .reply source :: rest, _ =>
    some ({ s with calls := rest, activated := false }.receive_returns source)
  | .stored :: rest, _ | .callback :: rest, _ => some { s with calls := rest }
  | [], .handling source _ => some ({ s with base := .loop }.receive_returns source)
  | [], .consuming source m (.entry i n recv_queue (.popping _ second w r num_read)) =>
    some (s.pop_returns source m i n recv_queue second w r num_read)
  | [], .consuming source _ .post => some (s.consumption_returns self source)
  | _, _ => none

def user_next (s : State ActorId Item) (self : ActorId) :
    UserStep ActorId Item → Option (State ActorId Item)
  | .push_self x => s.push_self self x
  | .send_self content => if content.by_user then some (s.send self content) else none
  | .on_reply req_id stored => some (s.on_reply req_id stored)
  | .set_activated activated => some { s with activated }
  | .returns => s.returns self

def next (self : ActorId) (s : State ActorId Item) (l : Label ActorId Item) :
    Option (State ActorId Item) :=
  match l with
  | .sender a step => if a = self then none else s.sender_next a step
  | .user step => if s.user_code then s.user_next self step else none
  | .loop a => s.loop self a
  | .callback =>
    match s.calls with
    | .wait _ _ :: _ => some { s with calls := .callback :: s.calls }
    | _ => none
  | .delayed content => if content.by_user then some (s.send self content) else none
  | .consume =>
    match s.calls, s.base with
    | [], .consuming source m pc => s.consume_next source m pc
    | _, _ => none

end State

/-- After `initialize_actor`, with the queue for messages to itself. -/
def start (Item : Type) [Inhabited Item] (self : ActorId) : State ActorId Item where
  queues _ := ({} : SWSRDeliveryQueue Item).resize 15
  swsr_send_queues a := a = self
  senders _ := .idle
  recv_socket := []
  pending_messages := []
  waiting_for_response := 0
  activated := true
  swsr_recv_queues a := if a = self then some self else none
  active_recv_queues := []
  base := .loop
  calls := []
  failed_lookups := 0

def system (Item : Type) [Inhabited Item] (self : ActorId) :
    System (State ActorId Item) (Label ActorId Item) where
  init s := s = start Item self
  next := State.next self

end ZAF.Receiving
