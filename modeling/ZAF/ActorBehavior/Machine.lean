import Mathlib.Logic.Function.Basic
import ZAF.Framework.System

/-! # An actor and the messages it receives

    A machine for `ActorBehavior` (actor_behavior.cpp, actor_behavior.tpp) and
    the SWSR queues of `ActorBehaviorX`. The user's code (message handlers, reply
    handlers, the callbacks of `add_recv_poll`, `start()`) is not fixed: when it
    runs, any of its operations may come next, and a label says which.

    The call stack is part of the state. A frame stands for a call that has not
    returned yet: a loop of `receive`, an `on_reply` that waits, a handler. A
    handler may thus receive, wait and throw at any depth.

    Messages are pointers in the source. Here each one has a serial number, and
    histories record who got hold of it.
-/

namespace ZAF.ActorBehavior

open LTS

/-! ### Messages -/

/-- What decides how a message is processed. Everything that makes some handler
    run is `ordinary`, requests and the registration and notification of a queue
    included; `consumption` has the code `SWSRMsgQueueConsumption`. -/
inductive Content (Body : Type) where
  | ordinary
  | consumption
  | response (req_id : UInt32) (response : Body)
  deriving DecidableEq, Repr

structure Message (Body : Type) where
  serial : Nat
  content : Content Body
  deriving DecidableEq, Repr

/-- A response or a consumption is not ordinary. -/
def Message.is_ordinary {Body : Type} (m : Message Body) : Bool :=
  match m.content with
  | .ordinary => true
  | _ => false

/-- Where `inner_receive_once` finds a message. -/
inductive Source where
  | socket
  | pending
  deriving DecidableEq, Repr

/-- The handlers given to `receive_once`: the user's, or those with which
    `on_reply` waits for the reply to the `n`-th request. -/
inductive Table where
  | user
  | reply (n : Nat)
  deriving DecidableEq, Repr

/-! ### The call stack -/

/-- A message that is being processed by `receive_once`: its handlers, where it
    is from, and what happens when they are done (`current_message` becomes
    `prev_message`, and `polls` further callbacks run). -/
structure Turn (Body : Type) where
  table : Table
  source : Source
  message : Message Body
  prev_message : Option (Message Body)
  polls : Nat
  deriving DecidableEq, Repr

inductive Frame (Body : Type) (queues : Nat) where
  /-- The loop of `receive`, between two messages. -/
  | receive
  /-- The loop in `on_reply` of the `n`-th request, between two messages, with
      the locals `cur_act` and `current_inner_handlers`. -/
  | wait (n : Nat) (cur_act current_inner_handlers : Bool)
  /-- `inner_handlers.process(*m)` -/
  | process (turn : Turn Body)
  /-- A callback of `recv_poll_callbacks`; `polls` more are due after it. -/
  | callback (polls : Nat)
  /-- `on_reply` of the `n`-th request, processing a stored response. The local
      `iter` points to what the `inserted`-th request inserted; the table was
      rehashed `generation` times before. -/
  | stored (n generation inserted : Nat)
  /-- The loop of `consume_swsr_recv_queues`, between two messages. -/
  | consume (old_current_message : Option (Message Body))
  /-- `handlers.process(*m)` for a message in a queue. -/
  | pop (queue : Fin queues) (m : Message Body)
  deriving DecidableEq, Repr

variable {Body : Type} {queues : Nat}

/-- The callbacks of the sockets that have messages run one after the other. -/
def callbacks : Nat → List (Frame Body queues)
  | 0 => []
  | polls + 1 => [.callback polls]

/-- Is the user's code running? -/
def user_code : List (Frame Body queues) → Bool
  | [] | .process _ :: _ | .callback _ :: _ | .stored .. :: _ | .pop .. :: _ => true
  | .receive :: _ | .wait .. :: _ | .consume _ :: _ => false

/-- The request whose `on_reply` this call is. -/
def Frame.on_reply : Frame Body queues → Option Nat
  | .wait n _ _ | .stored n _ _ => some n
  | _ => none

/-! ### The state -/

/-- A `RequestHandler`: `invalid` after `self = nullptr`. -/
inductive RequestHandler where
  | unissued
  | valid
  | invalid
  | destroyed
  deriving DecidableEq, Repr

/-- A value of `unfinished_requests`, with the request that inserted it. -/
structure Entry (Body : Type) where
  inserted : Nat
  response : Option Body
  deriving DecidableEq, Repr

structure State (Body : Type) (queues : Nat) where
  activated : Bool
  current_message : Option (Message Body)
  waiting_for_response : Nat
  /-- The number of requests issued; `request_id` in the source is this modulo
      2^32. -/
  request_id : Nat
  unfinished_requests : UInt32 → Option (Entry Body)
  /-- How often `unfinished_requests` has been rehashed. -/
  generation : Nat
  pending_messages : List (Message Body)
  /-- Does `inner_handlers` hold its handlers? Not after it has been moved from. -/
  inner_handlers : Bool
  recv_socket : List (Message Body)
  swsr_recv_queues : Fin queues → List (Message Body)
  stack : List (Frame Body queues)
  /-- The handler of the `n`-th request. -/
  handlers : Nat → RequestHandler
  /-- Has the behaviour of the program become undefined? -/
  undefined : Bool
  terminated : Bool
  /-- All messages that came in. -/
  arrived : List (Message Body)
  /-- The messages that handlers were run on, deferral apart. -/
  dispatched : List (Message Body)
  /-- The messages that `on_reply` put into `pending_messages`. -/
  deferred : List (Message Body)
  /-- The messages deleted. -/
  released : List (Message Body)
  /-- The messages in `CountPointer`s. -/
  taken : List (Message Body)
  /-- The requests whose handlers were run on a response, with its body. -/
  invoked : List (Nat × Body)
  /-- The responses received, each with the number of requests issued by then. -/
  received : List (Nat × UInt32 × Body)
  /-- The request ids of the responses that `store_response` ignored. -/
  discarded : List UInt32
  /-- The requests whose `on_reply` has taken its id out of
      `unfinished_requests` to wait. -/
  waited : List Nat

/-- The id of the `n`-th request. -/
def request_id_of (n : Nat) : UInt32 := UInt32.ofNat n

namespace State

/-! ### Receiving -/

/-- An entry gets the response; without an entry the response is ignored. -/
def store_response (s : State Body queues) (req_id : UInt32) (response : Body) :
    State Body queues :=
  { s with
    unfinished_requests := Function.update s.unfinished_requests req_id
      ((s.unfinished_requests req_id).map fun entry => { entry with response := some response })
    discarded :=
      match s.unfinished_requests req_id with
      | some _ => s.discarded
      | none => s.discarded ++ [req_id] }

/-- What `receive_once` and `inner_receive_once` do when `process` returns: the
    message is deleted if it is still there. A message from `pending_messages` is
    removed from them, one from the socket is followed by the callbacks. -/
def receive_returns (s : State Body queues) (t : Turn Body) : State Body queues :=
  { s with
    released := s.released ++ s.current_message.toList
    current_message := t.prev_message
    pending_messages :=
      match t.source with
      | .pending => s.pending_messages.tail
      | .socket => s.pending_messages
    stack :=
      match t.source with
      | .pending => s.stack
      | .socket => callbacks t.polls ++ s.stack }

/-- A handler of the user starts on the message. -/
def handle (s : State Body queues) (t : Turn Body) : State Body queues :=
  { s with
    current_message := some t.message
    dispatched := s.dispatched ++ [t.message]
    stack := .process t :: s.stack }

/-- The handler of `SWSRMsgQueueConsumption` starts. -/
def consume_swsr_recv_queues (s : State Body queues) (t : Turn Body) : State Body queues :=
  { s with
    current_message := none
    dispatched := s.dispatched ++ [t.message]
    stack := .consume (some t.message) :: .process t :: s.stack }

/-- The default handler of `on_reply`. -/
def defer_message (s : State Body queues) (t : Turn Body) : State Body queues :=
  receive_returns
    { s with
      pending_messages := s.pending_messages ++ [t.message]
      deferred := s.deferred ++ [t.message]
      current_message := none } t

def receive_response (s : State Body queues) (req_id : UInt32) (response : Body) :
    State Body queues :=
  { s with received := s.received ++ [(s.request_id, req_id, response)] }

/-- A response that is not for the `on_reply` that waits. -/
def process_response (s : State Body queues) (t : Turn Body) (req_id : UInt32)
    (response : Body) : State Body queues :=
  receive_returns
    (store_response
      { s with
        current_message := some t.message
        dispatched := s.dispatched ++ [t.message] } req_id response) t

/-- The response for the `on_reply` that waits: its handlers start on the body. -/
def process_reply (s : State Body queues) (t : Turn Body) (n : Nat) (response : Body) :
    State Body queues :=
  { s.handle t with invoked := s.invoked ++ [(n, response)] }

/-- `inner_handlers.process(*m)`, where `inner_handlers` may have been moved
    from and its child is the table of the turn. -/
def process (s : State Body queues) (t : Turn Body) : State Body queues :=
  match t.message.content with
  | .ordinary =>
    match t.table with
    | .user => s.handle t
    | .reply _ => s.defer_message t
  | .consumption =>
    if s.inner_handlers then s.consume_swsr_recv_queues t
    else
      -- while an `on_reply` waits, the code is like any other
      match t.table with
      | .user => s.handle t
      | .reply _ => s.defer_message t
  | .response req_id response =>
    if s.inner_handlers then (s.receive_response req_id response).process_response t req_id response
    else
      match t.table with
      | .user => (s.receive_response req_id response).handle t
      | .reply n =>
        -- `if (req_id != request_id)` in the handler that `on_reply` installs
        if req_id = request_id_of n then
          (s.receive_response req_id response).process_reply t n response
        else (s.receive_response req_id response).process_response t req_id response

/-- The message that `inner_receive_once` passes on next. A message in
    `pending_messages` is removed only when it has been processed. -/
def next_message (s : State Body queues) : Option (Source × Message Body) :=
  match s.waiting_for_response, s.pending_messages with
  | 0, m :: _ => some (.pending, m)
  | _, _ => s.recv_socket.head?.map fun m => (.socket, m)

def take_from (s : State Body queues) (source : Source) : State Body queues :=
  { s with
    recv_socket :=
      match source with
      | .socket => s.recv_socket.tail
      | .pending => s.recv_socket }

/-- One `receive_once`; it blocks when nothing comes. -/
def receive_once (s : State Body queues) (table : Table) (polls : Nat) :
    Option (State Body queues) :=
  match s.next_message, polls with
  | some (source, m), polls =>
    some ((s.take_from source).process ⟨table, source, m, s.current_message, polls⟩)
  | none, 0 => none
  -- `zmq::poll` has reported other sockets only
  | none, polls + 1 => some { s with stack := .callback polls :: s.stack }

/-- The epilogue of `on_reply` after its loop. -/
def reply_returns (s : State Body queues) (n : Nat) (cur_act current_inner_handlers : Bool)
    (rest : List (Frame Body queues)) : State Body queues :=
  { s with
    stack := rest
    inner_handlers := current_inner_handlers
    activated := cur_act || s.activated
    waiting_for_response := s.waiting_for_response - 1
    handlers := Function.update s.handlers n .invalid }

/-- One round of the loop of `receive`, in `receive` itself or in `on_reply`. -/
def loop (s : State Body queues) (polls : Nat) : Option (State Body queues) :=
  match s.stack with
  | .receive :: rest =>
    if s.activated then s.receive_once .user polls else some { s with stack := rest }
  | .wait n cur_act current_inner_handlers :: rest =>
    if s.activated then s.receive_once (.reply n) polls
    else some (s.reply_returns n cur_act current_inner_handlers rest)
  | _ => none

/-! ### Requests -/

/-- `request`; `emplace` keeps an entry that is there. -/
def request (s : State Body queues) (rehash : Bool) : State Body queues :=
  let req_id := request_id_of s.request_id
  { s with
    request_id := s.request_id + 1
    unfinished_requests := Function.update s.unfinished_requests req_id
      (some ((s.unfinished_requests req_id).getD ⟨s.request_id, none⟩))
    generation :=
      if rehash && (s.unfinished_requests req_id).isNone then s.generation + 1
      else s.generation
    handlers := Function.update s.handlers s.request_id .valid }

def erase_request (s : State Body queues) (n : Nat) : State Body queues :=
  { s with unfinished_requests :=
      Function.update s.unfinished_requests (request_id_of n) none }

/-- `on_reply` finds a response: its handlers start on the body. -/
def reply_stored (s : State Body queues) (n inserted : Nat) (response : Body) :
    State Body queues :=
  { s with
    stack := .stored n s.generation inserted :: s.stack
    invoked := s.invoked ++ [(n, response)] }

/-- `on_reply` finds no response: it starts to wait. -/
def wait_reply (s : State Body queues) (n : Nat) : State Body queues :=
  { s.erase_request n with
    waiting_for_response := s.waiting_for_response + 1
    inner_handlers := false
    activated := true
    stack := .wait n s.activated s.inner_handlers :: s.stack
    waited := s.waited ++ [n] }

/-- `on_reply`. It throws when the handler is invalid, which is an exception
    like any other of the user's code. -/
def on_reply (s : State Body queues) (n : Nat) : Option (State Body queues) :=
  if s.handlers n = .valid then
    match s.unfinished_requests (request_id_of n) with
    -- `iter` is not checked against `end()` before `iter->second`
    | none => some { s with undefined := true }
    | some ⟨inserted, some response⟩ => some (s.reply_stored n inserted response)
    | some ⟨_, none⟩ => some (s.wait_reply n)
  else none

/-- Is `iter` valid after the handlers of a stored response have run? Not when
    the table has been rehashed or the entry erased. -/
def iter_valid (s : State Body queues) (n generation inserted : Nat) : Bool :=
  s.generation = generation &&
    (s.unfinished_requests (request_id_of n)).any (·.inserted = inserted)

/-- `unfinished_requests.erase(iter); self = nullptr`. What `erase` does to the
    table when `iter` is invalid is not known: `garbage` stands for it. -/
def stored_returns (s : State Body queues) (n generation inserted : Nat)
    (rest : List (Frame Body queues)) (garbage : UInt32 → Option (Entry Body)) :
    State Body queues :=
  { s with
    unfinished_requests :=
      if s.iter_valid n generation inserted then
        Function.update s.unfinished_requests (request_id_of n) none
      else garbage
    undefined := s.undefined || !s.iter_valid n generation inserted
    stack := rest
    handlers := Function.update s.handlers n .invalid }

/-- A handler may not be moved or destroyed while its `on_reply` runs. -/
def may_end (s : State Body queues) (n : Nat) : Bool :=
  (s.handlers n = .valid || s.handlers n = .invalid) && s.stack.all (·.on_reply != some n)

/-- `~RequestHandler` -/
def destroy (s : State Body queues) (n : Nat) : State Body queues :=
  { s with
    handlers := Function.update s.handlers n .destroyed
    unfinished_requests :=
      if s.handlers n = .valid then
        Function.update s.unfinished_requests (request_id_of n) none
      else s.unfinished_requests }

/-- The assignment of another handler to this one does not erase its entry. -/
def overwrite (s : State Body queues) (n : Nat) : State Body queues :=
  { s with handlers := Function.update s.handlers n .destroyed }

end State

/-! ### Labels and steps -/

/-- What the user's code may do next. -/
inductive UserStep (Body : Type) where
  | request (rehash : Bool)
  | on_reply (n : Nat)
  | destroy (n : Nat)
  | overwrite (n : Nat)
  | receive_once (polls : Nat)
  | receive
  | set_activated (activated : Bool)
  | take_current_message
  /-- The last copy of the `k`-th `CountPointer` goes. -/
  | release_taken (k : Nat)
  /-- The handler or callback returns. -/
  | returns (garbage : UInt32 → Option (Entry Body))
  /-- An exception ends the first `k` calls on the stack; the caller catches it. -/
  | throws (k : Nat)
  | terminate_actor

inductive Label (Body : Type) (queues : Nat) where
  /-- A message arrives at the socket. -/
  | arrive (content : Content Body)
  /-- A message is pushed to a queue. -/
  | push (queue : Fin queues) (content : Content Body)
  | user (step : UserStep Body)
  /-- One round of a loop; `polls` callbacks are due. -/
  | loop (polls : Nat)
  /-- The next message of a queue. -/
  | pop (queue : Fin queues)
  /-- `consume_swsr_recv_queues` returns. -/
  | consumed

namespace State

def arrive (s : State Body queues) (content : Content Body) : State Body queues :=
  { s with
    recv_socket := s.recv_socket ++ [⟨s.arrived.length, content⟩]
    arrived := s.arrived ++ [⟨s.arrived.length, content⟩] }

def push (s : State Body queues) (queue : Fin queues) (content : Content Body) :
    State Body queues :=
  { s with
    swsr_recv_queues := Function.update s.swsr_recv_queues queue
      (s.swsr_recv_queues queue ++ [⟨s.arrived.length, content⟩])
    arrived := s.arrived ++ [⟨s.arrived.length, content⟩] }

/-- `pop_some` passes the oldest message on, and removes it when the handler has
    returned. -/
def pop (s : State Body queues) (queue : Fin queues) : Option (State Body queues) :=
  match s.stack, s.swsr_recv_queues queue with
  | .consume _ :: _, m :: _ =>
    some { s with
      current_message := some m
      dispatched := s.dispatched ++ [m]
      stack := .pop queue m :: s.stack }
  | _, _ => none

/-- All messages in the queues. -/
def swsr_messages (s : State Body queues) : List (Message Body) :=
  (List.finRange queues).flatMap s.swsr_recv_queues

/-- `terminate_actor`, and the destructors of the queues. -/
def terminate_actor (s : State Body queues) : State Body queues :=
  { s with
    released := s.released ++ s.pending_messages ++ s.recv_socket ++ s.swsr_messages
    pending_messages := []
    recv_socket := []
    swsr_recv_queues := fun _ => []
    terminated := true }

/-- The handlers are done with a message: `on_reply` deactivates its loop. -/
def process_returns (s : State Body queues) (t : Turn Body) (rest : List (Frame Body queues)) :
    State Body queues :=
  receive_returns
    { s with
      stack := rest
      activated := match t.table with
        | .user => s.activated
        | .reply _ => false } t

def pop_returns (s : State Body queues) (queue : Fin queues) (rest : List (Frame Body queues)) :
    State Body queues :=
  { s with
    released := s.released ++ s.current_message.toList
    current_message := none
    stack := rest
    swsr_recv_queues :=
      Function.update s.swsr_recv_queues queue (s.swsr_recv_queues queue).tail }

/-- The user's code returns to its caller. -/
def returns (s : State Body queues) (garbage : UInt32 → Option (Entry Body)) :
    Option (State Body queues) :=
  match s.stack with
  | .process t :: rest => some (s.process_returns t rest)
  | .callback polls :: rest => some { s with stack := callbacks polls ++ rest }
  | .stored n generation inserted :: rest =>
    some (s.stored_returns n generation inserted rest garbage)
  | .pop queue _ :: rest => some (s.pop_returns queue rest)
  | _ => none

def user_next (s : State Body queues) : UserStep Body → Option (State Body queues)
  | .request rehash => some (s.request rehash)
  | .on_reply n => s.on_reply n
  | .destroy n => if s.may_end n then some (s.destroy n) else none
  | .overwrite n => if s.may_end n then some (s.overwrite n) else none
  | .receive_once polls => s.receive_once .user polls
  | .receive => some { s with activated := true, stack := .receive :: s.stack }
  | .set_activated activated => some { s with activated }
  | .take_current_message =>
    match s.current_message with
    | some m => some { s with taken := s.taken ++ [m], current_message := none }
    | none => none
  | .release_taken k =>
    match s.taken[k]? with
    | some m => some { s with taken := s.taken.eraseIdx k, released := s.released ++ [m] }
    | none => none
  | .returns garbage => s.returns garbage
  | .throws k =>
    -- nothing is restored on the way
    if user_code (s.stack.drop k) then some { s with stack := s.stack.drop k } else none
  | .terminate_actor =>
    -- the destructor runs when `launch` has returned or thrown
    match s.stack with
    | [] => some s.terminate_actor
    | _ :: _ => none

def next (s : State Body queues) (l : Label Body queues) : Option (State Body queues) :=
  if s.terminated then none
  else
    match l with
    | .arrive content => some (s.arrive content)
    | .push queue content => some (s.push queue content)
    | .user step => if user_code s.stack then s.user_next step else none
    | .loop polls => s.loop polls
    | .pop queue => s.pop queue
    | .consumed =>
      match s.stack with
      | .consume old_current_message :: rest =>
        some { s with stack := rest, current_message := old_current_message }
      | _ => none

end State

/-- An actor at the start of `launch`. -/
def start (Body : Type) (queues : Nat) : State Body queues where
  activated := true
  current_message := none
  waiting_for_response := 0
  request_id := 0
  unfinished_requests := fun _ => none
  generation := 0
  pending_messages := []
  inner_handlers := true
  recv_socket := []
  swsr_recv_queues := fun _ => []
  stack := []
  handlers := fun _ => .unissued
  undefined := false
  terminated := false
  arrived := []
  dispatched := []
  deferred := []
  released := []
  taken := []
  invoked := []
  received := []
  discarded := []
  waited := []

def system (Body : Type) (queues : Nat) : System (State Body queues) (Label Body queues) where
  init s := s = start Body queues
  next := State.next

end ZAF.ActorBehavior
