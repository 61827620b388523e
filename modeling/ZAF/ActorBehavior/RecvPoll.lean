import ZAF.Framework.SwapRemove
import ZAF.Framework.System

/-! # The polled sockets of an actor

    `add_recv_poll` and `remove_recv_poll` put a request into a batch, which the next receive
    applies to the sockets that it polls. User code runs in the middle of this: callbacks for
    sockets that are removed, callbacks for sockets that are ready, handlers of messages. All
    of them may make requests and may receive again.

    `registry` says what the polled sockets should be: all requests applied one after the
    other.
-/

namespace ZAF.Polling

open LTS SwapRemove

/-! ### State -/

/-- A `std::function`, which may be empty. -/
abbrev Callback := Option Nat

/-- `zmq::pollitem_t` -/
structure PollItem where
  socket : Nat
  /-- `revents & ZMQ_POLLIN` -/
  ready : Bool
  deriving DecidableEq, Repr

structure Request where
  add_or_del : Bool
  socket : Nat
  callback : Callback
  deriving DecidableEq, Repr

/-- Where an `inner_receive_once` is. `generation` stands for the iterators of
    `recv_poll_reqs`. -/
inductive Frame where
  /-- `process_recv_poll_reqs`, at request `k` of `n`. -/
  | applying (k n generation : Nat)
  /-- The callback of request `k` runs, the socket has been found at `j` of `m`. -/
  | removing (r : Request) (k n generation j m : Nat)
  | polling
  /-- The message from the own socket is processed. -/
  | message
  /-- The loop over the other sockets, at `i` of `n`. -/
  | dispatching (i n : Nat)
  | calling (i n : Nat)
  deriving DecidableEq, Repr

structure State where
  recv_poll_items : List PollItem
  recv_poll_callbacks : List Callback
  recv_poll_reqs : List Request
  /-- How often the iterators of `recv_poll_reqs` have become invalid. -/
  generation : Nat
  /-- The calls of `inner_receive_once` that have not returned. -/
  stack : List Frame
  undefined : Bool
  /-- All requests, in order. -/
  issued : List Request
  /-- Those that have taken effect or have thrown. -/
  applied : List Request
  /-- Those whose callback has been called. -/
  called : List Request

/-- After `initialize_recv_socket`. -/
def start (own : Nat) : State where
  recv_poll_items := [⟨own, false⟩]
  recv_poll_callbacks := [none]
  recv_poll_reqs := []
  generation := 0
  stack := []
  undefined := false
  issued := []
  applied := []
  called := []

/-- A vector or an iterator is used out of its bounds. -/
def State.undefined_behavior (s : State) : State := { s with undefined := true }

/-- User code runs: outside of receives, or called by the innermost one. -/
def State.user_runs (s : State) : Bool :=
  match s.stack with
  | [] | .removing _ _ _ _ _ _ :: _ | .message :: _ | .calling _ _ :: _ => true
  | _ => false

/-! ### Requests -/

/-- `recv_poll_reqs.emplace_back(..)`, for which the vector may have to grow. -/
def State.emplace_back (s : State) (r : Request) (grows : Bool) : State :=
  { s with
    recv_poll_reqs := s.recv_poll_reqs ++ [r]
    generation := if grows then s.generation + 1 else s.generation
    issued := s.issued ++ [r] }

def State.add_recv_poll (s : State) (socket : Nat) (callback : Callback) (grows : Bool) : State :=
  match callback with
  -- it throws
  | none => s
  | some _ => s.emplace_back ⟨true, socket, callback⟩ grows

def State.remove_recv_poll (s : State) (socket : Nat) (callback : Callback) (grows : Bool) :
    State :=
  s.emplace_back ⟨false, socket, callback⟩ grows

/-! ### `inner_receive_once` -/

/-- The first `j` from `1` on with `recv_poll_items[j].socket == handle`. -/
def State.find (s : State) (handle : Nat) : Option Nat :=
  ((s.recv_poll_items.drop 1).findIdx? fun item => item.socket = handle).map (· + 1)

/-- The last entries are swapped with those at `j` and taken off. -/
def State.remove_at (s : State) (j n : Nat) : State :=
  { s with
    recv_poll_items :=
      (if j ≠ n - 1 then swap_with_back s.recv_poll_items j else s.recv_poll_items).dropLast
    recv_poll_callbacks :=
      (if j ≠ n - 1 then swap_with_back s.recv_poll_callbacks j
        else s.recv_poll_callbacks).dropLast }

/-- The call of `inner_receive_once`, when it does not take a pending message. -/
def State.receive (s : State) : State :=
  { s with
    stack := (if s.recv_poll_reqs.isEmpty then .polling
      else .applying 0 s.recv_poll_reqs.length s.generation) :: s.stack }

/-- One round of the loop of `process_recv_poll_reqs`. -/
def State.apply_request (s : State) (r : Request) (k n : Nat) (rest : List Frame) : State :=
  let next := .applying (k + 1) n s.generation :: rest
  if r.add_or_del then
    { s with
      recv_poll_items := s.recv_poll_items ++ [⟨r.socket, false⟩]
      recv_poll_callbacks := s.recv_poll_callbacks ++ [r.callback]
      recv_poll_reqs := s.recv_poll_reqs.set k { r with callback := none }
      applied := s.applied ++ [r]
      stack := next }
  else
    match s.find r.socket with
    | some j =>
      if r.callback.isSome then
        { s with
          stack := .removing r k n s.generation j s.recv_poll_items.length :: rest
          called := s.called ++ [r] }
      else
        { s.remove_at j s.recv_poll_items.length with
          applied := s.applied ++ [r]
          stack := next }
    -- it throws, and the batch is not cleared
    | none => { s with applied := s.applied ++ [r], stack := rest }

/-- The loop of `process_recv_poll_reqs` goes on. -/
def State.apply (s : State) : Option State :=
  match s.stack with
  | .applying k n generation :: rest =>
    if k < n then
      match s.recv_poll_reqs[k]? with
      | some r =>
        some (if generation = s.generation then s.apply_request r k n rest
          else s.undefined_behavior)
      | none => some s.undefined_behavior
    else none
  | _ => none

/-- It ends: `recv_poll_reqs.clear()`. -/
def State.clear (s : State) : Option State :=
  match s.stack with
  | .applying k n generation :: rest =>
    if k < n then none
    else some (if generation = s.generation then
      { s with recv_poll_reqs := [], generation := s.generation + 1, stack := .polling :: rest }
    else s.undefined_behavior)
  | _ => none

/-- `zmq::poll`, with the sockets that have a message; it may also fail or time out. -/
def State.poll (s : State) (ready : Option (Nat → Bool)) : Option State :=
  match s.stack with
  | .polling :: rest =>
    match ready with
    | none => some { s with stack := rest }
    | some ready =>
      match s.recv_poll_items with
      | [] => some s.undefined_behavior
      | own :: _ => some
        { s with
          recv_poll_items :=
            s.recv_poll_items.map fun item => { item with ready := ready item.socket }
          stack := (if ready own.socket then .message
            else .dispatching 1 s.recv_poll_items.length) :: rest }
  | _ => none

/-- One round of the loop over the other sockets, or its end. -/
def State.dispatch (s : State) : Option State :=
  match s.stack with
  | .dispatching i n :: rest =>
    if i < n then
      match s.recv_poll_items[i]? with
      | some item =>
        if item.ready then
          match s.recv_poll_callbacks[i]? with
          | some (some _) => some { s with stack := .calling i n :: rest }
          -- `std::bad_function_call`
          | some none => some { s with stack := rest }
          | none => some s.undefined_behavior
        else some { s with stack := .dispatching (i + 1) n :: rest }
      | none => some s.undefined_behavior
    else some { s with stack := rest }
  | _ => none

/-- What the innermost receive has called returns. -/
def State.returns (s : State) : Option State :=
  match s.stack with
  | .removing r k n generation j m :: rest =>
    some (if generation = s.generation ∧ j < s.recv_poll_items.length ∧
        j < s.recv_poll_callbacks.length then
      { s.remove_at j m with
        applied := s.applied ++ [r]
        stack := .applying (k + 1) n generation :: rest }
    else s.undefined_behavior)
  | .message :: rest =>
    some { s with stack := .dispatching 1 s.recv_poll_items.length :: rest }
  | .calling i n :: rest => some { s with stack := .dispatching (i + 1) n :: rest }
  | _ => none

/-- An exception of user code or of the socket leaves the innermost receive. -/
def State.throws (s : State) : Option State :=
  match s.stack with
  | .removing _ _ _ _ _ _ :: rest | .polling :: rest | .message :: rest | .calling _ _ :: rest =>
    some { s with stack := rest }
  | _ => none

/-! ### The system -/

inductive Label where
  | add_recv_poll (socket : Nat) (callback : Callback) (grows : Bool)
  | remove_recv_poll (socket : Nat) (callback : Callback) (grows : Bool)
  | receive
  | apply
  | clear
  | poll (ready : Option (Nat → Bool))
  | dispatch
  | returns
  | throws

def system (own : Nat) : System State Label where
  init s := s = start own
  next s l :=
    if s.undefined then none else
    match l with
    | .add_recv_poll socket callback grows =>
      if s.user_runs then some (s.add_recv_poll socket callback grows) else none
    | .remove_recv_poll socket callback grows =>
      if s.user_runs then some (s.remove_recv_poll socket callback grows) else none
    | .receive => if s.user_runs then some s.receive else none
    | .apply => s.apply
    | .clear => s.clear
    | .poll ready => s.poll ready
    | .dispatch => s.dispatch
    | .returns => s.returns
    | .throws => s.throws

/-! ### What should be registered -/

/-- A request applied to the sockets with their callbacks: the last one takes the place of one
    that is removed. -/
def register (sockets : List (Nat × Callback)) (r : Request) : List (Nat × Callback) :=
  if r.add_or_del then sockets ++ [(r.socket, r.callback)]
  else
    match sockets.findIdx? fun p => p.1 = r.socket with
    | some j => swap_remove sockets j
    | none => sockets

def registry (requests : List Request) : List (Nat × Callback) := requests.foldl register []

/-- The removals with a callback. -/
def Request.calls_back (r : Request) : Bool := !r.add_or_del && r.callback.isSome

/-- The request that `process_recv_poll_reqs` is at. -/
def Frame.position : Frame → Option Nat
  | .applying k _ _ | .removing _ k _ _ _ _ => some k
  | _ => none

/-- The request whose callback runs. -/
def Frame.calls : Frame → List Request
  | .removing r _ _ _ _ _ => [r]
  | _ => []

/-- The requests that are still to be applied. -/
def State.pending (s : State) : List Request :=
  s.recv_poll_reqs.drop ((s.stack.findSome? Frame.position).getD 0)

/-- **Sockets and callbacks are aligned, and each request is applied once and in order.** -/
structure Registered (own : Nat) (s : State) : Prop where
  /-- No index has been out of bounds. -/
  defined : s.undefined = false
  lengths : s.recv_poll_items.length = s.recv_poll_callbacks.length
  own_socket : s.recv_poll_items[0]?.map PollItem.socket = some own
  /-- A socket stands with the callback that it has been added with. -/
  given : ∀ i item callback, s.recv_poll_items[i + 1]? = some item →
    s.recv_poll_callbacks[i + 1]? = some callback →
    ⟨true, item.socket, callback⟩ ∈ s.applied
  sequential : ((s.recv_poll_items.map PollItem.socket).zip s.recv_poll_callbacks).drop 1 =
    registry s.applied
  in_order : s.applied ++ s.pending = s.issued
  called : s.called = s.applied.filter Request.calls_back ++ s.stack.flatMap Frame.calls

/-! ### The condition -/

def State.in_removal (s : State) : Bool :=
  match s.stack with
  | .removing _ _ _ _ _ _ :: _ => true
  | _ => false

/-- 1. A callback of `remove_recv_poll` makes no requests, does not receive and does not
    throw. 2. A socket that is to be removed is registered when the request is applied.
    3. When the loop over the sockets gets to an index, there still are that many: the callbacks
    before have not removed sockets by a nested receive. -/
def careful (s : State) : Label → Bool
  | .add_recv_poll _ _ _ | .remove_recv_poll _ _ _ | .receive | .throws => !s.in_removal
  | .apply =>
    match s.stack with
    | .applying k _ _ :: _ =>
      s.recv_poll_reqs[k]?.all fun r => r.add_or_del || (s.find r.socket).isSome
    | _ => true
  | .dispatch =>
    match s.stack with
    | .dispatching i n :: _ => n ≤ i || i < s.recv_poll_items.length
    | _ => true
  | _ => true

end ZAF.Polling
