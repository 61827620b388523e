import Mathlib.Algebra.Group.Nat.Defs
import Mathlib.Data.List.Nodup
import Mathlib.Logic.Function.Basic
import ZAF.Framework.System

/-! # Request handlers and their entries

    A `RequestHandler` owns an entry of `unfinished_requests`. It can be moved, assigned
    to and destroyed at any time, also by the reply handlers that an `on_reply` runs and by
    the callbacks of `add_recv_poll` that run while it waits.

    An `on_reply` that waits takes its entry out at once, and gives up the ownership when
    it returns. In between its request is neither listed nor done.
-/

namespace ZAF.Requesting

open LTS

/-! ### State -/

structure RequestHandler where
  /-- `self` is not null. -/
  has_self : Bool
  request_id : Nat
  deriving DecidableEq, Repr

/-- How far an `on_reply` that waits is: in its loop, in the reply handler, or past it. -/
inductive Phase where
  | waiting | replying | done
  deriving DecidableEq, Repr

/-- What has been called and has not returned. A handler is given by its address. -/
inductive Frame where
  /-- `on_reply` runs the reply handler for a stored response. `iter` points to the entry of
      `id`, in the table that has the `generation`. -/
  | stored (o id generation : Nat)
  /-- `on_reply` has found no response to `id`. -/
  | waits (o id : Nat) (phase : Phase)
  /-- A callback of `add_recv_poll`. -/
  | callback
  deriving DecidableEq, Repr

def Frame.waits_for : Frame → Option (Nat × Nat)
  | .waits o id _ => some (o, id)
  | _ => none

structure State (Body : Type) where
  handlers : Nat → Option RequestHandler
  /-- The next one. -/
  request_id : Nat
  unfinished_requests : Nat → Option (Option Body)
  /-- How often an insertion has invalidated the iterators. -/
  generation : Nat
  stack : List Frame
  /-- The behaviour is undefined. -/
  undefined : Bool

def start (Body : Type) : State Body where
  handlers _ := none
  request_id := 0
  unfinished_requests _ := none
  generation := 0
  stack := []
  undefined := false

variable {Body : Type}

/-! ### Operations -/

/-- `emplace(req_id, nullptr)`, which may `rehash`. -/
def State.emplace (s : State Body) (req_id : Nat) (rehash : Bool) : State Body :=
  if (s.unfinished_requests req_id).isSome then s
  else { s with
    unfinished_requests := Function.update s.unfinished_requests req_id (some none)
    generation := if rehash then s.generation + 1 else s.generation }

def State.erase (s : State Body) (req_id : Nat) : State Body :=
  { s with unfinished_requests := Function.update s.unfinished_requests req_id none }

/-- `self = nullptr` -/
def State.release (s : State Body) (o : Nat) : State Body :=
  { s with
    handlers := Function.update s.handlers o
      ((s.handlers o).map fun h => { h with has_self := false }) }

/-- A null or a destroyed handler is used, or an iterator that is not valid. -/
def State.undefined_behavior (s : State Body) : State Body := { s with undefined := true }

/-- `request`, with the handler that it returns. There are fewer than `2 ^ 32` requests. -/
def State.request (s : State Body) (o : Nat) (rehash : Bool) : Option (State Body) :=
  if (s.handlers o).isNone ∧ s.request_id + 1 < 2 ^ 32 then
    some { s.emplace s.request_id rehash with
      handlers := Function.update s.handlers o (some ⟨true, s.request_id⟩)
      request_id := s.request_id + 1 }
  else none

/-- `self = other.self`, `request_id = other.request_id`, `other.self = nullptr` -/
def State.take_over (s : State Body) (o other : Nat) (h : RequestHandler) : State Body :=
  State.release { s with handlers := Function.update s.handlers o (some h) } other

/-- `RequestHandler(RequestHandler&& other)` -/
def State.move_construct (s : State Body) (o other : Nat) : Option (State Body) :=
  match s.handlers o, s.handlers other with
  | none, some h => some (s.take_over o other h)
  | _, _ => none

/-- `operator=(RequestHandler&& other)` -/
def State.move_assign (s : State Body) (o other : Nat) : Option (State Body) :=
  match s.handlers o, s.handlers other with
  | some _, some h => some (s.take_over o other h)
  | _, _ => none

/-- `~RequestHandler()` -/
def State.destroy (s : State Body) (o : Nat) : Option (State Body) :=
  match s.handlers o with
  | some h => some
    { (if h.has_self then s.erase h.request_id else s) with
      handlers := Function.update s.handlers o none }
  | none => none

/-- `on_reply`, up to the reply handler of a stored response or to the loop. -/
def State.on_reply (s : State Body) (o : Nat) : Option (State Body) :=
  match s.handlers o with
  | some ⟨true, id⟩ =>
    match s.unfinished_requests id with
    | some (some _) => some { s with stack := .stored o id s.generation :: s.stack }
    | some none => some { s.erase id with stack := .waits o id .waiting :: s.stack }
    -- `iter->second` of the end
    | none => some s.undefined_behavior
  -- it throws
  | some ⟨false, _⟩ => some s
  | none => none

def State.store_response (s : State Body) (req_id : Nat) (response : Body) : State Body :=
  match s.unfinished_requests req_id with
  | some _ =>
    { s with
      unfinished_requests :=
        Function.update s.unfinished_requests req_id (some (some response)) }
  | none => s

/-- Does the handler exist, with `self` not null? -/
def State.has_self (s : State Body) (o : Nat) : Bool := (s.handlers o).any RequestHandler.has_self

/-- A response arrives at the innermost `on_reply` while it waits. -/
def State.receive_response (s : State Body) (req_id : Nat) (response : Body) :
    Option (State Body) :=
  match s.stack with
  | .waits o id .waiting :: rest =>
    match s.handlers o with
    | some h =>
      if h.request_id = req_id then some { s with stack := .waits o id .replying :: rest }
      else if h.has_self then some (s.store_response req_id response)
      else some s.undefined_behavior
    | none => some s.undefined_behavior
  | _ => none

/-- Another message arrives there: `self->pending_messages.push_back`. -/
def State.receive_message (s : State Body) : Option (State Body) :=
  match s.stack with
  | .waits o _ .waiting :: _ => some (if s.has_self o then s else s.undefined_behavior)
  | _ => none

/-- A callback of `add_recv_poll` is called, before or after the reply handler. -/
def State.call_back (s : State Body) : Option (State Body) :=
  match s.stack with
  | .waits _ _ .replying :: _ => none
  | .waits _ _ _ :: _ => some { s with stack := .callback :: s.stack }
  | _ => none

/-- Does `iter` still point to the entry of `id`? -/
def State.iter_valid (s : State Body) (id generation : Nat) : Bool :=
  s.generation = generation && (s.unfinished_requests id).isSome

/-- A reply handler or a callback returns: after that of a stored response `on_reply` goes on
    with `self->unfinished_requests.erase(iter)` and `self = nullptr`, after that of one which
    it has waited for with `self->deactivate()`. -/
def State.returns (s : State Body) : Option (State Body) :=
  match s.stack with
  | .stored o id generation :: rest =>
    some (if s.has_self o && s.iter_valid id generation then
      { (s.erase id).release o with stack := rest }
    else s.undefined_behavior)
  | .waits o id .replying :: rest =>
    some (if s.has_self o then { s with stack := .waits o id .done :: rest }
    else s.undefined_behavior)
  | .callback :: rest => some { s with stack := rest }
  | _ => none

/-- `on_reply` returns after its loop: `self->inner_handlers = ..`, `self = nullptr`. -/
def State.on_reply_returns (s : State Body) : Option (State Body) :=
  match s.stack with
  | .waits o _ .done :: rest =>
    some (if s.has_self o then { s.release o with stack := rest } else s.undefined_behavior)
  | _ => none

/-- An exception leaves the innermost `on_reply`. -/
def State.throws (s : State Body) : Option (State Body) :=
  match s.stack with
  | .stored _ _ _ :: rest | .waits _ _ _ :: rest | .callback :: .waits _ _ _ :: rest =>
    some { s with stack := rest }
  | _ => none

/-! ### The system -/

/-- User code runs: outside of every `on_reply`, in a reply handler or in a callback. -/
def State.user_runs (s : State Body) : Bool :=
  match s.stack with
  | .waits _ _ .waiting :: _ | .waits _ _ .done :: _ => false
  | _ => true

inductive Label (Body : Type) where
  | request (o : Nat) (rehash : Bool)
  | move_construct (o other : Nat)
  | move_assign (o other : Nat)
  | destroy (o : Nat)
  | on_reply (o : Nat)
  /-- User code receives a response. -/
  | store_response (req_id : Nat) (response : Body)
  | receive_response (req_id : Nat) (response : Body)
  | receive_message
  | call_back
  | returns
  | on_reply_returns
  | throws

def system (Body : Type) : System (State Body) (Label Body) where
  init s := s = start Body
  next s l :=
    if s.undefined then none else
    match l with
    | .request o rehash => if s.user_runs then s.request o rehash else none
    | .move_construct o other => if s.user_runs then s.move_construct o other else none
    | .move_assign o other => if s.user_runs then s.move_assign o other else none
    | .destroy o => if s.user_runs then s.destroy o else none
    | .on_reply o => if s.user_runs then s.on_reply o else none
    | .store_response req_id response =>
      if s.user_runs then some (s.store_response req_id response) else none
    | .receive_response req_id response => s.receive_response req_id response
    | .receive_message => s.receive_message
    | .call_back => s.call_back
    | .returns => s.returns
    | .on_reply_returns => s.on_reply_returns
    | .throws => s.throws

/-! ### Owners and entries -/

/-- The handler is not null and has the request. -/
def State.owns (s : State Body) (o id : Nat) : Prop := s.handlers o = some ⟨true, id⟩

/-- The requests that an `on_reply` waits for, with the handlers. -/
def State.waiting (s : State Body) : List (Nat × Nat) := s.stack.filterMap Frame.waits_for

/-- **The entries are those of the handlers that own a request**, except for the requests
    that an `on_reply` waits for. -/
structure OneToOne (s : State Body) : Prop where
  defined : s.undefined = false
  keys : ∀ id, s.unfinished_requests id ≠ none ↔ ∃ o, s.owns o id ∧ (o, id) ∉ s.waiting
  unique : ∀ {o o' id}, s.owns o id → s.owns o' id → o = o'

/-- Between the operations nothing is excepted. -/
theorem OneToOne.keys_of_idle {s : State Body} (h : OneToOne s) (hidle : s.stack = []) (id : Nat) :
    s.unfinished_requests id ≠ none ↔ ∃ o, s.owns o id := by
  rw [h.keys]
  simp [State.waiting, hidle]

/-- The entry that a step is to remove: that of a handler which is destroyed or on which
    `on_reply` starts to wait, and that of a stored response which has been processed. -/
def own_entry (s : State Body) : Label Body → Option Nat
  | .destroy o => (s.handlers o).bind fun h => if h.has_self then some h.request_id else none
  | .on_reply o => (s.handlers o).bind fun h =>
    if h.has_self && (s.unfinished_requests h.request_id).all Option.isNone then some h.request_id
    else none
  | .returns =>
    match s.stack with
    | .stored _ id _ :: _ => some id
    | _ => none
  | _ => none

/-- The step removes its own entry and no other. -/
def RemovesOwn (s : State Body) (l : Label Body) : Prop :=
  ∀ s', (system Body).next s l = some s' → ∀ id, s.unfinished_requests id ≠ none →
    (s'.unfinished_requests id = none ↔ own_entry s l = some id)

/-! ### The condition -/

/-- The handler has a request that an `on_reply` waits for. -/
def State.awaited (s : State Body) (o : Nat) : Bool :=
  (s.handlers o).any fun h => h.has_self && (o, h.request_id) ∈ s.waiting

/-- The handler has a request that is in the table. -/
def State.listed (s : State Body) (o : Nat) : Bool :=
  (s.handlers o).any fun h => h.has_self && (o, h.request_id) ∉ s.waiting

/-- 1. No handler that has a listed request is assigned to. 2. As long as an `on_reply` waits,
    its handler is neither moved from nor destroyed, and `on_reply` is not called on it again;
    nor does an exception leave this `on_reply`. 3. When the reply handler of a stored response
    returns, no insertion has invalidated the iterators since `on_reply`, and the request
    still has its entry and its owner. -/
def careful (s : State Body) : Label Body → Bool
  | .move_construct _ other => !s.awaited other
  | .move_assign o other => !s.listed o && (!s.awaited other || o = other)
  | .on_reply o => !s.awaited o
  | .receive_response req_id _ =>
    match s.stack with
    | .waits o _ _ :: _ => (s.handlers o).any fun h => h.has_self || h.request_id = req_id
    | _ => true
  | .receive_message =>
    match s.stack with
    | .waits o _ _ :: _ => s.has_self o
    | _ => true
  | .returns =>
    match s.stack with
    | .stored o id generation :: _ =>
      s.handlers o = some ⟨true, id⟩ && s.iter_valid id generation
    | .waits o _ _ :: _ => s.has_self o
    | _ => true
  | .on_reply_returns =>
    match s.stack with
    | .waits o _ _ :: _ => s.awaited o
    | _ => true
  | .throws =>
    match s.stack with
    | .waits o id _ :: _ | .callback :: .waits o id _ :: _ => s.handlers o ≠ some ⟨true, id⟩
    | _ => true
  | _ => true

end ZAF.Requesting
