import ZAF.Framework.Family
import ZAF.Framework.Stack
import ZAF.ActorBehavior.Step

/-! # Who owns a message

    A message is passed to the handlers as a raw pointer. From the socket it is
    owned by `current_message` at once. From `pending_messages` or a queue it is
    owned by `current_message` while its container still holds it, until the
    handlers have returned. A nested `receive_once` keeps the caller's message in
    a local variable. This module accounts for every message by counting.
-/

namespace ZAF.ActorBehavior

open LTS

variable {Body : Type} {queues : Nat}

/-! ### Where messages are -/

/-- The messages in the local variables of a call: `prev_message` and
    `old_current_message`. -/
def Frame.held : Frame Body queues → List (Message Body)
  | .process t => t.prev_message.toList
  | .consume old => old.toList
  | _ => []

/-- A message that is processed while it is still in its queue. -/
def Frame.from_queue (queue : Fin queues) : Frame Body queues → List (Message Body)
  | .pop queue' m => if queue' = queue then [m] else []
  | _ => []

def held (stack : List (Frame Body queues)) : List (Message Body) := stack.flatMap Frame.held

/-- The messages of each queue that are processed while still in it. -/
def popping (stack : List (Frame Body queues)) (queue : Fin queues) : List (Message Body) :=
  stack.flatMap (Frame.from_queue queue)

@[simp] theorem held_cons (f : Frame Body queues) (rest : List (Frame Body queues)) :
    held (f :: rest) = f.held ++ held rest := List.flatMap_cons

@[simp] theorem held_callbacks (polls : Nat) (rest : List (Frame Body queues)) :
    held (callbacks polls ++ rest) = held rest := by
  cases polls <;> rfl

@[simp] theorem popping_callbacks (polls : Nat) (rest : List (Frame Body queues)) :
    popping (callbacks polls ++ rest) = popping rest := by
  cases polls <;> rfl

@[simp] theorem popping_nil : popping ([] : List (Frame Body queues)) = fun _ => [] := rfl

theorem popping_pop (queue : Fin queues) (m : Message Body) (rest : List (Frame Body queues)) :
    popping (.pop queue m :: rest) =
      Function.update (popping rest) queue (m :: popping rest queue) := by
  funext queue'
  by_cases hq : queue' = queue
  · subst hq
    simp [popping, Frame.from_queue]
  · simp [popping, Frame.from_queue, hq, Ne.symm hq]

/-! ### When the accounts are right -/

/-- A call that an exception may end without losing or keeping a message. -/
def Frame.abandonable : Frame Body queues → Bool
  | .process t => t.source = .socket && t.prev_message.isNone
  | .consume old => old.isNone
  | .pop .. => false
  | _ => true

/-- Does a call of `receive_once` take its message from `pending_messages`? -/
def State.takes_pending (s : State Body queues) : Bool :=
  s.waiting_for_response = 0 && !s.pending_messages.isEmpty

/-- 1. A message is not taken from `pending_messages` or from a queue while an
    earlier one, still in there, is being handled. 2. An exception does not end
    the handlers of such a message, nor a nested `receive_once` that holds the
    message of its caller. 3. The actor does not terminate with a message in
    `current_message`. -/
def keeps_custody (s : State Body queues) : Label Body queues → Bool
  | .user (.receive_once _) => !s.takes_pending || (in_hand s.stack).isEmpty
  | .loop _ => !s.activated || !s.takes_pending || (in_hand s.stack).isEmpty
  | .pop queue => (popping s.stack queue).isEmpty
  | .user (.throws k) => (s.stack.take k).all Frame.abandonable
  | .user .terminate_actor => s.current_message.isNone
  | _ => true

/-! ### Between two messages of a queue -/

/-- Is `consume_swsr_recv_queues` between two messages? -/
def consuming : List (Frame Body queues) → Bool
  | .consume _ :: _ => true
  | _ => false

def Frame.is_pop : Frame Body queues → Bool
  | .pop .. => true
  | _ => false

/-- Between two messages `current_message` is null, and only the handlers of a
    message of a queue return there. -/
structure Idle (stack : List (Frame Body queues)) (current_message : Option (Message Body)) :
    Prop where
  calls : Stacked (fun f rest => consuming rest = true → f.is_pop = true) stack
  current : consuming stack = true → current_message = none

theorem not_consuming_of_user_code {stack : List (Frame Body queues)}
    (h : user_code stack = true) : consuming stack = false := by
  unfold consuming
  split
  · cases h
  · rfl

theorem not_consuming_of_receives {s : State Body queues} {l : Label Body queues} {table : Table}
    {polls : Nat} (h : Receives s l table polls) : consuming s.stack = false := by
  cases h with
  | once polls huser => exact not_consuming_of_user_code huser
  | loop polls rest hstack hactivated => rw [hstack]; rfl
  | wait polls n cur_act inner rest hstack hactivated => rw [hstack]; rfl

theorem Idle.push {stack : List (Frame Body queues)} {c : Option (Message Body)}
    (h : Idle stack c) (hstack : consuming stack = false) {f : Frame Body queues}
    (hf : consuming [f] = false) (c' : Option (Message Body)) : Idle (f :: stack) c' where
  calls := ⟨fun h' => (by rw [hstack] at h'; cases h'), h.calls⟩
  current h' := by
    cases f with
    | consume old => cases hf
    | _ => cases h'

theorem Idle.pop {f : Frame Body queues} {rest : List (Frame Body queues)}
    {c : Option (Message Body)} (h : Idle (f :: rest) c) (hf : f.is_pop = false)
    (c' : Option (Message Body)) : Idle rest c' ∧ consuming rest = false := by
  -- Below the handlers of another message there is no loop over a queue.
  have hrest : consuming rest = false := by
    cases hconsuming : consuming rest with
    | false => rfl
    | true => rw [h.calls.1 hconsuming] at hf; cases hf
  exact ⟨⟨h.calls.2, fun h' => (by rw [hrest] at h'; cases h')⟩, hrest⟩

theorem Idle.callbacks {stack : List (Frame Body queues)} {c : Option (Message Body)}
    (h : Idle stack c) (hstack : consuming stack = false) (polls : Nat)
    (c' : Option (Message Body)) : Idle (callbacks polls ++ stack) c' := by
  cases polls with
  | zero => exact ⟨h.calls, fun h' => absurd (hstack.symm.trans h') Bool.false_ne_true⟩
  | succ polls => exact h.push hstack rfl c'

theorem Idle.receive_returns {s : State Body queues} {c : Option (Message Body)}
    (h : Idle s.stack c) (hstack : consuming s.stack = false) (t : Turn Body) :
    Idle (s.receive_returns t).stack (s.receive_returns t).current_message := by
  obtain ⟨table, source, m, prev, polls⟩ := t
  cases source with
  | socket => exact h.callbacks hstack polls prev
  | pending => exact h.callbacks hstack 0 prev

theorem Idle.process {s : State Body queues} {c : Option (Message Body)}
    (h : Idle s.stack c) (hstack : consuming s.stack = false) (t : Turn Body) :
    Idle (s.process t).stack (s.process t).current_message := by
  have hprocess := process_cases s t
  generalize s.process t = s' at hprocess ⊢
  cases hprocess with
  | handled | passed | replied => exact h.push hstack rfl _
  | consumes hcontent hinner =>
    exact ⟨⟨fun h' => (by cases h'), (h.push hstack rfl c).calls⟩, fun _ => rfl⟩
  | deferred n htable hcontent => exact Idle.receive_returns h hstack t
  | stored req_id response hcontent htable =>
    exact Idle.receive_returns (by exact h) (by exact hstack) t

theorem Idle.user_step {s s' : State Body queues} (h : Idle s.stack s.current_message)
    {step : UserStep Body} (huser : user_code s.stack = true) (hstep : UserSteps s step s') :
    Idle s'.stack s'.current_message := by
  have hstack := not_consuming_of_user_code huser
  cases hstep with
  | request | on_reply_missing | destroy | overwrite | set_activated | release_taken => exact h
  | take_current_message m hcurrent => exact ⟨h.calls, fun _ => rfl⟩
  | on_reply_stored | on_reply_waits | receive => exact h.push hstack rfl _
  | process_returns garbage t rest hrest =>
    rw [hrest] at h
    obtain ⟨hidle, hconsuming⟩ := h.pop rfl none
    exact Idle.receive_returns hidle hconsuming t
  | callback_returns garbage polls rest hrest =>
    rw [hrest] at h
    obtain ⟨hidle, hconsuming⟩ := h.pop rfl none
    exact hidle.callbacks hconsuming polls _
  | stored_returns garbage n generation inserted rest hrest =>
    rw [hrest] at h
    exact (h.pop rfl _).1
  | pop_returns garbage queue m rest hrest =>
    rw [hrest] at h
    exact ⟨h.calls.2, fun _ => rfl⟩
  | throws k hdrop =>
    refine ⟨h.calls.drop k, fun h' => ?_⟩
    rw [not_consuming_of_user_code hdrop] at h'
    cases h'
  | terminate_actor hempty => exact h

/-- Every run of an actor keeps this. -/
theorem Idle.run {guard : State Body queues → Label Body queues → Prop} {s : State Body queues}
    (hs : ReachableVia (system Body queues) guard s) : Idle s.stack s.current_message := by
  apply hs.invariant fun s => Idle s.stack s.current_message
  · intro s hinit
    rw [hinit]
    exact ⟨trivial, fun h => by cases h⟩
  · intro s l s' h _ hn
    cases (next_cases hn).2 with
    | arrive | push => exact h
    | user step huser hstep => exact h.user_step huser hstep
    | receives source m hreceives hnext =>
      have hstack := not_consuming_of_receives hreceives
      exact Idle.process (s := s.take_from source) h hstack _
    | polls hreceives hnext => exact h.push (not_consuming_of_receives hreceives) rfl _
    | leave polls rest hstack hactivated =>
      rw [hstack] at h
      exact (h.pop rfl _).1
    | leave_wait polls n cur_act inner rest hstack hactivated =>
      rw [hstack] at h
      exact (h.pop rfl _).1
    | pop queue old m rest hstack hqueue =>
      -- The only call that `consume_swsr_recv_queues` makes.
      exact ⟨⟨fun _ => rfl, h.calls⟩, fun h' => by cases h'⟩
    | consumed old rest hstack =>
      rw [hstack] at h
      exact (h.pop rfl _).1

/-! ### The invariant -/

variable [DecidableEq Body]

/-- How often a message is in the socket, in `pending_messages` or in a queue. -/
def State.contained (s : State Body queues) (m : Message Body) : Nat :=
  s.recv_socket.count m + s.pending_messages.count m + s.swsr_messages.count m

/-- How often it is there although its handlers are already running. -/
def shown (stack : List (Frame Body queues)) (m : Message Body) : Nat :=
  (in_hand stack).count m + (Family.all (popping stack)).count m

/-- How often it is released, in a `CountPointer`, or owned by a variable. -/
def State.owned (s : State Body queues) (m : Message Body) : Nat :=
  s.released.count m + s.taken.count m + s.current_message.toList.count m + (held s.stack).count m

structure Custody (s : State Body queues) : Prop where
  front : in_hand s.stack <+: s.pending_messages
  queue_front : ∀ queue, popping s.stack queue <+: s.swsr_recv_queues queue
  /-- Every message has one place, apart from the container it is shown in. -/
  account : ∀ m, s.arrived.count m + shown s.stack m = s.owned m + s.contained m
  /-- A dispatched message is in its container only while it is handled. -/
  dispatched : ∀ m, s.dispatched.count m + s.contained m ≤ s.arrived.count m + shown s.stack m
  deferred : ∀ m, s.deferred.count m + s.recv_socket.count m ≤ s.arrived.count m

theorem custody_start : Custody (start Body queues) where
  front := List.nil_prefix
  queue_front _ := List.nil_prefix
  account m := by
    simp [start, State.owned, State.contained, shown, held, State.swsr_messages, Family.all]
  dispatched m := by simp [start, State.contained, State.swsr_messages, shown, Family.all]
  deferred m := by simp [start]

theorem shown_process_socket {t : Turn Body} (hsource : t.source = .socket)
    (rest : List (Frame Body queues)) (x : Message Body) :
    shown (.process t :: rest) x = shown rest x := by
  show (in_hand (.process t :: rest)).count x + (Family.all (popping rest)).count x = _
  rw [in_hand_process_socket hsource]
  rfl

theorem shown_process_pending {t : Turn Body} (hsource : t.source = .pending)
    (rest : List (Frame Body queues)) (x : Message Body) :
    shown (.process t :: rest) x = [t.message].count x + shown rest x := by
  show (in_hand (.process t :: rest)).count x + (Family.all (popping rest)).count x = _
  rw [in_hand_process_pending hsource, shown, ← List.singleton_append, List.count_append,
    Nat.add_assoc]

theorem shown_pop (queue : Fin queues) (m : Message Body) (rest : List (Frame Body queues))
    (x : Message Body) : shown (.pop queue m :: rest) x = [m].count x + shown rest x := by
  have hcount := Family.count_all_update (popping rest) queue (m :: popping rest queue) x
  rw [shown, popping_pop, in_hand_cons, shown]
  simp only [Frame.from_pending, List.nil_append, List.count_cons, List.count_nil] at hcount ⊢
  omega

/-- Callbacks have no messages. -/
theorem Custody.callbacks {s : State Body queues} (h : Custody s) (polls : Nat) :
    Custody { s with stack := callbacks polls ++ s.stack } := by
  cases polls with
  | zero => exact h
  | succ polls => exact { h with }

/-- Nor have the calls of `receive`, `on_reply` and the callbacks. -/
theorem Custody.pop_frame {s : State Body queues} (h : Custody s) {f : Frame Body queues}
    {rest : List (Frame Body queues)} (hstack : s.stack = f :: rest)
    (hheld : held (f :: rest) = held rest) (hhand : in_hand (f :: rest) = in_hand rest)
    (hpop : popping (f :: rest) = popping rest) : Custody { s with stack := rest } := by
  have hfront := h.front
  have hqueue := h.queue_front
  have haccount := h.account
  have hdispatched := h.dispatched
  simp only [shown, State.owned] at haccount hdispatched
  rw [hstack] at hfront hqueue haccount hdispatched
  rw [hhand] at hfront
  rw [hpop] at hqueue
  simp only [hheld, hhand, hpop] at haccount hdispatched
  exact {
    front := hfront
    queue_front := hqueue
    account := haccount
    dispatched := hdispatched
    deferred := h.deferred }

end ZAF.ActorBehavior
