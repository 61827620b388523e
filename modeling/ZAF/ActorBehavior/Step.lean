import Mathlib.Data.List.Nodup
import Mathlib.Data.List.Range
import ZAF.ActorBehavior.Machine

/-! # What a step can do

    The cases of the machine, each with what is known in it. The invariants of
    the following modules are proved by cases on these relations and do not
    unfold the machine.
-/

namespace ZAF.ActorBehavior

open LTS

variable {Body : Type} {queues : Nat}

/-! ### Processing a message -/

/-- The outcomes of `process`. -/
inductive Processes (s : State Body queues) (t : Turn Body) : State Body queues → Prop where
  /-- The user's handlers run. -/
  | handled (htable : t.table = .user)
      (hcontent : ∀ req_id response, t.message.content ≠ .response req_id response) :
      Processes s t (s.handle t)
  /-- They run on a response, while `inner_handlers` do not know what it is. -/
  | passed (req_id : UInt32) (response : Body) (htable : t.table = .user)
      (hinner : s.inner_handlers = false)
      (hcontent : t.message.content = .response req_id response) :
      Processes s t ((s.receive_response req_id response).handle t)
  | consumes (hcontent : t.message.content = .consumption) (hinner : s.inner_handlers = true) :
      Processes s t (s.consume_swsr_recv_queues t)
  | deferred (n : Nat) (htable : t.table = .reply n)
      (hcontent : ∀ req_id response, t.message.content ≠ .response req_id response) :
      Processes s t (s.defer_message t)
  | stored (req_id : UInt32) (response : Body)
      (hcontent : t.message.content = .response req_id response)
      (htable : s.inner_handlers = true ∨ ∃ n, t.table = .reply n ∧ req_id ≠ request_id_of n) :
      Processes s t ((s.receive_response req_id response).process_response t req_id response)
  | replied (n : Nat) (response : Body) (htable : t.table = .reply n)
      (hinner : s.inner_handlers = false)
      (hcontent : t.message.content = .response (request_id_of n) response) :
      Processes s t ((s.receive_response (request_id_of n) response).process_reply t n response)

theorem process_cases (s : State Body queues) (t : Turn Body) : Processes s t (s.process t) := by
  unfold State.process
  -- The code of the message decides first, then whether `inner_handlers` know
  -- the code, and only then the child handlers.
  cases hcontent : t.message.content with
  | ordinary =>
    cases htable : t.table with
    | user => exact .handled htable (by simp [hcontent])
    | reply n => exact .deferred n htable (by simp [hcontent])
  | consumption =>
    by_cases hinner : s.inner_handlers = true
    · simpa only [hinner] using .consumes hcontent hinner
    · cases htable : t.table with
      | user => simpa [hinner] using Processes.handled htable (by simp [hcontent])
      | reply n => simpa [hinner] using Processes.deferred n htable (by simp [hcontent])
  | response req_id response =>
    by_cases hinner : s.inner_handlers = true
    · simpa only [hinner] using .stored req_id response hcontent (.inl hinner)
    · have hinner' : s.inner_handlers = false := by simpa using hinner
      cases htable : t.table with
      | user => simpa [hinner'] using Processes.passed req_id response htable hinner' hcontent
      | reply n =>
        by_cases hid : req_id = request_id_of n
        · subst hid
          simpa [hinner'] using Processes.replied n response htable hinner' hcontent
        · -- `req_id != request_id`: on to `store_response`.
          simpa [hinner', hid] using
            Processes.stored req_id response hcontent (.inr ⟨n, htable, hid⟩)

/-! ### Finding a message -/

/-- `pending_messages` are taken only while nothing waits. -/
theorem next_message_pending {s : State Body queues} {m : Message Body}
    (h : s.next_message = some (.pending, m)) :
    s.waiting_for_response = 0 ∧ s.pending_messages = m :: s.pending_messages.tail := by
  unfold State.next_message at h
  split at h
  · next hwaiting hpending =>
    cases h
    exact ⟨hwaiting, by rw [hpending, List.tail_cons]⟩
  · simp at h

/-- The socket is read while something waits, or when `pending_messages` are
    empty. -/
theorem next_message_socket {s : State Body queues} {m : Message Body}
    (h : s.next_message = some (.socket, m)) :
    (s.waiting_for_response = 0 → s.pending_messages = []) ∧
      s.recv_socket = m :: s.recv_socket.tail := by
  unfold State.next_message at h
  split at h
  · cases h
  · next hnone =>
    obtain ⟨m', hhead, heq⟩ := Option.map_eq_some_iff.mp h
    cases heq
    constructor
    · intro hwaiting
      cases hpending : s.pending_messages with
      | nil => rfl
      | cons m' ms => exact (hnone m' ms hwaiting hpending).elim
    · cases hsocket : s.recv_socket with
      | nil => rw [hsocket] at hhead; cases hhead
      | cons m' ms => rw [hsocket] at hhead; cases hhead; rfl

/-- The calls that run `receive_once`, with their handlers and the number of
    callbacks that are due. -/
inductive Receives (s : State Body queues) : Label Body queues → Table → Nat → Prop where
  | once (polls : Nat) (huser : user_code s.stack = true) :
      Receives s (.user (.receive_once polls)) .user polls
  | loop (polls : Nat) (rest : List (Frame Body queues)) (hstack : s.stack = .receive :: rest)
      (hactivated : s.activated = true) : Receives s (.loop polls) .user polls
  | wait (polls n : Nat) (cur_act inner : Bool) (rest : List (Frame Body queues))
      (hstack : s.stack = .wait n cur_act inner :: rest) (hactivated : s.activated = true) :
      Receives s (.loop polls) (.reply n) polls

/-- The handlers with which a step receives, if it does. -/
def State.receiving (s : State Body queues) : Label Body queues → Option Table
  | .user (.receive_once _) => some .user
  | .loop _ =>
    match s.activated, s.stack with
    | true, .receive :: _ => some .user
    | true, .wait n _ _ :: _ => some (.reply n)
    | _, _ => none
  | _ => none

theorem Receives.receiving {s : State Body queues} {l : Label Body queues} {table : Table}
    {polls : Nat} (h : Receives s l table polls) : s.receiving l = some table := by
  cases h with
  | once polls huser => rfl
  | loop polls rest hstack hactivated => simp only [State.receiving, hactivated, hstack]
  | wait polls n cur_act inner rest hstack hactivated =>
    simp only [State.receiving, hactivated, hstack]

/-- The id of the response that a step passes to `store_response`, if it does. -/
def State.stores (s : State Body queues) (l : Label Body queues) : Option UInt32 :=
  match s.receiving l, s.next_message with
  | some table, some (_, ⟨_, .response req_id _⟩) =>
    if s.inner_handlers then some req_id
    else
      match table with
      | .user => none
      | .reply n => if req_id = request_id_of n then none else some req_id
  | _, _ => none

theorem Receives.stores {s : State Body queues} {l : Label Body queues} {table : Table}
    {polls : Nat} (h : Receives s l table polls) {source : Source} {m : Message Body}
    (hnext : s.next_message = some (source, m)) {req_id : UInt32} {response : Body}
    (hcontent : m.content = .response req_id response)
    (htable : s.inner_handlers = true ∨ ∃ n, table = .reply n ∧ req_id ≠ request_id_of n) :
    s.stores l = some req_id := by
  obtain ⟨serial, content⟩ := m
  cases hcontent
  simp only [State.stores, h.receiving, hnext]
  by_cases hinner : s.inner_handlers = true
  · rw [if_pos hinner]
  · obtain ⟨n, rfl, hid⟩ := htable.resolve_left hinner
    rw [if_neg hinner]
    exact if_neg hid

/-! ### The steps -/

/-- What the operations of the user's code do, `receive_once` apart. -/
inductive UserSteps (s : State Body queues) : UserStep Body → State Body queues → Prop where
  | request (rehash : Bool) : UserSteps s (.request rehash) (s.request rehash)
  | on_reply_missing (n : Nat) (hvalid : s.handlers n = .valid)
      (hentry : s.unfinished_requests (request_id_of n) = none) :
      UserSteps s (.on_reply n) { s with undefined := true }
  | on_reply_stored (n inserted : Nat) (response : Body) (hvalid : s.handlers n = .valid)
      (hentry : s.unfinished_requests (request_id_of n) = some ⟨inserted, some response⟩) :
      UserSteps s (.on_reply n) (s.reply_stored n inserted response)
  | on_reply_waits (n inserted : Nat) (hvalid : s.handlers n = .valid)
      (hentry : s.unfinished_requests (request_id_of n) = some ⟨inserted, none⟩) :
      UserSteps s (.on_reply n) (s.wait_reply n)
  | destroy (n : Nat) (hend : s.may_end n = true) : UserSteps s (.destroy n) (s.destroy n)
  | overwrite (n : Nat) (hend : s.may_end n = true) : UserSteps s (.overwrite n) (s.overwrite n)
  | receive : UserSteps s .receive { s with activated := true, stack := .receive :: s.stack }
  | set_activated (activated : Bool) :
      UserSteps s (.set_activated activated) { s with activated }
  | take_current_message (m : Message Body) (hcurrent : s.current_message = some m) :
      UserSteps s .take_current_message
        { s with taken := s.taken ++ [m], current_message := none }
  | release_taken (k : Nat) (hk : k < s.taken.length) :
      UserSteps s (.release_taken k)
        { s with taken := s.taken.eraseIdx k, released := s.released ++ [s.taken[k]] }
  | process_returns (garbage : UInt32 → Option (Entry Body)) (t : Turn Body)
      (rest : List (Frame Body queues)) (hstack : s.stack = .process t :: rest) :
      UserSteps s (.returns garbage) (s.process_returns t rest)
  | callback_returns (garbage : UInt32 → Option (Entry Body)) (polls : Nat)
      (rest : List (Frame Body queues)) (hstack : s.stack = .callback polls :: rest) :
      UserSteps s (.returns garbage) { s with stack := callbacks polls ++ rest }
  | stored_returns (garbage : UInt32 → Option (Entry Body)) (n generation inserted : Nat)
      (rest : List (Frame Body queues)) (hstack : s.stack = .stored n generation inserted :: rest) :
      UserSteps s (.returns garbage) (s.stored_returns n generation inserted rest garbage)
  | pop_returns (garbage : UInt32 → Option (Entry Body)) (queue : Fin queues) (m : Message Body)
      (rest : List (Frame Body queues)) (hstack : s.stack = .pop queue m :: rest) :
      UserSteps s (.returns garbage) (s.pop_returns queue rest)
  | throws (k : Nat) (huser : user_code (s.stack.drop k) = true) :
      UserSteps s (.throws k) { s with stack := s.stack.drop k }
  | terminate_actor (hstack : s.stack = []) : UserSteps s .terminate_actor s.terminate_actor

/-- What a step does. -/
inductive Steps (s : State Body queues) : Label Body queues → State Body queues → Prop where
  | arrive (content : Content Body) : Steps s (.arrive content) (s.arrive content)
  | push (queue : Fin queues) (content : Content Body) :
      Steps s (.push queue content) (s.push queue content)
  | user {s' : State Body queues} (step : UserStep Body) (huser : user_code s.stack = true)
      (hstep : UserSteps s step s') : Steps s (.user step) s'
  | receives {l : Label Body queues} {table : Table} {polls : Nat} (source : Source)
      (m : Message Body) (hreceives : Receives s l table polls)
      (hnext : s.next_message = some (source, m)) :
      Steps s l ((s.take_from source).process ⟨table, source, m, s.current_message, polls⟩)
  | polls {l : Label Body queues} {table : Table} {polls : Nat}
      (hreceives : Receives s l table (polls + 1)) (hnext : s.next_message = none) :
      Steps s l { s with stack := .callback polls :: s.stack }
  | leave (polls : Nat) (rest : List (Frame Body queues)) (hstack : s.stack = .receive :: rest)
      (hactivated : s.activated = false) : Steps s (.loop polls) { s with stack := rest }
  | leave_wait (polls n : Nat) (cur_act inner : Bool) (rest : List (Frame Body queues))
      (hstack : s.stack = .wait n cur_act inner :: rest) (hactivated : s.activated = false) :
      Steps s (.loop polls) (s.reply_returns n cur_act inner rest)
  | pop (queue : Fin queues) (old : Option (Message Body)) (m : Message Body)
      (rest : List (Frame Body queues)) (hstack : s.stack = .consume old :: rest)
      (hqueue : s.swsr_recv_queues queue = m :: (s.swsr_recv_queues queue).tail) :
      Steps s (.pop queue)
        { s with
          current_message := some m
          dispatched := s.dispatched ++ [m]
          stack := .pop queue m :: s.stack }
  | consumed (old : Option (Message Body)) (rest : List (Frame Body queues))
      (hstack : s.stack = .consume old :: rest) :
      Steps s .consumed { s with stack := rest, current_message := old }

theorem receive_once_cases {s s' : State Body queues} {l : Label Body queues} {table : Table}
    {polls : Nat} (hreceives : Receives s l table polls)
    (hn : s.receive_once table polls = some s') : Steps s l s' := by
  unfold State.receive_once at hn
  split at hn
  · next source m hnext =>
    cases hn
    exact .receives source m hreceives hnext
  · cases hn
  · next hnext =>
    cases hn
    exact .polls hreceives hnext

theorem on_reply_cases {s s' : State Body queues} {n : Nat} (hn : s.on_reply n = some s') :
    UserSteps s (.on_reply n) s' := by
  unfold State.on_reply at hn
  split at hn
  · next hvalid =>
    split at hn
    · next hentry =>
      cases hn
      exact .on_reply_missing n hvalid hentry
    · next inserted response hentry =>
      cases hn
      exact .on_reply_stored n inserted response hvalid hentry
    · next inserted hentry =>
      cases hn
      exact .on_reply_waits n inserted hvalid hentry
  · cases hn

theorem returns_cases {s s' : State Body queues} {garbage : UInt32 → Option (Entry Body)}
    (hn : s.returns garbage = some s') : UserSteps s (.returns garbage) s' := by
  unfold State.returns at hn
  split at hn
  · next t rest hstack =>
    cases hn
    exact .process_returns garbage t rest hstack
  · next polls rest hstack =>
    cases hn
    exact .callback_returns garbage polls rest hstack
  · next n generation inserted rest hstack =>
    cases hn
    exact .stored_returns garbage n generation inserted rest hstack
  · next queue m rest hstack =>
    cases hn
    exact .pop_returns garbage queue m rest hstack
  · cases hn

theorem user_next_cases {s s' : State Body queues} {step : UserStep Body}
    (huser : user_code s.stack = true) (hn : s.user_next step = some s') :
    Steps s (.user step) s' := by
  cases step with
  | receive_once polls => exact receive_once_cases (.once polls huser) hn
  | on_reply n => exact .user _ huser (on_reply_cases hn)
  | returns garbage => exact .user _ huser (returns_cases hn)
  | request rehash =>
    cases hn
    exact .user _ huser (.request rehash)
  | receive =>
    cases hn
    exact .user _ huser .receive
  | set_activated activated =>
    cases hn
    exact .user _ huser (.set_activated activated)
  | destroy n =>
    simp only [State.user_next, Option.ite_none_right_eq_some, Option.some.injEq] at hn
    obtain ⟨hend, rfl⟩ := hn
    exact .user _ huser (.destroy n hend)
  | overwrite n =>
    simp only [State.user_next, Option.ite_none_right_eq_some, Option.some.injEq] at hn
    obtain ⟨hend, rfl⟩ := hn
    exact .user _ huser (.overwrite n hend)
  | throws k =>
    simp only [State.user_next, Option.ite_none_right_eq_some, Option.some.injEq] at hn
    obtain ⟨hdrop, rfl⟩ := hn
    exact .user _ huser (.throws k hdrop)
  | take_current_message =>
    simp only [State.user_next] at hn
    split at hn
    · next m hcurrent =>
      cases hn
      exact .user _ huser (.take_current_message m hcurrent)
    · cases hn
  | release_taken k =>
    simp only [State.user_next] at hn
    split at hn
    · next m hm =>
      obtain ⟨hk, rfl⟩ := List.getElem?_eq_some_iff.mp hm
      cases hn
      exact .user _ huser (.release_taken k hk)
    · cases hn
  | terminate_actor =>
    simp only [State.user_next] at hn
    split at hn
    · next hstack =>
      cases hn
      exact .user _ huser (.terminate_actor hstack)
    · cases hn

theorem loop_cases {s s' : State Body queues} {polls : Nat} (hn : s.loop polls = some s') :
    Steps s (.loop polls) s' := by
  unfold State.loop at hn
  split at hn
  · next rest hstack =>
    split at hn
    · next hactivated => exact receive_once_cases (.loop polls rest hstack hactivated) hn
    · next hactivated =>
      cases hn
      exact .leave polls rest hstack (by simpa using hactivated)
  · next n cur_act inner rest hstack =>
    split at hn
    · next hactivated =>
      exact receive_once_cases (.wait polls n cur_act inner rest hstack hactivated) hn
    · next hactivated =>
      cases hn
      exact .leave_wait polls n cur_act inner rest hstack (by simpa using hactivated)
  · -- No other call has a loop that receives.
    cases hn

/-- **Every step is one of these**, and the actor has not terminated before. -/
theorem next_cases {s s' : State Body queues} {l : Label Body queues} (hn : s.next l = some s') :
    s.terminated = false ∧ Steps s l s' := by
  unfold State.next at hn
  split at hn
  · cases hn
  · next hterminated =>
    refine ⟨by simpa using hterminated, ?_⟩
    cases l with
    | arrive content =>
      cases hn
      exact .arrive content
    | push queue content =>
      cases hn
      exact .push queue content
    | user step =>
      simp only [Option.ite_none_right_eq_some] at hn
      exact user_next_cases hn.1 hn.2
    | loop polls => exact loop_cases hn
    | pop queue =>
      simp only [State.pop] at hn
      split at hn
      · next old rest m ms hstack hqueue =>
        cases hn
        exact .pop queue old m rest hstack (by rw [hqueue, List.tail_cons])
      · cases hn
    | consumed =>
      simp only at hn
      split at hn
      · next old rest hstack =>
        cases hn
        exact .consumed old rest hstack
      · cases hn

/-- A step that stores a response receives it. -/
theorem receives_of_stores {s s' : State Body queues} {l : Label Body queues} {req_id : UInt32}
    (hn : s.next l = some s') (hstores : s.stores l = some req_id) :
    ∃ table polls, Receives s l table polls ∧
      (s.inner_handlers = true ∨ ∃ n, table = .reply n ∧ req_id ≠ request_id_of n) := by
  have hreceives : ∀ table, s.receiving l = some table → ∃ polls, Receives s l table polls := by
    intro table htable
    cases (next_cases hn).2 with
    | user step huser hstep => cases hstep <;> cases htable
    | receives source m hreceives hnext =>
      rw [hreceives.receiving] at htable
      cases htable
      exact ⟨_, hreceives⟩
    | polls hreceives hnext =>
      rw [hreceives.receiving] at htable
      cases htable
      exact ⟨_, hreceives⟩
    | leave polls rest hstack hactivated =>
      simp only [State.receiving, hactivated] at htable
      cases htable
    | leave_wait polls n cur_act inner rest hstack hactivated =>
      simp only [State.receiving, hactivated] at htable
      cases htable
    | _ => cases htable
  unfold State.stores at hstores
  split at hstores
  · next table source serial req_id' response htable hnext =>
    obtain ⟨polls, h⟩ := hreceives table htable
    refine ⟨table, polls, h, ?_⟩
    by_cases hinner : s.inner_handlers = true
    · exact .inl hinner
    · right
      rw [if_neg hinner] at hstores
      cases table with
      | user => cases hstores
      | reply n =>
        simp only [Option.ite_none_left_eq_some, Option.some.injEq] at hstores
        obtain ⟨hid, rfl⟩ := hstores
        exact ⟨n, rfl, hid⟩
  · cases hstores

/-! ### Serial numbers -/

/-- Processing a message neither brings in another nor ends the actor. -/
theorem process_arrived (s : State Body queues) (t : Turn Body) :
    (s.process t).arrived = s.arrived := by
  have hprocess := process_cases s t
  generalize s.process t = s' at hprocess ⊢
  cases hprocess <;> rfl

theorem process_terminated (s : State Body queues) (t : Turn Body) :
    (s.process t).terminated = s.terminated := by
  have hprocess := process_cases s t
  generalize s.process t = s' at hprocess ⊢
  cases hprocess <;> rfl

/-- A step brings in at most one message, with a serial number of its own. -/
theorem arrived_step {s s' : State Body queues} {l : Label Body queues}
    (hn : s.next l = some s') : s'.arrived = s.arrived ∨
      ∃ content, s'.arrived = s.arrived ++ [⟨s.arrived.length, content⟩] := by
  cases (next_cases hn).2 with
  | arrive content => exact .inr ⟨content, rfl⟩
  | push queue content => exact .inr ⟨content, rfl⟩
  | user step huser hstep => cases hstep <;> exact .inl rfl
  | receives source m hreceives hnext => exact .inl (process_arrived _ _)
  | polls | leave | leave_wait | pop | consumed => exact .inl rfl

/-- Two messages that come in are never the same. -/
theorem arrived_nodup {guard : State Body queues → Label Body queues → Prop}
    {s : State Body queues} (hs : ReachableVia (system Body queues) guard s) :
    s.arrived.Nodup := by
  have hserial : s.arrived.map Message.serial = List.range s.arrived.length := by
    apply hs.invariant fun s => s.arrived.map Message.serial = List.range s.arrived.length
    · intro s hinit
      rw [hinit]
      rfl
    · -- A new message is numbered by how many there were before it.
      intro s l s' h _ hn
      rcases arrived_step hn with heq | ⟨content, heq⟩
      · rw [heq, h]
      · rw [heq, List.map_append, h, List.length_append, List.length_singleton, List.range_succ]
        rfl
  exact List.Nodup.of_map Message.serial (hserial ▸ List.nodup_range)

/-! ### The message in hand -/

/-- A message that is processed while it is still in `pending_messages`. -/
def Frame.from_pending : Frame Body queues → List (Message Body)
  | .process t =>
    match t.source with
    | .pending => [t.message]
    | .socket => []
  | _ => []

/-- The messages that are processed while they are still in
    `pending_messages`. -/
def in_hand (stack : List (Frame Body queues)) : List (Message Body) :=
  stack.flatMap Frame.from_pending

@[simp] theorem in_hand_nil : in_hand ([] : List (Frame Body queues)) = [] := rfl

@[simp] theorem in_hand_cons (f : Frame Body queues) (rest : List (Frame Body queues)) :
    in_hand (f :: rest) = f.from_pending ++ in_hand rest := List.flatMap_cons

@[simp] theorem in_hand_callbacks (polls : Nat) (rest : List (Frame Body queues)) :
    in_hand (callbacks polls ++ rest) = in_hand rest := by
  cases polls <;> rfl

theorem in_hand_process_socket {t : Turn Body} (hsource : t.source = .socket)
    (rest : List (Frame Body queues)) : in_hand (.process t :: rest) = in_hand rest := by
  rw [in_hand_cons, Frame.from_pending, hsource]
  rfl

theorem in_hand_process_pending {t : Turn Body} (hsource : t.source = .pending)
    (rest : List (Frame Body queues)) :
    in_hand (.process t :: rest) = t.message :: in_hand rest := by
  rw [in_hand_cons, Frame.from_pending, hsource]
  rfl

/-! ### Termination -/

/-- Only `terminate_actor` ends the actor, and nothing happens after it. -/
theorem terminated_step {s s' : State Body queues} {l : Label Body queues}
    (hn : s.next l = some s') (hterminated : s'.terminated = true) :
    l = .user .terminate_actor ∧ s.stack = [] ∧ s' = s.terminate_actor := by
  obtain ⟨hbefore, hstep⟩ := next_cases hn
  -- A step that leaves the flag alone leaves it clear.
  have hother : s'.terminated = s.terminated → False := by
    intro heq
    rw [heq, hbefore] at hterminated
    cases hterminated
  cases hstep with
  | user step huser hstep =>
    cases hstep with
    | terminate_actor hstack => exact ⟨rfl, hstack, rfl⟩
    | _ => exact (hother rfl).elim
  | receives source m hreceives hnext => exact (hother (process_terminated _ _)).elim
  | _ => exact (hother rfl).elim

/-- A terminated actor runs nothing. -/
theorem stack_of_terminated {guard : State Body queues → Label Body queues → Prop}
    {s : State Body queues} (hs : ReachableVia (system Body queues) guard s)
    (hterminated : s.terminated = true) : s.stack = [] := by
  cases hs with
  | init h0 => rw [h0] at hterminated; cases hterminated
  | step l _ _ hn =>
    obtain ⟨-, hstack, rfl⟩ := terminated_step hn hterminated
    exact hstack

/-! ### The waits -/

def Frame.is_wait : Frame Body queues → Bool
  | .wait .. => true
  | _ => false

@[simp] theorem countP_is_wait_callbacks (polls : Nat) :
    (callbacks polls : List (Frame Body queues)).countP Frame.is_wait = 0 := by
  cases polls <;> rfl

theorem countP_is_wait_cons {f : Frame Body queues} (hf : f.is_wait = false)
    (rest : List (Frame Body queues)) :
    (f :: rest).countP Frame.is_wait = rest.countP Frame.is_wait := by
  rw [List.countP_cons_of_neg]
  rw [hf]
  exact Bool.false_ne_true

theorem countP_is_wait_receive_returns (s : State Body queues) (t : Turn Body) :
    (s.receive_returns t).stack.countP Frame.is_wait = s.stack.countP Frame.is_wait := by
  obtain ⟨table, source, m, prev, polls⟩ := t
  cases source with
  | socket => simp [State.receive_returns]
  | pending => rfl

theorem process_waits (s : State Body queues) (t : Turn Body) :
    (s.process t).stack.countP Frame.is_wait = s.stack.countP Frame.is_wait ∧
      (s.process t).waiting_for_response = s.waiting_for_response := by
  have hprocess := process_cases s t
  generalize s.process t = s' at hprocess ⊢
  cases hprocess with
  | handled | passed | consumes | replied => exact ⟨rfl, rfl⟩
  | deferred n htable hcontent => exact ⟨countP_is_wait_receive_returns _ t, rfl⟩
  | stored req_id response hcontent htable => exact ⟨countP_is_wait_receive_returns _ t, rfl⟩

/-- An `on_reply` that waits does not take from `pending_messages`. -/
theorem source_of_wait {s : State Body queues}
    (hwaits : s.stack.countP Frame.is_wait ≤ s.waiting_for_response) {l : Label Body queues}
    {n polls : Nat} {source : Source} {m : Message Body}
    (hreceives : Receives s l (.reply n) polls) (hnext : s.next_message = some (source, m)) :
    source = .socket := by
  cases hreceives with
  | wait polls n cur_act inner rest hstack hactivated =>
    cases source with
    | socket => rfl
    | pending =>
      -- The counter would have to be zero, but there is a wait on the stack.
      have hzero := (next_message_pending hnext).1
      rw [hstack, List.countP_cons_of_pos rfl] at hwaits
      omega

/-- The counter follows the waits on the stack, but it is not decremented when an exception
    ends a wait. -/
theorem waits_step {s s' : State Body queues} {l : Label Body queues} (hn : s.next l = some s') :
    s.waiting_for_response + s'.stack.countP Frame.is_wait ≤
      s'.waiting_for_response + s.stack.countP Frame.is_wait := by
  cases (next_cases hn).2 with
  | arrive | push => exact Nat.le_refl _
  | user step huser hstep =>
    cases hstep with
    | on_reply_waits n inserted hvalid hentry =>
      show _ + (Frame.wait .. :: s.stack).countP Frame.is_wait ≤ s.waiting_for_response + 1 + _
      rw [List.countP_cons_of_pos rfl]
      omega
    | process_returns garbage t rest hstack =>
      rw [hstack, countP_is_wait_cons rfl]
      exact Nat.add_le_add_left (Nat.le_of_eq (countP_is_wait_receive_returns _ t)) _
    | callback_returns garbage polls rest hstack =>
      rw [hstack, countP_is_wait_cons rfl, List.countP_append, countP_is_wait_callbacks,
        Nat.zero_add]
    | stored_returns garbage n generation inserted rest hstack =>
      rw [hstack]
      exact Nat.le_refl _
    | pop_returns garbage queue m rest hstack =>
      rw [hstack]
      exact Nat.le_refl _
    | throws k hdrop =>
      -- Waits may go from the stack; the counter stays.
      exact Nat.add_le_add_left (List.drop_sublist k s.stack).countP_le _
    | _ => exact Nat.le_refl _
  | receives source m hreceives hnext =>
    obtain ⟨hcount, hwaiting⟩ :=
      process_waits (s.take_from source) ⟨_, source, m, s.current_message, _⟩
    rw [hcount, hwaiting]
    exact Nat.le_refl _
  | polls hreceives hnext => exact Nat.le_refl _
  | leave polls rest hstack hactivated =>
    rw [hstack]
    exact Nat.le_refl _
  | leave_wait polls n cur_act inner rest hstack hactivated =>
    rw [hstack, List.countP_cons_of_pos rfl]
    show _ + rest.countP Frame.is_wait ≤ s.waiting_for_response - 1 + _
    omega
  | pop queue old m rest hstack hqueue => exact Nat.le_refl _
  | consumed old rest hstack =>
    rw [hstack]
    exact Nat.le_refl _

/-- The counter is at least the number of waits on the stack. -/
theorem waits_le {guard : State Body queues → Label Body queues → Prop}
    {s : State Body queues} (hs : ReachableVia (system Body queues) guard s) :
    s.stack.countP Frame.is_wait ≤ s.waiting_for_response := by
  apply hs.invariant fun s => s.stack.countP Frame.is_wait ≤ s.waiting_for_response
  · intro s hinit
    rw [hinit]
    exact Nat.le_refl 0
  · intro s l s' h _ hn
    have hstep := waits_step hn
    omega

end ZAF.ActorBehavior
