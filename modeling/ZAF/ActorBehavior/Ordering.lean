import Mathlib.Data.List.Infix
import ZAF.Framework.Fifo
import ZAF.Framework.Stack
import ZAF.ActorBehavior.Step

/-! # Deferral keeps the order of messages

    While an `on_reply` waits, ordinary messages move from the socket to the end
    of `pending_messages`, and nobody takes any out of there. Between waits
    `pending_messages` goes first. So the messages that have not been dispatched
    are always `pending_messages` and then the socket.
-/

namespace ZAF.ActorBehavior

open LTS

variable {Body : Type} {queues : Nat}

/-- The program of an `ActorBehavior` (no SWSR queues) whose handlers neither
    throw nor call `receive` or `receive_once`, before it terminates. -/
def only_defers (s : State Body queues) : Label Body queues → Bool
  | .arrive .consumption | .push .. => false
  | .user (.receive_once _) | .user .receive => s.stack.isEmpty
  | .user (.throws _) | .user .terminate_actor => false
  | _ => true

/-- What has come in and has not been dispatched: `pending_messages`, minus the
    one being handled, and the ordinary messages in the socket. -/
def State.undispatched (s : State Body queues) : List (Message Body) :=
  s.pending_messages.drop (in_hand s.stack).length ++ s.recv_socket.filter Message.is_ordinary

/-! ### The stack of such a program -/

/-- The user's handlers are called by the outermost `receive` or `receive_once`,
    the handlers of `on_reply` on messages from the socket. -/
def Frame.Outermost (f : Frame Body queues) (rest : List (Frame Body queues)) : Prop :=
  match f with
  | .receive => rest = []
  | .process t =>
    match t.table with
    | .user => rest = [] ∨ rest = [.receive]
    | .reply _ => t.source = .socket
  | .consume _ | .pop .. => False
  | .wait .. | .callback _ | .stored .. => True

@[simp] theorem stacked_callbacks {P : Frame Body queues → List (Frame Body queues) → Prop}
    (hP : ∀ polls rest, P (.callback polls) rest) (polls : Nat)
    (rest : List (Frame Body queues)) :
    Stacked P (callbacks polls ++ rest) ↔ Stacked P rest := by
  cases polls with
  | zero => exact Iff.rfl
  | succ polls => exact ⟨fun h => h.2, fun h => ⟨hP polls rest, h⟩⟩

/-! ### The invariant -/

structure Defers (s : State Body queues) : Prop where
  shape : Stacked Frame.Outermost s.stack
  /-- The counter counts the waits on the stack. -/
  waiting : s.waiting_for_response = s.stack.countP Frame.is_wait
  no_consumption : ∀ m ∈ s.recv_socket, m.content ≠ .consumption
  pending_ordinary : ∀ m ∈ s.pending_messages, m.is_ordinary = true
  /-- The message being handled is the first of `pending_messages`. -/
  front : in_hand s.stack <+: s.pending_messages
  order : s.arrived.filter Message.is_ordinary =
    s.dispatched.filter Message.is_ordinary ++ s.undispatched

theorem defers_start : Defers (start Body queues) where
  shape := trivial
  waiting := rfl
  no_consumption := by simp [start]
  pending_ordinary := by simp [start]
  front := List.nil_prefix
  order := rfl

/-- What the invariant says of the frames on the stack. -/
theorem Defers.frames {s : State Body queues} (h : Defers s) {stack : List (Frame Body queues)}
    (hstack : s.stack = stack) :
    Stacked Frame.Outermost stack ∧ s.waiting_for_response = stack.countP Frame.is_wait ∧
      in_hand stack <+: s.pending_messages ∧
      s.arrived.filter Message.is_ordinary = s.dispatched.filter Message.is_ordinary ++
        (s.pending_messages.drop (in_hand stack).length ++
          s.recv_socket.filter Message.is_ordinary) := by
  subst hstack
  exact ⟨h.shape, h.waiting, h.front, h.order⟩

/-- The user's handlers are called when nothing waits. -/
theorem Defers.user_stack {s : State Body queues} (h : Defers s) {l : Label Body queues}
    {polls : Nat} (hreceives : Receives s l .user polls) (hl : only_defers s l = true) :
    s.stack = [] ∨ s.stack = [.receive] := by
  cases hreceives with
  | once polls huser => exact .inl (by simpa [only_defers] using hl)
  | loop polls rest hstack hactivated =>
    have hshape := h.shape
    rw [hstack] at hshape
    have hrest : rest = [] := hshape.1
    exact .inr (by rw [hstack, hrest])

/-- Outside of every wait nothing is in hand. -/
theorem in_hand_outermost {stack : List (Frame Body queues)}
    (h : stack = [] ∨ stack = [.receive]) :
    in_hand stack = [] ∧ stack.countP Frame.is_wait = 0 := by
  rcases h with rfl | rfl <;> exact ⟨rfl, rfl⟩

/-- A message that is not in `pending_messages` is done. -/
theorem Defers.receive_returns {s : State Body queues} {t : Turn Body} (h : Defers s)
    (hsource : t.source = .socket) : Defers (s.receive_returns t) := by
  obtain ⟨table, source, m, prev, polls⟩ := t
  cases hsource
  exact {
    shape := (stacked_callbacks (fun _ _ => trivial) _ _).mpr h.shape
    waiting := by simpa [State.receive_returns] using h.waiting
    no_consumption := h.no_consumption
    pending_ordinary := h.pending_ordinary
    front := by simpa [State.receive_returns] using h.front
    order := by simpa [State.receive_returns, State.undispatched] using h.order }

/-! ### A message from `pending_messages` -/

/-- A message from `pending_messages` goes to the user's handlers and is then in
    hand. -/
theorem Defers.process_pending {s : State Body queues} (h : Defers s) {l : Label Body queues}
    {table : Table} {polls : Nat} {m : Message Body} (hreceives : Receives s l table polls)
    (hl : only_defers s l = true) (hnext : s.next_message = some (.pending, m)) :
    Defers ((s.take_from .pending).process ⟨table, .pending, m, s.current_message, polls⟩) := by
  obtain ⟨hzero, hpending⟩ := next_message_pending hnext
  have hm : m.is_ordinary = true := by
    apply h.pending_ordinary
    rw [hpending]
    exact List.mem_cons_self
  -- An `on_reply` that waits would have read the socket.
  have htable : table = .user := by
    cases table with
    | user => rfl
    | reply n => cases source_of_wait (Nat.le_of_eq h.waiting.symm) hreceives hnext
  subst htable
  have hstack := h.user_stack hreceives hl
  have hhand := (in_hand_outermost hstack).1
  have horder := h.order
  rw [State.undispatched, hhand, List.length_nil, List.drop_zero, hpending] at horder
  have hcontent : m.content = .ordinary := by
    unfold Message.is_ordinary at hm
    split at hm
    · next hcontent => exact hcontent
    · cases hm
  have hprocess : (s.take_from .pending).process ⟨.user, .pending, m, s.current_message, polls⟩ =
      (s.take_from .pending).handle ⟨.user, .pending, m, s.current_message, polls⟩ := by
    simp only [State.process, hcontent]
  rw [hprocess]
  refine ⟨⟨hstack, h.shape⟩, ?_, h.no_consumption, h.pending_ordinary, ?_, ?_⟩
  · show s.waiting_for_response = (Frame.process _ :: s.stack).countP Frame.is_wait
    rw [countP_is_wait_cons rfl]
    exact h.waiting
  · show Frame.from_pending _ ++ in_hand s.stack <+: s.pending_messages
    rw [hhand, hpending]
    exact ⟨_, rfl⟩
  · show s.arrived.filter _ = (s.dispatched ++ [m]).filter _ ++
      (s.pending_messages.drop (Frame.from_pending _ ++ in_hand s.stack).length ++
        s.recv_socket.filter _)
    rw [horder, hhand, hpending]
    simp [Frame.from_pending, hm]

/-! ### A message from the socket -/

/-- A message is dispatched from the socket. An ordinary one is the first that
    has not been dispatched. -/
theorem Defers.order_dispatch {s : State Body queues} (h : Defers s) {m : Message Body}
    (hsocket : s.recv_socket = m :: s.recv_socket.tail)
    (hfirst : m.is_ordinary = true → s.pending_messages = []) :
    s.arrived.filter Message.is_ordinary =
      (s.dispatched ++ [m]).filter Message.is_ordinary ++
        (s.pending_messages.drop (in_hand s.stack).length ++
          s.recv_socket.tail.filter Message.is_ordinary) := by
  have horder := h.order
  rw [State.undispatched, hsocket] at horder
  by_cases hm : m.is_ordinary = true
  · -- Nothing is pending, so the first in the socket is the first of all.
    simpa [hfirst hm, hm] using horder
  · simpa [hm] using horder

/-- The message stays in the socket no longer, all others do. -/
theorem Defers.tail_no_consumption {s : State Body queues} (h : Defers s) :
    ∀ m ∈ s.recv_socket.tail, m.content ≠ .consumption :=
  fun m hm => h.no_consumption m (List.mem_of_mem_tail hm)

theorem Defers.handle_socket {s : State Body queues} (h : Defers s) {t : Turn Body}
    (hsource : t.source = .socket) (hsocket : s.recv_socket = t.message :: s.recv_socket.tail)
    (hshape : Frame.Outermost (.process t) s.stack)
    (hfirst : t.message.is_ordinary = true → s.pending_messages = []) :
    Defers ((s.take_from .socket).handle t) := by
  have hhand : in_hand (.process t :: s.stack) = in_hand s.stack :=
    in_hand_process_socket hsource s.stack
  refine ⟨⟨hshape, h.shape⟩, ?_, h.tail_no_consumption, h.pending_ordinary, ?_, ?_⟩
  · show s.waiting_for_response = (Frame.process t :: s.stack).countP Frame.is_wait
    rw [countP_is_wait_cons rfl]
    exact h.waiting
  · show in_hand (.process t :: s.stack) <+: s.pending_messages
    rw [hhand]
    exact h.front
  · show s.arrived.filter _ = (s.dispatched ++ [t.message]).filter _ ++
      (s.pending_messages.drop (in_hand (.process t :: s.stack)).length ++ _)
    rw [hhand]
    exact h.order_dispatch hsocket hfirst

/-- A deferred message is the last of `pending_messages` and was the first of
    the socket. -/
theorem Defers.defer_message {s : State Body queues} (h : Defers s) {t : Turn Body}
    (hsource : t.source = .socket) (hsocket : s.recv_socket = t.message :: s.recv_socket.tail)
    (hm : t.message.is_ordinary = true) : Defers ((s.take_from .socket).defer_message t) := by
  refine Defers.receive_returns ⟨h.shape, h.waiting, h.tail_no_consumption, ?_, ?_, ?_⟩ hsource
  · intro m hmem
    rcases List.mem_append.mp hmem with hmem | hmem
    · exact h.pending_ordinary m hmem
    · rwa [List.mem_singleton.mp hmem]
  · exact h.front.trans (List.prefix_append _ _)
  · have horder := h.order
    rw [State.undispatched, hsocket] at horder
    show s.arrived.filter _ = s.dispatched.filter _ ++
      ((s.pending_messages ++ [t.message]).drop (in_hand s.stack).length ++
        s.recv_socket.tail.filter _)
    rw [horder, List.drop_append_of_le_length h.front.length_le, List.filter_cons_of_pos hm,
      List.append_assoc (s.pending_messages.drop _), List.singleton_append]

theorem Defers.process_response {s : State Body queues} (h : Defers s) {t : Turn Body}
    (hsource : t.source = .socket) (hsocket : s.recv_socket = t.message :: s.recv_socket.tail)
    (hm : t.message.is_ordinary = false) (req_id : UInt32) (response : Body) :
    Defers ((s.take_from .socket).process_response t req_id response) :=
  Defers.receive_returns
    ⟨h.shape, h.waiting, h.tail_no_consumption, h.pending_ordinary, h.front,
      h.order_dispatch hsocket fun h' => by rw [hm] at h'; cases h'⟩ hsource

theorem Defers.process_socket {s : State Body queues} (h : Defers s) {l : Label Body queues}
    {table : Table} {polls : Nat} {m : Message Body} (hreceives : Receives s l table polls)
    (hl : only_defers s l = true) (hnext : s.next_message = some (.socket, m)) :
    Defers ((s.take_from .socket).process ⟨table, .socket, m, s.current_message, polls⟩) := by
  obtain ⟨hempty, hsocket⟩ := next_message_socket hnext
  have hm : m.content ≠ .consumption :=
    h.no_consumption m (by rw [hsocket]; exact List.mem_cons_self)
  generalize ht : (⟨table, .socket, m, s.current_message, polls⟩ : Turn Body) = t
  have hsource : t.source = .socket := by rw [← ht]
  have hmessage : t.message = m := by rw [← ht]
  have htable : t.table = table := by rw [← ht]
  rw [← hmessage] at hsocket hm
  -- The user's handlers receive only when nothing waits. Then `pending_messages`
  -- are empty, since the message came from the socket.
  have huser : t.table = .user → Defers ((s.take_from .socket).handle t) := by
    intro htable'
    rw [htable] at htable'
    subst htable'
    have hstack := h.user_stack hreceives hl
    refine h.handle_socket hsource hsocket ?_ fun _ => hempty ?_
    · simp only [Frame.Outermost, htable]
      exact hstack
    · rw [h.waiting]
      exact (in_hand_outermost hstack).2
  have hprocess := process_cases (s.take_from .socket) t
  generalize (s.take_from .socket).process t = s' at hprocess ⊢
  cases hprocess with
  | handled htable' hcontent => exact huser htable'
  | passed req_id response htable' hinner hcontent => exact { huser htable' with }
  | consumes hcontent hinner => exact absurd hcontent hm
  | deferred n htable' hcontent =>
    refine h.defer_message hsource hsocket ?_
    unfold Message.is_ordinary
    cases hc : t.message.content with
    | ordinary => rfl
    | consumption => exact absurd hc hm
    | response req_id response => exact absurd hc (hcontent req_id response)
  | stored req_id response hcontent htable' =>
    have hordinary : t.message.is_ordinary = false := by simp [Message.is_ordinary, hcontent]
    exact { h.process_response hsource hsocket hordinary req_id response with }
  | replied n response htable' hinner hcontent =>
    have hordinary : t.message.is_ordinary = false := by simp [Message.is_ordinary, hcontent]
    have hhandle : Defers ((s.take_from .socket).handle t) :=
      h.handle_socket hsource hsocket (by simp only [Frame.Outermost, htable', hsource])
        fun h' => by rw [hordinary] at h'; cases h'
    exact { hhandle with }

/-! ### The other steps -/

/-- A return from the handlers of a message. One from `pending_messages` is
    removed only now. -/
theorem Defers.process_returns {s : State Body queues} (h : Defers s) {t : Turn Body}
    {rest : List (Frame Body queues)} (hstack : s.stack = .process t :: rest) :
    Defers (s.process_returns t rest) := by
  obtain ⟨hshape, hwaiting, hfront, horder⟩ := h.frames hstack
  rw [countP_is_wait_cons rfl] at hwaiting
  cases hsource : t.source with
  | socket =>
    rw [in_hand_process_socket hsource] at hfront horder
    exact Defers.receive_returns
      ⟨hshape.2, hwaiting, h.no_consumption, h.pending_ordinary, hfront, horder⟩ hsource
  | pending =>
    -- Handlers of a reply run on messages from the socket, so these are the
    -- user's, and nothing else is on the stack that has a message in hand.
    have htable : t.table = .user := by
      cases htable : t.table with
      | user => rfl
      | reply n =>
        have hsocket : t.source = .socket := by
          have := hshape.1
          rwa [Frame.Outermost, htable] at this
        rw [hsource] at hsocket
        cases hsocket
    have hrest : rest = [] ∨ rest = [.receive] := by
      have := hshape.1
      rwa [Frame.Outermost, htable] at this
    rw [in_hand_process_pending hsource, (in_hand_outermost hrest).1] at hfront horder
    obtain ⟨pending, hpending⟩ := hfront
    have heq : s.process_returns t rest =
        { s with
          stack := rest
          released := s.released ++ s.current_message.toList
          current_message := t.prev_message
          pending_messages := pending } := by
      simp [State.process_returns, State.receive_returns, hsource, htable, ← hpending]
    rw [heq]
    refine ⟨hshape.2, hwaiting, h.no_consumption, ?_, ?_, ?_⟩
    · intro m hm
      exact h.pending_ordinary m (by rw [← hpending]; exact List.mem_append_right _ hm)
    · rw [(in_hand_outermost hrest).1]
      exact List.nil_prefix
    · rw [← hpending] at horder
      rw [State.undispatched, (in_hand_outermost hrest).1]
      exact horder

/-- A call other than that of a message handler ends, or is replaced by further
    callbacks. -/
theorem Defers.pop_frame {s : State Body queues} (h : Defers s) {f : Frame Body queues}
    {rest : List (Frame Body queues)} (hstack : s.stack = f :: rest)
    (hf : f.is_wait = false) (hhand : f.from_pending = []) : Defers { s with stack := rest } := by
  obtain ⟨hshape, hwaiting, hfront, horder⟩ := h.frames hstack
  rw [countP_is_wait_cons hf] at hwaiting
  rw [in_hand_cons, hhand, List.nil_append] at hfront horder
  exact ⟨hshape.2, hwaiting, h.no_consumption, h.pending_ordinary, hfront, horder⟩

/-- Callbacks are of no account. -/
theorem Defers.callbacks {s : State Body queues} (h : Defers s) (polls : Nat) :
    Defers { s with stack := callbacks polls ++ s.stack } where
  shape := (stacked_callbacks (fun _ _ => trivial) _ _).mpr h.shape
  waiting := by simpa using h.waiting
  no_consumption := h.no_consumption
  pending_ordinary := h.pending_ordinary
  front := by simpa using h.front
  order := by simpa [State.undispatched] using h.order

theorem Defers.user_step {s s' : State Body queues} (h : Defers s) {step : UserStep Body}
    (hl : only_defers s (.user step) = true) (hstep : UserSteps s step s') : Defers s' := by
  cases hstep with
  | request rehash => exact { h with }
  | on_reply_missing n hvalid hentry => exact { h with }
  | on_reply_stored n inserted response hvalid hentry =>
    refine { h with shape := ⟨trivial, h.shape⟩, waiting := ?_ }
    show s.waiting_for_response = (Frame.stored .. :: s.stack).countP Frame.is_wait
    rw [countP_is_wait_cons rfl]
    exact h.waiting
  | on_reply_waits n inserted hvalid hentry =>
    refine { h with shape := ⟨trivial, h.shape⟩, waiting := ?_ }
    show s.waiting_for_response + 1 = (Frame.wait .. :: s.stack).countP Frame.is_wait
    rw [List.countP_cons_of_pos rfl, h.waiting]
  | destroy n hend => exact { h with }
  | overwrite n hend => exact { h with }
  | receive =>
    have hstack : s.stack = [] := by simpa [only_defers] using hl
    refine { h with shape := ⟨hstack, h.shape⟩, waiting := ?_ }
    show s.waiting_for_response = (Frame.receive :: s.stack).countP Frame.is_wait
    rw [countP_is_wait_cons rfl]
    exact h.waiting
  | set_activated activated => exact { h with }
  | take_current_message m hcurrent => exact { h with }
  | release_taken k hk => exact { h with }
  | process_returns garbage t rest hstack => exact h.process_returns hstack
  | callback_returns garbage polls rest hstack => exact (h.pop_frame hstack rfl rfl).callbacks polls
  | stored_returns garbage n generation inserted rest hstack =>
    exact { h.pop_frame hstack rfl rfl with }
  | pop_returns garbage queue m rest hstack =>
    have hshape := h.shape
    rw [hstack] at hshape
    exact hshape.1.elim
  | throws k huser => cases hl
  | terminate_actor hstack => cases hl

/-- Every step of such a program keeps the invariant. -/
theorem Defers.step {s s' : State Body queues} {l : Label Body queues} (h : Defers s)
    (hl : only_defers s l = true) (hn : s.next l = some s') : Defers s' := by
  cases (next_cases hn).2 with
  | arrive content =>
    have hcontent : content ≠ .consumption := by
      rintro rfl
      cases hl
    refine { h with no_consumption := ?_, order := ?_ }
    · intro m hm
      rcases List.mem_append.mp hm with hm | hm
      · exact h.no_consumption m hm
      · rwa [List.mem_singleton.mp hm]
    · show (s.arrived ++ [_]).filter _ = s.dispatched.filter _ ++
        (s.pending_messages.drop (in_hand s.stack).length ++ (s.recv_socket ++ [_]).filter _)
      rw [List.filter_append, List.filter_append, h.order, State.undispatched]
      simp only [List.append_assoc]
  | push queue content => cases hl
  | user step huser hstep => exact h.user_step hl hstep
  | receives source m hreceives hnext =>
    cases source with
    | pending => exact h.process_pending hreceives hl hnext
    | socket => exact h.process_socket hreceives hl hnext
  | polls hreceives hnext => exact h.callbacks (_ + 1)
  | leave polls rest hstack hactivated => exact h.pop_frame hstack rfl rfl
  | leave_wait polls n cur_act inner rest hstack hactivated =>
    obtain ⟨hshape, hwaiting, hfront, horder⟩ := h.frames hstack
    rw [List.countP_cons_of_pos rfl] at hwaiting
    refine ⟨hshape.2, ?_, h.no_consumption, h.pending_ordinary, hfront, horder⟩
    show s.waiting_for_response - 1 = rest.countP Frame.is_wait
    omega
  | pop queue old m rest hstack hqueue =>
    have hshape := h.shape
    rw [hstack] at hshape
    exact hshape.1.elim
  | consumed old rest hstack =>
    have hshape := h.shape
    rw [hstack] at hshape
    exact hshape.1.elim

/-- **The invariant holds throughout every run of such a program.** -/
theorem Defers.run {s : State Body queues}
    (hs : ReachableVia (system Body queues) (fun s l => only_defers s l = true) s) : Defers s := by
  apply hs.invariant Defers
  · intro s hinit
    rw [hinit]
    exact defers_start
  · intro s l s' h hl hn
    exact h.step hl hn

/-! ### The order of messages -/

/-- Ordinary messages are dispatched once each, in the order of arrival. -/
structure InOrder (s : State Body queues) : Prop where
  /-- The messages not dispatched yet are those in `pending_messages`, minus the
      one being handled, and then those in the socket. -/
  order : s.arrived.filter Message.is_ordinary =
    s.dispatched.filter Message.is_ordinary ++ s.undispatched
  once : (s.dispatched.filter Message.is_ordinary).Nodup
  /-- At most one message of `pending_messages` is being handled: the first. -/
  front : (in_hand s.stack).length ≤ 1 ∧ in_hand s.stack <+: s.pending_messages

theorem in_hand_length_le_one {stack : List (Frame Body queues)}
    (h : Stacked Frame.Outermost stack) : (in_hand stack).length ≤ 1 := by
  induction stack with
  | nil => exact Nat.zero_le 1
  | cons f rest ih =>
    have hrest := ih h.2
    cases f with
    | process t =>
      cases hsource : t.source with
      | socket =>
        rw [in_hand_process_socket hsource]
        exact hrest
      | pending =>
        have houtermost := h.1
        unfold Frame.Outermost at houtermost
        cases htable : t.table with
        | user =>
          simp only [htable] at houtermost
          rw [in_hand_process_pending hsource, (in_hand_outermost houtermost).1]
          exact Nat.le_refl 1
        | reply n => simp [htable, hsource] at houtermost
    | receive => exact hrest
    | wait n cur_act inner => exact hrest
    | callback polls => exact hrest
    | stored n generation inserted => exact hrest
    | consume old => exact hrest
    | pop queue m => exact hrest

/-! ### The actor as a queue -/

/-- A step brings in a message, dispatches one, or does neither. -/
theorem history_step {s s' : State Body queues} {l : Label Body queues}
    (hn : s.next l = some s') :
    (s'.dispatched = s.dispatched ∧
      (s'.arrived = s.arrived ∨ ∃ m, s'.arrived = s.arrived ++ [m])) ∨
    (s'.arrived = s.arrived ∧ ∃ m, s'.dispatched = s.dispatched ++ [m]) := by
  cases (next_cases hn).2 with
  | arrive content => exact .inl ⟨rfl, .inr ⟨_, rfl⟩⟩
  | push queue content => exact .inl ⟨rfl, .inr ⟨_, rfl⟩⟩
  | user step huser hstep => cases hstep <;> exact .inl ⟨rfl, .inl rfl⟩
  | @receives _ table polls source m hreceives hnext =>
    have hprocess :=
      process_cases (s.take_from source) ⟨table, source, m, s.current_message, polls⟩
    generalize (s.take_from source).process _ = s' at hprocess ⊢
    cases hprocess with
    | deferred => exact .inl ⟨rfl, .inl rfl⟩
    | _ => exact .inr ⟨rfl, m, rfl⟩
  | pop queue old m rest hstack hqueue => exact .inr ⟨rfl, m, rfl⟩
  | _ => exact .inl ⟨rfl, .inl rfl⟩

/-- The ordinary messages, as the content of a queue. -/
def State.fifo (s : State Body queues) : Fifo.State (Message Body) :=
  ⟨s.arrived.filter Message.is_ordinary, s.undispatched,
    s.dispatched.filter Message.is_ordinary⟩

theorem Defers.fifo_step {s s' : State Body queues} {l : Label Body queues} (h : Defers s)
    (h' : Defers s') (hn : s.next l = some s') :
    s'.fifo = s.fifo ∨ ∃ l', Fifo.next (fun _ => true) s.fifo l' = some s'.fifo := by
  have horder := h.order
  have horder' := h'.order
  unfold State.fifo
  rcases history_step hn with ⟨hdispatched, harrived⟩ | ⟨harrived, m, hdispatched⟩
  · rw [hdispatched] at horder' ⊢
    rcases harrived with harrived | ⟨m, harrived⟩
    · left
      rw [harrived] at horder' ⊢
      rw [List.append_cancel_left (horder'.symm.trans horder)]
    · rw [harrived, List.filter_append] at horder' ⊢
      rw [horder, List.append_assoc] at horder'
      rw [← List.append_cancel_left horder']
      by_cases hm : m.is_ordinary = true
      · right
        refine ⟨.put m, ?_⟩
        rw [Fifo.next_put rfl, List.filter_cons_of_pos hm, List.filter_nil]
      · left
        rw [List.filter_cons_of_neg hm, List.filter_nil, List.append_nil, List.append_nil]
  · rw [harrived] at horder' ⊢
    rw [hdispatched, List.filter_append] at horder' ⊢
    rw [horder, List.append_assoc] at horder'
    rw [List.append_cancel_left horder']
    by_cases hm : m.is_ordinary = true
    · right
      refine ⟨.take, ?_⟩
      rw [List.filter_cons_of_pos hm, List.filter_nil]
      exact Fifo.next_take m
    · left
      rw [List.filter_cons_of_neg hm, List.filter_nil, List.append_nil, List.nil_append]

/-- **An actor that only defers is a queue of its ordinary messages.** -/
def simulation (Body : Type) (queues : Nat) :
    Simulation (system Body queues) (fun s l => only_defers s l = true)
      (Fifo.system (Message Body) fun _ => true) Defers where
  image := State.fifo
  image_init s hinit := by
    subst hinit
    rfl
  image_step s l s' h hl hn := h.fifo_step (h.step hl hn) hn

theorem fifo_reachable {s : State Body queues}
    (hs : ReachableVia (system Body queues) (fun s l => only_defers s l = true) s) :
    Reachable (Fifo.system (Message Body) fun _ => true) s.fifo :=
  (simulation Body queues).reachable (fun _ hs => Defers.run hs) hs

/-! ### In order -/

/-- **Deferring messages during `on_reply` preserves them and their order.** -/
theorem dispatched_in_order {s : State Body queues}
    (hs : ReachableVia (system Body queues) (fun s l => only_defers s l = true) s) :
    InOrder s := by
  have h := Defers.run hs
  have horder : s.arrived.filter Message.is_ordinary =
    s.dispatched.filter Message.is_ordinary ++ s.undispatched := Fifo.sent_eq (fifo_reachable hs)
  have hnodup : (s.arrived.filter Message.is_ordinary).Nodup := (arrived_nodup hs).filter _
  rw [horder] at hnodup
  exact ⟨horder, hnodup.of_append_left, in_hand_length_le_one h.shape, h.front⟩

/-- The actor requests and waits; two messages are deferred; the reply handler
    requests and waits again, where a third is deferred. The first deferred
    message is being handled, and its handler waits for a third reply. -/
def nested_deferral : List (Label Nat 0) :=
  [.user (.request false), .user (.on_reply 0), .arrive .ordinary, .arrive .ordinary,
    .loop 0, .loop 0, .arrive (.response 0 10), .loop 0, .user (.request false),
    .user (.on_reply 1), .arrive .ordinary, .loop 0, .arrive (.response 1 11), .loop 0,
    .user (.returns fun _ => none), .loop 0, .user (.returns fun _ => none), .loop 0,
    .user .receive, .loop 0, .user (.request false), .user (.on_reply 2), .arrive .ordinary,
    .loop 0]

theorem dispatched_in_order_run :
    ∃ s : State Nat 0, (s.stack.length, s.pending_messages.map (·.serial)) = (3, [0, 1, 3, 5]) ∧
      InOrder s := by
  obtain ⟨s, hs, hobs⟩ := System.reachable_of_exec
    (system Nat 0) (fun s l => only_defers s l = true) nested_deferral
    (fun s => (s.stack.length, s.pending_messages.map (·.serial)))
    (s := start Nat 0) (b := (3, [0, 1, 3, 5])) rfl (by decide +kernel)
  exact ⟨s, hobs, dispatched_in_order hs⟩

end ZAF.ActorBehavior
