import ZAF.ActorBehavior.Custody

/-! # Ownership of messages

    The accounts of `Custody` are right throughout every run that avoids three
    things: taking a message that is being handled, an exception out of the
    handlers of a message that is still in its container, and a termination with
    a message in `current_message`. Then every message is dispatched at most once
    and released exactly once.
-/

namespace ZAF.ActorBehavior

open LTS

variable {Body : Type} {queues : Nat} [DecidableEq Body]

/-! ### Arrivals -/

theorem Custody.arrive {s : State Body queues} (h : Custody s) (content : Content Body) :
    Custody (s.arrive content) := by
  refine { h with account := fun x => ?_, dispatched := fun x => ?_, deferred := fun x => ?_ }
  · have hx := h.account x
    show (s.arrived ++ [_]).count x + shown s.stack x = s.owned x +
      ((s.recv_socket ++ [_]).count x + s.pending_messages.count x + s.swsr_messages.count x)
    rw [State.contained] at hx
    simp only [List.count_append]
    omega
  · have hx := h.dispatched x
    show s.dispatched.count x + ((s.recv_socket ++ [_]).count x + s.pending_messages.count x +
      s.swsr_messages.count x) ≤ (s.arrived ++ [_]).count x + shown s.stack x
    rw [State.contained] at hx
    simp only [List.count_append]
    omega
  · have hx := h.deferred x
    show s.deferred.count x + (s.recv_socket ++ [_]).count x ≤ (s.arrived ++ [_]).count x
    simp only [List.count_append]
    omega

theorem Custody.push {s : State Body queues} (h : Custody s) (queue : Fin queues)
    (content : Content Body) : Custody (s.push queue content) := by
  have hall : ∀ x, (s.push queue content).swsr_messages.count x =
      s.swsr_messages.count x + [⟨s.arrived.length, content⟩].count x := by
    intro x
    have hx := Family.count_all_update s.swsr_recv_queues queue
      (s.swsr_recv_queues queue ++ [⟨s.arrived.length, content⟩]) x
    rw [List.count_append] at hx
    show (Family.all (Function.update s.swsr_recv_queues queue _)).count x =
      (Family.all s.swsr_recv_queues).count x + _
    omega
  refine ⟨h.front, fun queue' => ?_, fun x => ?_, fun x => ?_, fun x => ?_⟩
  · show popping s.stack queue' <+: Function.update s.swsr_recv_queues queue _ queue'
    by_cases hq : queue' = queue
    · subst hq
      rw [Function.update_self]
      exact (h.queue_front queue').trans (List.prefix_append _ _)
    · rw [Function.update_of_ne hq]
      exact h.queue_front queue'
  · have hx := h.account x
    show (s.arrived ++ [_]).count x + shown s.stack x = s.owned x +
      (s.recv_socket.count x + s.pending_messages.count x +
        (s.push queue content).swsr_messages.count x)
    rw [State.contained] at hx
    rw [hall, List.count_append]
    omega
  · have hx := h.dispatched x
    show s.dispatched.count x + (s.recv_socket.count x + s.pending_messages.count x +
      (s.push queue content).swsr_messages.count x) ≤ (s.arrived ++ [_]).count x +
        shown s.stack x
    rw [State.contained] at hx
    rw [hall, List.count_append]
    omega
  · have hx := h.deferred x
    show s.deferred.count x + s.recv_socket.count x ≤ (s.arrived ++ [_]).count x
    rw [List.count_append]
    omega

/-! ### Receiving -/

/-- When the handlers return, the message is deleted if it is still there. One
    from `pending_messages` leaves them. -/
theorem Custody.receive_returns {s : State Body queues} {t : Turn Body}
    (h : Custody { s with stack := .process t :: s.stack }) : Custody (s.receive_returns t) := by
  have hfront : in_hand (.process t :: s.stack) <+: s.pending_messages := h.front
  have haccount : ∀ x, s.arrived.count x + shown (.process t :: s.stack) x =
      s.released.count x + s.taken.count x + s.current_message.toList.count x +
        (t.prev_message.toList ++ held s.stack).count x + s.contained x := h.account
  have hdispatched : ∀ x, s.dispatched.count x + s.contained x ≤
    s.arrived.count x + shown (.process t :: s.stack) x := h.dispatched
  simp only [State.contained, List.count_append] at haccount hdispatched
  obtain ⟨table, source, m, prev, polls⟩ := t
  cases source with
  | socket =>
    -- The message had left the socket before the handlers started.
    rw [in_hand_process_socket rfl] at hfront
    simp only [shown_process_socket] at haccount hdispatched
    refine Custody.callbacks (s := { s with
      released := s.released ++ s.current_message.toList, current_message := prev }) ?_ polls
    refine ⟨hfront, h.queue_front, fun x => ?_, fun x => ?_, h.deferred⟩
    · have hx := haccount x
      simp only [State.owned, State.contained, List.count_append, State.swsr_messages] at hx ⊢
      omega
    · have hx := hdispatched x
      simp only [State.contained, State.swsr_messages] at hx ⊢
      omega
  | pending =>
    -- It is still the first of `pending_messages`, and is removed now.
    rw [in_hand_process_pending rfl] at hfront
    obtain ⟨pending, hpending⟩ := hfront
    have htail : s.pending_messages.tail = in_hand s.stack ++ pending := by
      rw [← hpending, List.cons_append, List.tail_cons]
    simp only [shown_process_pending, ← hpending, List.cons_append, List.count_cons,
      List.count_append, List.count_nil] at haccount hdispatched
    refine ⟨⟨pending, htail.symm⟩, h.queue_front, fun x => ?_, fun x => ?_, h.deferred⟩
    · have hx := haccount x
      simp only [State.owned, State.contained, State.receive_returns, htail, List.count_append,
        State.swsr_messages] at hx ⊢
      omega
    · have hx := hdispatched x
      simp only [State.contained, State.receive_returns, htail, List.count_append,
        State.swsr_messages] at hx ⊢
      omega

/-- The handlers start on a message from the socket. -/
theorem Custody.handle_socket {s : State Body queues} (h : Custody s) {t : Turn Body}
    (hsource : t.source = .socket) (hprev : t.prev_message = s.current_message)
    (hsocket : s.recv_socket = t.message :: s.recv_socket.tail) :
    Custody ((s.take_from .socket).handle t) := by
  refine ⟨?_, h.queue_front, fun x => ?_, fun x => ?_, fun x => ?_⟩
  · show in_hand (.process t :: s.stack) <+: s.pending_messages
    rw [in_hand_process_socket hsource]
    exact h.front
  · have hx := h.account x
    show s.arrived.count x + shown (.process t :: s.stack) x =
      s.released.count x + s.taken.count x + [t.message].count x +
        (t.prev_message.toList ++ held s.stack).count x +
        (s.recv_socket.tail.count x + s.pending_messages.count x + s.swsr_messages.count x)
    rw [State.owned, State.contained, hsocket] at hx
    rw [shown_process_socket hsource, hprev]
    simp only [List.count_append, List.count_cons, List.count_nil] at hx ⊢
    omega
  · have hx := h.dispatched x
    show (s.dispatched ++ [t.message]).count x +
        (s.recv_socket.tail.count x + s.pending_messages.count x + s.swsr_messages.count x) ≤
      s.arrived.count x + shown (.process t :: s.stack) x
    rw [State.contained, hsocket] at hx
    rw [shown_process_socket hsource]
    simp only [List.count_append, List.count_cons, List.count_nil] at hx ⊢
    omega
  · have hx := h.deferred x
    show s.deferred.count x + s.recv_socket.tail.count x ≤ s.arrived.count x
    rw [hsocket, List.count_cons] at hx
    omega

/-- The handlers start on the first of `pending_messages`, when no other of them
    is being handled. -/
theorem Custody.handle_pending {s : State Body queues} (h : Custody s) {t : Turn Body}
    (hsource : t.source = .pending) (hprev : t.prev_message = s.current_message)
    (hpending : s.pending_messages = t.message :: s.pending_messages.tail)
    (hhand : in_hand s.stack = []) : Custody ((s.take_from .pending).handle t) := by
  refine ⟨?_, h.queue_front, fun x => ?_, fun x => ?_, h.deferred⟩
  · show in_hand (.process t :: s.stack) <+: s.pending_messages
    rw [in_hand_process_pending hsource, hhand, hpending]
    exact ⟨_, rfl⟩
  · have hx := h.account x
    show s.arrived.count x + shown (.process t :: s.stack) x =
      s.released.count x + s.taken.count x + [t.message].count x +
        (t.prev_message.toList ++ held s.stack).count x + s.contained x
    rw [State.owned] at hx
    rw [shown_process_pending hsource, hprev, List.count_append]
    omega
  · have hx := h.dispatched x
    show (s.dispatched ++ [t.message]).count x + s.contained x ≤
      s.arrived.count x + shown (.process t :: s.stack) x
    rw [shown_process_pending hsource, List.count_append]
    omega

/-- `on_reply` moves a message from the socket to `pending_messages`. -/
theorem Custody.defer_message {s : State Body queues} (h : Custody s) {t : Turn Body}
    (hsource : t.source = .socket) (hprev : t.prev_message = s.current_message)
    (hsocket : s.recv_socket = t.message :: s.recv_socket.tail) :
    Custody ((s.take_from .socket).defer_message t) := by
  -- It is as if a handler had moved it and taken `current_message` away.
  refine Custody.receive_returns ⟨?_, h.queue_front, fun x => ?_, fun x => ?_, fun x => ?_⟩
  · show in_hand (.process t :: s.stack) <+: s.pending_messages ++ [t.message]
    rw [in_hand_process_socket hsource]
    exact h.front.trans (List.prefix_append _ _)
  · have hx := h.account x
    show s.arrived.count x + shown (.process t :: s.stack) x =
      s.released.count x + s.taken.count x + 0 +
        (t.prev_message.toList ++ held s.stack).count x +
        (s.recv_socket.tail.count x + (s.pending_messages ++ [t.message]).count x +
          s.swsr_messages.count x)
    rw [State.owned, State.contained, hsocket] at hx
    rw [shown_process_socket hsource, hprev]
    simp only [List.count_append, List.count_cons, List.count_nil] at hx ⊢
    omega
  · have hx := h.dispatched x
    show s.dispatched.count x + (s.recv_socket.tail.count x +
        (s.pending_messages ++ [t.message]).count x + s.swsr_messages.count x) ≤
      s.arrived.count x + shown (.process t :: s.stack) x
    rw [State.contained, hsocket] at hx
    rw [shown_process_socket hsource]
    simp only [List.count_append, List.count_cons, List.count_nil] at hx ⊢
    omega
  · have hx := h.deferred x
    show (s.deferred ++ [t.message]).count x + s.recv_socket.tail.count x ≤ s.arrived.count x
    rw [hsocket] at hx
    simp only [List.count_append, List.count_cons, List.count_nil] at hx ⊢
    omega

omit [DecidableEq Body] in
/-- Nothing is taken from `pending_messages` while one of them is handled. -/
theorem in_hand_of_takes_pending {s : State Body queues} {l : Label Body queues} {table : Table}
    {polls : Nat} {m : Message Body} (hreceives : Receives s l table polls)
    (hl : keeps_custody s l = true) (hnext : s.next_message = some (.pending, m)) :
    in_hand s.stack = [] := by
  obtain ⟨hzero, hpending⟩ := next_message_pending hnext
  have htakes : s.takes_pending = true := by
    rw [State.takes_pending, hpending, hzero]
    rfl
  cases hreceives with
  | once polls huser => simpa [keeps_custody, htakes] using hl
  | loop polls rest hstack hactivated => simpa [keeps_custody, htakes, hactivated] using hl
  | wait polls n cur_act inner rest hstack hactivated =>
    simpa [keeps_custody, htakes, hactivated] using hl

theorem Custody.process {s : State Body queues} (h : Custody s)
    (hwaits : s.stack.countP Frame.is_wait ≤ s.waiting_for_response) {l : Label Body queues}
    {table : Table} {polls : Nat} {source : Source} {m : Message Body}
    (hreceives : Receives s l table polls) (hl : keeps_custody s l = true)
    (hnext : s.next_message = some (source, m)) :
    Custody ((s.take_from source).process ⟨table, source, m, s.current_message, polls⟩) := by
  have hhandle :
      Custody ((s.take_from source).handle ⟨table, source, m, s.current_message, polls⟩) := by
    cases source with
    | socket => exact h.handle_socket rfl rfl (next_message_socket hnext).2
    | pending =>
      exact h.handle_pending rfl rfl (next_message_pending hnext).2
        (in_hand_of_takes_pending hreceives hl hnext)
  have hprocess := process_cases (s.take_from source) ⟨table, source, m, s.current_message, polls⟩
  generalize (s.take_from source).process _ = s' at hprocess ⊢
  cases hprocess with
  | handled htable hcontent => exact hhandle
  | passed req_id response htable hinner hcontent => exact { hhandle with }
  | consumes hcontent hinner =>
    -- The message moves from `current_message` to `old_current_message`.
    refine { hhandle with account := fun x => ?_ }
    have hx : s.arrived.count x + shown (.process _ :: s.stack) x =
      s.released.count x + s.taken.count x + [m].count x +
        (s.current_message.toList ++ held s.stack).count x + (s.take_from source).contained x :=
      hhandle.account x
    show s.arrived.count x + shown (.process _ :: s.stack) x =
      s.released.count x + s.taken.count x + 0 +
        ([m] ++ (s.current_message.toList ++ held s.stack)).count x +
        (s.take_from source).contained x
    simp only [List.count_append] at hx ⊢
    omega
  | deferred n htable hcontent =>
    cases htable
    cases source_of_wait hwaits hreceives hnext
    exact h.defer_message rfl rfl (next_message_socket hnext).2
  | stored req_id response hcontent htable => exact Custody.receive_returns { hhandle with }
  | replied n response htable hinner hcontent => exact { hhandle with }

/-! ### Queues -/

/-- The handlers start on the oldest message of a queue, when no other of that
    queue is being handled. -/
theorem Custody.pop {s : State Body queues} (h : Custody s) {queue : Fin queues}
    {m : Message Body} (hcurrent : s.current_message = none)
    (hqueue : s.swsr_recv_queues queue = m :: (s.swsr_recv_queues queue).tail)
    (hpopping : popping s.stack queue = []) :
    Custody { s with
      current_message := some m
      dispatched := s.dispatched ++ [m]
      stack := .pop queue m :: s.stack } := by
  refine ⟨h.front, fun queue' => ?_, fun x => ?_, fun x => ?_, h.deferred⟩
  · show popping (.pop queue m :: s.stack) queue' <+: s.swsr_recv_queues queue'
    rw [popping_pop]
    by_cases hq : queue' = queue
    · subst hq
      rw [Function.update_self, hpopping, hqueue]
      exact ⟨_, rfl⟩
    · rw [Function.update_of_ne hq]
      exact h.queue_front queue'
  · have hx := h.account x
    show s.arrived.count x + shown (.pop queue m :: s.stack) x =
      s.released.count x + s.taken.count x + [m].count x + (held s.stack).count x + s.contained x
    rw [State.owned, hcurrent] at hx
    simp only [Option.toList_none, List.count_nil] at hx
    rw [shown_pop]
    omega
  · have hx := h.dispatched x
    show (s.dispatched ++ [m]).count x + s.contained x ≤
      s.arrived.count x + shown (.pop queue m :: s.stack) x
    rw [shown_pop, List.count_append]
    omega

/-- When they return, the message is deleted if it is still there, and the queue
    moves on. -/
theorem Custody.pop_returns {s : State Body queues} (h : Custody s) {queue : Fin queues}
    {m : Message Body} {rest : List (Frame Body queues)}
    (hstack : s.stack = .pop queue m :: rest) : Custody (s.pop_returns queue rest) := by
  have hfront := h.front
  have hqueue := h.queue_front
  have haccount := h.account
  have hdispatched := h.dispatched
  simp only [State.owned, State.contained] at haccount hdispatched
  rw [hstack] at hfront hqueue haccount hdispatched
  simp only [shown_pop] at haccount hdispatched
  rw [popping_pop] at hqueue
  obtain ⟨ms, hms⟩ := hqueue queue
  rw [Function.update_self] at hms
  have htail : (s.swsr_recv_queues queue).tail = popping rest queue ++ ms := by rw [← hms]; rfl
  have hall : ∀ x, (s.pop_returns queue rest).swsr_messages.count x + [m].count x =
      s.swsr_messages.count x := by
    intro x
    have hx := Family.count_all_update s.swsr_recv_queues queue
      (s.swsr_recv_queues queue).tail x
    rw [htail, ← hms] at hx
    show (Family.all (Function.update s.swsr_recv_queues queue
      (s.swsr_recv_queues queue).tail)).count x + _ = (Family.all s.swsr_recv_queues).count x
    rw [htail]
    simp only [List.cons_append, List.count_cons, List.count_nil] at hx ⊢
    omega
  refine ⟨hfront, fun queue' => ?_, fun x => ?_, fun x => ?_, h.deferred⟩
  · show popping rest queue' <+: Function.update s.swsr_recv_queues queue _ queue'
    by_cases hq : queue' = queue
    · subst hq
      rw [Function.update_self, htail]
      exact List.prefix_append _ _
    · have hother := hqueue queue'
      rw [Function.update_of_ne hq] at hother ⊢
      exact hother
  · have hx := haccount x
    show s.arrived.count x + shown rest x =
      (s.released ++ s.current_message.toList).count x + s.taken.count x + 0 +
        (held rest).count x + (s.recv_socket.count x + s.pending_messages.count x +
          (s.pop_returns queue rest).swsr_messages.count x)
    have hheld : held (Frame.pop queue m :: rest) = held rest := rfl
    have hallx := hall x
    rw [hheld] at hx
    rw [List.count_append]
    omega
  · have hx := hdispatched x
    show s.dispatched.count x + (s.recv_socket.count x + s.pending_messages.count x +
      (s.pop_returns queue rest).swsr_messages.count x) ≤ s.arrived.count x + shown rest x
    have hallx := hall x
    omega

/-- `consume_swsr_recv_queues` returns: `current_message` is what it was. -/
theorem Custody.consumed {s : State Body queues} (h : Custody s) {old : Option (Message Body)}
    {rest : List (Frame Body queues)} (hcurrent : s.current_message = none)
    (hstack : s.stack = .consume old :: rest) :
    Custody { s with stack := rest, current_message := old } := by
  -- The message moves from `old_current_message` back to `current_message`.
  have hfront := h.front
  have hqueue := h.queue_front
  have haccount := h.account
  have hdispatched := h.dispatched
  simp only [State.owned, hcurrent] at haccount
  rw [hstack] at hfront hqueue haccount hdispatched
  refine ⟨hfront, hqueue, fun x => ?_, hdispatched, h.deferred⟩
  · have hx := haccount x
    show s.arrived.count x + shown rest x = s.released.count x + s.taken.count x +
      old.toList.count x + (held rest).count x + s.contained x
    have hshown : shown (.consume old :: rest) x = shown rest x := rfl
    rw [hshown, held_cons, List.count_append] at hx
    simp only [Frame.held, Option.toList_none, List.count_nil] at hx
    omega

/-! ### The steps -/

omit [DecidableEq Body] in
/-- Calls that an exception may end contribute nothing to an account. -/
theorem flatMap_drop_of_abandonable {g : Frame Body queues → List β}
    (hg : ∀ f, f.abandonable = true → g f = []) {stack : List (Frame Body queues)} {k : Nat}
    (h : (stack.take k).all Frame.abandonable = true) :
    (stack.drop k).flatMap g = stack.flatMap g := by
  induction stack generalizing k with
  | nil => rw [List.drop_nil]
  | cons f rest ih =>
    cases k with
    | zero => rfl
    | succ k =>
      rw [List.take_succ_cons, List.all_cons, Bool.and_eq_true] at h
      rw [List.drop_succ_cons, List.flatMap_cons, hg f h.1, List.nil_append, ih h.2]

omit [DecidableEq Body] in
theorem abandonable_parts {f : Frame Body queues} (h : f.abandonable = true) :
    f.from_pending = [] ∧ f.held = [] ∧ ∀ queue, f.from_queue queue = [] := by
  cases f with
  | process t =>
    -- A message from the socket, whose caller had no message.
    obtain ⟨hsource, hprev⟩ := by simpa [Frame.abandonable] using h
    exact ⟨by simp [Frame.from_pending, hsource], by simp [Frame.held, hprev], fun _ => rfl⟩
  | consume old =>
    have hold : old = none := by simpa [Frame.abandonable] using h
    exact ⟨rfl, by simp [Frame.held, hold], fun _ => rfl⟩
  | pop queue m => cases h
  | _ => exact ⟨rfl, rfl, fun _ => rfl⟩

/-- An exception ends calls that have no messages of their own. -/
theorem Custody.throws {s : State Body queues} (h : Custody s) {k : Nat}
    (hk : (s.stack.take k).all Frame.abandonable = true) :
    Custody { s with stack := s.stack.drop k } := by
  have hhand : in_hand (s.stack.drop k) = in_hand s.stack :=
    flatMap_drop_of_abandonable (fun f hf => (abandonable_parts hf).1) hk
  have hheld : held (s.stack.drop k) = held s.stack :=
    flatMap_drop_of_abandonable (fun f hf => (abandonable_parts hf).2.1) hk
  have hpopping : popping (s.stack.drop k) = popping s.stack := by
    funext queue
    exact flatMap_drop_of_abandonable (fun f hf => (abandonable_parts hf).2.2 queue) hk
  have hshown : shown (s.stack.drop k) = shown s.stack := by
    funext x
    rw [shown, shown, hhand, hpopping]
  exact {
    front := by rw [hhand]; exact h.front
    queue_front := by rw [hpopping]; exact h.queue_front
    account := fun x => by
      have hx := h.account x
      rw [State.owned] at hx ⊢
      rw [hshown, hheld]
      exact hx
    dispatched := fun x => by
      rw [hshown]
      exact h.dispatched x
    deferred := h.deferred }

theorem Custody.terminate_actor {s : State Body queues} (h : Custody s) (hstack : s.stack = []) :
    Custody s.terminate_actor := by
  have hnil : (Family.all fun _ : Fin queues => ([] : List (Message Body))) = [] := Family.all_nil
  refine ⟨?_, fun queue => ?_, fun x => ?_, fun x => ?_, fun x => ?_⟩
  · show in_hand s.stack <+: []
    rw [hstack]
    exact List.nil_prefix
  · show popping s.stack queue <+: []
    rw [hstack]
    exact List.nil_prefix
  · have hx := h.account x
    show s.arrived.count x + shown s.stack x =
      (s.released ++ s.pending_messages ++ s.recv_socket ++ s.swsr_messages).count x +
        s.taken.count x + s.current_message.toList.count x + (held s.stack).count x +
        (0 + 0 + (Family.all fun _ : Fin queues => ([] : List (Message Body))).count x)
    rw [hnil]
    rw [State.owned, State.contained] at hx
    simp only [List.count_append, List.count_nil] at hx ⊢
    omega
  · have hx := h.dispatched x
    show s.dispatched.count x +
      (0 + 0 + (Family.all fun _ : Fin queues => ([] : List (Message Body))).count x) ≤
        s.arrived.count x + shown s.stack x
    rw [hnil, List.count_nil]
    omega
  · have hx := h.deferred x
    show s.deferred.count x + 0 ≤ s.arrived.count x
    omega

theorem Custody.user_step {s s' : State Body queues} (h : Custody s) {step : UserStep Body}
    (hl : keeps_custody s (.user step) = true) (hstep : UserSteps s step s') : Custody s' := by
  cases hstep with
  | request | on_reply_missing | destroy | overwrite | set_activated => exact { h with }
  | on_reply_stored | on_reply_waits | receive => exact { h with }
  | take_current_message m hcurrent =>
    refine { h with account := fun x => ?_ }
    have hx := h.account x
    show s.arrived.count x + shown s.stack x =
      s.released.count x + (s.taken ++ [m]).count x + 0 + (held s.stack).count x + s.contained x
    rw [State.owned, hcurrent, Option.toList_some] at hx
    rw [List.count_append]
    omega
  | release_taken k hk =>
    refine { h with account := fun x => ?_ }
    have hx := h.account x
    have htaken := (List.getElem_cons_eraseIdx_perm hk).count_eq x
    show s.arrived.count x + shown s.stack x =
      (s.released ++ [s.taken[k]]).count x + (s.taken.eraseIdx k).count x +
        s.current_message.toList.count x + (held s.stack).count x + s.contained x
    rw [State.owned] at hx
    simp only [List.count_append, List.count_cons, List.count_nil] at htaken ⊢
    omega
  | process_returns garbage t rest hstack =>
    refine Custody.receive_returns ?_
    have h' : Custody { s with stack := .process t :: rest } := by
      rw [← hstack]
      exact h
    exact { h' with }
  | callback_returns garbage polls rest hstack =>
    exact (h.pop_frame hstack rfl rfl rfl).callbacks polls
  | stored_returns garbage n generation inserted rest hstack =>
    exact { h.pop_frame hstack rfl rfl rfl with }
  | pop_returns garbage queue m rest hstack => exact h.pop_returns hstack
  | throws k huser => exact h.throws hl
  | terminate_actor hstack => exact h.terminate_actor hstack

/-- Every step that meets the condition keeps the accounts. -/
theorem Custody.step {s s' : State Body queues} {l : Label Body queues} (h : Custody s)
    (hidle : Idle s.stack s.current_message)
    (hwaits : s.stack.countP Frame.is_wait ≤ s.waiting_for_response) (hl : keeps_custody s l = true)
    (hn : s.next l = some s') : Custody s' := by
  cases (next_cases hn).2 with
  | arrive content => exact h.arrive content
  | push queue content => exact h.push queue content
  | user step huser hstep => exact h.user_step hl hstep
  | receives source m hreceives hnext => exact h.process hwaits hreceives hl hnext
  | polls hreceives hnext => exact h.callbacks (_ + 1)
  | leave polls rest hstack hactivated => exact h.pop_frame hstack rfl rfl rfl
  | leave_wait polls n cur_act inner rest hstack hactivated =>
    exact { h.pop_frame hstack rfl rfl rfl with }
  | pop queue old m rest hstack hqueue =>
    have hcurrent : s.current_message = none := hidle.current (by rw [hstack]; rfl)
    exact h.pop hcurrent hqueue (by simpa [keeps_custody] using hl)
  | consumed old rest hstack =>
    have hcurrent : s.current_message = none := hidle.current (by rw [hstack]; rfl)
    exact h.consumed hcurrent hstack

/-- **The accounts are right throughout every run that meets the condition.** -/
theorem Custody.run {s : State Body queues}
    (hs : ReachableVia (system Body queues) (fun s l => keeps_custody s l = true) s) :
    Custody s := by
  have hknown : ∀ s, ReachableVia (system Body queues) (fun s l => keeps_custody s l = true) s →
      Idle s.stack s.current_message ∧
        s.stack.countP Frame.is_wait ≤ s.waiting_for_response := by
    intro s hs
    exact ⟨Idle.run hs, waits_le hs⟩
  apply hs.invariant_of Custody hknown
  · intro s hinit
    rw [hinit]
    exact custody_start
  · intro s l s' hknown h hl hn
    exact h.step hknown.1 hknown.2 hl hn

/-! ### Every message is owned exactly once -/

/-- The ownership of messages is exact. -/
structure ExactOwnership (s : State Body queues) : Prop where
  dispatched_once : s.dispatched.Nodup
  deferred_once : s.deferred.Nodup
  released_once : s.released.Nodup
  /-- A released message is not used any more. -/
  released_unused : ∀ m ∈ s.released,
    m ∉ s.taken ∧ s.current_message ≠ some m ∧ m ∉ held s.stack
  /-- When no handler runs, every message has exactly one owner. -/
  owned : s.stack = [] → s.arrived.Perm
    (s.released ++ s.taken ++ s.current_message.toList ++ s.recv_socket ++ s.pending_messages ++
      s.swsr_messages)
  /-- What a terminated actor has not released is in `CountPointer`s. -/
  not_leaked : s.terminated = true → s.arrived.Perm (s.released ++ s.taken)

/-- What is shown is in a container. -/
theorem Custody.shown_le {s : State Body queues} (h : Custody s) (m : Message Body) :
    shown s.stack m ≤ s.pending_messages.count m + s.swsr_messages.count m :=
  Nat.add_le_add (h.front.sublist.count_le m)
    (Family.count_all_le (fun queue => (h.queue_front queue).sublist) m)

theorem Custody.owned_perm {s : State Body queues} (h : Custody s) (hstack : s.stack = []) :
    s.arrived.Perm (s.released ++ s.taken ++ s.current_message.toList ++ s.recv_socket ++
      s.pending_messages ++ s.swsr_messages) := by
  rw [List.perm_iff_count]
  intro m
  have hm := h.account m
  have hshown : shown ([] : List (Frame Body queues)) m = 0 := by simp [shown]
  rw [State.owned, State.contained, hstack, hshown] at hm
  simp only [List.count_append, held, List.flatMap_nil, List.count_nil] at hm ⊢
  omega

/-- **Every message is dispatched at most once and released exactly once, in
    every run that meets the condition.** -/
theorem exact_ownership_of_keeps_custody {s : State Body queues}
    (hs : ReachableVia (system Body queues) (fun s l => keeps_custody s l = true) s) :
    ExactOwnership s := by
  have h := Custody.run hs
  have hone : ∀ m, s.arrived.count m ≤ 1 := List.nodup_iff_count_le_one.mp (arrived_nodup hs)
  have hshown := h.shown_le
  have haccount := h.account
  have hdispatched := h.dispatched
  simp only [State.owned, State.contained] at haccount hdispatched
  refine {
    dispatched_once := List.nodup_iff_count_le_one.mpr fun m => ?_
    deferred_once := List.nodup_iff_count_le_one.mpr fun m => ?_
    released_once := List.nodup_iff_count_le_one.mpr fun m => ?_
    released_unused := fun m hm => ?_
    owned := h.owned_perm
    not_leaked := ?_ }
  · have := hone m
    have := hshown m
    have := hdispatched m
    omega
  · have := hone m
    have := h.deferred m
    omega
  · have := hone m
    have := hshown m
    have := haccount m
    omega
  · have hreleased := List.count_pos_iff.mpr hm
    have h1 := hone m
    have h2 := hshown m
    have h3 := haccount m
    refine ⟨?_, ?_, ?_⟩
    · rw [← List.count_eq_zero]
      omega
    · intro hcurrent
      rw [hcurrent, Option.toList_some, List.count_singleton_self] at h3
      omega
    · rw [← List.count_eq_zero]
      omega
  · intro hterminated
    cases hs with
    | init h0 => rw [h0] at hterminated; cases hterminated
    | @step s₀ _ l hs' hl hn =>
      obtain ⟨rfl, hstack, rfl⟩ := terminated_step hn hterminated
      have hcurrent := by simpa [keeps_custody] using hl
      have hperm := h.owned_perm hstack
      have hmessages : s₀.terminate_actor.swsr_messages = [] := Family.all_nil
      rw [hmessages] at hperm
      simpa [State.terminate_actor, hcurrent] using hperm

/-- A handler throws and its message is taken; a message of a queue, a deferred
    message and a reply are handled; the actor terminates. -/
def careful_run : List (Label Nat 1) :=
  [.user .receive, .arrive .ordinary, .loop 0, .user (.throws 2), .user .take_current_message,
    .push 0 .ordinary, .arrive .consumption, .user (.receive_once 0), .pop 0,
    .user (.returns fun _ => none), .consumed, .user (.returns fun _ => none),
    .user (.request false), .user (.on_reply 0), .arrive .ordinary, .loop 0,
    .arrive (.response 0 10), .loop 0, .user (.returns fun _ => none), .loop 0,
    .user (.receive_once 0), .user (.returns fun _ => none), .arrive .ordinary,
    .user .terminate_actor]

theorem exact_ownership_of_keeps_custody_run :
    ∃ s : State Nat 1, (s.terminated, s.released.map (·.serial), s.taken.map (·.serial)) =
      (true, [1, 2, 4, 3, 5], [0]) ∧ ExactOwnership s := by
  obtain ⟨s, hs, hobs⟩ := System.reachable_of_exec
    (system Nat 1) (fun s l => keeps_custody s l = true) careful_run
    (fun s => (s.terminated, s.released.map (·.serial), s.taken.map (·.serial)))
    (s := start Nat 1) (b := (true, [1, 2, 4, 3, 5], [0])) rfl (by decide +kernel)
  exact ⟨s, hobs, exact_ownership_of_keeps_custody hs⟩

/-- The handler of a message from the socket throws, the caller of `receive_once`
    catches the exception, and the actor ends: nobody deletes the message. -/
theorem not_exact_ownership :
    ¬ ∀ s : State Nat 0, Reachable (system Nat 0) s → ExactOwnership s := by
  intro hall
  obtain ⟨s, hs, hobs⟩ := System.reachable_of_exec (system Nat 0) (fun _ _ => True)
    [.arrive .ordinary, .user (.receive_once 0), .user (.throws 1), .user .terminate_actor]
    (fun s => (s.terminated, s.arrived.length, s.released.length, s.taken.length))
    (s := start Nat 0) (b := (true, 1, 0, 0)) rfl (by decide +kernel)
  obtain ⟨hterminated, harrived, hreleased, htaken⟩ := by simpa only [Prod.mk.injEq] using hobs
  have hlength := ((hall s hs).not_leaked hterminated).length_eq
  rw [List.length_append, harrived, hreleased, htaken] at hlength
  cases hlength

end ZAF.ActorBehavior
