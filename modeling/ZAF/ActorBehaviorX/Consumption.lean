import ZAF.ActorBehaviorX.Scheduling

/-! # One consumption round at a time

    What the receiver does between handlers, in `on_reply` and in the handler of a
    consumption message is either a step of the reader that works in rounds, or the reader
    does not see it: a message that `on_reply` puts off keeps its place among those of its
    sender. So exactly one consumption message is on its way while `active_recv_queues` is
    not empty.
-/

namespace ZAF.Receiving

open LTS SWSRDeliveryQueue SwapRemove

variable {ActorId Item : Type} [DecidableEq ActorId] {self : ActorId} {s s' : State ActorId Item}

/-! ### Calls on top of a handler -/

/-- A call that does not wait is made. -/
theorem Calls.cons {call : Call} {calls : List Call} {waiting_for_response : Nat}
    (h : Calls calls waiting_for_response) (hcall : call.is_wait = false)
    (hreply : ∀ source, call = .reply source → source = .socket) :
    Calls (call :: calls) waiting_for_response := by
  refine ⟨h.waiting.trans (List.countP_cons_of_neg ?_).symm, fun source hsource => ?_⟩
  · rw [hcall]
    exact nofun
  · rcases List.mem_cons.mp hsource with heq | hsource
    · exact hreply source heq.symm
    · exact h.reply source hsource

/-- A call that does not wait is over. -/
theorem Calls.of_cons {call : Call} {rest : List Call} {waiting_for_response : Nat}
    (h : Calls (call :: rest) waiting_for_response) (hcall : call.is_wait = false) :
    Calls rest waiting_for_response := by
  refine ⟨h.waiting.trans (List.countP_cons_of_neg ?_), fun source hsource =>
    h.reply source (List.mem_cons_of_mem _ hsource)⟩
  rw [hcall]
  exact nofun

/-! ### Messages between handlers -/

/-- The state when the message has had no effect. -/
def State.ignore (s : State ActorId Item) (a : ActorId) (source : Source) : State ActorId Item :=
  (s.take_from a source).receive_returns source

/-- A message that is passed on between handlers is the first one of its sender. -/
structure Passed (s : State ActorId Item) (a : ActorId) (source : Source) (m : Message ActorId) :
    Prop where
  alike : Alike s.in_flight (m :: (s.ignore a source).in_flight)
  mem : m ∈ s.pending_messages ++ s.recv_socket
  subset : (s.take_from a source).pending_messages ++ (s.take_from a source).recv_socket ⊆
    s.pending_messages ++ s.recv_socket
  front : source = .pending → s.pending_messages.head? = some m

/-- What is left in the socket has been there. -/
theorem take_socket_subset (s : State ActorId Item) (a : ActorId) :
    s.pending_messages ++ s.recv_socket.eraseP (fun m => m.sender = a) ⊆
      s.pending_messages ++ s.recv_socket := by
  intro m hm
  rcases List.mem_append.mp hm with hm | hm
  · exact List.mem_append_left _ hm
  · exact List.mem_append_right _ (List.mem_of_mem_eraseP hm)

/-- With no handler on the stack, `inner_receive_once` takes the first message that has been put
    off, or the socket gives one of `a`. -/
theorem passed_of_next_message (h : Control self s) (hcalls : s.calls = []) (hbase : s.base = .loop)
    {a : ActorId} {source : Source} {m : Message ActorId}
    (hnext : s.next_message a = some (source, m)) : Passed s a source m := by
  have hwaiting : s.waiting_for_response = 0 := by
    rw [h.calls.waiting, hcalls]
    rfl
  have hflight : s.in_flight = s.pending_messages ++ s.recv_socket := by
    unfold State.in_flight
    rw [hbase]
    rfl
  unfold State.next_message at hnext
  rw [hwaiting] at hnext
  cases hpending : s.pending_messages with
  -- it stays in front until its handler has returned
  | cons m' rest =>
    rw [hpending] at hnext
    cases hnext
    have hrest : (s.ignore a .pending).in_flight = rest ++ s.recv_socket := by
      show s.pending_messages.tail.drop s.base.front.toList.length ++ s.recv_socket = _
      rw [hbase, hpending]
      rfl
    refine ⟨?_, ?_, fun _ hm => hm, fun _ => by rw [hpending]; rfl⟩
    · rw [hflight, hrest, hpending]
      exact ⟨fun _ => rfl, rfl⟩
    · rw [hpending]
      exact List.mem_cons_self
  -- messages of other senders may be before it in the socket
  | nil =>
    rw [hpending] at hnext
    obtain ⟨m', hfind, heq⟩ := Option.map_eq_some_iff.mp hnext
    cases heq
    have hrest : (s.ignore a .socket).in_flight = s.recv_socket.eraseP fun m => m.sender = a := by
      show s.pending_messages.drop s.base.front.toList.length ++ _ = _
      rw [hbase, hpending]
      rfl
    refine ⟨?_, ?_, take_socket_subset s a, nofun⟩
    · rw [hflight, hrest, hpending]
      exact alike_take hfind
    · exact List.mem_append_right _ (List.mem_of_find?_eq_some hfind)

/-- A message that leaves without an effect leaves the receiver in order. -/
theorem Control.ignore (h : Control self s) {a : ActorId} {source : Source}
    {m : Message ActorId} (hm : Passed s a source m) (hbase : s.base = .loop) :
    Control self (s.ignore a source) := by
  have hsub : (s.ignore a source).pending_messages ++ (s.ignore a source).recv_socket ⊆
      s.pending_messages ++ s.recv_socket := by
    cases source with
    | socket => exact hm.subset
    | pending =>
      exact List.append_subset.mpr ⟨fun m hm => List.mem_append_left _ (List.mem_of_mem_tail hm),
        List.subset_append_right _ _⟩
  have hplace : Place s.base (s.ignore a source).pending_messages s.active_recv_queues := by
    rw [hbase]
    exact ⟨nofun, nofun, nofun⟩
  cases source <;> exact ⟨h.calls, hplace, h.names.of_subset hsub, h.queues⟩

/-- A message that is no signal and no round goes without a trace. -/
theorem keeps_ignore (h : Control self s) {a : ActorId} {source : Source} {m : Message ActorId}
    (hm : Passed s a source m) (hbase : s.base = .loop) (huser : m.content.by_user = true) :
    Keeps self s (s.ignore a source) := by
  refine ⟨h.ignore hm hbase, .inl ?_⟩
  have halike := (hm.alike.trans (alike_by_user huser _)).symm
  cases source <;> exact image_eq_of_alike rfl rfl halike rfl rfl rfl rfl rfl

/-- A signal is heard. -/
theorem hear_ignore {a : ActorId} {source : Source} {m : Message ActorId}
    (hm : Passed s a source m) (hbase : s.base = .loop) {signal : Rounds.Signal}
    (hsignal : m.content.signal = some signal) :
    Rounds.next (image s) (.hear m.sender) =
      some ((image (s.ignore a source)).heard m.sender signal) := by
  -- the signals of one sender keep their order on the way
  have hway : (image s).on_way m.sender =
      signal :: signals m.sender (s.ignore a source).in_flight := by
    show signals m.sender s.in_flight = _
    rw [hm.alike.signals, signals_cons, if_pos rfl, hsignal]
    rfl
  have hquiet : m.is_consumption = false := by
    obtain ⟨sender, content⟩ := m
    cases content <;> first | rfl | cases hsignal
  have hphase : (image s).phase = .outside := congrArg Base.phase hbase
  rw [Rounds.next_hear hphase hway]
  refine congrArg (fun t => some (Rounds.State.heard t m.sender signal)) ?_
  have hon_way : Function.update (image s).on_way m.sender
      (signals m.sender (s.ignore a source).in_flight) = (image (s.ignore a source)).on_way := by
    apply Function.update_eq_iff.mpr
    refine ⟨rfl, fun b hb => ?_⟩
    show signals b s.in_flight = _
    rw [hm.alike.signals, signals_cons, if_neg fun heq => hb heq.symm]
    rfl
  have hrounds : (image s).rounds = (image (s.ignore a source)).rounds := by
    show s.in_flight.countP _ = _
    rw [hm.alike.consumptions, List.countP_cons, hquiet]
    rfl
  cases source <;> exact Rounds.State.ext rfl rfl hon_way rfl rfl rfl hrounds rfl rfl

/-! ### Registrations and notifications -/

/-- A registration makes the queue of its sender known. -/
theorem image_register (s : State ActorId Item) (a queue : ActorId) :
    image (s.register_swsr_queue a queue) = (image s).heard a .announce := by
  refine Rounds.State.ext rfl rfl rfl rfl ?_ rfl rfl rfl rfl
  funext b
  show (Function.update s.swsr_recv_queues a _ b).isSome = Function.update (image s).known a true b
  by_cases hb : b = a
  · rw [hb, Function.update_self, Function.update_self]
    rfl
  · rw [Function.update_of_ne hb, Function.update_of_ne hb]
    rfl

/-- `try_emplace` keeps the queue that is registered already, which is the same one. -/
theorem Control.register (h : Control self s) {a queue : ActorId} (hqueue : queue = a) :
    Control self (s.register_swsr_queue a queue) := by
  subst hqueue
  have hkept : (s.swsr_recv_queues queue).getD queue = queue := by
    cases hrecv : s.swsr_recv_queues queue with
    | none => rfl
    | some queue' => exact h.names.registered queue queue' hrecv
  refine ⟨h.calls, h.place, ⟨h.names.registration, fun b queue' hb => ?_, fun e he => ?_⟩, h.queues⟩
  · change Function.update s.swsr_recv_queues queue _ b = some queue' at hb
    rw [hkept] at hb
    by_cases heq : b = queue
    · rw [heq, Function.update_self] at hb
      cases hb
      exact heq.symm
    · rw [Function.update_of_ne heq] at hb
      exact h.names.registered b queue' hb
  · show Function.update s.swsr_recv_queues queue _ e.1 = some e.2
    rw [hkept]
    have hold := h.names.active e he
    by_cases heq : e.1 = queue
    · rw [heq, Function.update_self]
      exact congrArg some ((heq.symm.trans (h.names.registered e.1 e.2 hold).symm))
    · rw [Function.update_of_ne heq]
      exact hold

/-- `swsr_recv_queues.at(a)` throws for a queue that is not known; the reader counts it as
    missed. -/
theorem image_emplace_back (s : State ActorId Item) (a : ActorId) :
    image (s.emplace_back a) =
      if (image s).known a then { image s with active := (image s).active ++ [a] }
      else { image s with missed := (image s).missed + 1 } := by
  have hknown : (image s).known a = (s.swsr_recv_queues a).isSome := rfl
  unfold State.emplace_back
  cases hrecv : s.swsr_recv_queues a with
  | none =>
    rw [hrecv] at hknown
    rw [if_neg (by rw [hknown]; exact nofun)]
    rfl
  | some queue =>
    rw [hrecv] at hknown
    rw [if_pos (by rw [hknown]; rfl)]
    refine Rounds.State.ext rfl rfl rfl rfl rfl ?_ rfl rfl rfl
    exact List.map_append

/-- The queue is listed, and the first one that is listed schedules a round. -/
theorem image_notify (s : State ActorId Item) (self a : ActorId) :
    image (s.notify_swsr_queue self a) = (image s).heard a .wake := by
  show _ = (image s).woken a
  have hempty : (image s).active.isEmpty = s.active_recv_queues.isEmpty := List.isEmpty_map
  unfold State.notify_swsr_queue Rounds.State.woken
  rw [hempty, image_emplace_back]
  split
  · rw [image_send_consumption]
  · rfl

omit [DecidableEq ActorId] in
/-- A list that grows keeps the indices of a running loop in range: its bound is cached. -/
theorem ConsumePc.InRange.append {active_recv_queues : List (ActorId × ActorId)}
    {pc : ConsumePc ActorId Item} (h : pc.InRange active_recv_queues)
    (entries : List (ActorId × ActorId)) : pc.InRange (active_recv_queues ++ entries) := by
  have hlength : active_recv_queues.length ≤ (active_recv_queues ++ entries).length :=
    List.length_append ▸ Nat.le_add_right _ _
  cases pc with
  | scanning i n => exact Nat.le_trans h hlength
  | entry i n recv_queue pc =>
    obtain ⟨hn, a, ha⟩ := h
    have hi := (List.getElem?_eq_some_iff.mp ha).1
    exact ⟨Nat.le_trans hn hlength, a, (List.getElem?_append_left hi).trans ha⟩
  | post => trivial

omit [DecidableEq ActorId] in
/-- Only queues that are registered are listed. -/
theorem Control.emplace_back (h : Control self s) (a : ActorId) :
    Control self (s.emplace_back a) := by
  unfold State.emplace_back
  cases hrecv : s.swsr_recv_queues a with
  | none => exact ⟨h.calls, h.place, h.names, h.queues⟩
  | some queue =>
    refine ⟨h.calls, ⟨h.place.front, h.place.handled, fun source m pc hbase => ?_⟩,
      ⟨h.names.registration, h.names.registered, fun e he => ?_⟩, h.queues⟩
    · exact (h.place.range source m pc hbase).append _
    · rcases List.mem_append.mp he with he | he
      · exact h.names.active e he
      · rw [List.mem_singleton.mp he]
        exact hrecv

omit [DecidableEq ActorId] in
theorem Control.notify (h : Control self s) (a : ActorId) :
    Control self (s.notify_swsr_queue self a) := by
  unfold State.notify_swsr_queue
  split
  · exact (h.send self .Consumption nofun).emplace_back a
  · exact h.emplace_back a

/-! ### The loop of `launch` -/

/-- A registration is heard before or after its message is gone, which is the same. -/
theorem receive_returns_register (s : State ActorId Item) (a queue : ActorId) (source : Source) :
    (s.register_swsr_queue a queue).receive_returns source =
      (s.receive_returns source).register_swsr_queue a queue := by
  cases source <;> rfl

omit [DecidableEq ActorId] in
/-- So is a notification. -/
theorem receive_returns_notify (s : State ActorId Item) (self a : ActorId) (source : Source) :
    (s.notify_swsr_queue self a).receive_returns source =
      (s.receive_returns source).notify_swsr_queue self a := by
  cases source with
  | socket => rfl
  | pending =>
    have hreturns : ∀ t : State ActorId Item, (t.emplace_back a).receive_returns .pending =
        (t.receive_returns .pending).emplace_back a := by
      intro t
      simp only [State.receive_returns, State.emplace_back]
      cases t.swsr_recv_queues a <;> rfl
    simp only [State.notify_swsr_queue, hreturns]
    refine congrArg (State.emplace_back · a) ?_
    show _ = if s.active_recv_queues.isEmpty then _ else _
    split <;> rfl

/-- The message stays in front while its handler runs. -/
theorem in_flight_base {a : ActorId} {source : Source} {m : Message ActorId}
    (hbase : s.base = .loop) {base : Base ActorId Item}
    (hfront : base.front = source.held m) :
    State.in_flight { s.take_from a source with base } = (s.ignore a source).in_flight := by
  cases source with
  | socket =>
    show s.pending_messages.drop base.front.toList.length ++ _ =
      s.pending_messages.drop s.base.front.toList.length ++ _
    rw [hfront, hbase]
    rfl
  | pending =>
    show s.pending_messages.drop base.front.toList.length ++ _ =
      s.pending_messages.tail.drop s.base.front.toList.length ++ _
    rw [hfront, hbase]
    cases s.pending_messages <;> rfl

/-- A handler starts, or the handler of a consumption message. -/
theorem Control.start_handler (h : Control self s) {a : ActorId} {source : Source}
    {m : Message ActorId} (hm : Passed s a source m) {base : Base ActorId Item}
    (hfront : base.front = source.held m)
    (hhandled : ∀ source m, base = .handling source m → m.is_consumption = false)
    (hrange : ∀ source m pc, base = .consuming source m pc → pc.InRange s.active_recv_queues) :
    Control self { s.take_from a source with base } := by
  have hplace : Place base (s.take_from a source).pending_messages s.active_recv_queues := by
    refine ⟨fun m' hm' => ?_, hhandled, hrange⟩
    cases source with
    | socket =>
      rw [hfront] at hm'
      cases hm'
    | pending =>
      rw [hfront] at hm'
      cases hm'
      exact hm.front rfl
  cases source <;> exact ⟨h.calls, hplace, h.names.of_subset hm.subset, h.queues⟩

/-- A round begins: the number of entries is read once, and the message is still in front of
    `pending_messages` if it was put off. -/
theorem keeps_consumption (h : Control self s) {a : ActorId} {source : Source}
    {m : Message ActorId} (hm : Passed s a source m) (hbase : s.base = .loop)
    (hcontent : m.content = .Consumption) {i n : Nat} (hn : n ≤ s.active_recv_queues.length) :
    Keeps self s { s.take_from a source with base := .consuming source m (.scanning i n) } := by
  refine ⟨h.start_handler hm rfl nofun ?_, .inr ⟨.begin, ?_⟩⟩
  · intro source' m' pc heq
    cases heq
    exact hn
  have hflight : State.in_flight
      { s.take_from a source with base := .consuming source m (.scanning i n) } =
        (s.ignore a source).in_flight := in_flight_base hbase rfl
  -- the one round that was scheduled is the one that begins
  have hrounds : (image s).rounds =
      (s.ignore a source).in_flight.countP Message.is_consumption + 1 := by
    show s.in_flight.countP _ = _
    rw [hm.alike.consumptions]
    exact List.countP_cons_of_pos (by unfold Message.is_consumption; rw [hcontent])
  have hon_way : (image s).on_way = fun b => signals b (s.ignore a source).in_flight := by
    funext b
    show signals b s.in_flight = _
    rw [hm.alike.signals, signals_cons, hcontent]
    split <;> rfl
  have hphase : (image s).phase = .outside := congrArg Base.phase hbase
  simp only [Rounds.next, hphase, hrounds]
  refine congrArg some ?_
  rw [← hflight] at hon_way
  have hcount := congrArg (List.countP Message.is_consumption) hflight.symm
  cases source <;> exact Rounds.State.ext rfl rfl hon_way rfl rfl rfl hcount rfl rfl

/-- The handler of the user begins, about which the reader knows nothing. -/
theorem keeps_handle (h : Control self s) {a : ActorId} {source : Source} {m : Message ActorId}
    (hm : Passed s a source m) (hbase : s.base = .loop) (huser : m.content.by_user = true) :
    Keeps self s { s.take_from a source with base := .handling source m } := by
  refine ⟨h.start_handler hm rfl ?_ nofun, .inl ?_⟩
  · intro source' m' heq
    cases heq
    exact (quiet_of_by_user huser).2
  · have halike := hm.alike.trans (alike_by_user huser _)
    have hflight : State.in_flight { s.take_from a source with base := .handling source m } =
        (s.ignore a source).in_flight := in_flight_base hbase rfl
    rw [← hflight] at halike
    have hphase : (Base.handling source m : Base ActorId Item).phase = s.base.phase := by
      rw [hbase]
      rfl
    cases source <;> exact image_eq_of_alike rfl rfl halike.symm rfl rfl rfl hphase rfl

/-- The table of the receiver: the three handlers of `ActorBehaviorX`, that of a `Response`, and
    those of the user. -/
theorem keeps_process (h : Control self s) {a : ActorId} {source : Source} {m : Message ActorId}
    (hm : Passed s a source m) (hbase : s.base = .loop) :
    Keeps self s ((s.take_from a source).process self source m) := by
  have hignore := h.ignore hm hbase
  unfold State.process
  split
  · next queue hcontent =>
    have hqueue : queue = m.sender :=
      h.names.registration m.sender queue (by rw [← hcontent]; exact hm.mem)
    rw [receive_returns_register]
    refine ⟨hignore.register hqueue, .inr ⟨.hear m.sender, ?_⟩⟩
    rw [hear_ignore hm hbase (congrArg Content.signal hcontent)]
    exact congrArg some (image_register (s.ignore a source) m.sender queue).symm
  · next hcontent =>
    rw [receive_returns_notify]
    refine ⟨hignore.notify m.sender, .inr ⟨.hear m.sender, ?_⟩⟩
    rw [hear_ignore hm hbase (congrArg Content.signal hcontent)]
    exact congrArg some (image_notify (s.ignore a source) self m.sender).symm
  · next hcontent =>
    -- the loop of the source counts with 32 bits
    have hn : (s.take_from a source).active_recv_queues.length % 2 ^ 32 ≤
        s.active_recv_queues.length := by
      cases source <;> exact Nat.mod_le _ _
    exact keeps_consumption h hm hbase hcontent hn
  · next req_id hcontent => exact keeps_ignore h hm hbase (by rw [hcontent]; rfl)
  · next hcontent => exact keeps_handle h hm hbase (by rw [hcontent]; rfl)

/-! ### Waiting in `on_reply` -/

omit [DecidableEq ActorId] in
/-- A message that is put off goes behind the others in `pending_messages`. -/
theorem drop_front_append (h : Control self s) (m : Message ActorId) :
    (s.pending_messages ++ [m]).drop s.base.front.toList.length =
      s.pending_messages.drop s.base.front.toList.length ++ [m] := by
  apply List.drop_append_of_le_length
  cases hfront : s.base.front with
  | none => exact Nat.zero_le _
  | some m' =>
    have hhead := h.place.front m' hfront
    cases hpending : s.pending_messages with
    | nil =>
      rw [hpending] at hhead
      cases hhead
    | cons m'' rest => exact Nat.succ_le_succ (Nat.zero_le _)

/-- While an `on_reply` waits, messages come from the socket only. -/
theorem next_message_waiting (h : Control self s) {req_id : UInt32} {cur_act : Bool}
    {rest : List Call} (hcalls : s.calls = .wait req_id cur_act :: rest) {a : ActorId}
    {source : Source} {m : Message ActorId} (hnext : s.next_message a = some (source, m)) :
    source = .socket ∧ s.recv_socket.find? (fun m => m.sender = a) = some m := by
  have hwaiting : s.waiting_for_response = rest.countP Call.is_wait + 1 := by
    rw [h.calls.waiting, hcalls]
    exact List.countP_cons_of_pos rfl
  unfold State.next_message at hnext
  rw [hwaiting] at hnext
  obtain ⟨m', hfind, heq⟩ := Option.map_eq_some_iff.mp hnext
  cases heq
  exact ⟨rfl, hfind⟩

/-- A message of the socket leaves it. -/
theorem Control.take_socket (h : Control self s) (a : ActorId) :
    Control self (s.take_from a .socket) :=
  ⟨h.calls, h.place, h.names.of_subset (take_socket_subset s a), h.queues⟩

/-- `on_reply` puts a message off, a signal as well: it has not been heard yet. -/
theorem keeps_defer (h : Control self s) {a : ActorId} {m : Message ActorId}
    (hfind : s.recv_socket.find? (fun m => m.sender = a) = some m) :
    Keeps self s { s.take_from a .socket with pending_messages := s.pending_messages ++ [m] } := by
  have hmem := List.mem_of_find?_eq_some hfind
  -- what a handler below holds is still the first one
  have hfront : ∀ m', s.base.front = some m' →
      (s.pending_messages ++ [m]).head? = some m' := by
    intro m' hm'
    rw [List.head?_append, h.place.front m' hm']
    rfl
  refine ⟨⟨h.calls, ⟨hfront, h.place.handled, h.place.range⟩, h.names.of_subset ?_, h.queues⟩,
    .inl ?_⟩
  · intro m' hm'
    rw [List.append_assoc, List.mem_append, List.singleton_append, List.mem_cons] at hm'
    rcases hm' with hm' | rfl | hm'
    · exact List.mem_append_left _ hm'
    · exact List.mem_append_right _ hmem
    · exact take_socket_subset s a (List.mem_append_right _ hm')
  · have halike := (alike_take hfind).append_left
      (s.pending_messages.drop s.base.front.toList.length)
    refine image_eq_of_alike rfl rfl ?_ rfl rfl rfl rfl rfl
    show Alike ((s.pending_messages ++ [m]).drop s.base.front.toList.length ++ _) s.in_flight
    rw [drop_front_append h, List.append_assoc]
    exact halike.symm

/-- The table of an `on_reply`: the response it waits for is handled, another one stored, and
    everything else put off. -/
theorem keeps_waiting (h : Control self s) {req_id : UInt32} {cur_act : Bool} {rest : List Call}
    (hcalls : s.calls = .wait req_id cur_act :: rest) {a : ActorId} {source : Source}
    {m : Message ActorId} (hnext : s.next_message a = some (source, m)) :
    Keeps self s ((s.take_from a source).process_waiting req_id source m) := by
  obtain ⟨rfl, hfind⟩ := next_message_waiting h hcalls hnext
  unfold State.process_waiting
  split
  · next id hcontent =>
    have htake := h.take_socket a
    have huser : m.content.by_user = true := by
      rw [hcontent]
      rfl
    have halike : Alike (s.take_from a .socket).in_flight s.in_flight :=
      (((alike_take hfind).trans (alike_by_user huser _)).append_left _).symm
    split
    · refine ⟨⟨h.calls.cons rfl ?_, htake.place, htake.names, htake.queues⟩,
        .inl (image_eq_of_alike rfl rfl halike rfl rfl rfl rfl rfl)⟩
      intro source heq
      cases heq
      rfl
    · exact ⟨htake, .inl (image_eq_of_alike rfl rfl halike rfl rfl rfl rfl rfl)⟩
  · exact keeps_defer h hfind

/-- One turn of `launch` or of an `on_reply`, whichever loop is the inner one. -/
theorem keeps_loop (h : Control self s) {a : ActorId} (hnext : s.loop self a = some s') :
    Keeps self s s' := by
  unfold State.loop at hnext
  split at hnext
  · next hcalls hbase =>
    split at hnext
    · obtain ⟨⟨source, m⟩, hmessage, rfl⟩ := Option.map_eq_some_iff.mp hnext
      exact keeps_process h (passed_of_next_message h hcalls hbase hmessage) hbase
    · cases hnext
  · next req_id cur_act rest hcalls =>
    split at hnext
    · obtain ⟨⟨source, m⟩, hmessage, rfl⟩ := Option.map_eq_some_iff.mp hnext
      exact keeps_waiting h hcalls hmessage
    · -- the call that waits returns
      cases hnext
      have hwaiting := h.calls.waiting
      rw [hcalls, List.countP_cons_of_pos rfl] at hwaiting
      refine ⟨⟨⟨?_, fun source hsource => ?_⟩, h.place, h.names, h.queues⟩, .inl rfl⟩
      · show s.waiting_for_response - 1 = _
        rw [hwaiting]
        rfl
      · exact h.calls.reply source (by rw [hcalls]; exact List.mem_cons_of_mem _ hsource)
  · cases hnext

/-! ### The handler of a consumption message -/

section consumption

variable {source : Source} {m : Message ActorId} {pc : ConsumePc ActorId Item}

omit [DecidableEq ActorId] in
/-- The handler of a consumption message goes on to another point. -/
theorem Control.go_on (h : Control self s) (hbase : s.base = .consuming source m pc)
    {pc' : ConsumePc ActorId Item} (hrange : pc'.InRange s.active_recv_queues) :
    Control self (s.go_on source m pc') := by
  refine ⟨h.calls, ⟨fun m' hm' => h.place.front m' (by rw [hbase]; exact hm'), nofun, ?_⟩,
    h.names, h.queues⟩
  intro source' m' pc'' heq
  cases heq
  exact hrange

/-- The reader sees of it only whether a flag has been cleared. -/
theorem image_go_on (hbase : s.base = .consuming source m pc) (pc' : ConsumePc ActorId Item) :
    image (s.go_on source m pc') =
      { image s with phase := (Base.consuming source m pc').phase } := by
  have hflight : (s.go_on source m pc').in_flight = s.in_flight := by
    unfold State.in_flight
    rw [hbase]
    rfl
  refine Rounds.State.ext rfl rfl ?_ rfl rfl rfl ?_ rfl rfl
  · exact funext fun b => congrArg (signals b) hflight
  · exact congrArg (List.countP Message.is_consumption) hflight

/-- The receiver goes on and changes a queue, its flag apart. -/
theorem keeps_go_on (h : Control self s) (hbase : s.base = .consuming source m pc)
    {a : ActorId} {q : SWSRDeliveryQueue Item}
    (hmay : q.may_have_message = (s.queues a).may_have_message)
    (hwriting : q.is_writing_by_sender = (s.queues a).is_writing_by_sender)
    {pc' : ConsumePc ActorId Item}
    (hphase : (Base.consuming source m pc').phase = (Base.consuming source m pc).phase)
    (hrange : pc'.InRange s.active_recv_queues) :
    Keeps self s ((s.set_queue a q).go_on source m pc') := by
  have hcontrol := h.set_queue_eq hmay hwriting
  refine ⟨hcontrol.go_on hbase hrange, .inl ?_⟩
  have hsame : (Base.consuming source m pc').phase = (image s).phase := by
    rw [hphase, ← hbase]
    rfl
  rw [image_go_on (s := s.set_queue a q) hbase, image_set_queue_eq hmay, hsame]

/-- The same without a queue. -/
theorem keeps_go_on_only (h : Control self s) (hbase : s.base = .consuming source m pc)
    {pc' : ConsumePc ActorId Item}
    (hphase : (Base.consuming source m pc').phase = (Base.consuming source m pc).phase)
    (hrange : pc'.InRange s.active_recv_queues) : Keeps self s (s.go_on source m pc') := by
  refine ⟨h.go_on hbase hrange, .inl ?_⟩
  have hsame : (Base.consuming source m pc').phase = (image s).phase := by
    rw [hphase, ← hbase]
    rfl
  rw [image_go_on hbase, hsame]

/-- A call of `pop_some` begins, the first one for an entry or the one after the flag. -/
theorem keeps_start_pop_some (h : Control self s) (hbase : s.base = .consuming source m pc)
    {i n : Nat} {recv_queue : ActorId} {second : Bool}
    (hphase : (if second then Rounds.Phase.cleared i else .inside) =
      (Base.consuming source m pc).phase)
    (hn : n ≤ s.active_recv_queues.length)
    (hentry : ∃ a, s.active_recv_queues[i]? = some (a, recv_queue)) :
    Keeps self s (s.start_pop_some source m i n recv_queue second) := by
  refine keeps_go_on h hbase ?_ ?_ ?_ ?_
  · rfl
  · rfl
  · exact hphase
  · exact ⟨hn, hentry⟩

/-- All items of a batch have been read. If there were none for the `max_empty_read`-th time, the
    flag is cleared and the queue read once more, and then the entry is removed. -/
theorem keeps_pop_some_returns (h : Control self s) {i n : Nat} {recv_queue : ActorId}
    {second : Bool} {w r num_read : UInt32}
    (hbase : s.base = .consuming source m
      (.entry i n recv_queue (.reading second w r num_read))) :
    Keeps self s (s.pop_some_returns source m i n recv_queue second num_read) := by
  have hrange := h.place.range source m _ hbase
  unfold State.pop_some_returns
  dsimp only
  cases second with
  | true =>
    rw [if_pos rfl]
    refine keeps_go_on h hbase ?_ ?_ ?_ ?_
    · rfl
    · rfl
    · rfl
    · exact hrange
  | false =>
    rw [if_neg nofun]
    split
    · refine keeps_go_on h hbase ?_ ?_ ?_ ?_
      · rfl
      · rfl
      · split <;> rfl
      · split
        · exact hrange
        · exact hrange.1
    · refine keeps_go_on h hbase ?_ ?_ ?_ ?_
      · rfl
      · rfl
      · rfl
      · exact hrange.1

/-- The flag of the entry is cleared. -/
theorem keeps_clear (h : Control self s) {i n : Nat} {recv_queue : ActorId}
    (hbase : s.base = .consuming source m (.entry i n recv_queue .clearing)) :
    Keeps self s ((s.set_queue recv_queue (s.queues recv_queue).inc_read_progress).go_on source m
      (.entry i n recv_queue .rereading)) := by
  have hrange := h.place.range source m _ hbase
  obtain ⟨a, ha⟩ := hrange.2
  have hcontrol := h.set_queue (a := recv_queue) (q := (s.queues recv_queue).inc_read_progress)
    nofun (h.queues.writing recv_queue)
  refine ⟨hcontrol.go_on hbase hrange, .inr ⟨.clear i, ?_⟩⟩
  -- the queue of the entry is that of its sender
  have hname := h.names.registered a recv_queue (h.names.active _ (List.mem_of_getElem? ha))
  have hactive : (image s).active[i]? = some recv_queue := by
    show (s.active_recv_queues.map Prod.fst)[i]? = _
    rw [List.getElem?_map, ha, hname]
    rfl
  have hphase : (image s).phase = .inside := congrArg Base.phase hbase
  simp only [Rounds.next, hphase, hactive]
  rw [image_go_on (s := s.set_queue recv_queue _) hbase, image_set_queue]
  rfl

/-- The entry is removed; nobody has stopped writing. -/
theorem keeps_drop (h : Control self s) {i n : Nat} {recv_queue sender queue : ActorId}
    (hbase : s.base = .consuming source m (.entry i n recv_queue .dropping))
    (hi : s.active_recv_queues[i]? = some (sender, queue)) :
    Keeps self s (State.go_on
      { s with
        swsr_recv_queues :=
          if (s.queues recv_queue).is_writing_by_sender then s.swsr_recv_queues
          else Function.update s.swsr_recv_queues sender none
        active_recv_queues := swap_remove s.active_recv_queues i } source m
          (.scanning i (n - 1))) := by
  rw [if_pos (h.queues.writing recv_queue)]
  have hsub : swap_remove s.active_recv_queues i ⊆ s.active_recv_queues := fun e he =>
    (swap_remove_perm hi).subset (List.mem_cons_of_mem _ he)
  have hlength : n - 1 ≤ (swap_remove s.active_recv_queues i).length := by
    have hsucc := (swap_remove_perm hi).length_eq
    have hn := (h.place.range source m _ hbase).1
    rw [List.length_cons] at hsucc
    omega
  have hrange : ∀ source' m' (pc : ConsumePc ActorId Item),
      Base.consuming source m (.scanning i (n - 1)) = .consuming source' m' pc →
        pc.InRange (swap_remove s.active_recv_queues i) := by
    intro source' m' pc heq
    cases heq
    exact hlength
  refine ⟨⟨h.calls, ⟨fun m' hm' => h.place.front m' (by rw [hbase]; exact hm'), nofun, hrange⟩,
    ⟨h.names.registration, h.names.registered, fun e he => h.names.active e (hsub he)⟩,
    h.queues⟩, .inr ⟨.drop, ?_⟩⟩
  have hphase : (image s).phase = .cleared i := congrArg Base.phase hbase
  have hdropped : { image s with active := swap_remove (image s).active i } =
      image { s with active_recv_queues := swap_remove s.active_recv_queues i } :=
    Rounds.State.ext rfl rfl rfl rfl rfl (map_swap_remove Prod.fst _ i).symm rfl rfl rfl
  simp only [Rounds.next, hphase]
  rw [image_go_on (s := { s with active_recv_queues := swap_remove s.active_recv_queues i }) hbase,
    ← hdropped]
  rfl

/-- A step of `consume_swsr_recv_queues` by itself. Only clearing a flag and removing an entry are
    steps of the reader. -/
theorem keeps_consume_next [Inhabited Item] (h : Control self s)
    (hbase : s.base = .consuming source m pc) (hnext : s.consume_next source m pc = some s') :
    Keeps self s s' := by
  have hrange := h.place.range source m _ hbase
  cases pc with
  | scanning i n =>
    simp only [State.consume_next] at hnext
    split at hnext
    · obtain ⟨⟨a, recv_queue⟩, hi, rfl⟩ := Option.map_eq_some_iff.mp hnext
      exact keeps_start_pop_some h hbase rfl hrange ⟨a, hi⟩
    · cases hnext
      exact keeps_go_on_only h hbase rfl trivial
  | post => cases hnext
  | entry i n recv_queue pc =>
    cases pc with
    | reading second w r num_read =>
      simp only [State.consume_next] at hnext
      split at hnext <;> cases hnext
      · exact keeps_go_on_only h hbase rfl hrange
      · exact keeps_pop_some_returns h hbase
    | popping item second w r num_read => cases hnext
    | clearing =>
      cases hnext
      exact keeps_clear h hbase
    | rereading =>
      cases hnext
      exact keeps_start_pop_some h hbase rfl hrange.1 hrange.2
    | dropping =>
      obtain ⟨⟨sender, queue⟩, hi, rfl⟩ := Option.map_eq_some_iff.mp hnext
      exact keeps_drop h hbase hi

end consumption

/-! ### The user's code -/

section user

variable {source : Source} {m : Message ActorId}

/-- The handler of a message has returned; the message leaves `pending_messages`. -/
theorem image_end_turn (hfront : s.base.front = source.held m) :
    image ({ s with base := .loop }.receive_returns source) =
      { image s with phase := .outside } := by
  have hflight : ({ s with base := .loop }.receive_returns source).in_flight = s.in_flight := by
    unfold State.in_flight
    rw [hfront]
    cases source with
    | socket => rfl
    | pending =>
      show s.pending_messages.tail ++ s.recv_socket = s.pending_messages.drop 1 ++ s.recv_socket
      rw [List.drop_one]
  have hon_way := funext fun b => congrArg (signals b) hflight
  have hcount := congrArg (List.countP Message.is_consumption) hflight
  cases source <;> exact Rounds.State.ext rfl rfl hon_way rfl rfl rfl hcount rfl rfl

omit [DecidableEq ActorId] in
/-- A message that is gone leaves the receiver in order. -/
theorem Control.end_turn (h : Control self s) (source : Source) :
    Control self ({ s with base := .loop }.receive_returns source) := by
  cases source with
  | socket => exact ⟨h.calls, ⟨nofun, nofun, nofun⟩, h.names, h.queues⟩
  | pending =>
    refine ⟨h.calls, ⟨nofun, nofun, nofun⟩, h.names.of_subset fun m hm => ?_, h.queues⟩
    rcases List.mem_append.mp hm with hm | hm
    · exact List.mem_append_left _ (List.mem_of_mem_tail hm)
    · exact List.mem_append_right _ hm

/-- The round ends; the next one is scheduled. -/
theorem keeps_consumption_returns (h : Control self s)
    (hbase : s.base = .consuming source m .post) :
    Keeps self s (s.consumption_returns self source) := by
  have hphase : (image s).phase = .inside := congrArg Base.phase hbase
  have hempty : (image s).active.isEmpty = s.active_recv_queues.isEmpty := List.isEmpty_map
  unfold State.consumption_returns
  dsimp only
  cases hactive : s.active_recv_queues.isEmpty with
  | true =>
    have hfront : s.base.front = source.held m := congrArg Base.front hbase
    refine ⟨h.end_turn source, .inr ⟨.finish, ?_⟩⟩
    simp only [Rounds.next, hphase, hempty, hactive]
    exact congrArg some (image_end_turn hfront).symm
  | false =>
    have hfront : (s.send self .Consumption).base.front = source.held m :=
      congrArg Base.front hbase
    have hsent := h.send self .Consumption fun a heq => by cases heq
    refine ⟨hsent.end_turn source, .inr ⟨.finish, ?_⟩⟩
    simp only [Rounds.next, hphase, hempty, hactive]
    refine congrArg some (Eq.trans ?_ (image_end_turn hfront).symm)
    rw [image_send_consumption]
    rfl

/-- The handler of an item returns, and the item is gone. -/
theorem keeps_pop_returns (h : Control self s) {i n : Nat} {recv_queue : ActorId} {item : Item}
    {second : Bool} {w r num_read : UInt32}
    (hbase : s.base = .consuming source m
      (.entry i n recv_queue (.popping item second w r num_read))) :
    Keeps self s (s.pop_returns source m i n recv_queue second w r num_read) := by
  have hrange := h.place.range source m _ hbase
  refine keeps_go_on h hbase ?_ ?_ ?_ ?_
  · split <;> rfl
  · split <;> rfl
  · rfl
  · exact hrange

/-- What has been called last returns: handlers of responses and callbacks before the handler
    below them. -/
theorem keeps_returns (h : Control self s) (hnext : s.returns self = some s') :
    Keeps self s s' := by
  have hcalls := h.calls
  unfold State.returns at hnext
  split at hnext
  · next source rest heq =>
    rw [heq] at hcalls
    cases hnext
    obtain rfl := hcalls.reply source List.mem_cons_self
    exact ⟨⟨hcalls.of_cons rfl, h.place, h.names, h.queues⟩, .inl rfl⟩
  · next rest heq =>
    rw [heq] at hcalls
    cases hnext
    exact ⟨⟨hcalls.of_cons rfl, h.place, h.names, h.queues⟩, .inl rfl⟩
  · next rest heq =>
    rw [heq] at hcalls
    cases hnext
    exact ⟨⟨hcalls.of_cons rfl, h.place, h.names, h.queues⟩, .inl rfl⟩
  · next source m hempty hbase =>
    cases hnext
    have hfront : s.base.front = source.held m := congrArg Base.front hbase
    have hphase : (image s).phase = .outside := congrArg Base.phase hbase
    refine ⟨h.end_turn source, .inl ?_⟩
    rw [image_end_turn hfront, ← hphase]
  · next source m i n recv_queue item second w r num_read hempty hbase =>
    cases hnext
    exact keeps_pop_returns h hbase
  · next source m hempty hbase =>
    cases hnext
    exact keeps_consumption_returns h hbase
  · cases hnext

omit [DecidableEq ActorId] in
/-- A stored response runs its handlers at once, otherwise a wait begins. -/
theorem Control.on_reply (h : Control self s) (req_id : UInt32) (stored : Bool) :
    Control self (s.on_reply req_id stored) := by
  unfold State.on_reply
  split
  · exact ⟨h.calls.cons rfl nofun, h.place, h.names, h.queues⟩
  · refine ⟨⟨?_, fun source hmem => ?_⟩, h.place, h.names, h.queues⟩
    · show s.waiting_for_response + 1 = _
      rw [h.calls.waiting]
      exact (List.countP_cons_of_pos rfl).symm
    · rcases List.mem_cons.mp hmem with heq | hmem
      · cases heq
      · exact h.calls.reply source hmem

/-- What the code of the user does is seen by the reader only as pushes and signals to itself. -/
theorem keeps_user_next [Inhabited Item] (h : Control self s) {step : UserStep ActorId Item}
    (hnext : s.user_next self step = some s') : Keeps self s s' := by
  cases step with
  | push_self x => exact keeps_push_self h hnext
  | send_self content =>
    simp only [State.user_next] at hnext
    split at hnext <;> cases hnext
    next hcontent => exact keeps_send_by_user h self hcontent
  | on_reply req_id stored =>
    cases hnext
    refine ⟨h.on_reply req_id stored, .inl ?_⟩
    unfold State.on_reply
    split <;> rfl
  | set_activated activated =>
    cases hnext
    exact ⟨⟨h.calls, h.place, h.names, h.queues⟩, .inl rfl⟩
  | returns => exact keeps_returns h hnext

end user

/-! ### Runs -/

section runs

variable [Inhabited Item]

/-- **Every step of the receiver or of a sender is a step of the reader, or not seen by it.** -/
theorem keeps_next (h : Control self s) {l : Label ActorId Item}
    (hnext : State.next self s l = some s') : Keeps self s s' := by
  cases l with
  | sender a step =>
    simp only [State.next] at hnext
    split at hnext
    · cases hnext
    · exact keeps_sender h hnext
  | user step =>
    simp only [State.next] at hnext
    split at hnext
    · exact keeps_user_next h hnext
    · cases hnext
  | loop a => exact keeps_loop h hnext
  | callback =>
    simp only [State.next] at hnext
    split at hnext <;> cases hnext
    refine ⟨⟨h.calls.cons rfl fun source hsource => ?_, h.place, h.names, h.queues⟩, .inl rfl⟩
    cases hsource
  | delayed content =>
    simp only [State.next] at hnext
    split at hnext <;> cases hnext
    next hcontent => exact keeps_send_by_user h self hcontent
  | consume =>
    simp only [State.next] at hnext
    split at hnext
    · next hbase => exact keeps_consume_next h hbase hnext
    · cases hnext

/-- By induction over the run. -/
theorem control_of_reachable (h : Reachable (system Item self) s) : Control self s := by
  refine h.invariant (Control self) ?_ fun s l s' hs _ hnext => (keeps_next hs hnext).control
  rintro _ rfl
  exact control_start self

/-- The receiver is a reader that works in rounds and knows itself. -/
def simulation (Item : Type) [Inhabited Item] (self : ActorId) :
    Simulation (system Item self) (fun _ _ => True)
      (Rounds.system fun a : ActorId => decide (a = self)) (Control self) where
  image := image
  image_init s h := by
    rw [h]
    refine Rounds.State.ext rfl rfl rfl rfl ?_ rfl rfl rfl rfl
    funext a
    show (if a = self then some self else none).isSome = decide (a = self)
    split <;> simp [*]
  image_step _ _ _ hs _ hnext := (keeps_next hs hnext).image_step

/-- What holds of the reader in rounds holds of the receiver. -/
theorem sound_of_reachable (h : Reachable (system Item self) s) : Rounds.Sound (image s) :=
  Rounds.sound_of_reachable ((simulation Item self).reachable (fun _ => control_of_reachable) h)

/-! ### Scheduled consumption -/

/-- Is the handler of a consumption message running? -/
def Base.consumes : Base ActorId Item → Bool
  | .consuming .. => true
  | _ => false

/-- The consumption messages in the socket and in `pending_messages`. -/
def State.consumptions (s : State ActorId Item) : Nat :=
  (s.pending_messages ++ s.recv_socket).countP Message.is_consumption

omit [DecidableEq ActorId] [Inhabited Item] in
/-- Outside its handler no consumption message is in hand. -/
theorem consumptions_eq (h : Control self s) (hbase : s.base.consumes = false) :
    s.consumptions = s.in_flight.countP Message.is_consumption := by
  unfold State.consumptions State.in_flight
  rw [List.countP_append, List.countP_append]
  cases heq : s.base with
  | loop => rfl
  | consuming source m pc =>
    rw [heq] at hbase
    cases hbase
  | handling source m =>
    cases source with
    | socket => rfl
    | pending =>
      have hhead := h.place.front m (by rw [heq]; rfl)
      have hquiet := h.place.handled .pending m heq
      cases hpending : s.pending_messages with
      | nil => rfl
      | cons m' rest =>
        rw [hpending] at hhead
        cases hhead
        rw [List.countP_cons, hquiet]
        rfl

/-- A notification always finds the queue of its sender. -/
theorem failed_lookups_eq_zero (h : Reachable (system Item self) s) : s.failed_lookups = 0 :=
  (sound_of_reachable h).missed

/-- The loop of `consume_swsr_recv_queues` does not read behind the end of the list, which
    its removals shorten. -/
theorem scanning_in_range (h : Reachable (system Item self) s) {source : Source}
    {m : Message ActorId} {i n : Nat} (hbase : s.base = .consuming source m (.scanning i n))
    (hi : i < n) : i < s.active_recv_queues.length :=
  Nat.lt_of_lt_of_le hi ((control_of_reachable h).place.range source m _ hbase)

/-- Outside the handler of consumption messages, exactly one such message is on its way
    while a queue is to be read, and otherwise none; no queue is listed twice, and every
    one that is listed is registered. -/
theorem one_consumption_scheduled (h : Reachable (system Item self) s) :
    (s.base.consumes = false →
      (s.active_recv_queues ≠ [] ↔ s.consumptions = 1) ∧ s.consumptions ≤ 1) ∧
    (s.active_recv_queues.map Prod.snd).Nodup ∧
    ∀ e ∈ s.active_recv_queues, s.swsr_recv_queues e.1 = some e.2 := by
  have hcontrol := control_of_reachable h
  have hsound := sound_of_reachable h
  have hactive := hcontrol.names.active
  refine ⟨fun hbase => ?_, ?_, hactive⟩
  · have hphase : (image s).phase = .outside := by
      show s.base.phase = _
      cases heq : s.base with
      | loop => rfl
      | handling source m => rfl
      | consuming source m pc =>
        rw [heq] at hbase
        cases hbase
    rw [consumptions_eq hcontrol hbase]
    refine ⟨?_, hsound.rounds_le⟩
    exact (not_congr List.map_eq_nil_iff.symm).trans (hsound.rounds_eq_one_iff hphase)
  · -- a queue is listed under its own name
    have hnames : s.active_recv_queues.map Prod.snd = s.active_recv_queues.map Prod.fst :=
      List.map_congr_left fun e he => hcontrol.names.registered e.1 e.2 (hactive e he)
    rw [hnames]
    exact hsound.nodup

/-- Registration and notification are put off by an `on_reply`; then the queue is listed. -/
theorem one_consumption_scheduled_after_reply : ∃ s : State Nat Nat,
    s.active_recv_queues = [(1, 1)] ∧ s.base.consumes = false ∧ s.consumptions = 1 := by
  obtain ⟨s, hs, hobs⟩ := System.reachable_of_exec (system Nat 0) (fun _ _ => True)
    [.sender 1 .setup_swsr_connection, .sender 1 (.push 7), .sender 1 .inc_write_progress,
      .sender 1 .notify, .user (.on_reply 5 false), .loop 1, .loop 1,
      .sender 2 (.send (.Response 5)), .loop 2, .user .returns, .loop 0, .loop 0,
      .loop 0]
    (fun s => (s.active_recv_queues, s.base.consumes)) (b := ([(1, 1)], false)) rfl (by decide)
  obtain ⟨hactive, hbase⟩ := Prod.mk.inj hobs
  have hscheduled := ((one_consumption_scheduled hs).1 hbase).1
  exact ⟨s, hactive, hbase, hscheduled.mp (by rw [hactive]; exact nofun)⟩

end runs

end ZAF.Receiving
