import ZAF.ActorBehaviorX.Receiver
import ZAF.Framework.Rounds

/-! # What the senders have to do with rounds

    To the senders the receiver is a reader that works in rounds: a registration announces
    a sender, a notification wakes the receiver up, and a consumption message is a round.
    This module says what the reader sees of a state, what the steps rely on, and what the
    senders and the handlers do to both.
-/

namespace ZAF.Receiving

open LTS SWSRDeliveryQueue SwapRemove

variable {ActorId Item : Type} [DecidableEq ActorId]

/-! ### Messages in flight -/

def Content.signal : Content ActorId → Option Rounds.Signal
  | .Registration _ => some .announce
  | .Notification => some .wake
  | _ => none

/-- What a sender tells by a list of messages. -/
def signals (a : ActorId) (l : List (Message ActorId)) : List Rounds.Signal :=
  l.filterMap fun m => if m.sender = a then m.content.signal else none

/-- The reader sees no difference between two lists of messages. -/
structure Alike (l l' : List (Message ActorId)) : Prop where
  signals : ∀ a, signals a l = signals a l'
  consumptions : l.countP Message.is_consumption = l'.countP Message.is_consumption

theorem signals_append (a : ActorId) (l l' : List (Message ActorId)) :
    signals a (l ++ l') = signals a l ++ signals a l' := List.filterMap_append

theorem signals_cons (a : ActorId) (m : Message ActorId) (l : List (Message ActorId)) :
    signals a (m :: l) =
      (if m.sender = a then m.content.signal.toList else []) ++ signals a l := by
  unfold signals
  by_cases ha : m.sender = a
  · cases hsignal : m.content.signal <;> simp [ha, hsignal]
  · simp [ha]

theorem Alike.append_left {l l' : List (Message ActorId)} (h : Alike l l')
    (pre : List (Message ActorId)) : Alike (pre ++ l) (pre ++ l') where
  signals a := by rw [signals_append, signals_append, h.signals a]
  consumptions := by rw [List.countP_append, List.countP_append, h.consumptions]

theorem Alike.symm {l l' : List (Message ActorId)} (h : Alike l l') : Alike l' l where
  signals a := (h.signals a).symm
  consumptions := h.consumptions.symm

theorem Alike.trans {l l' l'' : List (Message ActorId)} (h : Alike l l') (h' : Alike l' l'') :
    Alike l l'' where
  signals a := (h.signals a).trans (h'.signals a)
  consumptions := h.consumptions.trans h'.consumptions

omit [DecidableEq ActorId] in
/-- The user's messages are neither signals nor rounds. -/
theorem quiet_of_by_user {m : Message ActorId} (hm : m.content.by_user = true) :
    m.content.signal = none ∧ m.is_consumption = false := by
  obtain ⟨sender, content⟩ := m
  cases content with
  | Registration queue => cases hm
  | Notification => cases hm
  | Consumption => cases hm
  | Response req_id => exact ⟨rfl, rfl⟩
  | other => exact ⟨rfl, rfl⟩

theorem alike_by_user {m : Message ActorId} (hm : m.content.by_user = true)
    (l : List (Message ActorId)) : Alike (m :: l) l where
  signals a := by
    rw [signals_cons, (quiet_of_by_user hm).1]
    split <;> rfl
  consumptions := List.countP_cons_of_neg (by rw [(quiet_of_by_user hm).2]; exact nofun)

/-- The first message of a sender may be taken out before those of the others. -/
theorem alike_take {a : ActorId} {m : Message ActorId} {l : List (Message ActorId)}
    (hm : l.find? (fun m => m.sender = a) = some m) :
    Alike l (m :: l.eraseP fun m => m.sender = a) := by
  induction l with
  | nil => cases hm
  | cons m' l ih =>
    by_cases ha : m'.sender = a
    · rw [List.find?_cons_of_pos (by simpa using ha)] at hm
      cases hm
      rw [List.eraseP_cons_of_pos (by simpa using ha)]
      exact ⟨fun _ => rfl, rfl⟩
    · rw [List.find?_cons_of_neg (by simpa using ha)] at hm
      rw [List.eraseP_cons_of_neg (by simpa using ha)]
      have hsender : m.sender = a := by simpa using List.find?_some hm
      -- the two messages are of different senders
      refine ((ih hm).append_left [m']).trans ⟨fun b => ?_, ?_⟩
      · show signals b (m' :: m :: _) = signals b (m :: m' :: _)
        rw [signals_cons, signals_cons, signals_cons b m, signals_cons b m']
        by_cases hb : m'.sender = b
        · have hne : m.sender ≠ b := fun hmb => ha (hb.trans (hmb.symm.trans hsender))
          rw [if_neg hne]
          rfl
        · rw [if_neg hb]
          rfl
      · exact (List.Perm.swap m m' _).countP_eq _

/-! ### What the reader sees -/

/-- Has the flag been cleared for the entry? -/
def EntryPc.cleared : EntryPc Item → Bool
  | .reading second .. | .popping _ second .. => second
  | .clearing => false
  | .rereading | .dropping => true

def Base.phase : Base ActorId Item → Rounds.Phase
  | .loop | .handling .. => .outside
  | .consuming _ _ (.entry i _ _ pc) => if pc.cleared then .cleared i else .inside
  | .consuming .. => .inside

/-- A message from `pending_messages` stays in front while it is processed. -/
def Source.held : Source → Message ActorId → Option (Message ActorId)
  | .pending, m => some m
  | .socket, _ => none

def Base.front : Base ActorId Item → Option (Message ActorId)
  | .loop => none
  | .handling source m | .consuming source m _ => source.held m

/-- The messages that have not been processed, the one in hand apart. -/
def State.in_flight (s : State ActorId Item) : List (Message ActorId) :=
  s.pending_messages.drop s.base.front.toList.length ++ s.recv_socket

/-- The reader that works in rounds. -/
def image (s : State ActorId Item) : Rounds.State ActorId where
  flag a := (s.queues a).may_have_message
  owes a := s.senders a = .notifying
  on_way a := signals a s.in_flight
  connected := s.swsr_send_queues
  known a := (s.swsr_recv_queues a).isSome
  active := s.active_recv_queues.map Prod.fst
  rounds := s.in_flight.countP Message.is_consumption
  phase := s.base.phase
  missed := s.failed_lookups

variable {s s' : State ActorId Item}

/-- A step that changes neither the queues nor what is told is not seen. -/
theorem image_eq_of_alike (hqueues : s'.queues = s.queues) (hsenders : s'.senders = s.senders)
    (hflight : Alike s'.in_flight s.in_flight)
    (hconnected : s'.swsr_send_queues = s.swsr_send_queues)
    (hknown : s'.swsr_recv_queues = s.swsr_recv_queues)
    (hactive : s'.active_recv_queues = s.active_recv_queues)
    (hphase : s'.base.phase = s.base.phase) (hmissed : s'.failed_lookups = s.failed_lookups) :
    image s' = image s := by
  apply Rounds.State.ext
  · funext a
    exact congrArg (fun queues => (queues a).may_have_message) hqueues
  · funext a
    exact congrArg (fun senders => decide (senders a = .notifying)) hsenders
  · funext a
    exact hflight.signals a
  · exact hconnected
  · funext a
    exact congrArg (fun known => (known a).isSome) hknown
  · exact congrArg (List.map Prod.fst) hactive
  · exact hflight.consumptions
  · exact hphase
  · exact hmissed

theorem image_set_queue (s : State ActorId Item) (a : ActorId) (q : SWSRDeliveryQueue Item) :
    image (s.set_queue a q) =
      { image s with flag := Function.update (image s).flag a q.may_have_message } := by
  refine Rounds.State.ext ?_ rfl rfl rfl rfl rfl rfl rfl rfl
  funext b
  show (Function.update s.queues a q b).may_have_message =
    Function.update (image s).flag a q.may_have_message b
  by_cases hb : b = a
  · rw [hb, Function.update_self, Function.update_self]
  · rw [Function.update_of_ne hb, Function.update_of_ne hb]
    rfl

theorem image_set_queue_eq {a : ActorId} {q : SWSRDeliveryQueue Item}
    (hq : q.may_have_message = (s.queues a).may_have_message) :
    image (s.set_queue a q) = image s := by
  rw [image_set_queue, hq]
  exact congrArg (fun flag => { image s with flag }) (Function.update_eq_self a (image s).flag)

theorem image_set_sender (s : State ActorId Item) (a : ActorId) (pc : SenderPc) :
    image (s.set_sender a pc) =
      { image s with owes := Function.update (image s).owes a (pc = .notifying) } := by
  refine Rounds.State.ext rfl ?_ rfl rfl rfl rfl rfl rfl rfl
  funext b
  show decide (Function.update s.senders a pc b = .notifying) =
    Function.update (image s).owes a (decide (pc = .notifying)) b
  by_cases hb : b = a
  · rw [hb, Function.update_self, Function.update_self]
  · rw [Function.update_of_ne hb, Function.update_of_ne hb]
    rfl

theorem image_set_sender_eq {a : ActorId} {pc : SenderPc}
    (hpc : pc = .notifying ↔ s.senders a = .notifying) :
    image (s.set_sender a pc) = image s := by
  rw [image_set_sender, decide_eq_decide.mpr hpc]
  exact congrArg (fun owes => { image s with owes }) (Function.update_eq_self a (image s).owes)

/-! ### Sending -/

omit [DecidableEq ActorId] in
theorem in_flight_send (a : ActorId) (content : Content ActorId) :
    (s.send a content).in_flight = s.in_flight ++ [⟨a, content⟩] :=
  (List.append_assoc ..).symm

/-- What the user sends is not seen. -/
theorem image_send_by_user (a : ActorId) {content : Content ActorId}
    (hcontent : content.by_user = true) : image (s.send a content) = image s := by
  refine image_eq_of_alike rfl rfl ?_ rfl rfl rfl rfl rfl
  rw [in_flight_send]
  have halike := (alike_by_user (m := ⟨a, content⟩) hcontent []).append_left s.in_flight
  rwa [List.append_nil] at halike

theorem image_send_signal (a : ActorId) {content : Content ActorId} {signal : Rounds.Signal}
    (hsignal : content.signal = some signal) :
    image (s.send a content) = (image s).signal a signal := by
  have hquiet : Message.is_consumption ⟨a, content⟩ = false := by
    cases content <;> first | rfl | cases hsignal
  refine Rounds.State.ext rfl rfl ?_ rfl rfl rfl ?_ rfl rfl
  · funext b
    show signals b (s.send a content).in_flight =
      Function.update (image s).on_way a ((image s).on_way a ++ [signal]) b
    rw [in_flight_send, signals_append, signals_cons]
    by_cases hb : a = b
    · subst hb
      rw [if_pos rfl, Function.update_self, hsignal]
      rfl
    · rw [if_neg hb, Function.update_of_ne fun heq => hb heq.symm]
      exact List.append_nil _
  · show (s.send a content).in_flight.countP _ = s.in_flight.countP _
    rw [in_flight_send, List.countP_append, List.countP_singleton, hquiet]
    rfl

theorem image_send_consumption (a : ActorId) :
    image (s.send a .Consumption) = { image s with rounds := (image s).rounds + 1 } := by
  refine Rounds.State.ext rfl rfl ?_ rfl rfl rfl ?_ rfl rfl
  · funext b
    show signals b (s.send a .Consumption).in_flight = signals b s.in_flight
    rw [in_flight_send, signals_append, signals_cons]
    split <;> exact List.append_nil _
  · show (s.send a .Consumption).in_flight.countP _ = s.in_flight.countP _ + 1
    rw [in_flight_send, List.countP_append]
    rfl

/-! ### What the steps rely on -/

def Call.is_wait : Call → Bool
  | .wait .. => true
  | _ => false

/-- `waiting_for_response` counts the calls of `on_reply` that wait; while there are some,
    nothing is taken from `pending_messages`. -/
structure Calls (calls : List Call) (waiting_for_response : Nat) : Prop where
  waiting : waiting_for_response = calls.countP Call.is_wait
  reply : ∀ source, .reply source ∈ calls → source = .socket

/-- The list is not read behind its end, and the entry that is read stays where it is. -/
def ConsumePc.InRange (active_recv_queues : List (ActorId × ActorId)) :
    ConsumePc ActorId Item → Prop
  | .scanning _ n => n ≤ active_recv_queues.length
  | .entry i n recv_queue _ =>
    n ≤ active_recv_queues.length ∧ ∃ a, active_recv_queues[i]? = some (a, recv_queue)
  | .post => True

structure Place (base : Base ActorId Item) (pending_messages : List (Message ActorId))
    (active_recv_queues : List (ActorId × ActorId)) : Prop where
  front : ∀ m, base.front = some m → pending_messages.head? = some m
  handled : ∀ source m, base = .handling source m → m.is_consumption = false
  range : ∀ source m pc, base = .consuming source m pc → pc.InRange active_recv_queues

/-- A queue is known under the actor that has created it. -/
structure Names (messages : List (Message ActorId))
    (swsr_recv_queues : ActorId → Option ActorId)
    (active_recv_queues : List (ActorId × ActorId)) : Prop where
  registration : ∀ a queue, ⟨a, .Registration queue⟩ ∈ messages → queue = a
  registered : ∀ a queue, swsr_recv_queues a = some queue → queue = a
  active : ∀ e ∈ active_recv_queues, swsr_recv_queues e.1 = some e.2

structure Queues (receiver : ActorId) (queues : ActorId → SWSRDeliveryQueue Item)
    (swsr_send_queues : ActorId → Bool) (senders : ActorId → SenderPc) : Prop where
  own : swsr_send_queues receiver = true
  connected : ∀ a, senders a ≠ .idle → swsr_send_queues a = true
  flagged : ∀ a, (queues a).may_have_message = true → swsr_send_queues a = true
  /-- The senders stay alive. -/
  writing : ∀ a, (queues a).is_writing_by_sender = true

structure Control (receiver : ActorId) (s : State ActorId Item) : Prop where
  calls : Calls s.calls s.waiting_for_response
  place : Place s.base s.pending_messages s.active_recv_queues
  names : Names (s.pending_messages ++ s.recv_socket) s.swsr_recv_queues s.active_recv_queues
  queues : Queues receiver s.queues s.swsr_send_queues s.senders

/-- A step keeps what the steps rely on; the reader takes a step as well, or does not see it. -/
structure Keeps (receiver : ActorId) (s s' : State ActorId Item) : Prop where
  control : Control receiver s'
  image_step : image s' = image s ∨ ∃ l, Rounds.next (image s) l = some (image s')

theorem control_start [Inhabited Item] (self : ActorId) : Control self (start Item self) where
  calls := ⟨rfl, nofun⟩
  place := ⟨nofun, nofun, nofun⟩
  names := by
    refine ⟨nofun, fun a queue h => ?_, nofun⟩
    simp only [start] at h
    split at h <;> cases h
    next ha => exact ha.symm
  queues := ⟨decide_eq_true rfl, nofun, nofun, fun _ => rfl⟩

variable {self : ActorId}

/-! ### Queues and names -/

theorem Queues.update {queues : ActorId → SWSRDeliveryQueue Item}
    {swsr_send_queues : ActorId → Bool} {senders : ActorId → SenderPc}
    (h : Queues self queues swsr_send_queues senders) {a : ActorId} {q : SWSRDeliveryQueue Item}
    (hflagged : q.may_have_message = true → swsr_send_queues a = true)
    (hwriting : q.is_writing_by_sender = true) :
    Queues self (Function.update queues a q) swsr_send_queues senders := by
  refine ⟨h.own, h.connected, fun b hb => ?_, fun b => ?_⟩
  · by_cases heq : b = a
    · subst heq
      rw [Function.update_self] at hb
      exact hflagged hb
    · rw [Function.update_of_ne heq] at hb
      exact h.flagged b hb
  · by_cases heq : b = a
    · subst heq
      rw [Function.update_self]
      exact hwriting
    · rw [Function.update_of_ne heq]
      exact h.writing b

theorem Queues.set_sender {queues : ActorId → SWSRDeliveryQueue Item}
    {swsr_send_queues : ActorId → Bool} {senders : ActorId → SenderPc}
    (h : Queues self queues swsr_send_queues senders) {a : ActorId} {pc : SenderPc}
    (hpc : pc ≠ .idle → swsr_send_queues a = true) :
    Queues self queues swsr_send_queues (Function.update senders a pc) := by
  refine ⟨h.own, fun b hb => ?_, h.flagged, h.writing⟩
  by_cases heq : b = a
  · subst heq
    rw [Function.update_self] at hb
    exact hpc hb
  · rw [Function.update_of_ne heq] at hb
    exact h.connected b hb

omit [DecidableEq ActorId] in
/-- What is put off or taken away keeps the names. -/
theorem Names.of_subset {messages messages' : List (Message ActorId)}
    {swsr_recv_queues : ActorId → Option ActorId} {active_recv_queues : List (ActorId × ActorId)}
    (h : Names messages swsr_recv_queues active_recv_queues) (hsub : messages' ⊆ messages) :
    Names messages' swsr_recv_queues active_recv_queues :=
  ⟨fun a queue hm => h.registration a queue (hsub hm), h.registered, h.active⟩

omit [DecidableEq ActorId] in
theorem Control.send (h : Control self s) (a : ActorId) (content : Content ActorId)
    (hcontent : ∀ queue, content = .Registration queue → queue = a) :
    Control self (s.send a content) where
  calls := h.calls
  place := h.place
  names := by
    refine ⟨fun b queue hm => ?_, h.names.registered, h.names.active⟩
    change (⟨b, .Registration queue⟩ : Message ActorId) ∈
      s.pending_messages ++ (s.recv_socket ++ [⟨a, content⟩]) at hm
    rw [← List.append_assoc, List.mem_append, List.mem_singleton] at hm
    rcases hm with hm | hm
    · exact h.names.registration b queue hm
    · cases hm
      exact hcontent queue rfl
  queues := h.queues

theorem Control.set_queue (h : Control self s) {a : ActorId} {q : SWSRDeliveryQueue Item}
    (hflagged : q.may_have_message = true → s.swsr_send_queues a = true)
    (hwriting : q.is_writing_by_sender = true) : Control self (s.set_queue a q) :=
  ⟨h.calls, h.place, h.names, h.queues.update hflagged hwriting⟩

/-- A queue changes, its flag apart. -/
theorem Control.set_queue_eq (h : Control self s) {a : ActorId} {q : SWSRDeliveryQueue Item}
    (hq : q.may_have_message = (s.queues a).may_have_message)
    (hwriting : q.is_writing_by_sender = (s.queues a).is_writing_by_sender) :
    Control self (s.set_queue a q) :=
  h.set_queue (fun hmay => h.queues.flagged a (hq.symm.trans hmay))
    (hwriting.trans (h.queues.writing a))

theorem Control.set_sender (h : Control self s) {a : ActorId} {pc : SenderPc}
    (hpc : pc ≠ .idle → s.swsr_send_queues a = true) : Control self (s.set_sender a pc) :=
  ⟨h.calls, h.place, h.names, h.queues.set_sender hpc⟩

/-! ### The senders -/

section senders

variable [Inhabited Item]

omit [DecidableEq ActorId] in
theorem push_frame {q q' : SWSRDeliveryQueue Item} {x : Item}
    {strategy : SWSRDeliveryQueueFullStrategy} {pushed : Bool}
    (hpush : q.push x strategy = some (pushed, q')) :
    q'.may_have_message = q.may_have_message ∧
      q'.is_writing_by_sender = q.is_writing_by_sender := by
  unfold SWSRDeliveryQueue.push at hpush
  dsimp only at hpush
  split at hpush
  · cases strategy <;> cases hpush <;> exact ⟨rfl, rfl⟩
  · cases hpush
    exact ⟨rfl, rfl⟩

/-- The registration announces the sender. -/
theorem keeps_setup (h : Control self s) (a : ActorId) :
    Keeps self s (s.setup_swsr_connection a) := by
  unfold State.setup_swsr_connection
  split
  · exact ⟨h, .inl rfl⟩
  · next hnew =>
    have hflag : (s.queues a).may_have_message = false := by
      by_contra hmay
      exact hnew (h.queues.flagged a (Bool.eq_true_of_not_eq_false hmay))
    have hmono : ∀ b, s.swsr_send_queues b = true →
        Function.update s.swsr_send_queues a true b = true := by
      intro b hb
      by_cases heq : b = a
      · rw [heq, Function.update_self]
      · rw [Function.update_of_ne heq]
        exact hb
    have hqueues := h.queues.update (a := a) (q := ({} : SWSRDeliveryQueue Item).resize 15)
      nofun rfl
    have hcontrol : Control self { s.set_queue a (({} : SWSRDeliveryQueue Item).resize 15) with
        swsr_send_queues := Function.update s.swsr_send_queues a true } :=
      ⟨h.calls, h.place, h.names, hmono _ hqueues.own,
        fun b hb => hmono b (hqueues.connected b hb), fun b hb => hmono b (hqueues.flagged b hb),
        hqueues.writing⟩
    refine ⟨hcontrol.send a _ fun queue hcontent => ?_, .inr ⟨.connect a, ?_⟩⟩
    · cases hcontent
      rfl
    · rw [image_send_signal a rfl]
      refine (if_neg hnew).trans (congrArg (fun t => some (Rounds.State.signal t a .announce)) ?_)
      show { image s with connected := Function.update (image s).connected a true } =
        { image (s.set_queue a (({} : SWSRDeliveryQueue Item).resize 15)) with
          connected := Function.update (image s).connected a true }
      rw [image_set_queue_eq hflag.symm]

theorem keeps_push (h : Control self s) {a : ActorId} {x : Item}
    (hnext : s.sender_next a (.push x) = some s') : Keeps self s s' := by
  simp only [State.sender_next] at hnext
  split at hnext
  · next hpc =>
    split at hnext
    · next q hpush =>
      cases hnext
      obtain ⟨hmay, hwriting⟩ := push_frame hpush
      refine ⟨(h.set_queue_eq hmay hwriting).set_sender fun _ => hpc.2, .inl ?_⟩
      rw [image_set_sender_eq, image_set_queue_eq hmay]
      show _ ↔ s.senders a = .notifying
      rw [hpc.1]
      exact ⟨nofun, nofun⟩
    · next q hpush =>
      cases hnext
      obtain ⟨hmay, hwriting⟩ := push_frame hpush
      exact ⟨h.set_queue_eq hmay hwriting, .inl (image_set_queue_eq hmay)⟩
    · cases hnext
  · cases hnext

/-- The exchange raises the flag, unless it is up. -/
theorem keeps_inc_write_progress (h : Control self s) {a : ActorId}
    (hnext : s.sender_next a .inc_write_progress = some s') : Keeps self s s' := by
  simp only [State.sender_next] at hnext
  split at hnext <;> cases hnext
  next hpc =>
    have hconnected := h.queues.connected a (by rw [hpc]; exact nofun)
    have hcontrol := h.set_queue (q := (s.queues a).inc_write_progress.2) (fun _ => hconnected)
      (h.queues.writing a)
    refine ⟨hcontrol.set_sender fun _ => hconnected, ?_⟩
    rcases Bool.eq_false_or_eq_true (s.queues a).may_have_message with hmay | hmay
    · left
      have hbusy : ¬ (s.queues a).inc_write_progress.1 = true := by
        show ¬ (!(s.queues a).may_have_message) = true
        rw [hmay]
        exact nofun
      rw [if_neg hbusy, image_set_sender_eq, image_set_queue_eq hmay.symm]
      show _ ↔ s.senders a = .notifying
      rw [hpc]
      exact ⟨nofun, nofun⟩
    · right
      refine ⟨.raise a, ?_⟩
      have hidle : (s.queues a).inc_write_progress.1 = true := by
        show (!(s.queues a).may_have_message) = true
        rw [hmay]
        rfl
      have howes : (image s).owes a = false := by
        show decide (s.senders a = .notifying) = false
        rw [hpc]
        rfl
      have hraise : ((image s).connected a && !(image s).flag a && !(image s).owes a) = true := by
        rw [howes, show (image s).connected a = true from hconnected,
          show (image s).flag a = false from hmay]
        rfl
      rw [if_pos hidle, image_set_sender, image_set_queue]
      exact if_pos hraise

theorem keeps_notify (h : Control self s) {a : ActorId}
    (hnext : s.sender_next a .notify = some s') : Keeps self s s' := by
  simp only [State.sender_next] at hnext
  split at hnext <;> cases hnext
  next hpc =>
    have hcontrol := h.send a .Notification nofun
    refine ⟨hcontrol.set_sender nofun, .inr ⟨.wake a, ?_⟩⟩
    have howes : (image s).owes a = true := decide_eq_true hpc
    rw [image_set_sender, image_send_signal a rfl]
    exact if_pos howes

omit [Inhabited Item] in
theorem keeps_send_by_user (h : Control self s) (a : ActorId) {content : Content ActorId}
    (hcontent : content.by_user = true) : Keeps self s (s.send a content) := by
  refine ⟨h.send a content fun queue heq => ?_, .inl (image_send_by_user a hcontent)⟩
  rw [heq] at hcontent
  cases hcontent

theorem keeps_sender (h : Control self s) {a : ActorId} {step : SenderStep ActorId Item}
    (hnext : s.sender_next a step = some s') : Keeps self s s' := by
  cases step with
  | setup_swsr_connection =>
    simp only [State.sender_next] at hnext
    split at hnext <;> cases hnext
    exact keeps_setup h a
  | push x => exact keeps_push h hnext
  | inc_write_progress => exact keeps_inc_write_progress h hnext
  | notify => exact keeps_notify h hnext
  | send content =>
    simp only [State.sender_next] at hnext
    split at hnext <;> cases hnext
    next hpc => exact keeps_send_by_user h a hpc.2

theorem keeps_push_self (h : Control self s) {x : Item} (hnext : s.push_self self x = some s') :
    Keeps self s s' := by
  unfold State.push_self at hnext
  split at hnext
  · next q hpush =>
    cases hnext
    obtain ⟨hmay, hwriting⟩ := push_frame hpush
    have hcontrol := h.set_queue (q := q.inc_write_progress.2) (fun _ => h.queues.own)
      (hwriting.trans (h.queues.writing self))
    rcases Bool.eq_false_or_eq_true (s.queues self).may_have_message with hup | hup
    · have hbusy : ¬ (!q.may_have_message) = true := by
        rw [hmay, hup]
        exact nofun
      rw [if_neg hbusy]
      exact ⟨hcontrol, .inl (image_set_queue_eq hup.symm)⟩
    · have hidle : (!q.may_have_message) = true := by
        rw [hmay, hup]
        rfl
      have hcall : ((image s).connected self && !(image s).flag self) = true := by
        rw [show (image s).connected self = true from h.queues.own,
          show (image s).flag self = false from hup]
        rfl
      rw [if_pos hidle]
      refine ⟨hcontrol.send self .Notification nofun, .inr ⟨.call self, ?_⟩⟩
      rw [image_send_signal self rfl, image_set_queue]
      exact if_pos hcall
  · next q hpush =>
    cases hnext
    obtain ⟨hmay, hwriting⟩ := push_frame hpush
    exact ⟨h.set_queue_eq hmay hwriting, .inl (image_set_queue_eq hmay)⟩
  · cases hnext

end senders

end ZAF.Receiving
