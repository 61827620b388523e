import ZAF.NetGate.Routing

/-! # What becomes of messages between two net gates

    A message passes several places: the pending messages of a sender, its byte buffer, its
    socket, and the receiver at the other end. A sender forgets a message when it writes it
    down, and a receiver makes another one of what it reads. As long as the counts of the
    batches fit, what a receiver delivers is always the first part of what the sender at
    the other end has been asked to forward; and it is all of it when nothing is left to do.
-/

namespace ZAF

open LTS

/-! ### A sender goes on -/

namespace Sender

theorem net_send_socket_push_all (ms : List MessageBytes) (s : Sender) :
    (ms.foldl push_to_buffer s).net_send_socket = s.net_send_socket := by
  induction ms generalizing s with
  | nil => rfl
  | cons m ms ih => exact ih (s.push_to_buffer m)

theorem data_conn_req_connects {connects : List UInt8 → Bool} {host : Host} {port : UInt16}
    {s s' : Sender} (h : s.data_conn_req connects host port = some s') :
    s'.net_send_socket = s.net_send_socket ∧ s'.connected_url ≠ [] := by
  unfold data_conn_req at h
  split at h
  · cases h
    refine ⟨net_send_socket_push_all .., ?_⟩
    rw [connected_url_foldl_push_to_buffer]
    exact tcp_url_ne_nil host port
  · cases h

theorem sent_flush_byte_buffer (s : Sender) :
    s.net_send_socket <+: s.flush_byte_buffer.net_send_socket := by
  unfold flush_byte_buffer
  split
  · exact List.prefix_append _ _
  · exact List.prefix_rfl

theorem termination_frame (s : Sender) :
    s.termination.net_send_socket = s.net_send_socket ∧
      s.termination.connected_url = s.connected_url := by
  unfold termination
  split <;> exact ⟨rfl, rfl⟩

end Sender

namespace SenderRun

variable {connects : List UInt8 → Bool} {s s' : SenderRun}

/-- The message that is forwarded in a step. -/
def forwards : SenderStep → List MessageBytes
  | .receive (.forward_message bytes) => [bytes]
  | _ => []

/-- What a step of a sender does not take back. -/
structure Continues (s s' : SenderRun) (forwards : List MessageBytes) : Prop where
  sent : s.sender.net_send_socket <+: s'.sender.net_send_socket
  connected : s.sender.connected_url ≠ [] → s'.sender.connected_url ≠ []
  forwarded : s'.forwarded = s.forwarded ++ forwards

theorem continues_handle {m : SenderMessage} (h : s.handle connects m = some s') :
    s.Continues s' (forwards (.receive m)) := by
  obtain ⟨sender, hsender, rfl⟩ := Option.map_eq_some_iff.mp h
  cases m with
  | data_conn_req host port =>
    obtain ⟨hsent, hurl⟩ := Sender.data_conn_req_connects hsender
    exact ⟨hsent ▸ List.prefix_rfl, fun _ => hurl, (List.append_nil _).symm⟩
  | termination =>
    cases hsender
    obtain ⟨hsent, hurl⟩ := Sender.termination_frame s.sender
    exact ⟨hsent ▸ List.prefix_rfl, fun hne => hurl ▸ hne, (List.append_nil _).symm⟩
  | flush_buffer =>
    cases hsender
    refine ⟨Sender.sent_flush_byte_buffer _, fun hne => ?_, (List.append_nil _).symm⟩
    exact (Sender.connected_url_flush_byte_buffer s.sender).symm ▸ hne
  | forward_message bytes =>
    cases hsender
    by_cases hurl : s.sender.connected_url = []
    · dsimp only
      rw [Sender.forward_message_pending bytes hurl]
      exact ⟨List.prefix_rfl, id, rfl⟩
    · dsimp only
      rw [Sender.forward_message_connected bytes hurl]
      exact ⟨List.prefix_rfl, id, rfl⟩

theorem continues_next {step : SenderStep} (h : s.next connects step = some s') :
    s.Continues s' (forwards step) := by
  cases stepped_of_next h with
  | receive m s' hrunning hforeign htold hhandle => exact continues_handle hhandle
  | receive_own m ms s' hconsuming hactivated hms hhandle =>
    have hcont := continues_handle hhandle
    have hnone : forwards (.receive m.message) = [] := by cases m <;> rfl
    rw [hnone] at hcont
    exact ⟨hcont.sent, hcont.connected, hcont.forwarded⟩
  | flush_delayed n hactivated hdelayed => exact ⟨List.prefix_rfl, id, (List.append_nil _).symm⟩
  | start_consumption hactivated => exact ⟨List.prefix_rfl, id, (List.append_nil _).symm⟩
  | end_consumption hconsuming =>
    refine ⟨Sender.sent_flush_byte_buffer _, fun hne => ?_, (List.append_nil _).symm⟩
    exact (Sender.connected_url_flush_byte_buffer s.sender).symm ▸ hne

/-- A sender with a message in its buffer goes on, and has asked itself to flush. -/
theorem Sound.flush_of_buffered (h : s.Sound) (hne : s.sender.num_buffered_messages ≠ 0) :
    s.sender.activated = true ∧ .flush_buffer ∈ s.sender.self_messages := by
  cases hactivated : s.sender.activated with
  | true => exact ⟨rfl, (h.orderly hactivated).flushes hne⟩
  | false => exact absurd (h.stopped hactivated).2 hne

/-- The sender connects. -/
theorem connected_of_data_conn_req {host : Host} {port : UInt16}
    (h : s.next connects (.receive (.data_conn_req host port)) = some s') :
    s'.sender.connected_url ≠ [] := by
  cases stepped_of_next h with
  | receive m s' hrunning hforeign htold hhandle =>
    obtain ⟨sender, hsender, rfl⟩ := Option.map_eq_some_iff.mp hhandle
    exact (Sender.data_conn_req_connects hsender).2

end SenderRun

/-! ### What a sender has sent -/

namespace NetSender

variable {codecs : Codecs} {β β' : Type} (bodies : BodyCodec β β')

/-- How many messages are announced in the batches that have been taken. -/
def announced (q : NetSender codecs β) : Nat :=
  ((q.run.sender.net_send_socket.take q.taken).map Receiver.announced).sum

/-- What has to be delivered of the batches that have been taken. -/
def read (q : NetSender codecs β) (info : NetSenderInfo) : List Delivery :=
  (q.accepted.take q.announced).map (RemoteSend.delivery bodies info)

/-- What a sender keeps when the counts fit. -/
structure Flows (q : NetSender codecs β) : Prop where
  sound : q.run.Sound
  forwarded : q.run.forwarded = q.accepted.map (RemoteSend.encoded bodies)
  fits : ∀ m ∈ q.accepted, m.Fits bodies
  connected : q.connections ≠ [] → q.run.sender.connected_url ≠ []
  taken_le : q.taken ≤ q.run.sender.net_send_socket.length

variable {bodies} {q q' : NetSender codecs β}

theorem flows_spawned : (NetSender.spawned : NetSender codecs β).Flows bodies :=
  ⟨SenderRun.sound_spawned, rfl, fun _ hm => (by cases hm), fun hne => absurd rfl hne, le_refl _⟩

theorem read_of_untaken (info : NetSenderInfo) (h : q.taken = 0) : q.read bodies info = [] := by
  rw [read, announced, h]
  rfl

/-- The batches in the socket, as the messages that they have been made of, and the messages
    that are not written yet. -/
structure Parts (bodies : BodyCodec β β') (q : NetSender codecs β)
    (parts : List (List (RemoteSend codecs β)))
    (rest : List (RemoteSend codecs β)) : Prop where
  accepted : q.accepted = parts.flatten ++ rest
  sent : q.run.sender.net_send_socket =
    parts.map fun part => MessageBytes.frames (part.map (RemoteSend.encoded bodies))
  counts : ∀ part ∈ parts, part.length < 2 ^ 32
  rest : q.run.sender.num_buffered_messages = 0 → q.run.sender.pending_messages = [] → rest = []

theorem Flows.parts (h : q.Flows bodies) : ∃ parts rest, q.Parts bodies parts rest := by
  obtain ⟨batches, buffered, hkeeps⟩ := h.sound.keeps
  have hall := hkeeps.forwarded_eq
  rw [h.forwarded, List.append_assoc] at hall
  obtain ⟨front, rest, haccepted, hfront, hrest⟩ := List.map_eq_append_iff.mp hall
  obtain ⟨parts, rfl, rfl⟩ := exists_batches batches hfront
  refine ⟨parts, rest, haccepted, ?_, fun part hpart => ?_, fun hcount hpending => ?_⟩
  · rw [hkeeps.sent, List.map_map]
    rfl
  · have hcount := hkeeps.counts _ (List.mem_map_of_mem hpart)
    rwa [List.length_map] at hcount
  -- the count is right
  · have hbuffered : buffered = [] := by
      apply List.eq_nil_of_length_eq_zero
      rw [← hkeeps.count, hcount]
      rfl
    rw [hbuffered, hpending] at hrest
    exact List.map_eq_nil_iff.mp hrest

variable {parts : List (List (RemoteSend codecs β))} {rest : List (RemoteSend codecs β)}

/-- The messages of some of the batches are counted in their first frames. -/
theorem Parts.announced_take (h : q.Parts bodies parts rest) (k : Nat) :
    ((q.run.sender.net_send_socket.take k).map Receiver.announced).sum =
      (parts.take k).flatten.length := by
  rw [h.sent, ← List.map_take, List.map_map, List.length_flatten]
  congr 1
  apply List.map_congr_left
  intro part hpart
  have hcount := h.counts part (List.mem_of_mem_take hpart)
  rw [← List.length_map (f := RemoteSend.encoded bodies)] at hcount
  exact (Receiver.announced_count hcount _).trans (List.length_map ..)

theorem Parts.take_announced (h : q.Parts bodies parts rest) :
    q.accepted.take q.announced = (parts.take q.taken).flatten := by
  have hsplit : parts.flatten = (parts.take q.taken).flatten ++ (parts.drop q.taken).flatten := by
    rw [← List.flatten_append, List.take_append_drop]
  rw [announced, h.announced_take, h.accepted, hsplit, List.append_assoc, List.take_left]

theorem Flows.announced_le (h : q.Flows bodies) : q.announced ≤ q.accepted.length := by
  obtain ⟨parts, rest, hparts⟩ := h.parts
  rw [announced, hparts.announced_take, hparts.accepted, List.length_append]
  have hsub := (List.take_sublist q.taken parts).flatten.length_le
  omega

/-- A connected sender has written all that it has accepted when nothing is buffered. -/
theorem Flows.take_announced_all (h : q.Flows bodies) (hconnected : q.connections ≠ [])
    (hcount : q.run.sender.num_buffered_messages = 0)
    (htaken : q.taken = q.run.sender.net_send_socket.length) :
    q.accepted.take q.announced = q.accepted := by
  obtain ⟨batches, buffered, hkeeps⟩ := h.sound.keeps
  have hpending := hkeeps.pending_eq_nil (h.connected hconnected)
  obtain ⟨parts, rest, hparts⟩ := h.parts
  rw [hparts.take_announced, hparts.accepted, hparts.rest hcount hpending, List.append_nil,
    List.take_of_length_le]
  rw [htaken, hparts.sent, List.length_map]

/-- A sender that goes on has read the same. -/
theorem Flows.read_eq (h : q.Flows bodies) {new : List (RemoteSend codecs β)}
    (hsent : q.run.sender.net_send_socket <+: q'.run.sender.net_send_socket)
    (haccepted : q'.accepted = q.accepted ++ new) (htaken : q'.taken = q.taken)
    (info : NetSenderInfo) : q'.read bodies info = q.read bodies info := by
  have hsame : q'.announced = q.announced := by
    obtain ⟨more, hmore⟩ := hsent
    rw [announced, announced, htaken, ← hmore, List.take_append_of_le_length h.taken_le]
  rw [read, read, hsame, haccepted, List.take_append_of_le_length h.announced_le]

/-- The next batch is read to its end, and its messages come next. -/
theorem Flows.read_next (h : q.Flows bodies) {frames : List UInt8 × List UInt8}
    (hframes : q.run.sender.net_send_socket[q.taken]? = some frames) (info : NetSenderInfo) :
    ∃ ds, Receiver.receive_once_from_net info frames = some (ds, []) ∧
      NetSender.read bodies { q with taken := q.taken + 1 } info = q.read bodies info ++ ds := by
  obtain ⟨parts, rest, hparts⟩ := h.parts
  rw [hparts.sent, List.getElem?_map, Option.map_eq_some_iff] at hframes
  obtain ⟨part, hpart, rfl⟩ := hframes
  have hmem := List.mem_of_getElem? hpart
  refine ⟨part.map (RemoteSend.delivery bodies info), ?_, ?_⟩
  · apply receive_batch
    · intro m hm
      apply h.fits m
      rw [hparts.accepted]
      exact List.mem_append_left _ (List.mem_flatten_of_mem hmem hm)
    · exact hparts.counts part hmem
  · have hnext : NetSender.Parts bodies { q with taken := q.taken + 1 } parts rest :=
      ⟨hparts.accepted, hparts.sent, hparts.counts, hparts.rest⟩
    rw [read, read, hnext.take_announced, hparts.take_announced]
    have htake : parts.take (q.taken + 1) = parts.take q.taken ++ [part] := by
      rw [List.take_add_one, hpart]
      rfl
    rw [show ({ q with taken := q.taken + 1 } : NetSender codecs β).taken = q.taken + 1 from rfl,
      htake, List.flatten_append, List.flatten_singleton, List.map_append]

end NetSender

/-! ### From a sender to a receiver -/

namespace Cluster

open NetGates NetGateActor

variable {codecs : Codecs} {β β' : Type} (bodies : BodyCodec β β') {connects : List UInt8 → Bool}

/-- The lengths and the counts of the messages fit. -/
def Fits (c : Cluster codecs β) : ClusterStep codecs β → Prop
  | .forward x y _ m => m.Fits bodies ∧
    ∀ q ∈ c.senders x y, q.run.sender.num_buffered_messages.toNat + 1 < 2 ^ 32
  | .data_conn_req x y => ∀ q ∈ c.senders x y,
    q.run.sender.num_buffered_messages.toNat + q.run.sender.pending_messages.length < 2 ^ 32
  | _ => True

instance (c : Cluster codecs β) (l : ClusterStep codecs β) : Decidable (c.Fits bodies l) := by
  cases l <;> unfold Fits <;> infer_instance

/-- Every receiver has delivered what its sender at the other end has sent. -/
structure Flowing (c : Cluster codecs β) : Prop where
  senders : ∀ x y q, c.senders x y = some q → q.Flows bodies
  delivered : ∀ x y q r, c.senders x y = some q → c.receivers y x = some r →
    r.delivered = q.read bodies r.net_sender_info
  untaken : ∀ x y q, c.senders x y = some q → c.receivers y x = none → q.taken = 0
  unsent : ∀ x y r, c.senders x y = none → c.receivers y x = some r → r.delivered = []

variable {bodies} {c c' : Cluster codecs β} {x y : Url} {q q' : NetSender codecs β}

/-- A sender goes on, and its receiver does not notice. -/
theorem Flowing.set_sender (h : c.Flowing bodies) (hq : c.senders x y = some q)
    (hflows : q'.Flows bodies) (htaken : q'.taken = q.taken)
    (hread : ∀ info, q'.read bodies info = q.read bodies info) :
    (c.set_sender x y q').Flowing bodies := by
  refine ⟨fun a b q₁ hq₁ => ?_, fun a b q₁ r hq₁ hr => ?_, fun a b q₁ hq₁ hr => ?_,
    fun a b r hnone hr => ?_⟩
  all_goals rw [senders_set_sender] at *
  · split at hq₁
    · cases hq₁
      exact hflows
    · exact h.senders a b q₁ hq₁
  · split at hq₁
    · next hab =>
      cases hq₁
      rw [hread]
      exact h.delivered a b q r (by rw [hab.1, hab.2, hq]) hr
    · exact h.delivered a b q₁ r hq₁ hr
  · split at hq₁
    · next hab =>
      cases hq₁
      rw [htaken]
      exact h.untaken a b q (by rw [hab.1, hab.2, hq]) hr
    · exact h.untaken a b q₁ hq₁ hr
  · split at hnone
    · cases hnone
    · exact h.unsent a b r hnone hr

theorem Flowing.continues (h : c.Flowing bodies) (hq : c.senders x y = some q)
    {new : List (RemoteSend codecs β)}
    (hcont : q.run.Continues q'.run (new.map (RemoteSend.encoded bodies))) (hsound : q'.run.Sound)
    (haccepted : q'.accepted = q.accepted ++ new) (hfits : ∀ m ∈ new, m.Fits bodies)
    (hconnected : q'.connections ≠ [] → q'.run.sender.connected_url ≠ [])
    (htaken : q'.taken = q.taken) : (c.set_sender x y q').Flowing bodies := by
  have hflows := h.senders x y q hq
  refine h.set_sender hq ⟨hsound, ?_, fun m hm => ?_, hconnected, ?_⟩ htaken fun info =>
    hflows.read_eq hcont.sent haccepted htaken info
  · rw [hcont.forwarded, hflows.forwarded, haccepted, List.map_append]
  · rw [haccepted] at hm
    exact (List.mem_append.mp hm).elim (hflows.fits m) (hfits m)
  · rw [htaken]
    exact hflows.taken_le.trans hcont.sent.length_le

/-- Two fresh actors. -/
theorem Flowing.spawn (h : c.Flowing bodies) (hlinked : c.Linked) {url : Url}
    (hnone : c.info x url = none) (info : NetSenderInfo) (port : UInt16) {gates : NetGates}
    {ids : List (Url × LocalActorHandle)} {bound : List Endpoint} :
    Flowing bodies { (c.set_sender x url .spawned).set_receiver x url (.spawned info port) with
      gates, ids, bound } := by
  have hsender := (hlinked.senders x url).mpr hnone
  have hreceiver : c.receivers x url = none := by
    cases hr : c.receivers x url with
    | none => rfl
    | some r => cases (hlinked.receivers x url r hr).symm.trans hnone
  have hsenders (a b : Url) := senders_set_sender c x url .spawned a b
  have hreceivers (a b : Url) := receivers_set_receiver c x url (.spawned info port) a b
  refine ⟨fun a b q hq => ?_, fun a b q r hq hr => ?_, fun a b q hq hr => ?_,
    fun a b r hq hr => ?_⟩
  all_goals
    change (c.set_sender x url .spawned).senders a b = _ at hq
    rw [hsenders] at hq
  · split at hq
    · cases hq
      exact NetSender.flows_spawned
    · exact h.senders a b q hq
  · change (c.set_receiver x url (.spawned info port)).receivers b a = _ at hr
    rw [hreceivers] at hr
    split at hr
    · next hba =>
      -- nothing has been taken of what is sent to the new receiver
      cases hr
      refine (NetSender.read_of_untaken info ?_).symm
      split at hq
      · cases hq
        rfl
      · exact h.untaken a b q hq (by rw [hba.1, hba.2, hreceiver])
    · split at hq
      · next hab =>
        cases hq
        rw [NetSender.read_of_untaken _ rfl]
        exact h.unsent a b r (by rw [hab.1, hab.2, hsender]) hr
      · exact h.delivered a b q r hq hr
  · change (c.set_receiver x url (.spawned info port)).receivers b a = _ at hr
    rw [hreceivers] at hr
    split at hr
    · cases hr
    · split at hq
      · cases hq
        rfl
      · exact h.untaken a b q hq hr
  · change (c.set_receiver x url (.spawned info port)).receivers b a = _ at hr
    rw [hreceivers] at hr
    split at hq
    · cases hq
    · split at hr
      · cases hr
        rfl
      · exact h.unsent a b r hq hr

/-- A batch is taken by the receiver at the other end. -/
theorem Flowing.receive (h : c.Flowing bodies) {r : NetReceiver} (hr : c.receivers y x = some r)
    (hq : c.senders x y = some q) {frames : List UInt8 × List UInt8}
    (hframes : q.run.sender.net_send_socket[q.taken]? = some frames) {ds : List Delivery}
    {rest : List UInt8}
    (hread : Receiver.receive_once_from_net r.net_sender_info frames = some (ds, rest)) :
    Flowing bodies ((c.set_sender x y { q with taken := q.taken + 1 }).set_receiver y x
      { r with delivered := r.delivered ++ ds }) := by
  have hflows := h.senders x y q hq
  obtain ⟨ds', hread', hnext⟩ := hflows.read_next hframes r.net_sender_info
  cases hread.symm.trans hread'
  have hsenders (a b : Url) := senders_set_sender c x y { q with taken := q.taken + 1 } a b
  have hreceivers (a b : Url) :=
    receivers_set_receiver c y x { r with delivered := r.delivered ++ ds } a b
  have hsome : ∀ a b, (if a = y ∧ b = x then some { r with delivered := r.delivered ++ ds }
      else c.receivers a b) = none → c.receivers a b = none := by
    intro a b hnone
    split at hnone
    · cases hnone
    · exact hnone
  refine ⟨fun a b q₁ hq₁ => ?_, fun a b q₁ r₁ hq₁ hr₁ => ?_, fun a b q₁ hq₁ hr₁ => ?_,
    fun a b r₁ hq₁ hr₁ => ?_⟩
  all_goals
    change (c.set_sender x y _).senders a b = _ at hq₁
    rw [hsenders] at hq₁
  · split at hq₁
    · cases hq₁
      refine ⟨hflows.sound, hflows.forwarded, hflows.fits, hflows.connected, ?_⟩
      exact (List.getElem?_eq_some_iff.mp hframes).1
    · exact h.senders a b q₁ hq₁
  · change (c.set_receiver y x _).receivers b a = _ at hr₁
    rw [hreceivers] at hr₁
    split at hq₁
    · next hab =>
      rw [if_pos ⟨hab.2, hab.1⟩] at hr₁
      cases hq₁
      cases hr₁
      rw [hnext]
      exact congrArg (· ++ ds) (h.delivered x y q r hq hr)
    · next hab =>
      rw [if_neg fun hba => hab ⟨hba.2, hba.1⟩] at hr₁
      exact h.delivered a b q₁ r₁ hq₁ hr₁
  · change (c.set_receiver y x _).receivers b a = _ at hr₁
    rw [hreceivers] at hr₁
    split at hq₁
    · next hab =>
      rw [if_pos ⟨hab.2, hab.1⟩] at hr₁
      cases hr₁
    · exact h.untaken a b q₁ hq₁ (hsome b a hr₁)
  · change (c.set_receiver y x _).receivers b a = _ at hr₁
    rw [hreceivers] at hr₁
    split at hq₁
    · cases hq₁
    · next hab =>
      rw [if_neg fun hba => hab ⟨hba.2, hba.1⟩] at hr₁
      exact h.unsent a b r₁ hq₁ hr₁

/-- A receiver that ends has delivered what it has delivered. -/
theorem Flowing.terminate (h : c.Flowing bodies) {r : NetReceiver}
    (hr : c.receivers y x = some r) :
    Flowing bodies (c.set_receiver y x { r with activated := false }) := by
  have hreceivers (a b : Url) := receivers_set_receiver c y x { r with activated := false } a b
  refine ⟨h.senders, fun a b q₁ r₁ hq₁ hr₁ => ?_, fun a b q₁ hq₁ hr₁ => ?_,
    fun a b r₁ hq₁ hr₁ => ?_⟩
  all_goals rw [hreceivers] at hr₁
  · split at hr₁
    · next hba =>
      cases hr₁
      exact h.delivered a b q₁ r hq₁ (by rw [hba.1, hba.2, hr])
    · exact h.delivered a b q₁ r₁ hq₁ hr₁
  · split at hr₁
    · cases hr₁
    · exact h.untaken a b q₁ hq₁ hr₁
  · split at hr₁
    · next hba =>
      cases hr₁
      exact h.unsent a b r hq₁ (by rw [hba.1, hba.2, hr])
    · exact h.unsent a b r₁ hq₁ hr₁

theorem Flowing.next (h : c.Flowing bodies) (hlinked : c.Linked) {l : ClusterStep codecs β}
    (hfits : c.Fits bodies l) (hnext : c.next bodies connects l = some c') :
    c'.Flowing bodies := by
  cases stepped_of_next hnext with
  | gate l gates hplain hgates => exact ⟨h.senders, h.delivered, h.untaken, h.unsent⟩
  | spawn x url k sender port gates hcontrol hid hport hgates =>
    exact h.spawn hlinked ((hlinked.wired.told x).spawning url k hcontrol) _ port
  | bind_port_rep x url k r gates hcontrol hr hgates =>
    exact ⟨h.senders, h.delivered, h.untaken, h.unsent⟩
  | forward x y r m q info run hq hinfo hsender hrecv hrun =>
    have hflows := h.senders x y q hq
    have hcont : q.run.Continues run ([m].map (RemoteSend.encoded bodies)) :=
      SenderRun.continues_next hrun
    have hcount : CountFits q.run (.receive (.forward_message (m.encoded bodies))) := by
      have hone : q.run.sender.pushes (.forward_message (m.encoded bodies)) ≤ 1 := by
        unfold Sender.pushes
        dsimp only
        split <;> omega
      have hlt := hfits.2 q hq
      show _ + _ < _
      omega
    refine h.continues hq hcont (hflows.sound.next hcount hrun) rfl ?_
      (fun hne => hcont.connected (hflows.connected hne)) rfl
    intro m' hm'
    exact List.mem_singleton.mp hm' ▸ hfits.1
  | data_conn_req x y q host port run hq hget hrun =>
    have hsound := (h.senders x y q hq).sound
    have hcont : q.run.Continues run
        (([] : List (RemoteSend codecs β)).map (RemoteSend.encoded bodies)) :=
      SenderRun.continues_next hrun
    have hcount : CountFits q.run (.receive (.data_conn_req host port)) := hfits q hq
    exact h.continues hq hcont (hsound.next hcount hrun) (List.append_nil _).symm
      (fun _ hm => by cases hm) (fun _ => SenderRun.connected_of_data_conn_req hrun) rfl
  | sender x y step q run hq hown hrun =>
    have hflows := h.senders x y q hq
    have hcont := SenderRun.continues_next hrun
    -- no message is forwarded in a step that the sender makes by itself
    obtain ⟨hcount, hnone⟩ : CountFits q.run step ∧ SenderRun.forwards step = [] := by
      cases step with
      | receive m =>
        cases m with
        | termination => exact ⟨UInt32.toNat_lt _, rfl⟩
        | data_conn_req host port => cases hown
        | flush_buffer => cases hown
        | forward_message bytes => cases hown
      | receive_own => exact ⟨trivial, rfl⟩
      | flush_delayed => exact ⟨trivial, rfl⟩
      | start_consumption => exact ⟨trivial, rfl⟩
      | end_consumption => exact ⟨trivial, rfl⟩
    rw [hnone] at hcont
    replace hcont : q.run.Continues run
      (([] : List (RemoteSend codecs β)).map (RemoteSend.encoded bodies)) := hcont
    exact h.continues hq hcont (hflows.sound.next hcount hrun)
      (List.append_nil _).symm (fun _ hm => by cases hm)
      (fun hne => hcont.connected (hflows.connected hne)) rfl
  | terminate x y r hr hactivated hidle => exact h.terminate hr
  | receive x y a b r q frames ds rest hr hq hactivated hmem hframes hread =>
    obtain ⟨rfl, rfl⟩ := hlinked.of_mem_connections hq hr hmem
    exact h.receive hr hq hframes hread

theorem flowing_of_reachable (h : ReachableVia (system bodies connects) (Fits bodies) c) :
    c.Flowing bodies := by
  refine h.invariant_of (Flowing bodies) (fun _ => linked_of_reachable) (fun c hinit => ?_)
    fun _ _ _ hlinked hc hfits hnext => hc.next hlinked hfits hnext
  obtain ⟨-, hsenders, hreceivers, -⟩ := hinit
  refine ⟨?_, ?_, ?_, ?_⟩
  all_goals simp only [hsenders, hreceivers]
  all_goals exact fun _ _ => nofun

/-! ### Messages arrive -/

/-- Nothing is left to do for the messages from `x` to `y`: the net gate of `y` has told its
    endpoint, and the sender of `x` has handled all that is for it, and all that it has
    written has been taken. -/
structure Settled (c : Cluster codecs β) (x y : Url) (q : NetSender codecs β) : Prop where
  establishing : (c.gates y).control.establishing = none
  ponged : ((c.gates y).link x).ponged = true
  no_frames : (c.gates y).net_send_socket x = []
  connected : q.connections.length = ((c.gates x).link y).endpoints.length
  no_messages : q.run.sender.self_messages = []
  taken : q.taken = q.run.sender.net_send_socket.length

instance (c : Cluster codecs β) (x y : Url) (q : NetSender codecs β) :
    Decidable (c.Settled x y q) :=
  decidable_of_iff ((c.gates y).control.establishing = none ∧
      ((c.gates y).link x).ponged = true ∧ (c.gates y).net_send_socket x = [] ∧
      q.connections.length = ((c.gates x).link y).endpoints.length ∧
      q.run.sender.self_messages = [] ∧ q.taken = q.run.sender.net_send_socket.length)
    ⟨fun h => ⟨h.1, h.2.1, h.2.2.1, h.2.2.2.1, h.2.2.2.2.1, h.2.2.2.2.2⟩,
      fun h => ⟨h.establishing, h.ponged, h.no_frames, h.connected, h.no_messages, h.taken⟩⟩

/-- When all frames of `y` have arrived at `x`, the sender of `x` has been told. -/
theorem Linked.told_of_settled (h : c.Linked) (hq : c.senders x y = some q)
    (hsettled : c.Settled x y q) :
    ∃ r, c.receivers y x = some r ∧ q.connections = [c.endpoint y r] := by
  have hponged := hsettled.ponged
  have hest : (c.gates y).Established x := by
    refine ⟨fun hnone => ?_, fun k hk => ?_⟩
    · rw [Link.ponged, hnone] at hponged
      cases hponged
    · cases hsettled.establishing.symm.trans hk
  obtain ⟨port, hport, htold⟩ := (h.wired.told y).told x hest
  obtain ⟨r, hr, rfl⟩ := Option.map_eq_some_iff.mp hport
  -- everything that `y` has sent has been received
  have hcalled : ((c.gates x).link y).received.filterMap NetFrame.data? =
      ((c.gates y).link x).called := by
    have hinorder := h.wired.in_order y x
    rw [((h.gates.gates y).links x).stable hponged, show ((c.gates y).link x).in_flight = [] from
      hsettled.no_frames] at hinorder
    exact (hinorder.trans (List.append_nil _)).symm
  have hendpoints : ((c.gates x).link y).endpoints = ((c.gates y).link x).told := by
    have hcarried := (h.wired.carries x).endpoints y
    rw [List.append_nil] at hcarried
    rw [hcarried, Link.told, ← hcalled, List.filterMap_filterMap]
    rfl
  refine ⟨r, hr, ?_⟩
  have hpre := h.connections x y q hq
  have heq := hpre.eq_of_length hsettled.connected
  rw [heq, hendpoints, htold]
  rfl

variable (bodies connects) in
/-- What becomes of the messages from `x` to `y`. -/
structure Forwarded (c : Cluster codecs β) (x y : Url) (q : NetSender codecs β) : Prop where
  /-- What is delivered is the first part of what has been accepted. -/
  in_order : ∀ r, c.receivers y x = some r →
    r.delivered <+: q.accepted.map (RemoteSend.delivery bodies r.net_sender_info)
  /-- The next batch can be read. -/
  readable : ∀ r frames, c.receivers y x = some r →
    q.run.sender.net_send_socket[q.taken]? = some frames →
    ∃ ds, Receiver.receive_once_from_net r.net_sender_info frames = some (ds, [])
  /-- A reply goes back to the actor that has sent the message. -/
  returns : ∀ r, c.receivers y x = some r → ∀ d ∈ r.delivered, ∃ m ∈ q.accepted,
    d = m.delivery bodies r.net_sender_info ∧ c.Leads bodies connects y d.msg.sender x m.send
  /-- Nothing is lost. -/
  all : c.Settled x y q → ∃ r, c.receivers y x = some r ∧
    r.delivered = q.accepted.map (RemoteSend.delivery bodies r.net_sender_info)

/-- **Messages arrive**: in every run in which the lengths and counts fit, the receiver of `y`
    for `x` delivers the messages that the sender of `x` for `y` has accepted, in their order,
    each once, with a sender to whom a reply finds its way; and all of them when nothing is
    left to do. -/
theorem forwarded (h : ReachableVia (system bodies connects) (Fits bodies) c) (x y : Url)
    (q : NetSender codecs β) (hq : c.senders x y = some q) : c.Forwarded bodies connects x y q := by
  have hlinked := linked_of_reachable h
  have hflowing := flowing_of_reachable h
  have hflows := hflowing.senders x y q hq
  have hpre (r : NetReceiver) (hr : c.receivers y x = some r) :
      r.delivered <+: q.accepted.map (RemoteSend.delivery bodies r.net_sender_info) := by
    rw [hflowing.delivered x y q r hq hr, NetSender.read]
    exact (List.take_prefix _ _).map _
  refine ⟨hpre, fun r frames hr hframes => ?_, fun r hr d hd => ?_, fun hsettled => ?_⟩
  · obtain ⟨ds, hread, -⟩ := hflows.read_next hframes r.net_sender_info
    exact ⟨ds, hread⟩
  · obtain ⟨m, hm, rfl⟩ := List.mem_map.mp ((hpre r hr).subset hd)
    exact ⟨m, hm, rfl, hlinked.leads (hlinked.receivers y x r hr) m.send⟩
  · obtain ⟨r, hr, hconnections⟩ := hlinked.told_of_settled hq hsettled
    refine ⟨r, hr, ?_⟩
    have hcount : q.run.sender.num_buffered_messages = 0 := by
      by_contra hne
      obtain ⟨-, hmem⟩ := hflows.sound.flush_of_buffered hne
      rw [hsettled.no_messages] at hmem
      cases hmem
    have hall := hflows.take_announced_all (by rw [hconnections]; exact List.cons_ne_nil _ _)
      hcount hsettled.taken
    rw [hflowing.delivered x y q r hq hr, NetSender.read, hall]

theorem question_run_settles : ∃ c : Cluster plain_codecs (NestedBody plain_codecs 0),
    ReachableVia (system (nested_codec plain_codecs 0) fun _ => true)
        (Fits (nested_codec plain_codecs 0)) c ∧
      (c.senders url_a url_b).map (fun q => (decide (c.Settled url_a url_b q), q.accepted.length)) =
        some (true, 2) :=
  System.reachable_of_exec (system (nested_codec plain_codecs 0) fun _ => true)
    (Fits (nested_codec plain_codecs 0)) question_run
    (fun c => (c.senders url_a url_b).map fun q =>
      (decide (c.Settled url_a url_b q), q.accepted.length))
    (s := ⟨NetGateActor.bound localhost, fun _ _ => none, fun _ _ => none, [], []⟩)
    ⟨fun _ => ⟨localhost, rfl⟩, fun _ _ => rfl, fun _ _ => rfl, rfl, rfl⟩ (by decide +kernel)

/-- Both messages arrive. -/
theorem forwarded_question_run : ∃ (c : Cluster plain_codecs (NestedBody plain_codecs 0))
    (q : NetSender plain_codecs (NestedBody plain_codecs 0)), q.accepted.length = 2 ∧
      c.Settled url_a url_b q ∧
      c.Forwarded (nested_codec plain_codecs 0) (fun _ => true) url_a url_b q := by
  obtain ⟨c, hc, hobs⟩ := question_run_settles
  obtain ⟨q, hq, heq⟩ := Option.map_eq_some_iff.mp hobs
  obtain ⟨hsettled, hlength⟩ := Prod.mk.inj heq
  exact ⟨c, q, hlength, of_decide_eq_true hsettled, forwarded hc url_a url_b q hq⟩

end Cluster
end ZAF
