import ZAF.NetGate.Sender

/-! # From a sender to the receiver at the other end

    The receiver reads the count of a batch from the first frame and that many messages
    from the second. The two ends share no description of the format; what a session
    sends is read back as it was forwarded exactly when the count of a batch fits in an
    `unsigned`.
-/

namespace ZAF

open Wire

/-! ### The receiver -/

/-- A message from a remote actor: a `TypedSerializedMessageBody<std::vector<char>>` and
    its sender. -/
structure RemoteMessage where
  sender : Actor
  body : SerializedBody

/-- `send(recv_actor, msg)` -/
structure Delivery where
  recv_actor : LocalActorHandle
  msg : RemoteMessage

namespace Receiver

variable (net_sender_info : NetSenderInfo)

/-- One turn of the loop in `receive_once_from_net`. -/
def receive_message : Reader Delivery := do
  let send_actor ← deserialize_handle
  let recv_actor ← deserialize_handle
  let message_code ← read_uint 8
  let types_hash ← read_uint 8
  let num_bytes ← read_uint 4
  let bytes ← read_chars num_bytes
  pure ⟨recv_actor, .remote_actor ⟨net_sender_info, send_actor⟩,
    ⟨UInt64.ofNat message_code, UInt64.ofNat types_hash, bytes, 0, SerializedBody.start_le bytes⟩⟩

/-- `receive_once_from_net`: what it delivers, and what it has not read of the second
    frame. -/
def receive_once_from_net (frames : List UInt8 × List UInt8) :
    Option (List Delivery × List UInt8) :=
  (read_uint 4 frames.1).bind fun (num_messages, _) =>
    (receive_message net_sender_info).fold (fun ds d => ds ++ [d]) num_messages [] frames.2

/-- It delivers as many messages as the first frame says. -/
theorem length_fold_append {α : Type} (r : Reader α) (n : Nat) (acc : List α)
    {s rest : List UInt8} {xs : List α}
    (h : r.fold (fun xs x => xs ++ [x]) n acc s = some (xs, rest)) :
    xs.length = acc.length + n := by
  induction n generalizing acc s with
  | zero =>
    cases h
    rfl
  | succ n ih =>
    rw [Reader.fold, Reader.bind_apply] at h
    obtain ⟨⟨x, s'⟩, -, hrest⟩ := Option.bind_eq_some_iff.mp h
    rw [ih (acc ++ [x]) hrest, List.length_append, List.length_singleton]
    omega

/-- The number of messages that the first frame announces. -/
def announced (frames : List UInt8 × List UInt8) : Nat :=
  ((read_uint 4 frames.1).map Prod.fst).getD 0

theorem announced_count {n : Nat} (h : n < 2 ^ 32) (bytes : List UInt8) :
    announced (little_endian_bytes 4 n, bytes) = n := by
  obtain ⟨_, hread, rfl⟩ := takes_uint (n := 4) h []
  rw [List.append_nil] at hread
  rw [announced, hread]
  rfl

theorem length_receive_once_from_net {frames : List UInt8 × List UInt8} {ds : List Delivery}
    {rest : List UInt8} (h : receive_once_from_net net_sender_info frames = some (ds, rest)) :
    ds.length = announced frames := by
  obtain ⟨⟨n, rest'⟩, hread, hfold⟩ := Option.bind_eq_some_iff.mp h
  rw [announced, hread, length_fold_append _ n [] hfold]
  exact Nat.zero_add n

end Receiver

/-! ### What a message becomes -/

section messages

variable {codecs : Codecs} {β β' : Type} (bodies : BodyCodec β β')
  (net_sender_info : NetSenderInfo)

/-- What is to be delivered of a message. -/
def RemoteSend.delivery (m : RemoteSend codecs β) : Delivery :=
  ⟨m.recv, .remote_actor ⟨net_sender_info, m.send⟩,
    ⟨m.code, MessageBytes.type_hash m, MessageBytes.content_bytes bodies m, 0,
      Nat.zero_le _⟩⟩

/-- The length of the content can be written in 32 bits. -/
def RemoteSend.Fits (m : RemoteSend codecs β) : Prop :=
  (MessageBytes.content_bytes bodies m).length < 2 ^ 32

instance (m : RemoteSend codecs β) : Decidable (m.Fits bodies) :=
  inferInstanceAs (Decidable (_ < _))

/-- The bytes of a message. -/
def RemoteSend.encoded (m : RemoteSend codecs β) : MessageBytes :=
  ⟨MessageBytes.header_bytes m (MessageBytes.type_hash m)
    (UInt32.ofNat (MessageBytes.content_bytes bodies m).length).toNat,
    MessageBytes.content_bytes bodies m⟩

theorem takes_message (m : RemoteSend codecs β) (h : m.Fits bodies) :
    (Receiver.receive_message net_sender_info).Takes (m.encoded bodies).bytes
      (Eq (m.delivery bodies net_sender_info)) := by
  have hlen : (UInt32.ofNat (MessageBytes.content_bytes bodies m).length).toNat =
      (MessageBytes.content_bytes bodies m).length := UInt32.toNat_ofNat_of_lt' h
  unfold MessageBytes.bytes RemoteSend.encoded MessageBytes.header_bytes
  simp only [hlen, List.append_assoc]
  -- the fields are read in the order in which they were written
  apply (takes_handle m.send).bind
  rintro _ rfl
  apply (takes_handle m.recv).bind
  rintro _ rfl
  apply (takes_uint (UInt64.toNat_lt m.code)).bind
  rintro _ rfl
  apply (takes_uint (UInt64.toNat_lt (MessageBytes.type_hash m))).bind
  rintro _ rfl
  apply (takes_uint (n := 4) h).bind
  rintro _ rfl
  apply (takes_chars (MessageBytes.content_bytes bodies m)).bind_nil
  rintro _ rfl
  rw [UInt64.ofNat_toNat, UInt64.ofNat_toNat]
  exact Reader.takes_pure rfl

theorem eq_map_of_forall₂ {α γ : Type} {f : α → γ} {xs : List α} {ys : List γ}
    (h : List.Forall₂ (fun x y => f x = y) xs ys) : ys = xs.map f := by
  induction h with
  | nil => rfl
  | cons hxy _ ih => rw [List.map_cons, hxy, ih]

/-- A batch is read to the end of the second frame. -/
theorem receive_batch (batch : List (RemoteSend codecs β)) (hfits : ∀ m ∈ batch, m.Fits bodies)
    (hcount : batch.length < 2 ^ 32) :
    Receiver.receive_once_from_net net_sender_info
        (MessageBytes.frames (batch.map (RemoteSend.encoded bodies))) =
      some (batch.map (RemoteSend.delivery bodies net_sender_info), []) := by
  let read := Receiver.receive_message net_sender_info
  have hfold : (read.fold (fun ds d => ds ++ [d]) batch.length []).Takes
      (batch.flatMap fun m => (m.encoded bodies).bytes)
      (fun out => ∃ ds, List.Forall₂ (fun m => Eq (m.delivery bodies net_sender_info)) batch ds ∧
        out = ds.foldl (fun ds d => ds ++ [d]) []) :=
    Reader.Takes.fold
      (fun m hm => takes_message bodies net_sender_info m (hfits m hm)) []
  obtain ⟨n, hn, rfl⟩ := takes_uint (n := 4) hcount []
  obtain ⟨_, hread, ds, hds, rfl⟩ := hfold []
  rw [List.append_nil] at hn hread
  simp only [Receiver.receive_once_from_net, MessageBytes.frames, List.length_map, hn,
    Option.bind_some, List.flatMap_map]
  rw [hread, foldl_append_eq, List.nil_append, eq_map_of_forall₂ hds]

end messages

/-! ### Sessions -/

/-- What happens to a sender between its connections. -/
inductive Forwarding (codecs : Codecs) (β : Type) where
  | forward (m : RemoteSend codecs β)
  | flush

section sessions

variable {codecs : Codecs} {β β' : Type} (bodies : BodyCodec β β')

/-- The messages that are forwarded. -/
def Forwarding.sends : List (Forwarding codecs β) → List (RemoteSend codecs β)
  | [] => []
  | .forward m :: events => m :: sends events
  | .flush :: events => sends events

/-- No count overflows when `n` messages are in the buffer at the start. -/
def Forwarding.CountsFit : Nat → List (Forwarding codecs β) → Prop
  | _, [] => True
  | n, .forward _ :: events => n + 1 < 2 ^ 32 ∧ CountsFit (n + 1) events
  | _, .flush :: events => CountsFit 0 events

namespace Sender

def forwarding (s : Sender) : Forwarding codecs β → Option Sender
  | .forward m => (MessageBytes.make bodies m).map s.forward_message
  | .flush => some s.flush_byte_buffer

def forwarding_all (events : List (Forwarding codecs β)) (s : Sender) : Option Sender :=
  events.foldlM (fun s event => s.forwarding bodies event) s

/-- A whole session: what happens before the data connection is known and after it, and
    the last flush. -/
def session (connects : List UInt8 → Bool) (before : List (Forwarding codecs β)) (host : Host)
    (port : UInt16) (after : List (Forwarding codecs β)) : Option Sender :=
  (forwarding_all bodies before initial).bind fun s =>
    (s.data_conn_req connects host port).bind fun s =>
      (forwarding_all bodies after s).map flush_byte_buffer

/-! ### Sessions whose counts fit -/

theorem forwarding_all_cons (s : Sender) (event : Forwarding codecs β)
    (events : List (Forwarding codecs β)) :
    forwarding_all bodies (event :: events) s =
      (s.forwarding bodies event).bind (forwarding_all bodies events) := List.foldlM_cons

theorem forwarding_forward (s : Sender) (m : RemoteSend codecs β) :
    s.forwarding bodies (.forward m) = some (s.forward_message (m.encoded bodies)) := by
  rw [forwarding, MessageBytes.make_eq]
  rfl

theorem flush_byte_buffer_of_count {s : Sender} (h : s.num_buffered_messages = 0) :
    s.flush_byte_buffer = s := if_neg (not_not.mpr h)

/-- Before the connection, all messages are pending. -/
theorem Keeps.forwarding_before (events : List (Forwarding codecs β)) {s : Sender}
    {forwarded : List MessageBytes} (h : Keeps s forwarded [] []) (hurl : s.connected_url = []) :
    ∃ s', forwarding_all bodies events s = some s' ∧ s'.connected_url = [] ∧
      Keeps s' (forwarded ++ (Forwarding.sends events).map (·.encoded bodies)) [] [] := by
  induction events generalizing s forwarded with
  | nil => exact ⟨s, rfl, hurl, by rwa [Forwarding.sends, List.map_nil, List.append_nil]⟩
  | cons event events ih =>
    rw [forwarding_all_cons]
    cases event with
    | forward m =>
      rw [forwarding_forward, Option.bind_some, Forwarding.sends, List.map_cons,
        ← List.singleton_append, ← List.append_assoc]
      apply ih (h.forward_pending _ hurl)
      rw [forward_message_pending _ hurl]
      exact hurl
    -- nothing is buffered yet, so there is nothing to flush
    | flush =>
      have hcount : s.num_buffered_messages = 0 := UInt32.toNat_inj.mp h.count
      rw [forwarding, flush_byte_buffer_of_count hcount, Option.bind_some, Forwarding.sends]
      exact ih h hurl

/-- After the connection, when no count overflows. -/
theorem Keeps.forwarding_after (events : List (Forwarding codecs β)) {s : Sender}
    {forwarded buffered : List MessageBytes} {batches : List (List MessageBytes)}
    (h : Keeps s forwarded batches buffered) (hurl : s.connected_url ≠ [])
    (hfits : Forwarding.CountsFit buffered.length events) :
    ∃ s' batches' buffered', forwarding_all bodies events s = some s' ∧
      s'.connected_url ≠ [] ∧
      Keeps s' (forwarded ++ (Forwarding.sends events).map (·.encoded bodies)) batches'
        buffered' := by
  induction events generalizing s forwarded batches buffered with
  | nil =>
    exact ⟨s, batches, buffered, rfl, hurl,
      by rwa [Forwarding.sends, List.map_nil, List.append_nil]⟩
  | cons event events ih =>
    rw [forwarding_all_cons]
    cases event with
    | forward m =>
      rw [forwarding_forward, Option.bind_some, Forwarding.sends, List.map_cons,
        ← List.singleton_append, ← List.append_assoc]
      apply ih (h.forward_connected _ hurl hfits.1)
      · rw [forward_message_connected _ hurl]
        exact hurl
      · rw [List.length_append]
        exact hfits.2
    | flush =>
      obtain ⟨batches', hflush⟩ := h.flush_byte_buffer
      apply ih hflush _ hfits
      rwa [connected_url_flush_byte_buffer]

/-! ### Messages that are counted -/

/-- The messages that the receiver will look for, with those in the buffer. -/
def counted (s : Sender) : Nat :=
  (s.net_send_socket.map Receiver.announced).sum + s.num_buffered_messages.toNat

theorem counted_push_to_buffer (s : Sender) (m : MessageBytes) :
    (s.push_to_buffer m).counted ≤ s.counted + 1 ∧
      ((s.push_to_buffer m).counted = s.counted + 1 →
        s.num_buffered_messages.toNat + 1 < 2 ^ 32 ∧
        (s.push_to_buffer m).num_buffered_messages.toNat = s.num_buffered_messages.toNat + 1) := by
  have hlt := UInt32.toNat_lt s.num_buffered_messages
  have hadd : (s.push_to_buffer m).num_buffered_messages.toNat =
      (s.num_buffered_messages.toNat + 1) % 2 ^ 32 := UInt32.toNat_add ..
  have hmod := Nat.mod_le (s.num_buffered_messages.toNat + 1) (2 ^ 32)
  unfold counted
  rw [hadd, net_send_socket_push_to_buffer]
  omega

theorem counted_flush_byte_buffer (s : Sender) : s.flush_byte_buffer.counted = s.counted := by
  unfold flush_byte_buffer
  split
  · unfold counted
    rw [List.map_append, List.sum_append, List.map_singleton, List.sum_singleton,
      Receiver.announced_count (UInt32.toNat_lt s.num_buffered_messages)]
    rfl
  · rfl

theorem num_buffered_messages_flush_byte_buffer (s : Sender) :
    s.flush_byte_buffer.num_buffered_messages = 0 := by
  unfold flush_byte_buffer
  split
  · rfl
  · next h => exact not_not.mp h

theorem counted_push_all (ms : List MessageBytes) (s : Sender) :
    (ms.foldl push_to_buffer s).counted ≤ s.counted + ms.length ∧
      ((ms.foldl push_to_buffer s).counted = s.counted + ms.length →
        s.num_buffered_messages.toNat + ms.length < 2 ^ 32) := by
  induction ms generalizing s with
  | nil => exact ⟨le_refl _, fun _ => UInt32.toNat_lt s.num_buffered_messages⟩
  | cons m ms ih =>
    obtain ⟨hle, heq⟩ := counted_push_to_buffer s m
    obtain ⟨hle', heq'⟩ := ih (s.push_to_buffer m)
    rw [List.foldl_cons, List.length_cons]
    refine ⟨by omega, fun h => ?_⟩
    obtain ⟨hfits, hcount⟩ := heq (by omega)
    have := heq' (by omega)
    omega

/-- Pending messages are counted when they are pushed. -/
theorem counted_data_conn_req {connects : List UInt8 → Bool} {host : Host} {port : UInt16}
    {s s' : Sender} (h : s.data_conn_req connects host port = some s') :
    s'.connected_url ≠ [] ∧ s'.counted ≤ s.counted + s.pending_messages.length ∧
      (s'.counted = s.counted + s.pending_messages.length →
        s.num_buffered_messages.toNat + s.pending_messages.length < 2 ^ 32) := by
  unfold data_conn_req at h
  split at h
  · cases h
    refine ⟨?_, counted_push_all s.pending_messages { s with connected_url := tcp_url host port }⟩
    rw [connected_url_foldl_push_to_buffer]
    exact tcp_url_ne_nil host port
  · cases h

/-- When all messages that are forwarded are counted, no count has overflown. -/
theorem counted_forwarding_after (events : List (Forwarding codecs β)) {s s' : Sender}
    (hurl : s.connected_url ≠ []) (h : forwarding_all bodies events s = some s') :
    s'.counted ≤ s.counted + (Forwarding.sends events).length ∧
      (s'.counted = s.counted + (Forwarding.sends events).length →
        Forwarding.CountsFit s.num_buffered_messages.toNat events) := by
  induction events generalizing s with
  | nil =>
    cases h
    exact ⟨le_refl _, fun _ => trivial⟩
  | cons event events ih =>
    rw [forwarding_all_cons] at h
    cases event with
    | forward m =>
      rw [forwarding_forward, Option.bind_some, forward_message_connected _ hurl] at h
      obtain ⟨hle, heq⟩ := counted_push_to_buffer
        { s with forward_any_message := true } (m.encoded bodies)
      obtain ⟨hle', heq'⟩ := ih (by exact hurl) h
      have hcounted : ({ s with forward_any_message := true } : Sender).counted = s.counted := rfl
      rw [Forwarding.sends, List.length_cons]
      refine ⟨by omega, fun hall => ?_⟩
      -- each step adds at most one, so this one has added one
      obtain ⟨hfits, hcount⟩ := heq (by omega)
      rw [hcount] at heq'
      exact ⟨hfits, heq' (by omega)⟩
    | flush =>
      obtain ⟨hle', heq'⟩ := ih (by rwa [connected_url_flush_byte_buffer]) h
      rw [counted_flush_byte_buffer] at hle' heq'
      refine ⟨hle', fun hall => ?_⟩
      -- the next batch starts from zero
      rw [num_buffered_messages_flush_byte_buffer] at heq'
      exact heq' hall

end Sender

/-! ### The round trip -/

/-- What the sender has written, parsed one pair of frames at a time, is what has been
    forwarded; each parse ends at the end of the second frame. -/
def RoundTrip (info : NetSenderInfo) (connects : List UInt8 → Bool)
    (before : List (Forwarding codecs β)) (host : Host) (port : UInt16)
    (after : List (Forwarding codecs β)) : Prop :=
  ∃ s ds, Sender.session bodies connects before host port after = some s ∧
    List.Forall₂ (fun frames d => Receiver.receive_once_from_net info frames = some (d, []))
      s.net_send_socket ds ∧
    ds.flatten = (Forwarding.sends before ++ Forwarding.sends after).map
      (RemoteSend.delivery bodies info)

/-- What is queued before the connection is one batch, with what follows it. -/
def CountsFit (before after : List (Forwarding codecs β)) : Prop :=
  (Forwarding.sends before).length < 2 ^ 32 ∧
    Forwarding.CountsFit (Forwarding.sends before).length after

/-- Batches of encoded messages are encoded batches. -/
theorem exists_batches {α γ : Type} {f : α → γ} (batches : List (List γ)) {xs : List α}
    (h : xs.map f = batches.flatten) :
    ∃ parts : List (List α), batches = parts.map (List.map f) ∧ parts.flatten = xs := by
  induction batches generalizing xs with
  | nil => exact ⟨[], rfl, (List.map_eq_nil_iff.mp h).symm⟩
  | cons batch batches ih =>
    obtain ⟨front, back, rfl, rfl, hback⟩ := List.map_eq_append_iff.mp h
    obtain ⟨parts, rfl, rfl⟩ := ih hback
    exact ⟨front :: parts, rfl, rfl⟩

variable {connects : List UInt8 → Bool} {host : Host} {port : UInt16}

theorem round_trip_of_counts_fit (info : NetSenderInfo) {before after : List (Forwarding codecs β)}
    (hconnects : connects (tcp_url host port) = true)
    (hfits : ∀ m ∈ Forwarding.sends before ++ Forwarding.sends after, m.Fits bodies)
    (hcounts : CountsFit before after) :
    RoundTrip bodies info connects before host port after := by
  obtain ⟨s₁, hrun₁, hurl₁, hkeeps₁⟩ :=
    Sender.keeps_initial.forwarding_before bodies before rfl
  have hpending : s₁.pending_messages =
      (Forwarding.sends before).map (·.encoded bodies) := hkeeps₁.forwarded_eq.symm
  obtain ⟨s₂, hconn⟩ : ∃ s₂, s₁.data_conn_req connects host port = some s₂ :=
    ⟨_, if_pos hconnects⟩
  obtain ⟨hurl₂, hkeeps₂⟩ := hkeeps₁.data_conn_req hconn
    (by rw [hpending, List.length_map, List.length_nil, Nat.zero_add]; exact hcounts.1)
  obtain ⟨s₃, batches₃, buffered₃, hrun₃, hurl₃, hkeeps₃⟩ :=
    hkeeps₂.forwarding_after bodies after hurl₂
      (by rw [hpending, List.nil_append, List.length_map]; exact hcounts.2)
  obtain ⟨batches, hkeeps⟩ := hkeeps₃.flush_byte_buffer
  -- all is sent, in batches
  have hall := hkeeps.forwarded_eq
  rw [Sender.pending_messages_flush_byte_buffer, hkeeps₃.pending_eq_nil hurl₃, List.append_nil,
    List.append_nil, List.nil_append, ← List.map_append] at hall
  obtain ⟨parts, rfl, hparts⟩ := exists_batches batches hall
  refine ⟨s₃.flush_byte_buffer, parts.map (List.map (RemoteSend.delivery bodies info)),
    ?_, ?_, ?_⟩
  · rw [Sender.session, hrun₁, Option.bind_some, hconn, Option.bind_some, hrun₃, Option.map_some]
  · rw [hkeeps.sent, List.forall₂_map_left_iff, List.forall₂_map_left_iff,
      List.forall₂_map_right_iff, List.forall₂_same]
    intro part hpart
    apply receive_batch
    · intro m hm
      exact hfits m (hparts ▸ List.mem_flatten_of_mem hpart hm)
    · have hlen := hkeeps.counts _ (List.mem_map_of_mem hpart)
      rwa [List.length_map] at hlen
  · rw [← hparts, List.map_flatten]

/-- A parsed stream has as many messages as its frames announce. -/
theorem length_parsed {info : NetSenderInfo} {stream : List (List UInt8 × List UInt8)}
    {ds : List (List Delivery)}
    (h : List.Forall₂
      (fun frames d => Receiver.receive_once_from_net info frames = some (d, [])) stream ds) :
    ds.flatten.length = (stream.map Receiver.announced).sum := by
  induction h with
  | nil => rfl
  | cons hframes _ ih =>
    rw [List.flatten_cons, List.length_append, ih, List.map_cons, List.sum_cons,
      Receiver.length_receive_once_from_net _ hframes]

theorem counts_fit_of_round_trip {info : NetSenderInfo} {before after : List (Forwarding codecs β)}
    (h : RoundTrip bodies info connects before host port after) : CountsFit before after := by
  obtain ⟨s, ds, hsession, hparse, hds⟩ := h
  obtain ⟨s₁, hrun₁, hurl₁, hkeeps₁⟩ :=
    Sender.keeps_initial.forwarding_before bodies before rfl
  have hpending : s₁.pending_messages =
      (Forwarding.sends before).map (·.encoded bodies) := hkeeps₁.forwarded_eq.symm
  rw [Sender.session, hrun₁, Option.bind_some] at hsession
  obtain ⟨s₂, hconn, hrun⟩ := Option.bind_eq_some_iff.mp hsession
  obtain ⟨s₃, hrun₃, rfl⟩ := Option.map_eq_some_iff.mp hrun
  -- all messages are counted
  have htotal : s₃.counted =
      (Forwarding.sends before).length + (Forwarding.sends after).length := by
    have hzero : s₃.flush_byte_buffer.num_buffered_messages = 0 :=
      Sender.num_buffered_messages_flush_byte_buffer s₃
    have hlen := length_parsed hparse
    rw [hds, List.length_map, List.length_append] at hlen
    rw [← Sender.counted_flush_byte_buffer, Sender.counted, hzero, hlen]
    rfl
  have hinit : s₁.counted = 0 := by
    rw [Sender.counted, hkeeps₁.sent, hkeeps₁.count]
    rfl
  obtain ⟨hurl₂, hle₂, heq₂⟩ := Sender.counted_data_conn_req hconn
  rw [hinit, hpending, List.length_map] at hle₂ heq₂
  rw [hkeeps₁.count, List.length_nil] at heq₂
  -- both bounds on the count are attained, so neither part has overflown
  obtain ⟨hle₃, heq₃⟩ := Sender.counted_forwarding_after bodies after hurl₂ hrun₃
  have hqueued := heq₂ (by omega)
  refine ⟨by omega, ?_⟩
  have hkeeps₂ := (hkeeps₁.data_conn_req hconn
    (by rw [hpending, List.length_map, List.length_nil]; exact hqueued)).2
  have hcount := hkeeps₂.count
  rw [hpending, List.nil_append, List.length_map] at hcount
  rw [← hcount]
  exact heq₃ (by omega)

/-- **The receiver gets what has been forwarded, exactly when no count overflows.** -/
theorem framing_round_trips_iff (info : NetSenderInfo) (before after : List (Forwarding codecs β))
    (hconnects : connects (tcp_url host port) = true)
    (hfits : ∀ m ∈ Forwarding.sends before ++ Forwarding.sends after, m.Fits bodies) :
    RoundTrip bodies info connects before host port after ↔ CountsFit before after :=
  ⟨counts_fit_of_round_trip bodies, round_trip_of_counts_fit bodies info hconnects hfits⟩

end sessions

/-! ### Two sessions -/

/-- A message without arguments. -/
def greeting : RemoteSend plain_codecs (NestedBody plain_codecs 0) :=
  ⟨⟨3, true⟩, ⟨4, false⟩, 7, []⟩

def loopback_info : NetSenderInfo := ⟨⟨2, true⟩, gate_url loopback 10000, gate_url loopback 10001⟩

theorem framing_round_trips_greetings :
    RoundTrip (nested_codec plain_codecs 0) loopback_info (fun _ => true)
      [.forward greeting, .flush] loopback 10002 [.forward greeting, .flush, .forward greeting] :=
  (framing_round_trips_iff (nested_codec plain_codecs 0) loopback_info _ _ rfl (by decide)).mpr
    ⟨by decide, by decide, by decide, trivial⟩

/-- A batch of messages whose number has overflown. -/
theorem countsFit_replicate {codecs : Codecs} {β : Type} {n k : Nat} {m : RemoteSend codecs β}
    (hn : n < 2 ^ 32) (h : Forwarding.CountsFit n (List.replicate k (.forward m))) :
    n + k < 2 ^ 32 := by
  induction k generalizing n with
  | zero => exact hn
  | succ k ih =>
    have := ih h.1 h.2
    omega

theorem sends_replicate {codecs : Codecs} {β : Type} (k : Nat) (m : RemoteSend codecs β) :
    Forwarding.sends (List.replicate k (.forward m)) = List.replicate k m := by
  induction k with
  | zero => rfl
  | succ k ih => rw [List.replicate_succ, List.replicate_succ, Forwarding.sends, ih]

/-- Messages that fit, and that are lost when there are `2 ^ 32` of them in a batch. -/
theorem not_round_trip_of_overflow :
    let after : List (Forwarding plain_codecs (NestedBody plain_codecs 0)) :=
      List.replicate (2 ^ 32) (.forward greeting)
    (∀ m ∈ Forwarding.sends after, m.Fits (nested_codec plain_codecs 0)) ∧
      ¬ RoundTrip (nested_codec plain_codecs 0) loopback_info (fun _ => true) [] loopback 10002
        after := by
  intro after
  constructor
  · intro m hm
    rw [sends_replicate] at hm
    rw [List.eq_of_mem_replicate hm]
    decide
  · intro h
    -- the batch would have a count of `2 ^ 32`
    have hcounts := counts_fit_of_round_trip (nested_codec plain_codecs 0) h
    have := countsFit_replicate (by decide) hcounts.2
    omega

end ZAF
