import ZAF.NetGate.Handle
import ZAF.Message.Encoding

/-! # The sender of a net gate

    A sender forwards messages to another machine. It collects them in a byte buffer
    and counts them; a flush sends the count and the bytes as two frames. Before the
    data connection is known, the messages wait in `pending_messages`.

    The count is an `unsigned`. As long as it does not overflow, `Keeps` says where
    every message is that has been forwarded.
-/

namespace ZAF

open Serializer

/-! ### Messages as bytes -/

/-- A message to a remote actor. An argument is written as `const` or not, as the caller
    has it. -/
structure RemoteSend (codecs : Codecs) (β : Type) where
  send : LocalActorHandle
  recv : LocalActorHandle
  code : UInt64
  args : List (Bool × TypedElement codecs β)

@[ext]
structure MessageBytes where
  header : List UInt8
  content : List UInt8
  deriving DecidableEq

namespace MessageBytes

variable {codecs : Codecs} {β β' : Type} (bodies : BodyCodec β β')

/-- `MessageBytes::make`: the length of the content goes into the header last. -/
def make (m : RemoteSend codecs β) : Option MessageBytes :=
  let type_hash := codecs.types_hash_code (m.args.map fun arg => arg.2.type)
  (Ty.local_actor_handle.serialize bodies true m.send (Serializer.make [])).bind fun s =>
    (Ty.local_actor_handle.serialize bodies true m.recv s).bind fun s =>
      let header := (s.write_uint 8 m.code.toNat).write_uint 8 type_hash.toNat
      (m.args.foldlM (fun s (arg : Bool × TypedElement codecs β) =>
          arg.2.ty.serialize bodies arg.1 arg.2.value s) (Serializer.make [])).map fun content =>
        -- the second serializer writes into another buffer
        let num_bytes := UInt32.ofNat content.size
        ⟨((Serializer.make header.bytes).write_uint 4 num_bytes.toNat).bytes, content.bytes⟩

/-- The bytes of the header. -/
def header_bytes (m : RemoteSend codecs β) (type_hash : UInt64) (num_bytes : Nat) : List UInt8 :=
  handle_bytes m.send ++ (handle_bytes m.recv ++ (little_endian_bytes 8 m.code.toNat ++
    (little_endian_bytes 8 type_hash.toNat ++ little_endian_bytes 4 num_bytes)))

/-- The hash code of the types of the arguments. -/
def type_hash (m : RemoteSend codecs β) : UInt64 :=
  codecs.types_hash_code (m.args.map fun arg => arg.2.type)

/-- The bytes of the arguments. -/
def content_bytes (m : RemoteSend codecs β) : List UInt8 :=
  m.args.flatMap fun arg => arg.2.ty.bytes bodies arg.1 arg.2.value

/-- `make` never fails. -/
theorem make_eq (m : RemoteSend codecs β) :
    make bodies m = some ⟨header_bytes m (type_hash m)
      (UInt32.ofNat (content_bytes bodies m).length).toNat, content_bytes bodies m⟩ := by
  have hhandle (front : List UInt8) (l : LocalActorHandle) :
      Ty.local_actor_handle.serialize bodies true l (Serializer.make front) =
        some (Serializer.make (front ++ handle_bytes l)) :=
    Ty.local_actor_handle.serialize_appends bodies true l front
  have hcontent : m.args.foldlM (fun s (arg : Bool × TypedElement codecs β) =>
      arg.2.ty.serialize bodies arg.1 arg.2.value s) (Serializer.make []) =
        some (Serializer.make ([] ++ content_bytes bodies m)) :=
    Appends.foldlM
      (fun arg _ => arg.2.ty.serialize_appends bodies arg.1 arg.2.value) []
  unfold make
  rw [hhandle, Option.bind_some, hhandle, Option.bind_some, hcontent, Option.map_some]
  simp only [write_uint_make, bytes_make, size_make, List.append_assoc, List.nil_append]
  rfl

end MessageBytes

namespace MessageBytes

/-- What a message adds to the byte buffer. -/
def bytes (m : MessageBytes) : List UInt8 := m.header ++ m.content

/-- The two frames that a batch of messages is sent as. -/
def frames (batch : List MessageBytes) : List UInt8 × List UInt8 :=
  (little_endian_bytes 4 batch.length, batch.flatMap bytes)

end MessageBytes

/-! ### The sender -/

/-- The messages that a sender handles. -/
inductive SenderMessage where
  | data_conn_req (host : Host) (port : UInt16)
  | termination
  | flush_buffer
  | forward_message (bytes : MessageBytes)

/-- The messages that a sender sends to itself. -/
inductive OwnMessage where
  | flush_buffer
  | termination
  deriving DecidableEq

def OwnMessage.message : OwnMessage → SenderMessage
  | .flush_buffer => .flush_buffer
  | .termination => .termination

/-- The state of a sender and the sockets it writes to: the network, where two frames
    make one message, and its own mailbox. -/
structure Sender where
  byte_buffer : List UInt8
  num_buffered_messages : UInt32
  connected_url : List UInt8
  net_send_socket : List (List UInt8 × List UInt8)
  forward_any_message : Bool
  pending_messages : List MessageBytes
  /-- What it has sent to itself. -/
  self_messages : List OwnMessage
  /-- The `Termination` messages that wait for their time. -/
  delayed_messages : Nat
  activated : Bool

namespace Sender

def initial : Sender where
  byte_buffer := []
  num_buffered_messages := 0
  connected_url := []
  net_send_socket := []
  forward_any_message := true
  pending_messages := []
  self_messages := []
  delayed_messages := 0
  activated := true

def push_to_buffer (s : Sender) (bytes : MessageBytes) : Sender :=
  { s with
    byte_buffer := s.byte_buffer ++ bytes.header ++ bytes.content
    num_buffered_messages := s.num_buffered_messages + 1
    -- only the first message of a batch asks for a flush
    self_messages :=
      if s.num_buffered_messages = 0 then s.self_messages ++ [.flush_buffer]
      else s.self_messages }

def flush_byte_buffer (s : Sender) : Sender :=
  if s.num_buffered_messages ≠ 0 then
    { s with
      net_send_socket := s.net_send_socket ++
        [(little_endian_bytes 4 s.num_buffered_messages.toNat, s.byte_buffer)]
      byte_buffer := []
      num_buffered_messages := 0 }
  else s

def post_swsr_consumption (s : Sender) : Sender := s.flush_byte_buffer

/-! The handlers of `Sender::behavior`. -/

/-- `connects` says which urls `net_send_socket` can be connected to; `none` when it
    throws. -/
def data_conn_req (connects : List UInt8 → Bool) (host : Host) (port : UInt16) (s : Sender) :
    Option Sender :=
  if connects (tcp_url host port) then
    let s := { s with connected_url := tcp_url host port }
    some { s.pending_messages.foldl push_to_buffer s with pending_messages := [] }
  else none

def termination (s : Sender) : Sender :=
  if s.forward_any_message then
    { s with
      -- with messages pending, the next `Termination` does not stop the sender either
      forward_any_message := !s.pending_messages.isEmpty
      delayed_messages := s.delayed_messages + 1 }
  else { s with activated := false }

def forward_message (s : Sender) (bytes : MessageBytes) : Sender :=
  let s := { s with forward_any_message := true }
  if s.connected_url.isEmpty then
    { s with pending_messages := s.pending_messages ++ [bytes] }
  else s.push_to_buffer bytes

/-- `Sender::behavior` -/
def behavior (connects : List UInt8 → Bool) (s : Sender) : SenderMessage → Option Sender
  | .data_conn_req host port => s.data_conn_req connects host port
  | .termination => some s.termination
  | .flush_buffer => some s.flush_byte_buffer
  | .forward_message bytes => some (s.forward_message bytes)

/-! ### What is in the buffer -/

@[simp] theorem pending_messages_push_to_buffer (s : Sender) (m : MessageBytes) :
    (s.push_to_buffer m).pending_messages = s.pending_messages := rfl

@[simp] theorem connected_url_push_to_buffer (s : Sender) (m : MessageBytes) :
    (s.push_to_buffer m).connected_url = s.connected_url := rfl

@[simp] theorem net_send_socket_push_to_buffer (s : Sender) (m : MessageBytes) :
    (s.push_to_buffer m).net_send_socket = s.net_send_socket := rfl

@[simp] theorem connected_url_foldl_push_to_buffer (s : Sender) (ms : List MessageBytes) :
    (ms.foldl push_to_buffer s).connected_url = s.connected_url := by
  induction ms generalizing s with
  | nil => rfl
  | cons m ms ih => rw [List.foldl_cons, ih, connected_url_push_to_buffer]

/-- The batches of messages that have been flushed, and the messages that wait to be. -/
structure Buffers (s : Sender) (batches : List (List MessageBytes))
    (buffered : List MessageBytes) : Prop where
  sent : s.net_send_socket = batches.map MessageBytes.frames
  bytes : s.byte_buffer = buffered.flatMap MessageBytes.bytes
  count : s.num_buffered_messages.toNat = buffered.length
  /-- The counts that have been sent are right. -/
  counts : ∀ batch ∈ batches, batch.length < 2 ^ 32

theorem buffers_initial : Buffers initial [] [] := ⟨rfl, rfl, rfl, by simp⟩

variable {s : Sender} {batches : List (List MessageBytes)} {buffered : List MessageBytes}

theorem Buffers.length_lt (h : Buffers s batches buffered) : buffered.length < 2 ^ 32 :=
  h.count ▸ UInt32.toNat_lt s.num_buffered_messages

/-- The count does not overflow. -/
theorem Buffers.push_to_buffer (h : Buffers s batches buffered) (m : MessageBytes)
    (hfits : buffered.length + 1 < 2 ^ 32) :
    Buffers (s.push_to_buffer m) batches (buffered ++ [m]) where
  sent := h.sent
  bytes := by
    rw [List.flatMap_append, List.flatMap_singleton, ← h.bytes]
    exact List.append_assoc ..
  count := by
    show (s.num_buffered_messages + 1).toNat = _
    rw [UInt32.toNat_add, h.count, List.length_append]
    -- this is where the count could overflow
    exact Nat.mod_eq_of_lt hfits
  counts := h.counts

theorem Buffers.push_all (h : Buffers s batches buffered) (ms : List MessageBytes)
    (hfits : buffered.length + ms.length < 2 ^ 32) :
    Buffers (ms.foldl Sender.push_to_buffer s) batches (buffered ++ ms) := by
  induction ms generalizing s buffered with
  | nil => rwa [List.append_nil]
  | cons m ms ih =>
    rw [List.length_cons] at hfits
    rw [← List.singleton_append, ← List.append_assoc]
    apply ih (h.push_to_buffer m (by omega))
    rw [List.length_append, List.length_singleton]
    omega

/-- What is buffered becomes a batch. -/
theorem Buffers.flush_byte_buffer (h : Buffers s batches buffered) :
    ∃ batches', Buffers s.flush_byte_buffer batches' [] ∧
      batches'.flatten = batches.flatten ++ buffered := by
  unfold Sender.flush_byte_buffer
  split
  · refine ⟨batches ++ [buffered], ⟨?_, rfl, rfl, ?_⟩, ?_⟩
    · rw [List.map_append, ← h.sent, h.count, h.bytes]
      rfl
    · intro batch hbatch
      rcases List.mem_append.mp hbatch with hbatch | hbatch
      · exact h.counts batch hbatch
      · rw [List.mem_singleton.mp hbatch]
        exact h.length_lt
    · rw [List.flatten_append, List.flatten_singleton]
  · next hzero =>
    -- the count is right, so nothing is buffered when it is 0
    have hnil : buffered = [] := by
      apply List.eq_nil_of_length_eq_zero
      rw [← h.count, not_not.mp hzero]
      rfl
    exact ⟨batches, hnil ▸ h, by rw [hnil, List.append_nil]⟩

/-! ### Where the messages are -/

/-- Every message that has been forwarded is sent, buffered or pending, in this order. -/
structure Keeps (s : Sender) (forwarded : List MessageBytes) (batches : List (List MessageBytes))
    (buffered : List MessageBytes) : Prop extends Buffers s batches buffered where
  forwarded_eq : forwarded = batches.flatten ++ buffered ++ s.pending_messages
  pending_eq_nil : s.connected_url ≠ [] → s.pending_messages = []

theorem keeps_initial : Keeps initial [] [] [] := ⟨buffers_initial, rfl, fun _ => rfl⟩

variable {forwarded : List MessageBytes}

theorem forward_message_pending (m : MessageBytes) (hurl : s.connected_url = []) :
    s.forward_message m = { s with
      forward_any_message := true, pending_messages := s.pending_messages ++ [m] } := by
  rw [forward_message, hurl]
  rfl

theorem forward_message_connected (m : MessageBytes) (hurl : s.connected_url ≠ []) :
    s.forward_message m = ({ s with forward_any_message := true } : Sender).push_to_buffer m := by
  rw [forward_message]
  exact if_neg (by rwa [List.isEmpty_iff])

/-- Before the connection is known. -/
theorem Keeps.forward_pending (h : Keeps s forwarded batches buffered) (m : MessageBytes)
    (hurl : s.connected_url = []) :
    Keeps (s.forward_message m) (forwarded ++ [m]) batches buffered := by
  rw [forward_message_pending m hurl]
  exact ⟨⟨h.sent, h.bytes, h.count, h.counts⟩, by rw [h.forwarded_eq, List.append_assoc _ _ [m]],
    fun hne => absurd hurl hne⟩

theorem Keeps.forward_connected (h : Keeps s forwarded batches buffered) (m : MessageBytes)
    (hurl : s.connected_url ≠ []) (hfits : buffered.length + 1 < 2 ^ 32) :
    Keeps (s.forward_message m) (forwarded ++ [m]) batches (buffered ++ [m]) := by
  have hnil := h.pending_eq_nil hurl
  have hbuffers : Buffers { s with forward_any_message := true } batches buffered :=
    ⟨h.sent, h.bytes, h.count, h.counts⟩
  rw [forward_message_connected m hurl]
  refine ⟨hbuffers.push_to_buffer m hfits, ?_, fun _ => hnil⟩
  rw [h.forwarded_eq, pending_messages_push_to_buffer, hnil]
  simp only [List.append_nil, List.append_assoc]

/-- All that is pending goes into the buffer. -/
theorem Keeps.data_conn_req (h : Keeps s forwarded batches buffered)
    {connects : List UInt8 → Bool} {host : Host} {port : UInt16} {s' : Sender}
    (hreq : s.data_conn_req connects host port = some s')
    (hfits : buffered.length + s.pending_messages.length < 2 ^ 32) :
    s'.connected_url ≠ [] ∧ Keeps s' forwarded batches (buffered ++ s.pending_messages) := by
  unfold Sender.data_conn_req at hreq
  split at hreq
  · cases hreq
    have hbuffers : Buffers { s with connected_url := tcp_url host port } batches buffered :=
      ⟨h.sent, h.bytes, h.count, h.counts⟩
    have hall := hbuffers.push_all s.pending_messages hfits
    refine ⟨?_, ⟨hall.sent, hall.bytes, hall.count, hall.counts⟩, ?_, fun _ => rfl⟩
    · rw [connected_url_foldl_push_to_buffer]
      exact tcp_url_ne_nil host port
    · rw [h.forwarded_eq, List.append_nil, List.append_assoc]
  · cases hreq

@[simp] theorem pending_messages_flush_byte_buffer (s : Sender) :
    s.flush_byte_buffer.pending_messages = s.pending_messages := by
  unfold flush_byte_buffer
  split <;> rfl

@[simp] theorem connected_url_flush_byte_buffer (s : Sender) :
    s.flush_byte_buffer.connected_url = s.connected_url := by
  unfold flush_byte_buffer
  split <;> rfl

@[simp] theorem activated_flush_byte_buffer (s : Sender) :
    s.flush_byte_buffer.activated = s.activated := by
  unfold flush_byte_buffer
  split <;> rfl

theorem Keeps.flush_byte_buffer (h : Keeps s forwarded batches buffered) :
    ∃ batches', Keeps s.flush_byte_buffer forwarded batches' [] := by
  obtain ⟨batches', hbuffers, hflat⟩ := h.toBuffers.flush_byte_buffer
  refine ⟨batches', hbuffers, ?_, ?_⟩
  · rw [h.forwarded_eq, hflat, pending_messages_flush_byte_buffer, List.append_nil]
  · rw [pending_messages_flush_byte_buffer, connected_url_flush_byte_buffer]
    exact h.pending_eq_nil

end Sender
end ZAF
