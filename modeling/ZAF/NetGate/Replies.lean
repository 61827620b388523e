import ZAF.EventLoop.DelayedSend
import ZAF.Message.Transparency
import ZAF.NetGate.Forwarded

/-! # Messages from another machine

    An actor does not know whether a message has been sent in its own process, where it is
    passed on as it is, or has come through two net gates, as bytes and with another sender.
    It should not have to: the same handler gets equal arguments, and what it replies is the
    same and goes to the actor that has sent the message. For requests this takes the id that
    is in the message.
-/

namespace ZAF

open LTS Wire Delaying

/-! ### What is written -/

section bytes

variable {β β' : Type} (bodies : BodyCodec β β')

/-- Apart from `std::tuple<>`, it does not matter whether a value is `const`. -/
theorem Ty.bytes_eq_const : (t : Ty) → (target : Target) → (is_const : Bool) → (x : t.Val β) →
    t.Every EmptyTupleConst target is_const x → t.bytes bodies is_const x = t.bytes bodies true x
  | .sequence _ t, _, is_const, x, h => by
    have hitems : x.1.map (t.bytes bodies is_const) = x.1.map (t.bytes bodies true) :=
      List.map_congr_left fun y hy => t.bytes_eq_const .returned is_const y (h.2 y hy)
    simp only [Ty.bytes, List.flatMap, hitems]
  | .empty_tuple, _, is_const, x, h => by
    rw [show is_const = true from h]
  | .pod _, _, _, _, _ => rfl
  | .string, _, _, _, _ => rfl
  | .bits, _, _, _, _ => rfl
  | .local_actor_handle, _, _, _, _ => rfl
  | .actor_info, _, _, _, _ => rfl
  | .pointer _, _, _, _, _ => rfl
  | .smart_ptr _ _, _, _, some _, _ => rfl
  | .smart_ptr _ _, _, _, none, _ => rfl
  | .optional _, _, _, some _, _ => rfl
  | .optional _, _, _, none, _ => rfl
  | .pair _ _, _, _, _, _ => rfl
  | .tuple _ _, _, _, _, _ => rfl
  | .set _ _, _, _, _, _ => rfl
  | .map _ _ _, _, _, _, _ => rfl
  | .const _, _, _, _, _ => rfl
  | .message_body, _, _, some _, _ => rfl
  | .message_body, _, _, none, _ => rfl

end bytes

namespace RemoteSend

variable {codecs : Codecs} {β : Type}

/-- The elements of the message. -/
def content (m : RemoteSend codecs β) : List (TypedElement codecs β) := m.args.map Prod.snd

/-- Every `std::tuple<>` in the arguments is `const` when it is written. -/
def TuplesConst (m : RemoteSend codecs β) : Prop :=
  ∀ arg ∈ m.args, arg.2.ty.Every EmptyTupleConst .returned arg.1 arg.2.value

/-- The body of the message, if it were sent to an actor in the same process. -/
def body (m : RemoteSend codecs β) : Body codecs β := .memory m.code m.content

theorem type_hash_eq (m : RemoteSend codecs β) :
    MessageBytes.type_hash m = m.body.get_type_hash_code := by
  show codecs.types_hash_code _ = codecs.types_hash_code (m.content.map TypedElement.type)
  rw [content, List.map_map]
  rfl

theorem content_bytes_eq {bodies : BodyCodec β DecodedBody} {m : RemoteSend codecs β}
    (h : m.TuplesConst) :
    MessageBytes.content_bytes bodies m = m.body.content_bytes bodies := by
  show m.args.flatMap _ = m.content.flatMap _
  rw [content, List.flatMap_map]
  have hargs : m.args.map (fun arg => arg.2.ty.bytes bodies arg.1 arg.2.value) =
      m.args.map fun arg => arg.2.ty.bytes bodies true arg.2.value :=
    List.map_congr_left fun arg harg =>
      arg.2.ty.bytes_eq_const bodies .returned arg.1 arg.2.value (h arg harg)
  simp only [List.flatMap, hargs]

end RemoteSend

/-! ### Replies -/

section replies

variable {codecs : Codecs} {k : Nat}

/-- A call of `send` with elements that contain bodies, of any depth. -/
abbrev AnySend (codecs : Codecs) : Type := (n : Nat) × SendRequest codecs (NestedBody codecs n)

/-- The arguments of a `Request` or a `Response`: an id and
    `std::unique_ptr<MessageBody>(new_message(code, args...))`. -/
def request_args (req_id : UInt32) (code : UInt64)
    (args : List (Bool × TypedElement codecs (NestedBody codecs k))) :
    List (Bool × TypedElement codecs (NestedBody codecs (k + 1))) :=
  let new_message : Body codecs (NestedBody codecs k) := .memory code (args.map Prod.snd)
  [(false, ⟨.unsigned, .pod 4, rfl, ⟨little_endian_bytes 4 req_id.toNat,
      length_little_endian_bytes 4 req_id.toNat⟩⟩),
    (false, ⟨.message_body, .message_body, rfl, some new_message⟩)]

/-- `reply(msg, code, args...)`, from what it takes of the message. Nothing is sent when the id
    of a request cannot be read. -/
def reply (msg_sender : Actor) (msg_code : UInt64) (req_id : Except UInt64 (Option UInt32))
    (code : UInt64) (args : List (Bool × TypedElement codecs (NestedBody codecs k))) :
    Option (AnySend codecs) :=
  if msg_code = DefaultCodes.Request then
    match req_id with
    | .ok (some id) => some ⟨k + 1, msg_sender, DefaultCodes.Response, request_args id code args⟩
    | _ => none
  else some ⟨k, msg_sender, code, args⟩

/-- The reply to a message from another machine. -/
def RemoteMessage.reply (msg : RemoteMessage) (code : UInt64)
    (args : List (Bool × TypedElement codecs (NestedBody codecs k))) : Option (AnySend codecs) :=
  ZAF.reply msg.sender msg.body.code (get_request_id_serialized msg.body) code args

/-- The reply to the message if it were sent to an actor in the same process. -/
def RemoteSend.reply {β : Type} (m : RemoteSend codecs β) (code : UInt64)
    (args : List (Bool × TypedElement codecs (NestedBody codecs k))) : Option (AnySend codecs) :=
  ZAF.reply (.local_actor m.send) m.code (get_request_id_memory m.code m.content) code args

/-- The same call of `send`, to another actor. -/
def AnySend.to (actor : Actor) (r : AnySend codecs) : AnySend codecs :=
  ⟨r.1, { r.2 with receiver := actor }⟩

theorem reply_to (actor msg_sender : Actor) (msg_code : UInt64)
    (req_id : Except UInt64 (Option UInt32)) (code : UInt64)
    (args : List (Bool × TypedElement codecs (NestedBody codecs k))) :
    reply actor msg_code req_id code args =
      (reply msg_sender msg_code req_id code args).map (AnySend.to actor) := by
  unfold reply
  split
  · rcases req_id with _ | _ | id
    · rfl
    · rfl
    · rfl
  · rfl

/-- The message is no request, or it is what `request` sends. -/
def RemoteSend.Proper {β : Type} (m : RemoteSend codecs β) : Prop :=
  m.code = DefaultCodes.Request → m.content.map TypedElement.type = [.unsigned, .message_body]

/-- The id of a request is the first thing in its content. -/
theorem get_request_id_eq {β : Type} {bodies : BodyCodec β DecodedBody} {m : RemoteSend codecs β}
    (hproper : m.Proper) {b : SerializedBody} (hcode : b.code = m.code)
    (hcontent : b.content = m.body.content_bytes bodies) :
    get_request_id_serialized b = get_request_id_memory m.code m.content := by
  unfold get_request_id_serialized get_request_id_memory
  rw [hcode]
  split
  · rfl
  next hrequest =>
  obtain ⟨⟨type, ty, has_codec, x⟩, rest, hm, rfl, hrest⟩ :=
    List.map_eq_cons_iff.mp (hproper (not_not.mp hrequest))
  obtain ⟨arg, rest, rfl, -, hnil⟩ := List.map_eq_cons_iff.mp hrest
  cases List.map_eq_nil_iff.mp hnil
  cases has_codec
  obtain ⟨bytes, hlen⟩ := x
  have hread : read_uint 4 b.content =
      some (little_endian bytes, arg.ty.bytes bodies true arg.value) := by
    obtain ⟨_, htake, rfl⟩ := takes_chars bytes (arg.ty.bytes bodies true arg.value)
    rw [hlen] at htake
    show Option.map _ (read_bytes 4 b.content) = _
    rw [hcontent, RemoteSend.body, hm, Body.content_bytes, List.flatMap_cons,
      List.flatMap_singleton]
    exact congrArg (Option.map _) htake
  rw [hread, hm]
  rfl

end replies

/-! ### Through the cluster -/

namespace Cluster

open NetGates NetGateActor

variable {codecs : Codecs} {n : Nat} {connects : List UInt8 → Bool}

variable (connects) in
/-- What an actor of `y` gets of a message from `x` is what it would get if the two were in
    the same process, apart from the handle of the sender, which leads back to it. -/
structure Transparent (c : Cluster codecs (NestedBody codecs n)) (x y : Url)
    (m : RemoteSend codecs (NestedBody codecs n)) (d : Delivery) : Prop where
  receiver : d.recv_actor = m.recv
  sender : c.Leads (nested_codec codecs n) connects y d.msg.sender x m.send
  /-- The same handler is called with equal arguments. -/
  call : ∀ containers (handlers : MessageHandlers) missing,
    Deliverable containers handlers n (handlers.select m.code) m.body →
      Agrees containers handlers n (handlers.select d.msg.body.code) missing m.body d.msg.body
  /-- The same is replied, to the actor that has sent the message. -/
  reply : m.Proper → ∀ (k : Nat) (code : UInt64)
    (args : List (Bool × TypedElement codecs (NestedBody codecs k))),
      d.msg.reply code args = (m.reply code args).map (AnySend.to d.msg.sender)

variable {c : Cluster codecs (NestedBody codecs n)} {x y : Url}
  {q : NetSender codecs (NestedBody codecs n)} {r : NetReceiver}

theorem transparent_delivery
    (h : ReachableVia (system (nested_codec codecs n) connects) (Fits (nested_codec codecs n)) c)
    (hr : c.receivers y x = some r) {m : RemoteSend codecs (NestedBody codecs n)}
    (hconst : m.TuplesConst) :
    c.Transparent connects x y m (m.delivery (nested_codec codecs n) r.net_sender_info) := by
  have hlinked := linked_of_reachable h
  have hcontent : (m.delivery (nested_codec codecs n) r.net_sender_info).msg.body.content =
      m.body.content_bytes (nested_codec codecs n) := RemoteSend.content_bytes_eq hconst
  refine ⟨rfl, hlinked.leads (hlinked.receivers y x r hr) m.send, ?_, ?_⟩
  · intro containers handlers missing hdeliverable
    exact agrees_of_deliverable n m.type_hash_eq hcontent hdeliverable
  · intro hproper k code args
    unfold RemoteMessage.reply RemoteSend.reply
    rw [get_request_id_eq hproper rfl hcontent]
    exact reply_to ..

/-- A request for the actor that has been looked up, with one `int` in its body. -/
def number_request : RemoteSend plain_codecs (NestedBody plain_codecs 1) :=
  ⟨⟨3, true⟩, ⟨6, true⟩, DefaultCodes.Request,
    request_args (k := 0) 7 1 [(false, ⟨.user 1, .pod 4, rfl,
      ⟨little_endian_bytes 4 42, length_little_endian_bytes 4 42⟩⟩)]⟩

/-- The same step, with this request as the message. -/
def asking : ClusterStep plain_codecs (NestedBody plain_codecs 0) →
    ClusterStep plain_codecs (NestedBody plain_codecs 1)
  | .gate l => .gate l
  | .spawn x sender port => .spawn x sender port
  | .bind_port_rep x => .bind_port_rep x
  | .forward x y r _ => .forward x y r number_request
  | .data_conn_req x y => .data_conn_req x y
  | .sender x y step => .sender x y step
  | .receive x y a b => .receive x y a b
  | .terminate x y => .terminate x y

end Cluster
end ZAF
