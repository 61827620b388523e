import ZAF.Message.Body
import ZAF.Serialization.Failures

/-! # The encoders of a message body

    A message body can be written in three ways: by its own `serialize`, by the
    function `serialize(Serializer&, MessageBody*)`, and as the serialized body that
    `new_serialized_message_body` makes of it. All of them write the code, the hash code
    of the types, the length of the content in 32 bits and the content; those that do
    not know the length go back to fill it in.

    The bodies in the elements of a body are again bodies, so bodies come in levels of
    nesting.
-/

namespace ZAF

open Wire Serializer

/-! ### Bodies -/

/-- The C++ types, with the codecs of those that are serializable. -/
structure Codecs extends TypeTraits where
  /-- The codec of a user type. -/
  user_codec : Nat → Option Ty
  user_serializable_eq : ∀ n, user_serializable n = (user_codec n).isSome

/-- The codec of a type. -/
def Codecs.codec (codecs : Codecs) : ElementType → Option Ty
  | .unsigned => some (.pod 4)
  | .message_body => some .message_body
  | .swsr_queue => none
  | .user n => codecs.user_codec n

theorem Codecs.serializable_eq (codecs : Codecs) (type : ElementType) :
    codecs.serializable type = (codecs.codec type).isSome := by
  cases type with
  | user n => exact codecs.user_serializable_eq n
  | _ => rfl

/-- `TypedSerializedMessageBody`, of a `std::vector<char>` or a `zmq::message_t`. -/
structure SerializedBody where
  code : UInt64
  types_hash : UInt64
  content_bytes : List UInt8
  offset : Nat
  offset_le : offset ≤ content_bytes.length

/-- A serializable element of a `ContentTuple`. -/
structure TypedElement (codecs : Codecs) (β : Type) where
  type : ElementType
  ty : Ty
  has_codec : codecs.codec type = some ty
  value : ty.Val β

/-- A `MessageBody` with bodies `β` in its elements: a `TypedMessageBody`, all of whose
    elements are serializable, or a `SerializedMessageBody`. -/
inductive Body (codecs : Codecs) (β : Type) where
  | memory (code : UInt64) (content : List (TypedElement codecs β))
  | serialized (body : SerializedBody)

/-- The bodies in which bodies are nested less than `n` deep. -/
def NestedBody (codecs : Codecs) : Nat → Type
  | 0 => Empty
  | n + 1 => Body codecs (NestedBody codecs n)

/-- What is left of a serialized body after its offset. -/
def SerializedBody.content (b : SerializedBody) : List UInt8 := b.content_bytes.drop b.offset

/-- What `deserialize<MessageBody*>` returns: a body of at most `~0u` bytes. -/
abbrev DecodedBody := { b : SerializedBody // b.content.length < 2 ^ 32 }

theorem SerializedBody.start_le (bytes : List UInt8) : 0 ≤ bytes.length := Nat.zero_le _

/-- `deserialize<MessageBody*>` -/
def deserialize_message_body : Reader DecodedBody := do
  let code ← read_uint 8
  let type_hash ← read_uint 8
  let num_bytes ← read_uint 4
  let bytes ← read_chars num_bytes
  if h : bytes.length < 2 ^ 32 then
    pure ⟨⟨UInt64.ofNat code, UInt64.ofNat type_hash, bytes, 0, SerializedBody.start_le bytes⟩, h⟩
  else failure

/-! ### Encoders -/

namespace SerializedBody

def serialize (b : SerializedBody) (s : Serializer) : Option Serializer :=
  some ((((s.write_uint 8 b.code.toNat).write_uint 8 b.types_hash.toNat).write_uint 4
    (b.content_bytes.length - b.offset)).write_bytes b.content)

def serialize_content (b : SerializedBody) (s : Serializer) : Option Serializer :=
  some (s.write_bytes b.content)

end SerializedBody

namespace Body

variable {codecs : Codecs} {β : Type} (bodies : BodyCodec β DecodedBody)

def get_code : Body codecs β → UInt64
  | .memory code _ => code
  | .serialized b => b.code

def get_type_hash_code : Body codecs β → UInt64
  | .memory _ content => codecs.types_hash_code (content.map TypedElement.type)
  | .serialized b => b.types_hash

/-- `serialize_content`: `s.write(std::get<i>(content) ...)` of a `const` tuple, or the
    bytes. -/
def serialize_content : Body codecs β → Serializer → Option Serializer
  | .memory _ content, s => content.foldlM (fun s e => e.ty.serialize bodies true e.value s) s
  | .serialized b, s => b.serialize_content s

/-- The two encoders that go back to the length: the code, the hash code, a length of
    `0`, the content, then the length. -/
def serialize_back (b : Body codecs β) (s : Serializer) : Option Serializer :=
  let s := (s.write_uint 8 b.get_code.toNat).write_uint 8 (b.get_type_hash_code).toNat
  let ptr := s.size
  (b.serialize_content bodies (s.write_uint 4 0)).bind fun s =>
    (s.move_write_ptr_to ptr).bind fun s =>
      some (s.write_uint 4 (s.size - ptr - 4)).move_write_ptr_to_end

/-- `body->serialize(s)` -/
def serialize : Body codecs β → Serializer → Option Serializer
  | .memory code content, s => serialize_back bodies (.memory code content) s
  | .serialized b, s => b.serialize s

/-- `serialize(s, body)` -/
def serialize_pointer (b : Body codecs β) (s : Serializer) : Option Serializer :=
  serialize_back bodies b s

/-- `new_serialized_message_body` -/
def new_serialized_message_body (b : Body codecs β) : Option SerializedBody :=
  (b.serialize_content bodies (make [])).map fun s =>
    ⟨b.get_code, b.get_type_hash_code, s.bytes, 0, Nat.zero_le _⟩

/-! ### What they append -/

/-- What `serialize_content` appends. -/
def content_bytes : Body codecs β → List UInt8
  | .memory _ content => content.flatMap fun e => e.ty.bytes bodies true e.value
  | .serialized b => b.content

/-- The code, the hash code, the length and the content. -/
def frame (code types_hash : UInt64) (content : List UInt8) : List UInt8 :=
  little_endian_bytes 8 code.toNat ++ little_endian_bytes 8 types_hash.toNat ++
    little_endian_bytes 4 content.length ++ content

/-- What the encoders append. -/
def bytes (b : Body codecs β) : List UInt8 :=
  frame b.get_code (b.get_type_hash_code) (b.content_bytes bodies)

theorem serialize_content_appends (b : Body codecs β) :
    Appends (b.serialize_content bodies) (b.content_bytes bodies) := by
  cases b with
  | memory code content =>
    exact Appends.foldlM fun e _ => e.ty.serialize_appends bodies true e.value
  | serialized b => exact appends_write_bytes b.content

end Body

theorem SerializedBody.serialize_appends (b : SerializedBody) :
    Appends b.serialize (Body.frame b.code b.types_hash b.content) := by
  intro front
  have hlen : b.content_bytes.length - b.offset = b.content.length := (List.length_drop ..).symm
  simp only [serialize, write_uint_make, write_bytes_make, hlen, Body.frame, List.append_assoc]

namespace Body

variable {codecs : Codecs} {β : Type} (bodies : BodyCodec β DecodedBody)

/-- The length is filled in where the `0` was. -/
theorem serialize_back_appends (b : Body codecs β) :
    Appends (b.serialize_back bodies) (b.bytes bodies) := by
  intro front
  unfold serialize_back
  simp only [write_uint_make, size_make]
  rw [b.serialize_content_appends bodies, Option.bind_some, fill_in_length]
  simp only [bytes, frame, List.append_assoc]

/-- `serialize(s, body)` appends the frame of the body. -/
theorem serialize_pointer_appends (b : Body codecs β) :
    Appends (b.serialize_pointer bodies) (b.bytes bodies) :=
  b.serialize_back_appends bodies

/-- `body->serialize(s)` appends the same. -/
theorem serialize_appends (b : Body codecs β) :
    Appends (b.serialize bodies) (b.bytes bodies) := by
  cases b with
  | memory code content => exact serialize_back_appends bodies (.memory code content)
  | serialized b => exact b.serialize_appends

/-- The serialized body has the code, the hash code and the content. -/
theorem new_serialized_message_body_eq (b : Body codecs β) :
    b.new_serialized_message_body bodies =
      some ⟨b.get_code, b.get_type_hash_code, b.content_bytes bodies, 0, Nat.zero_le _⟩ := by
  have h := b.serialize_content_appends bodies []
  rw [List.nil_append] at h
  rw [new_serialized_message_body, h, Option.map_some]
  rfl

end Body

/-! ### The decoder -/

theorem takes_frame (code types_hash : UInt64) {content : List UInt8}
    (h : content.length < 2 ^ 32) :
    deserialize_message_body.Takes (Body.frame code types_hash content)
      (fun d => d.1.code = code ∧ d.1.types_hash = types_hash ∧ d.1.content = content) := by
  unfold Body.frame
  rw [List.append_assoc, List.append_assoc]
  apply (takes_uint (UInt64.toNat_lt code)).bind
  rintro _ rfl
  apply (takes_uint (UInt64.toNat_lt types_hash)).bind
  rintro _ rfl
  apply (takes_uint (n := 4) (v := content.length) h).bind
  rintro _ rfl
  apply (takes_chars content).bind_nil
  rintro _ rfl
  rw [dif_pos h]
  exact Reader.takes_pure ⟨UInt64.ofNat_toNat, UInt64.ofNat_toNat, rfl⟩

theorem consumes_frame :
    deserialize_message_body.Consumes fun d k => k = 20 + d.1.content.length := by
  apply (consumes_uint 8).bind
  rintro code _ rfl
  apply (consumes_uint 8).bind
  rintro types_hash _ rfl
  apply (consumes_uint 4).bind
  rintro num_bytes _ rfl
  apply (consumes_chars num_bytes).bind
  rintro bytes _ rfl
  split
  · exact Reader.consumes_pure (by simp only [SerializedBody.content, List.drop_zero]; omega)
  · intro s d rest h
    cases h

theorem Body.length_frame (code types_hash : UInt64) (content : List UInt8) :
    (Body.frame code types_hash content).length = 20 + content.length := by
  simp only [Body.frame, List.length_append, length_little_endian_bytes]

/-! ### Bodies in bodies -/

/-- Where there are no bodies to be written. -/
def empty_codec : BodyCodec Empty DecodedBody where
  serialize b := b.elim
  bytes b := b.elim
  appends b := b.elim
  deserialize := deserialize_message_body
  same b := b.elim
  fits b := b.elim
  takes b := b.elim
  width d := 20 + d.1.content.length
  consumes := consumes_frame
  of_same b := b.elim

/-- The codec of the bodies that contain others, from the codec of those. -/
def Body.codec {codecs : Codecs} {β : Type} (bodies : BodyCodec β DecodedBody) :
    BodyCodec (Body codecs β) DecodedBody where
  serialize := Body.serialize_pointer bodies
  bytes := Body.bytes bodies
  appends := Body.serialize_pointer_appends bodies
  deserialize := deserialize_message_body
  same b d := d.1.code = b.get_code ∧ d.1.types_hash = b.get_type_hash_code ∧
    d.1.content = b.content_bytes bodies
  fits b := (b.content_bytes bodies).length < 2 ^ 32
  takes _ h := takes_frame _ _ h
  width d := 20 + d.1.content.length
  consumes := consumes_frame
  of_same b d h := ⟨h.2.2 ▸ d.2, by rw [Body.bytes, Body.length_frame, h.2.2]⟩

/-- `serialize(Serializer&, MessageBody*)` and `deserialize<MessageBody*>`, level by
    level. -/
def nested_codec (codecs : Codecs) : (n : Nat) → BodyCodec (NestedBody codecs n) DecodedBody
  | 0 => empty_codec
  | n + 1 => Body.codec (nested_codec codecs n)

/-! ### Agreement -/

/-- The three encodings of a body into a buffer with a prefix are one, and it is
    decoded to a body with the same code, hash code and content, whose encoding is the
    same again. -/
structure EncodersAgree {codecs : Codecs} {β : Type} (bodies : BodyCodec β DecodedBody)
    (b : Body codecs β) (front : List UInt8) : Prop where
  content : b.serialize_content bodies (make front) =
    some (make (front ++ b.content_bytes bodies))
  serialize : b.serialize bodies (make front) = some (make (front ++ b.bytes bodies))
  serialize_pointer : b.serialize_pointer bodies (make front) =
    some (make (front ++ b.bytes bodies))
  serialized : ∃ b', b.new_serialized_message_body bodies = some b' ∧
    b'.serialize (make front) = some (make (front ++ b.bytes bodies))
  deserialize : ∀ rest, ∃ d, deserialize_message_body (b.bytes bodies ++ rest) =
      some (d, rest) ∧ d.1.code = b.get_code ∧ d.1.types_hash = b.get_type_hash_code ∧
    d.1.content = b.content_bytes bodies ∧
    d.1.serialize (make front) = some (make (front ++ b.bytes bodies))

/-- **All encoders of a message body agree and the decoder inverts them.** -/
theorem encoders_agree (codecs : Codecs) (n : Nat) (b : Body codecs (NestedBody codecs n))
    (front : List UInt8) (h : (b.content_bytes (nested_codec codecs n)).length < 2 ^ 32) :
    EncodersAgree (nested_codec codecs n) b front where
  content := b.serialize_content_appends _ front
  serialize := b.serialize_appends _ front
  serialize_pointer := b.serialize_pointer_appends _ front
  serialized := ⟨_, b.new_serialized_message_body_eq _, SerializedBody.serialize_appends _ front⟩
  deserialize := by
    intro rest
    obtain ⟨d, hd, hcode, hhash, hcontent⟩ := takes_frame b.get_code (b.get_type_hash_code) h rest
    refine ⟨d, hd, hcode, hhash, hcontent, ?_⟩
    rw [d.1.serialize_appends front, hcode, hhash, hcontent]
    rfl

/-- Types without hash codes; the user's types are integers. -/
def plain_codecs : Codecs where
  hash_code _ := 0
  std_hash h := h
  user_serializable _ := true
  user_codec _ := some (.pod 4)
  user_serializable_eq _ := rfl

/-- A request: an id, and a body with one `int` in it. -/
def nested_request : Body plain_codecs (NestedBody plain_codecs 1) :=
  .memory 6 [⟨.unsigned, .pod 4, rfl, ⟨[7, 0, 0, 0], rfl⟩⟩,
    ⟨.message_body, .message_body, rfl,
      some (.memory 1 [⟨.user 0, .pod 4, rfl, ⟨[42, 0, 0, 0], rfl⟩⟩] :
        Body plain_codecs (NestedBody plain_codecs 0))⟩]

theorem encoders_agree_request :
    EncodersAgree (nested_codec plain_codecs 1) nested_request [9] :=
  encoders_agree plain_codecs 1 nested_request [9] (by decide)

end ZAF
