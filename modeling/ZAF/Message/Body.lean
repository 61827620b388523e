import ZAF.Message.Hash

/-! # Messages and their bodies

    A message body carries a code and a content: the elements themselves, when
    the message stays in the process, or bytes, when it came over the network.
    Both kinds have a hash code of the element types.

    The requests and responses of actors are bodies that contain a body: a
    request id and a `std::unique_ptr<MessageBody>`.
-/

namespace ZAF

/-! ### Types of elements -/

/-- The decayed C++ types of message elements and handler arguments. -/
inductive ElementType where
  | unsigned
  /-- `std::unique_ptr<MessageBody>` -/
  | message_body
  /-- `std::shared_ptr<SWSRDeliveryQueue<Message*>>` -/
  | swsr_queue
  /-- The types of the user's messages. -/
  | user (n : Nat)
  deriving DecidableEq, Repr

/-- What the compiler and the standard library know about the types. -/
structure TypeTraits where
  /-- `typeid(T).hash_code()` -/
  hash_code : ElementType → UInt64
  /-- `std::hash<size_t>` -/
  std_hash : UInt64 → UInt64
  /-- Which user types have `serialize` and `deserialize`. -/
  user_serializable : Nat → Bool

namespace TypeTraits

variable (t : TypeTraits)

/-- `is_savable` and `is_loadable`. There is no overload for the shared queue. -/
def serializable : ElementType → Bool
  | .unsigned => true
  | .message_body => true
  | .swsr_queue => false
  | .user n => t.user_serializable n

/-- The hash code of a list of types: `TypesHashCode` of a body,
    `ArgumentsSignature::hash_code` of a handler. -/
def types_hash_code (types : List ElementType) : UInt64 :=
  hash_combine t.std_hash (types.map t.hash_code)

/-- `all_handler_arguments_serializable` -/
def all_serializable (types : List ElementType) : Bool := types.all t.serializable

/-- The mark of the last type, which alone gives the hash code an order. -/
def last_mark (types : List ElementType) : Option UInt64 :=
  types.getLast?.map fun last => order_mark t.std_hash (t.hash_code last)

/-- Two orderings of the same types share their hash code exactly when the marks
    of their last types agree. -/
theorem types_hash_code_perm_eq_iff {xs ys : List ElementType} (h : xs.Perm ys) :
    t.types_hash_code xs = t.types_hash_code ys ↔ t.last_mark xs = t.last_mark ys := by
  -- Both lists are empty, or both have a last type.
  rcases List.eq_nil_or_concat xs with rfl | ⟨xs, a, rfl⟩
  · simp [List.nil_perm.mp h]
  rcases List.eq_nil_or_concat ys with rfl | ⟨ys, b, rfl⟩
  · exact absurd (List.perm_nil.mp h) (by simp)
  have hperm := h.map t.hash_code
  simp only [List.concat_eq_append, List.map_append, List.map_cons, List.map_nil] at hperm
  simp only [types_hash_code, last_mark, List.concat_eq_append, List.map_append, List.map_cons,
    List.map_nil, List.getLast?_append, List.getLast?_singleton, Option.some_or,
    Option.map_some, Option.some.injEq]
  exact hash_combine_perm_eq_iff t.std_hash hperm

end TypeTraits

/-! ### Bodies -/

mutual

/-- An element of a body in memory. -/
inductive Element where
  | unsigned (n : UInt32)
  | message_body (body : MessageBody)
  /-- A null `std::unique_ptr<MessageBody>`. -/
  | null_body
  | swsr_queue (queue : Nat)
  | user (type : Nat) (value : List UInt8)

/-- A `TypedMessageBody` or a `TypedSerializedMessageBody`; `bytes` starts at the
    offset where the content starts. -/
inductive MessageBody where
  | memory (code : UInt64) (content : List Element)
  | serialized (code types_hash : UInt64) (bytes : List UInt8)

end

/-- The type of an element. -/
def Element.type : Element → ElementType
  | .unsigned _ => .unsigned
  | .message_body _ => .message_body
  | .null_body => .message_body
  | .swsr_queue _ => .swsr_queue
  | .user type _ => .user type

namespace MessageBody

def get_code : MessageBody → UInt64
  | .memory code _ => code
  | .serialized code _ _ => code

def is_serialized : MessageBody → Bool
  | .memory _ _ => false
  | .serialized _ _ _ => true

def get_type_hash_code (t : TypeTraits) : MessageBody → UInt64
  | .memory _ content => t.types_hash_code (content.map Element.type)
  | .serialized _ types_hash _ => types_hash

end MessageBody

/-- A message: its sender and its body. -/
structure Message where
  sender : Nat
  body : MessageBody

/-! ### Reading bytes -/

/-- `Deserializer::read_bytes`, which does not know where its buffer ends;
    `none` when it reads behind the end. -/
def read_bytes (n : Nat) (s : List UInt8) : Option (List UInt8 × List UInt8) :=
  if n ≤ s.length then some (s.take n, s.drop n) else none

/-- The value of little-endian bytes. -/
def little_endian (bytes : List UInt8) : Nat :=
  bytes.foldr (fun b acc => b.toNat + 256 * acc) 0

/-- `read_pod` of an unsigned type of `n` bytes. -/
def read_pod (n : Nat) (s : List UInt8) : Option (Nat × List UInt8) :=
  (read_bytes n s).map fun (bytes, rest) => (little_endian bytes, rest)

/-- What is read comes from the front and leaves the rest. -/
theorem read_bytes_length {n : Nat} {s bytes rest : List UInt8}
    (h : read_bytes n s = some (bytes, rest)) :
    bytes.length = n ∧ n + rest.length = s.length := by
  rw [read_bytes] at h
  split at h
  · next hn =>
    cases h
    rw [List.length_take, List.length_drop]
    omega
  · cases h

theorem read_pod_length {n v : Nat} {s rest : List UInt8} (h : read_pod n s = some (v, rest)) :
    n + rest.length = s.length := by
  obtain ⟨⟨bytes, rest'⟩, hread, hv⟩ := Option.map_eq_some_iff.mp h
  cases hv
  exact (read_bytes_length hread).2

/-- `deserialize<MessageBody*>` -/
def deserialize_body (s : List UInt8) : Option MessageBody :=
  match read_pod 8 s with
  | none => none
  | some (code, s) =>
    match read_pod 8 s with
    | none => none
    | some (type_hash, s) =>
      match read_pod 4 s with
      | none => none
      | some (num_bytes, s) =>
        (read_bytes num_bytes s).map fun (bytes, _) =>
          .serialized (UInt64.ofNat code) (UInt64.ofNat type_hash) bytes

/-- `deserialize` of an `unsigned` and a `std::unique_ptr<MessageBody>`. -/
def deserialize_request (s : List UInt8) : Option (UInt32 × Option MessageBody) :=
  match read_pod 4 s with
  | none => none
  | some (req_id, s) =>
    match read_pod 1 s with
    | none => none
    | some (0, _) => some (UInt32.ofNat req_id, none)
    | some (_, s) =>
      match deserialize_body s with
      | none => none
      | some body => some (UInt32.ofNat req_id, some body)

/-- The arguments that a handler of an `unsigned` and a
    `std::unique_ptr<MessageBody>&` gets from a body; `none` when the elements in
    memory are of other types or the bytes end too early, which the code does not
    notice. -/
def MessageBody.request_content : MessageBody → Option (UInt32 × Option MessageBody)
  | .memory _ [.unsigned req_id, .message_body body] => some (req_id, some body)
  | .memory _ [.unsigned req_id, .null_body] => some (req_id, none)
  | .memory _ _ => none
  | .serialized _ _ bytes => deserialize_request bytes

/-- The argument that the handler of a registration gets, likewise. -/
def MessageBody.queue_content : MessageBody → Option Nat
  | .memory _ [.swsr_queue queue] => some queue
  | _ => none

/-! ### Nesting -/

mutual

/-- A measure that decreases from a body to the bodies in it. -/
def MessageBody.weight : MessageBody → Nat
  | .memory _ content => elements_weight content + 1
  | .serialized _ _ bytes => bytes.length

def Element.weight : Element → Nat
  | .message_body body => body.weight
  | .unsigned _ => 0
  | .null_body => 0
  | .swsr_queue _ => 0
  | .user _ _ => 0

def elements_weight : List Element → Nat
  | [] => 0
  | x :: xs => x.weight + elements_weight xs

end

/-- A body read from bytes is lighter than the bytes. -/
theorem deserialize_body_weight {s : List UInt8} {body : MessageBody}
    (h : deserialize_body s = some body) : body.weight ≤ s.length := by
  simp only [deserialize_body] at h
  split at h
  · cases h
  next code s₁ h₁ =>
    split at h
    · cases h
    next type_hash s₂ h₂ =>
      split at h
      · cases h
      next num_bytes s₃ h₃ =>
        obtain ⟨⟨bytes, rest⟩, hread, rfl⟩ := Option.map_eq_some_iff.mp h
        obtain ⟨hbytes, hrest⟩ := read_bytes_length hread
        have e₁ := read_pod_length h₁
        have e₂ := read_pod_length h₂
        have e₃ := read_pod_length h₃
        simp only [MessageBody.weight]
        omega

/-- The body inside a request or a response is lighter than the whole. -/
theorem MessageBody.request_content_weight {b r : MessageBody} {req_id : UInt32}
    (h : b.request_content = some (req_id, some r)) : r.weight < b.weight := by
  simp only [MessageBody.request_content] at h
  split at h
  · cases h
    simp only [MessageBody.weight, elements_weight, Element.weight]
    omega
  · cases h
  · cases h
  · -- The id and the flag of the `unique_ptr` come before the body.
    next code hash bytes =>
    simp only [deserialize_request] at h
    split at h
    · cases h
    next id s h₁ =>
      split at h
      · cases h
      · cases h
      next flag s₂ hflag h₂ =>
        split at h
        · cases h
        next body hbody =>
          cases h
          have e₁ := read_pod_length h₁
          have e₂ := read_pod_length h₂
          have hw := deserialize_body_weight hbody
          simp only [MessageBody.weight]
          omega

end ZAF
