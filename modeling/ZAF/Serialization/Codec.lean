import ZAF.Framework.Wire
import ZAF.Serialization.Serializer
import ZAF.Serialization.Types

/-! # `serialize` and `deserialize`

    One equation for each overload. Two things about an overload do not show in the
    value that it gets:

    * whether the value is `const`. A `std::tuple<>` is a POD, so one that is not
      `const` is written by the overload of the PODs, as its byte of storage;
    * whether a value is decoded to be returned, or into an object that exists. The
      object is always value-initialised, so a raw pointer in it is null.
-/

namespace ZAF

open Wire

/-! ### What the codec rests on -/

/-- `serialize(Serializer&, MessageBody*)` and `deserialize<MessageBody*>`: what they
    append and take, of the bodies that fit. -/
structure BodyCodec (β β' : Type) where
  serialize : β → Serializer → Option Serializer
  bytes : β → List UInt8
  appends : ∀ b, Serializer.Appends (serialize b) (bytes b)
  deserialize : Reader β'
  same : β → β' → Prop
  fits : β → Prop
  takes : ∀ b, fits b → deserialize.Takes (bytes b) (same b)
  /-- What a body has taken shows in it. -/
  width : β' → Nat
  consumes : deserialize.Consumes fun b' n => n = width b'
  of_same : ∀ b b', same b b' → fits b ∧ (bytes b).length = width b'

/-- The sets and maps of the standard library, by their comparators and hashes. -/
structure KeyedContainers where
  /-- Are two keys in different objects equivalent? Pointers that are compared by address
      are not, unless they are null. -/
  same_key : (c : Nat) → (k : Ty) → {β : Type} → k.Val β → k.Val β → Bool
  /-- Equal keys are equivalent to the same keys. -/
  same_key_congr : ∀ c (k : Ty) {β β' : Type} (R : β → β' → Prop) x y x' y',
    k.Equal R x x' → k.Equal R y y' → same_key c k x y = same_key c k x' y'
  /-- Where a new key goes. -/
  position : (c : Nat) → (k : Ty) → {β : Type} → List (k.Val β) → k.Val β → Nat

/-- `emplace` -/
def emplace {α : Type} (same : α → α → Bool) (position : List α → α → Nat) (xs : List α) (x : α) :
    List α :=
  if xs.any fun y => same y x then xs
  else xs.take (position xs x) ++ x :: xs.drop (position xs x)

/-! ### Serialization -/

section serialize

variable {β β' : Type} (bodies : BodyCodec β β')

open Serializer

mutual

/-- `serialize(s, t)` -/
def Ty.serialize : (t : Ty) → (is_const : Bool) → t.Val β → Serializer → Option Serializer
  | .pod _, _, x, s => some (s.write_bytes x.1)
  | .string, true, x, s => some ((s.write_uint 8 x.1.length).write_bytes x.1)
  -- the overload of the containers, for lack of a `const`
  | .string, false, x, s =>
    x.1.foldlM (fun s c => some (s.write_bytes [c])) (s.write_uint 8 x.1.length)
  | .bits, _, x, s => x.1.foldlM (fun s b => some (s.write_bool b)) (s.write_uint 8 x.1.length)
  | .local_actor_handle, _, x, s =>
    some ((s.write_uint 4 x.local_actor_id.toNat).write_bool x.use_swsr_msg_delivery)
  | .actor_info, _, x, s =>
    some ((((s.write_uint 8 x.net_gate_url.1.length).write_bytes x.net_gate_url.1).write_uint 4
      x.actor.local_actor_id.toNat).write_bool x.actor.use_swsr_msg_delivery)
  | .pointer t, _, x, s => t.serialize false x s
  | .smart_ptr _ t, _, some x, s => t.serialize false x (s.write_bool true)
  | .smart_ptr _ _, _, none, s => some (s.write_bool false)
  | .optional t, _, some x, s => t.serialize true x (s.write_bool true)
  | .optional _, _, none, s => some (s.write_bool false)
  | .pair a b, _, x, s => (a.serialize true x.1 s).bind (b.serialize true x.2)
  | .empty_tuple, is_const, x, s => if is_const then some s else some (s.write_bytes [x])
  | .tuple t ts, _, x, s => (t.serialize true x.1 s).bind (ts.serialize x.2)
  | .sequence _ t, is_const, x, s =>
    x.1.foldlM (fun s y => t.serialize is_const y s) (s.write_uint 8 x.1.length)
  | .set _ t, _, x, s =>
    x.1.foldlM (fun s y => t.serialize true y s) (s.write_uint 8 x.1.length)
  | .map _ k v, _, x, s =>
    x.1.foldlM (fun s y => (k.serialize true y.1 s).bind (v.serialize true y.2))
      (s.write_uint 8 x.1.length)
  | .const t, _, x, s => t.serialize true x s
  | .message_body, _, some b, s => bodies.serialize b (s.write_bool true)
  | .message_body, _, none, s => some (s.write_bool false)

/-- `s.write(std::get<I>(t) ...)` of a `const` tuple. -/
def Pack.serialize : (ts : Pack) → ts.Val β → Serializer → Option Serializer
  | .nil, _, s => some s
  | .cons t ts, x, s => (t.serialize true x.1 s).bind (ts.serialize x.2)

end

/-- The bytes of a `bool`. -/
def bool_bytes (b : Bool) : List UInt8 := little_endian_bytes 1 b.toNat

/-- The bytes of a `size_t`. -/
def size_bytes (n : Nat) : List UInt8 := little_endian_bytes 8 n

/-- The bytes of a `LocalActorHandle`. -/
def handle_bytes (l : LocalActorHandle) : List UInt8 :=
  little_endian_bytes 4 l.local_actor_id.toNat ++ bool_bytes l.use_swsr_msg_delivery

mutual

/-- What `serialize` appends. -/
def Ty.bytes : (t : Ty) → (is_const : Bool) → t.Val β → List UInt8
  | .pod _, _, x => x.1
  | .string, _, x => size_bytes x.1.length ++ x.1
  | .bits, _, x => size_bytes x.1.length ++ x.1.flatMap bool_bytes
  | .local_actor_handle, _, x => handle_bytes x
  | .actor_info, _, x =>
    (size_bytes x.net_gate_url.1.length ++ x.net_gate_url.1) ++ handle_bytes x.actor
  | .pointer t, _, x => t.bytes false x
  | .smart_ptr _ t, _, some x => bool_bytes true ++ t.bytes false x
  | .smart_ptr _ _, _, none => bool_bytes false
  | .optional t, _, some x => bool_bytes true ++ t.bytes true x
  | .optional _, _, none => bool_bytes false
  | .pair a b, _, x => a.bytes true x.1 ++ b.bytes true x.2
  | .empty_tuple, is_const, x => if is_const then [] else [x]
  | .tuple t ts, _, x => t.bytes true x.1 ++ ts.bytes x.2
  | .sequence _ t, is_const, x => size_bytes x.1.length ++ x.1.flatMap (t.bytes is_const)
  | .set _ t, _, x => size_bytes x.1.length ++ x.1.flatMap (t.bytes true)
  | .map _ k v, _, x =>
    size_bytes x.1.length ++ x.1.flatMap fun y => k.bytes true y.1 ++ v.bytes true y.2
  | .const t, _, x => t.bytes true x
  | .message_body, _, some b => bool_bytes true ++ bodies.bytes b
  | .message_body, _, none => bool_bytes false

def Pack.bytes : (ts : Pack) → ts.Val β → List UInt8
  | .nil, _ => []
  | .cons t ts, x => t.bytes true x.1 ++ ts.bytes x.2

end

end serialize

/-! ### Deserialization -/

section deserialize

variable {β : Type} (deserialize_body : Reader β) (containers : KeyedContainers)

def read_chars (n : Nat) : Reader (List UInt8) := read_bytes n

def read_uint (n : Nat) : Reader Nat := read_pod n

def read_bool : Reader Bool := (· != 0) <$> read_uint 1

/-- What has been read fits in memory. -/
def sized {α : Type} (xs : List α) : Reader (Sized α) :=
  if h : xs.length < 2 ^ 64 then pure ⟨xs, h⟩ else failure

/-- `read_pod` -/
def deserialize_pod (size : Nat) : Reader { bytes : List UInt8 // bytes.length = size } := fun s =>
  if h : size ≤ s.length then some (⟨s.take size, List.length_take_of_le h⟩, s.drop size) else none

def deserialize_string : Reader (Sized UInt8) := do
  let size ← read_uint 8
  let bytes ← read_chars size
  sized bytes

def deserialize_handle : Reader LocalActorHandle := do
  let id ← read_uint 4
  let use_swsr ← read_bool
  pure ⟨UInt32.ofNat id, use_swsr⟩

/-- The containers: the number of items, then the items. -/
def deserialize_items {α : Type} (read : Reader α) (insert : List α → α → List α) :
    Reader (Sized α) := do
  let size ← read_uint 8
  let xs ← read.fold insert size []
  sized xs

mutual

/-- `deserialize<T>(s)` and `deserialize(s, t)`, of the types for which they compile. -/
def Ty.deserialize : (t : Ty) → Target → Reader (t.Val β)
  | .pod size, _ => deserialize_pod size
  | .string, _ => deserialize_string
  | .bits, _ => deserialize_items read_bool fun xs x => xs ++ [x]
  | .local_actor_handle, _ => deserialize_handle
  | .actor_info, _ => do
    let url ← deserialize_string
    let actor ← deserialize_handle
    pure ⟨actor, url⟩
  -- `new V{}`, then into what it points to
  | .pointer t, .returned => t.deserialize .in_place
  -- into what a null pointer points to
  | .pointer _, .in_place => failure
  | .smart_ptr _ t, _ => do
    if ← read_bool then some <$> t.deserialize .in_place else pure none
  | .optional t, _ => do
    if ← read_bool then some <$> t.deserialize .returned else pure none
  | .pair a b, _ => do
    let x ← a.deserialize .in_place
    let y ← b.deserialize .in_place
    pure (x, y)
  | .empty_tuple, _ => pure (0 : UInt8)
  | .tuple t ts, _ => do
    let x ← t.deserialize .in_place
    let xs ← ts.deserialize
    pure (x, xs)
  | .sequence _ t, _ => deserialize_items (t.deserialize .returned) fun xs x => xs ++ [x]
  | .set c t, _ =>
    deserialize_items (t.deserialize .returned)
      (emplace (containers.same_key c t) (containers.position c t))
  -- the items are `std::pair<const K, V>`
  | .map c k v, _ =>
    deserialize_items (do
        let x ← k.deserialize .in_place
        let y ← v.deserialize .in_place
        pure (x, y))
      (emplace (fun x y => containers.same_key c k x.1 y.1)
        (fun xs x => containers.position c k (xs.map Prod.fst) x.1))
  | .const t, _ => t.deserialize .in_place
  | .message_body, _ => do
    if ← read_bool then some <$> deserialize_body else pure none

/-- `s.read(std::get<I>(t) ...)` -/
def Pack.deserialize : (ts : Pack) → Reader (ts.Val β)
  | .nil => pure ()
  | .cons t ts => do
    let x ← t.deserialize .in_place
    let xs ← ts.deserialize
    pure (x, xs)

end

end deserialize
end ZAF
