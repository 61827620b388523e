import Mathlib.Algebra.Group.Nat.Defs
import Mathlib.Data.List.Forall2

/-! # The types with a codec

    `serialize` and `deserialize` are overloaded for scalars, structs, pointers,
    containers and what can be built from them. A `Ty` is such a type, `Ty.Val` are its
    values. A pointer stands for what it points to.

    The bodies that a `std::unique_ptr<MessageBody>` points to are a parameter `β`:
    they differ between the two ends of a codec.
-/

namespace ZAF

/-! ### Types and values -/

/-- The smart pointers of the standard library. Only one of them can be copied. -/
inductive SmartPtr where
  | unique_ptr
  | shared_ptr
  deriving DecidableEq, Repr

/-- The containers that keep the order of their items. -/
inductive Sequence where
  | vector
  | deque
  | list
  deriving DecidableEq, Repr

mutual

inductive Ty where
  /-- `std::is_pod_v` and no pointer, with its `sizeof`. It can be copied and assigned. -/
  | pod (size : Nat)
  | string
  /-- `std::vector<bool>` -/
  | bits
  | local_actor_handle
  | actor_info
  /-- `T*` -/
  | pointer (t : Ty)
  /-- `std::unique_ptr<T>` and `std::shared_ptr<T>` -/
  | smart_ptr (ptr : SmartPtr) (t : Ty)
  | optional (t : Ty)
  | pair (a b : Ty)
  /-- `std::tuple<>` -/
  | empty_tuple
  | tuple (t : Ty) (ts : Pack)
  | sequence (seq : Sequence) (t : Ty)
  /-- `std::set` and `std::unordered_set`; `c` stands for the comparator or the
      hash. -/
  | set (c : Nat) (t : Ty)
  /-- `std::map` and `std::unordered_map` -/
  | map (c : Nat) (k v : Ty)
  /-- `const T`, as the member of a pair or the target of a pointer. -/
  | const (t : Ty)
  /-- `std::unique_ptr<MessageBody>` -/
  | message_body

/-- The `ArgT ...` that are left. -/
inductive Pack where
  | nil
  | cons (t : Ty) (ts : Pack)

end

/-- What fits in the memory that a `size_t` can count. -/
abbrev Sized (α : Type) := { xs : List α // xs.length < 2 ^ 64 }

structure LocalActorHandle where
  local_actor_id : UInt32
  use_swsr_msg_delivery : Bool
  deriving DecidableEq, Repr

/-- The `actor` of a remote actor is the one at the other end of the url. -/
structure ActorInfo where
  actor : LocalActorHandle
  net_gate_url : Sized UInt8
  deriving DecidableEq

mutual

/-- The values of a type. -/
def Ty.Val (β : Type) : Ty → Type
  | .pod size => { bytes : List UInt8 // bytes.length = size }
  | .string => Sized UInt8
  | .bits => Sized Bool
  | .local_actor_handle => LocalActorHandle
  | .actor_info => ActorInfo
  | .pointer t => t.Val β
  | .smart_ptr _ t => Option (t.Val β)
  | .optional t => Option (t.Val β)
  | .pair a b => a.Val β × b.Val β
  -- one byte of storage, whose content means nothing
  | .empty_tuple => UInt8
  | .tuple t ts => t.Val β × ts.Val β
  | .sequence _ t => Sized (t.Val β)
  | .set _ t => Sized (t.Val β)
  | .map _ k v => Sized (k.Val β × v.Val β)
  | .const t => t.Val β
  | .message_body => Option β

def Pack.Val (β : Type) : Pack → Type
  | .nil => Unit
  | .cons t ts => t.Val β × ts.Val β

end

/-- The two ways to decode a value: `deserialize<T>(s)`, and `deserialize(s, t)` into a
    value-initialised `t`. -/
inductive Target where
  | returned | in_place
  deriving DecidableEq

/-! ### Equality -/

section equal

variable {β β' : Type} (R : β → β' → Prop)

mutual

/-- Two values are equal: pointers by what they point to, sets and maps as sets,
    bodies by `R`. -/
def Ty.Equal : (t : Ty) → t.Val β → t.Val β' → Prop
  | .pod _, x, y => x = y
  | .string, x, y => x = y
  | .bits, x, y => x = y
  | .local_actor_handle, x, y => x = y
  | .actor_info, x, y => x = y
  | .pointer t, x, y => t.Equal x y
  | .smart_ptr _ t, x, y => Option.Rel t.Equal x y
  | .optional t, x, y => Option.Rel t.Equal x y
  | .pair a b, x, y => a.Equal x.1 y.1 ∧ b.Equal x.2 y.2
  | .empty_tuple, _, _ => True
  | .tuple t ts, x, y => t.Equal x.1 y.1 ∧ ts.Equal x.2 y.2
  | .sequence _ t, x, y => List.Forall₂ t.Equal x.1 y.1
  | .set _ t, x, y => ∃ zs, List.Forall₂ t.Equal x.1 zs ∧ y.1.Perm zs
  | .map _ k v, x, y =>
    ∃ zs, List.Forall₂ (fun p q => k.Equal p.1 q.1 ∧ v.Equal p.2 q.2) x.1 zs ∧ y.1.Perm zs
  | .const t, x, y => t.Equal x y
  | .message_body, x, y => Option.Rel R x y

def Pack.Equal : (ts : Pack) → ts.Val β → ts.Val β' → Prop
  | .nil, _, _ => True
  | .cons t ts, x, y => t.Equal x.1 y.1 ∧ ts.Equal x.2 y.2

end

end equal
end ZAF
