import ZAF.Serialization.Types

/-! # What the traits accept

    `traits::all_serializable<T>` asks whether there is an overload of `serialize` and one
    of `deserialize` for `T`. It looks at signatures. What the bodies do is not part of
    the answer: one may not compile for `T`, and the one for the containers throws for a
    container that it cannot put an item into.

    A `Shape` is a type as the traits see it. `Shape.erase` forgets how it is decoded.
-/

namespace ZAF

/-! ### Types -/

mutual

inductive Shape where
  | pod (size : Nat)
  | string
  | bits
  | local_actor_handle
  | actor_info
  /-- A type without overloads, such as `Actor`. -/
  | other
  | pointer (t : Shape)
  | smart_ptr (ptr : SmartPtr) (t : Shape)
  | count_pointer (t : Shape)
  | optional (t : Shape)
  | pair (a b : Shape)
  | empty_tuple
  | tuple (t : Shape) (ts : ShapePack)
  | sequence (seq : Sequence) (t : Shape)
  | set (c : Nat) (t : Shape)
  | map (c : Nat) (k v : Shape)
  /-- `std::array<T, n + 1>` of a `T` that is no POD. -/
  | array (n : Nat) (t : Shape)
  /-- What can be iterated over and has a `size`, but neither `emplace_back` nor `emplace`
      nor `insert`: `std::string_view`, `std::initializer_list`, `std::span`. -/
  | unfillable (t : Shape)
  /-- The same without a `size`. -/
  | forward_list (t : Shape)
  /-- `const T`, as a member, as the target of a pointer, or in a `std::optional`. -/
  | const (t : Shape)

inductive ShapePack where
  | nil
  | cons (t : Shape) (ts : ShapePack)

end

mutual

/-- The type with the same values and the same `serialize`. -/
def Shape.erase : Shape → Ty
  | .pod size => .pod size
  | .string => .string
  | .bits => .bits
  | .local_actor_handle => .local_actor_handle
  | .actor_info => .actor_info
  | .other => .pod 0
  | .pointer t => .pointer t.erase
  | .smart_ptr ptr t => .smart_ptr ptr t.erase
  | .count_pointer t => .smart_ptr .shared_ptr t.erase
  | .optional t => .optional t.erase
  | .pair a b => .pair a.erase b.erase
  | .empty_tuple => .empty_tuple
  | .tuple t ts => .tuple t.erase ts.erase
  | .sequence seq t => .sequence seq t.erase
  | .array _ t | .unfillable t | .forward_list t => .sequence .list t.erase
  | .set c t => .set c t.erase
  | .map c k v => .map c k.erase v.erase
  | .const t => .const t.erase

def ShapePack.erase : ShapePack → Pack
  | .nil => .nil
  | .cons t ts => .cons t.erase ts.erase

end

abbrev Shape.Val (s : Shape) : Type := s.erase.Val Empty

abbrev ShapePack.Val (ts : ShapePack) : Type := ts.erase.Val Empty

/-! ### The traits -/

/-- `traits::is_loadable<T>`, for a value to be returned, and
    `traits::is_inplace_loadable<T>`. Both look at `T` without its `const`. -/
def Shape.loads : Shape → Target → Bool
  | .pod _, _ | .string, _ | .bits, _ | .local_actor_handle, _ | .actor_info, _ => true
  | .other, _ => false
  | .pointer t, .returned => t.loads .in_place
  | .pointer t, .in_place => t.loads .returned
  -- `is_loadable<T*>`
  | .smart_ptr _ t, _ | .count_pointer t, _ => t.loads .in_place
  | .optional t, _ => t.loads .returned
  | .pair a b, _ => a.loads .returned && b.loads .returned
  -- this overload asks for nothing
  | .empty_tuple, _ | .tuple _ _, _ => true
  | .sequence _ t, _ | .set _ t, _ => t.loads .returned
  | .array _ t, _ | .unfillable t, _ | .forward_list t, _ => t.loads .returned
  | .map _ k v, _ => k.loads .returned && v.loads .returned
  | .const t, target => t.loads target

mutual

/-- `traits::is_savable<T>` -/
def Shape.is_savable : Shape → Bool
  | .pod _ | .string | .bits | .local_actor_handle | .actor_info => true
  | .other => false
  | .pointer t | .smart_ptr _ t | .count_pointer t | .optional t => t.is_savable
  | .pair a b => a.is_savable && b.is_savable
  | .empty_tuple => true
  | .tuple t ts => (t.is_savable && t.loads .returned) && ts.all_serializable
  | .sequence _ t | .set _ t | .array _ t | .unfillable t | .forward_list t => t.is_savable
  | .map _ k v => k.is_savable && v.is_savable
  | .const t => t.is_savable

/-- `traits::all_serializable<ArgT ...>` -/
def ShapePack.all_serializable : ShapePack → Bool
  | .nil => true
  | .cons t ts => (t.is_savable && t.loads .returned) && ts.all_serializable

end

/-- `traits::all_serializable<T>` -/
def Shape.all_serializable (s : Shape) : Bool := s.is_savable && s.loads .returned

example : (Shape.count_pointer (.pod 4)).all_serializable = true := rfl

example : (Shape.tuple .other .nil).all_serializable = false := rfl

/-! ### Which bodies compile -/

mutual

/-- Do the bodies that `serialize` of a value calls compile? -/
def Shape.save_compiles : Shape → Bool
  | .pod _ | .string | .bits | .local_actor_handle | .actor_info | .other | .empty_tuple => true
  | .pointer t | .smart_ptr _ t | .count_pointer t | .optional t | .const t => t.save_compiles
  | .pair a b => a.save_compiles && b.save_compiles
  | .tuple t ts => t.save_compiles && ts.save_compiles
  | .sequence _ t | .set _ t | .array _ t | .unfillable t => t.save_compiles
  | .map _ k v => k.save_compiles && v.save_compiles
  -- `i.size()`
  | .forward_list _ => false

def ShapePack.save_compiles : ShapePack → Bool
  | .nil => true
  | .cons t ts => t.save_compiles && ts.save_compiles

end

mutual

/-- Do the values that make up a value have a property? `p` knows some types. -/
def Shape.each (p : Shape → Option Bool) : Shape → Bool
  | .pod size => (p (.pod size)).getD true
  | .string => (p .string).getD true
  | .bits => (p .bits).getD true
  | .local_actor_handle => (p .local_actor_handle).getD true
  | .actor_info => (p .actor_info).getD true
  | .other => (p .other).getD true
  | .pointer t => (p (.pointer t)).getD true
  | .smart_ptr ptr t => (p (.smart_ptr ptr t)).getD true
  | .count_pointer t => (p (.count_pointer t)).getD true
  | .optional t => (p (.optional t)).getD (t.each p)
  | .pair a b => (p (.pair a b)).getD (a.each p && b.each p)
  | .empty_tuple => (p .empty_tuple).getD true
  | .tuple t ts => (p (.tuple t ts)).getD (t.each p && ts.each p)
  | .sequence seq t => (p (.sequence seq t)).getD (t.each p)
  | .set c t => (p (.set c t)).getD (t.each p)
  | .map c k v => (p (.map c k v)).getD (k.each p && v.each p)
  | .array n t => (p (.array n t)).getD (t.each p)
  | .unfillable t => (p (.unfillable t)).getD true
  | .forward_list t => (p (.forward_list t)).getD (t.each p)
  | .const t => (p (.const t)).getD (t.each p)

def ShapePack.each (p : Shape → Option Bool) : ShapePack → Bool
  | .nil => true
  | .cons t ts => t.each p && ts.each p

end

/-- Does copying compile? -/
def Shape.copyable (s : Shape) : Bool :=
  s.each fun
    | .smart_ptr ptr _ => some (ptr == .shared_ptr)
    | _ => none

/-- `std::is_copy_constructible_v<T>`: a container does not look at its items. -/
def Shape.is_copy_constructible (s : Shape) : Bool :=
  s.each fun
    | .smart_ptr ptr _ => some (ptr == .shared_ptr)
    | .sequence _ _ | .set _ _ | .map _ _ _ | .forward_list _ => some true
    | _ => none

/-- Does moving compile, as for `return t`? A container gives its memory away, a `const`
    member is copied. -/
def Shape.movable (s : Shape) : Bool :=
  s.each fun
    | .sequence _ _ | .set _ _ | .map _ _ _ | .forward_list _ => some true
    | .const t => some t.copyable
    | _ => none

/-- Is there an assignment from a temporary, as far as this can be moved? -/
def Shape.assignable (s : Shape) : Bool :=
  s.each fun
    | .sequence _ _ | .set _ _ | .map _ _ _ | .forward_list _ => some true
    | .const _ => some false
    | _ => none

/-- Is the copy constructor `noexcept`? -/
def Shape.copy_noexcept (s : Shape) : Bool :=
  s.each fun
    | .string | .bits | .actor_info | .count_pointer _ => some false
    | .sequence _ _ | .set _ _ | .map _ _ _ | .forward_list _ => some false
    | _ => none

/-- What the standard leaves open. -/
structure StandardLibrary where
  /-- Is the move constructor of a container `noexcept`? The one of `std::vector` is. -/
  move_noexcept : Shape → Bool

/-- One whose containers all move without throwing. -/
def nothrow_library : StandardLibrary where
  move_noexcept _ := true

section compiles

variable (std : StandardLibrary)

/-- `std::is_nothrow_move_constructible_v<T>` -/
def Shape.move_noexcept (s : Shape) : Bool :=
  s.each fun
    | .sequence .vector _ => some true
    | .sequence seq t => some (std.move_noexcept (.sequence seq t))
    | .set c t => some (std.move_noexcept (.set c t))
    | .map c k v => some (std.move_noexcept (.map c k v))
    | .forward_list t => some (std.move_noexcept (.forward_list t))
    | .count_pointer _ => some false
    | .const t => some t.copy_noexcept
    | _ => none

/-- Does it compile that a container of the type grows? A `std::vector` copies its items if
    their moves may throw and they look as if they could be copied. -/
def Shape.grows (t : Shape) : Sequence → Bool
  | .vector => (t.move_noexcept std || !t.is_copy_constructible) || t.copyable
  | .deque => true
  | .list => true

mutual

/-- Does `deserialize(s, t)` compile, with the bodies that it calls? -/
def Shape.into_compiles : Shape → Bool
  | .pod _ | .string | .bits | .local_actor_handle | .actor_info | .other | .empty_tuple => true
  | .pointer t | .smart_ptr _ t => t.into_compiles
  -- `ptr` in the body is the `T*`, to which no `CountPointer<T>` can be assigned
  | .count_pointer _ => false
  -- `o = std::move(s.read<T>())`
  | .optional t => t.into_compiles && (t.movable && t.assignable)
  | .pair a b => a.into_compiles && b.into_compiles
  | .tuple t ts => t.into_compiles && ts.into_compiles
  | .sequence seq t => t.into_compiles && (t.movable && t.grows std seq)
  | .set _ t => t.into_compiles && t.movable
  | .map _ k v => (k.into_compiles && v.into_compiles) && (Shape.pair (.const k) v).movable
  -- all that is left of the loop is the `throw`
  | .array _ _ | .unfillable _ | .forward_list _ => true
  | .const t => t.into_compiles

def ShapePack.into_compiles : ShapePack → Bool
  | .nil => true
  | .cons t ts => t.into_compiles && ts.into_compiles

end

/-- Do the bodies that `deserialize` of a value calls compile? -/
def Shape.load_compiles (s : Shape) : Target → Bool
  | .returned => s.into_compiles std && s.movable
  | .in_place => s.into_compiles std

/-- `std::optional<std::tuple<std::pair<const int, int>, int>>` cannot be assigned to. -/
example : (Shape.optional
    (.tuple (.pair (.const (.pod 4)) (.pod 4)) (.cons (.pod 4) .nil))).into_compiles std =
    false := rfl

/-- The keys of a map may be in a `std::shared_ptr`, but not in a `std::unique_ptr`. -/
example (ptr : SmartPtr) : (Shape.map 0 (.smart_ptr ptr (.pod 4)) (.pod 4)).into_compiles std =
    (ptr == .shared_ptr) := by cases ptr <;> rfl

end compiles

/-! ### Types with a codec -/

mutual

/-- A type with a codec, as the traits see it. -/
def Ty.shape : Ty → Shape
  | .pod size => .pod size
  | .string => .string
  | .bits => .bits
  | .local_actor_handle => .local_actor_handle
  | .actor_info => .actor_info
  | .pointer t => .pointer t.shape
  | .smart_ptr ptr t => .smart_ptr ptr t.shape
  | .optional t => .optional t.shape
  | .pair a b => .pair a.shape b.shape
  | .empty_tuple => .empty_tuple
  | .tuple t ts => .tuple t.shape ts.shape
  | .sequence seq t => .sequence seq t.shape
  | .set c t => .set c t.shape
  | .map c k v => .map c k.shape v.shape
  | .const t => .const t.shape
  -- a `std::unique_ptr` to a class whose codec is not the one of its members
  | .message_body => .smart_ptr .unique_ptr .other

def Pack.shape : Pack → ShapePack
  | .nil => .nil
  | .cons t ts => .cons t.shape ts.shape

end

end ZAF
