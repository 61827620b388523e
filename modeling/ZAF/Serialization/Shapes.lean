import ZAF.Serialization.Failures

/-! # Decoding what the traits accept

    The overload of the containers is there for all that can be iterated over. A container
    that it cannot put an item into is decoded as long as it has none.
-/

namespace ZAF

open Wire

/-! ### Deserialization -/

def no_items {α : Type} : Sized α := ⟨[], Nat.two_pow_pos 64⟩

mutual

/-- A value-initialised object; `none` for one with a null pointer in it, which is not
    among the values. -/
def Shape.initial : (s : Shape) → Option s.Val
  | .pod size => some ⟨List.replicate size 0, List.length_replicate⟩
  | .string => some no_items
  | .bits => some no_items
  | .local_actor_handle => some ⟨0, false⟩
  | .actor_info => some ⟨⟨0, false⟩, no_items⟩
  | .other => none
  | .pointer _ => none
  | .smart_ptr _ _ => some none
  | .count_pointer _ => some none
  | .optional _ => some none
  | .pair a b => do
    let x ← a.initial
    let y ← b.initial
    some (x, y)
  | .empty_tuple => some (0 : UInt8)
  | .tuple t ts => do
    let x ← t.initial
    let xs ← ts.initial
    some (x, xs)
  | .sequence _ _ => some no_items
  | .set _ _ => some no_items
  | .map _ _ _ => some no_items
  | .array n t => do
    let x ← t.initial
    if h : n + 1 < 2 ^ 64 then some ⟨List.replicate (n + 1) x, by simpa using h⟩ else none
  | .unfillable _ => some no_items
  | .forward_list _ => some no_items
  | .const t => t.initial

def ShapePack.initial : (ts : ShapePack) → Option ts.Val
  | .nil => some ()
  | .cons t ts => do
    let x ← t.initial
    let xs ← ts.initial
    some (x, xs)

end

/-- The containers that no item can be put into: the first one throws. -/
def deserialize_no_items {α : Type} (it : Option α) : Reader α := do
  let size ← read_uint 8
  if size = 0 then StateT.lift it else failure

section deserialize

variable (containers : KeyedContainers)

mutual

/-- `deserialize<T>(s)` and `deserialize(s, t)`, of the types for which they compile. -/
def Shape.deserialize : (s : Shape) → Target → Reader s.Val
  | .pod size, _ => deserialize_pod size
  | .string, _ => deserialize_string
  | .bits, _ => deserialize_items read_bool fun xs x => xs ++ [x]
  | .local_actor_handle, _ => deserialize_handle
  | .actor_info, _ => do
    let url ← deserialize_string
    let actor ← deserialize_handle
    pure ⟨actor, url⟩
  -- there is none
  | .other, _ => failure
  | .pointer t, .returned => t.deserialize .in_place
  | .pointer _, .in_place => failure
  | .smart_ptr _ t, _ => do
    if ← read_bool then some <$> t.deserialize .in_place else pure none
  -- does not compile
  | .count_pointer _, _ => failure
  | .optional t, _ => do
    if ← read_bool then some <$> t.deserialize .returned else pure none
  | .pair a b, _ => do
    let x ← a.deserialize .in_place
    let y ← b.deserialize .in_place
    pure (x, y)
  | .empty_tuple, _ => pure (0 : UInt8)
  | .tuple t ts, _ => do
    let x ← t.deserialize .in_place
    let xs ← ts.deserialize
    pure (x, xs)
  | .sequence _ t, _ => deserialize_items (t.deserialize .returned) fun xs x => xs ++ [x]
  | .set c t, _ =>
    deserialize_items (t.deserialize .returned)
      (emplace (containers.same_key c t.erase) (containers.position c t.erase))
  | .map c k v, _ =>
    deserialize_items (do
        let x ← k.deserialize .in_place
        let y ← v.deserialize .in_place
        pure (x, y))
      (emplace (fun x y => containers.same_key c k.erase x.1 y.1)
        (fun xs x => containers.position c k.erase (xs.map Prod.fst) x.1))
  | .array n t, _ => deserialize_no_items (Shape.array n t).initial
  | .unfillable t, _ => deserialize_no_items (Shape.unfillable t).initial
  | .forward_list t, _ => deserialize_no_items (Shape.forward_list t).initial
  | .const t, _ => t.deserialize .in_place

/-- `s.read(std::get<I>(t) ...)` -/
def ShapePack.deserialize : (ts : ShapePack) → Reader ts.Val
  | .nil => pure ()
  | .cons t ts => do
    let x ← t.deserialize .in_place
    let xs ← ts.deserialize
    pure (x, xs)

end

end deserialize

end ZAF
