import ZAF.Serialization.Codec

/-! # The parts of a value

    Whether a value survives its codec depends on its parts: on what they are and on
    where they stand, which decides how they are decoded and whether they are `const`
    when they are written. `Ty.Every` says that all parts of a value have a property.
-/

namespace ZAF

section parts

variable {β β' : Type} (bodies : BodyCodec β β') (containers : KeyedContainers)

/-- A property of the parts of values: how they are decoded, whether they are `const`
    when they are written, and what they are. -/
abbrev PartProperty (β : Type) := (t : Ty) → Target → (is_const : Bool) → t.Val β → Prop

mutual

/-- A value and all its parts have a property. -/
def Ty.Every (P : PartProperty β) : PartProperty β
  | .pod size, target, is_const, x => P (.pod size) target is_const x
  | .string, target, is_const, x => P .string target is_const x
  | .bits, target, is_const, x => P .bits target is_const x
  | .local_actor_handle, target, is_const, x => P .local_actor_handle target is_const x
  | .actor_info, target, is_const, x => P .actor_info target is_const x
  | .pointer t, target, is_const, x =>
    P (.pointer t) target is_const x ∧ t.Every P .in_place false x
  | .smart_ptr ptr t, target, is_const, x =>
    P (.smart_ptr ptr t) target is_const x ∧ ∀ y, x = some y → t.Every P .in_place false y
  | .optional t, target, is_const, x =>
    P (.optional t) target is_const x ∧ ∀ y, x = some y → t.Every P .returned true y
  | .pair a b, target, is_const, x =>
    P (.pair a b) target is_const x ∧ a.Every P .in_place true x.1 ∧ b.Every P .in_place true x.2
  | .empty_tuple, target, is_const, x => P .empty_tuple target is_const x
  | .tuple t ts, target, is_const, x =>
    P (.tuple t ts) target is_const x ∧ t.Every P .in_place true x.1 ∧ ts.Every P x.2
  | .sequence seq t, target, is_const, x =>
    P (.sequence seq t) target is_const x ∧ ∀ y ∈ x.1, t.Every P .returned is_const y
  | .set c t, target, is_const, x =>
    P (.set c t) target is_const x ∧ ∀ y ∈ x.1, t.Every P .returned true y
  | .map c k v, target, is_const, x =>
    P (.map c k v) target is_const x ∧
      ∀ y ∈ x.1, k.Every P .in_place true y.1 ∧ v.Every P .in_place true y.2
  | .const t, target, is_const, x =>
    P (.const t) target is_const x ∧ t.Every P .in_place true x
  | .message_body, target, is_const, x => P .message_body target is_const x

def Pack.Every (P : PartProperty β) : (ts : Pack) → ts.Val β → Prop
  | .nil, _ => True
  | .cons t ts, x => t.Every P .in_place true x.1 ∧ ts.Every P x.2

end

/-- The keys of a set or a map are not equivalent to each other. -/
def KeysDiffer : PartProperty β
  | .set c t, _, _, x => x.1.Pairwise fun y z => containers.same_key c t y z = false
  | .map c k _, _, _, x => x.1.Pairwise fun y z => containers.same_key c k y.1 z.1 = false
  | _, _, _, _ => True

/-- A body fits. -/
def BodyFits : PartProperty β
  | .message_body, _, _, x => ∀ b, x = some b → bodies.fits b
  | _, _, _, _ => True

/-- A raw pointer is decoded to be returned. -/
def PointerReturned : PartProperty β
  | .pointer _, target, _, _ => target = .returned
  | _, _, _, _ => True

/-- A `std::tuple<>` is `const` when it is written. -/
def EmptyTupleConst : PartProperty β
  | .empty_tuple, _, is_const, _ => is_const = true
  | _, _, _, _ => True

/-- What it takes for the decoder to find the parts of a value. -/
structure PartAligned (t : Ty) (target : Target) (is_const : Bool) (x : t.Val β) : Prop where
  keys_differ : KeysDiffer containers t target is_const x
  body_fits : BodyFits bodies t target is_const x
  empty_tuple_const : EmptyTupleConst t target is_const x

/-- What the round trip of a value needs of its parts. -/
structure PartSound (t : Ty) (target : Target) (is_const : Bool) (x : t.Val β) : Prop
    extends PartAligned bodies containers t target is_const x where
  pointer_returned : PointerReturned t target is_const x

mutual

/-- Two properties of all parts. -/
theorem Ty.every_and {P Q R : PartProperty β}
    (h : ∀ t target is_const x, P t target is_const x → Q t target is_const x →
      R t target is_const x) : (t : Ty) → (target : Target) → (is_const : Bool) →
    (x : t.Val β) → t.Every P target is_const x → t.Every Q target is_const x →
    t.Every R target is_const x
  | .pod _, _, _, _, hp, hq => h _ _ _ _ hp hq
  | .string, _, _, _, hp, hq => h _ _ _ _ hp hq
  | .bits, _, _, _, hp, hq => h _ _ _ _ hp hq
  | .local_actor_handle, _, _, _, hp, hq => h _ _ _ _ hp hq
  | .actor_info, _, _, _, hp, hq => h _ _ _ _ hp hq
  | .pointer t, _, _, x, hp, hq => ⟨h _ _ _ _ hp.1 hq.1, t.every_and h _ _ x hp.2 hq.2⟩
  | .smart_ptr _ t, _, _, _, hp, hq =>
    ⟨h _ _ _ _ hp.1 hq.1, fun y hy => t.every_and h _ _ y (hp.2 y hy) (hq.2 y hy)⟩
  | .optional t, _, _, _, hp, hq =>
    ⟨h _ _ _ _ hp.1 hq.1, fun y hy => t.every_and h _ _ y (hp.2 y hy) (hq.2 y hy)⟩
  | .pair a b, _, _, x, hp, hq =>
    ⟨h _ _ _ _ hp.1 hq.1, a.every_and h _ _ x.1 hp.2.1 hq.2.1,
      b.every_and h _ _ x.2 hp.2.2 hq.2.2⟩
  | .empty_tuple, _, _, _, hp, hq => h _ _ _ _ hp hq
  | .tuple t ts, _, _, x, hp, hq =>
    ⟨h _ _ _ _ hp.1 hq.1, t.every_and h _ _ x.1 hp.2.1 hq.2.1,
      ts.every_and h x.2 hp.2.2 hq.2.2⟩
  | .sequence _ t, _, _, _, hp, hq =>
    ⟨h _ _ _ _ hp.1 hq.1, fun y hy => t.every_and h _ _ y (hp.2 y hy) (hq.2 y hy)⟩
  | .set _ t, _, _, _, hp, hq =>
    ⟨h _ _ _ _ hp.1 hq.1, fun y hy => t.every_and h _ _ y (hp.2 y hy) (hq.2 y hy)⟩
  | .map _ k v, _, _, _, hp, hq =>
    ⟨h _ _ _ _ hp.1 hq.1, fun y hy =>
      ⟨k.every_and h _ _ y.1 (hp.2 y hy).1 (hq.2 y hy).1,
        v.every_and h _ _ y.2 (hp.2 y hy).2 (hq.2 y hy).2⟩⟩
  | .const t, _, _, x, hp, hq => ⟨h _ _ _ _ hp.1 hq.1, t.every_and h _ _ x hp.2 hq.2⟩
  | .message_body, _, _, _, hp, hq => h _ _ _ _ hp hq

theorem Pack.every_and {P Q R : PartProperty β}
    (h : ∀ t target is_const x, P t target is_const x → Q t target is_const x →
      R t target is_const x) : (ts : Pack) → (x : ts.Val β) → ts.Every P x → ts.Every Q x →
    ts.Every R x
  | .nil, _, _, _ => trivial
  | .cons t ts, x, hp, hq =>
    ⟨t.every_and h _ _ x.1 hp.1 hq.1, ts.every_and h x.2 hp.2 hq.2⟩

end

/-- Alignment and the condition on the pointers come to soundness. -/
theorem Ty.every_sound {t : Ty} {target : Target} {is_const : Bool} {x : t.Val β}
    (haligned : t.Every (PartAligned bodies containers) target is_const x)
    (hreturned : t.Every PointerReturned target is_const x) :
    t.Every (PartSound bodies containers) target is_const x :=
  t.every_and (fun _ _ _ _ ha hr => ⟨ha, hr⟩) _ _ x haligned hreturned

end parts
end ZAF
