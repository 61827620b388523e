import ZAF.Serialization.RoundTrip
import ZAF.Serialization.Traits

/-! # The values that do not survive the round trip

    `read<T>` does not compile for every type. Besides, two kinds of values are excepted
    from the round trip:

    * a raw pointer that is decoded into an object which exists: as a member of a pair
      or a tuple, or as what another pointer points to. The decoder writes through a
      null pointer;
    * a `std::tuple<>` that is written when it is not `const`: it leaves a byte that
      the decoder does not take, and all that comes behind it is shifted.
-/

namespace ZAF

open Wire

section failures

variable {β β' : Type} (bodies : BodyCodec β β') (containers : KeyedContainers)

/-! ### Writing through a null pointer -/

theorem fails_present {α : Type} {r : Reader α} {bytes : List UInt8} (h : r.Fails bytes) :
    (do if ← read_bool then some <$> r else pure none : Reader (Option α)).Fails
      (bool_bytes true ++ bytes) := by
  apply (takes_bool true).bind_fails
  rintro b rfl
  exact h.map some

theorem fails_items {α ι : Type} {read : Reader α} {insert : List α → α → List α}
    {enc : ι → List UInt8} {rel : ι → α → Prop} {good : ι → Prop} (xs : Sized ι)
    (htakes : ∀ x ∈ xs.1, good x → read.Takes (enc x) (rel x))
    (hfails : ∀ x ∈ xs.1, ¬ good x → read.Fails (enc x)) (hbad : ¬ ∀ x ∈ xs.1, good x) :
    (deserialize_items read insert).Fails (size_bytes xs.1.length ++ xs.1.flatMap enc) := by
  apply (takes_size xs).bind_fails
  rintro n rfl
  apply Reader.Fails.bind_nil
  apply Reader.Fails.fold htakes hfails
  simpa using hbad

/-- What is read back, of an aligned value whose pointers are returned. -/
theorem Ty.aligned_takes {t : Ty} {target : Target} {is_const : Bool} {x : t.Val β}
    (ha : t.Every (PartAligned bodies containers) target is_const x)
    (hr : t.Every PointerReturned target is_const x) :
    (t.deserialize bodies.deserialize containers target).Takes (t.bytes bodies is_const x)
      (t.Equal bodies.same x) :=
  t.deserialize_takes bodies containers target is_const x (Ty.every_sound bodies containers ha hr)

mutual

/-- **A raw pointer that is not returned is fatal**: the decoder gets to it, since all
    that comes before is read back. -/
theorem Ty.deserialize_fails : (t : Ty) → (target : Target) → (is_const : Bool) →
    (x : t.Val β) → t.Every (PartAligned bodies containers) target is_const x →
    ¬ t.Every PointerReturned target is_const x →
    (t.deserialize bodies.deserialize containers target).Fails (t.bytes bodies is_const x)
  | .pod _, _, _, _, _, hr => absurd trivial hr
  | .string, _, _, _, _, hr => absurd trivial hr
  | .bits, _, _, _, _, hr => absurd trivial hr
  | .local_actor_handle, _, _, _, _, hr => absurd trivial hr
  | .actor_info, _, _, _, _, hr => absurd trivial hr
  | .pointer t, .returned, _, x, ha, hr =>
    t.deserialize_fails .in_place false x ha.2 fun h => hr ⟨rfl, h⟩
  | .pointer _, .in_place, _, _, _, _ => Reader.fails_failure _
  | .smart_ptr _ t, _, _, some x, ha, hr =>
    fails_present (t.deserialize_fails .in_place false x (ha.2 x rfl) fun h =>
      hr ⟨trivial, fun _ hy => Option.some.inj hy ▸ h⟩)
  | .smart_ptr _ _, _, _, none, _, hr => absurd ⟨trivial, fun _ hy => nomatch hy⟩ hr
  | .optional t, _, _, some x, ha, hr =>
    fails_present (t.deserialize_fails .returned true x (ha.2 x rfl) fun h =>
      hr ⟨trivial, fun _ hy => Option.some.inj hy ▸ h⟩)
  | .optional _, _, _, none, _, hr => absurd ⟨trivial, fun _ hy => nomatch hy⟩ hr
  | .pair a b, _, _, x, ha, hr => by
    by_cases h : a.Every PointerReturned .in_place true x.1
    · exact Reader.Takes.two_fails (Ty.aligned_takes bodies containers ha.2.1 h)
        (b.deserialize_fails .in_place true x.2 ha.2.2 fun hb => hr ⟨trivial, h, hb⟩)
    · exact Reader.Fails.two (a.deserialize_fails .in_place true x.1 ha.2.1 h) _ _
  | .empty_tuple, _, _, _, _, hr => absurd trivial hr
  | .tuple t ts, _, _, x, ha, hr => by
    by_cases h : t.Every PointerReturned .in_place true x.1
    · exact Reader.Takes.two_fails (Ty.aligned_takes bodies containers ha.2.1 h)
        (ts.deserialize_fails x.2 ha.2.2 fun hts => hr ⟨trivial, h, hts⟩)
    · exact Reader.Fails.two (t.deserialize_fails .in_place true x.1 ha.2.1 h) _ _
  | .sequence _ t, _, is_const, x, ha, hr =>
    fails_items x (fun y hy h => Ty.aligned_takes bodies containers (ha.2 y hy) h)
      (fun y hy h => t.deserialize_fails .returned is_const y (ha.2 y hy) h)
      fun h => hr ⟨trivial, h⟩
  | .set _ t, _, _, x, ha, hr =>
    fails_items x (fun y hy h => Ty.aligned_takes bodies containers (ha.2 y hy) h)
      (fun y hy h => t.deserialize_fails .returned true y (ha.2 y hy) h)
      fun h => hr ⟨trivial, h⟩
  | .map _ k v, _, _, x, ha, hr =>
    fails_items x
      (fun y hy h => Reader.Takes.two (Ty.aligned_takes bodies containers (ha.2 y hy).1 h.1)
        (Ty.aligned_takes bodies containers (ha.2 y hy).2 h.2))
      (fun y hy h => by
        by_cases hk : k.Every PointerReturned .in_place true y.1
        · exact Reader.Takes.two_fails (Ty.aligned_takes bodies containers (ha.2 y hy).1 hk)
            (v.deserialize_fails .in_place true y.2 (ha.2 y hy).2 fun hv => h ⟨hk, hv⟩)
        · exact Reader.Fails.two (k.deserialize_fails .in_place true y.1 (ha.2 y hy).1 hk) _ _)
      fun h => hr ⟨trivial, h⟩
  | .const t, _, _, x, ha, hr =>
    t.deserialize_fails .in_place true x ha.2 fun h => hr ⟨trivial, h⟩
  | .message_body, _, _, _, _, hr => absurd trivial hr

theorem Pack.deserialize_fails : (ts : Pack) → (x : ts.Val β) →
    ts.Every (PartAligned bodies containers) x → ¬ ts.Every PointerReturned x →
    (ts.deserialize bodies.deserialize containers).Fails (ts.bytes bodies x)
  | .nil, _, _, hr => absurd trivial hr
  | .cons t ts, x, ha, hr => by
    -- the first component with such a pointer fails, all before it are read
    by_cases h : t.Every PointerReturned .in_place true x.1
    · exact Reader.Takes.two_fails (Ty.aligned_takes bodies containers ha.1 h)
        (ts.deserialize_fails x.2 ha.2 fun hts => hr ⟨h, hts⟩)
    · exact Reader.Fails.two (t.deserialize_fails .in_place true x.1 ha.1 h) _ _

end

/-! ### What a value has taken -/

mutual

/-- The number of bytes that a decoded value has taken. -/
def Ty.width : (t : Ty) → t.Val β' → Nat
  | .pod size, _ => size
  | .string, x => 8 + x.1.length
  | .bits, x => 8 + x.1.length
  | .local_actor_handle, _ => 5
  | .actor_info, x => 8 + x.net_gate_url.1.length + 5
  | .pointer t, x => t.width x
  | .smart_ptr _ t, some x => 1 + t.width x
  | .smart_ptr _ _, none => 1
  | .optional t, some x => 1 + t.width x
  | .optional _, none => 1
  | .pair a b, x => a.width x.1 + b.width x.2
  | .empty_tuple, _ => 0
  | .tuple t ts, x => t.width x.1 + ts.width x.2
  | .sequence _ t, x => 8 + (x.1.map t.width).sum
  | .set _ t, x => 8 + (x.1.map t.width).sum
  | .map _ k v, x => 8 + (x.1.map fun y => k.width y.1 + v.width y.2).sum
  | .const t, x => t.width x
  | .message_body, some b => 1 + bodies.width b
  | .message_body, none => 1

def Pack.width : (ts : Pack) → ts.Val β' → Nat
  | .nil, _ => 0
  | .cons t ts, x => t.width x.1 + ts.width x.2

end

mutual

/-- There is no set and no map in the type, so a decoded value has all that was read. -/
def Ty.Keyless : Ty → Prop
  | .pod _ | .string | .bits | .local_actor_handle | .actor_info => True
  | .pointer t | .smart_ptr _ t | .optional t | .sequence _ t | .const t => t.Keyless
  | .pair a b => a.Keyless ∧ b.Keyless
  | .empty_tuple => True
  | .tuple t ts => t.Keyless ∧ ts.Keyless
  | .set _ _ | .map _ _ _ => False
  | .message_body => True

def Pack.Keyless : Pack → Prop
  | .nil => True
  | .cons t ts => t.Keyless ∧ ts.Keyless

end

theorem consumes_chars (n : Nat) : (read_chars n).Consumes fun bytes k => k = bytes.length := by
  intro s bytes rest h
  obtain ⟨hlen, hs⟩ := read_bytes_length h
  exact ⟨n, hs.symm, hlen.symm⟩

theorem consumes_uint (n : Nat) : (read_uint n).Consumes fun _ k => k = n := by
  intro s v rest h
  exact ⟨n, (read_pod_length h).symm, rfl⟩

theorem consumes_bool : read_bool.Consumes fun _ k => k = 1 :=
  (consumes_uint 1).map fun _ _ h => h

theorem consumes_pod (size : Nat) : (deserialize_pod size).Consumes fun _ k => k = size := by
  intro s x rest h
  rw [deserialize_pod] at h
  split at h
  · next hle =>
    cases h
    exact ⟨size, by rw [List.length_drop]; omega, rfl⟩
  · cases h

theorem consumes_sized {α : Type} {xs : List α} {P : Sized α → Nat → Prop}
    (hP : ∀ h, P ⟨xs, h⟩ 0) : (sized xs).Consumes P := by
  rw [sized]
  split
  · next h => exact Reader.consumes_pure (hP h)
  · intro s x rest h
    cases h

theorem consumes_string : deserialize_string.Consumes fun x k => k = 8 + x.1.length := by
  apply (consumes_uint 8).bind
  rintro n k rfl
  apply (consumes_chars n).bind
  rintro bytes k rfl
  exact consumes_sized fun _ => rfl

theorem consumes_handle : deserialize_handle.Consumes fun _ k => k = 5 := by
  apply (consumes_uint 4).bind
  rintro id k rfl
  apply consumes_bool.bind
  rintro b k rfl
  exact Reader.consumes_pure rfl

/-- What holds of sums when it holds of the summands: `=` and `≤`. -/
structure SumClosed (R : Nat → Nat → Prop) : Prop where
  refl : ∀ n, R n n
  add : ∀ {a b c d}, R a b → R c d → R (a + c) (b + d)

theorem SumClosed.eq : SumClosed (· = ·) := ⟨fun _ => rfl, fun h h' => h ▸ h' ▸ rfl⟩

theorem SumClosed.le : SumClosed (· ≤ ·) := ⟨Nat.le_refl, Nat.add_le_add⟩

section sums

variable {R : Nat → Nat → Prop} (hR : SumClosed R)
include hR

theorem consumes_sequence {α : Type} {read : Reader α} {width : α → Nat}
    (h : read.Consumes fun x k => R k (width x)) :
    (deserialize_items read fun xs x => xs ++ [x]).Consumes
      fun xs k => R k (8 + (xs.1.map width).sum) := by
  apply (consumes_uint 8).bind
  rintro n k rfl
  have hstep (acc : List α) (k : Nat) (x : α) (m : Nat) (hacc : R k (acc.map width).sum)
      (hx : R m (width x)) : R (k + m) ((acc ++ [x]).map width).sum := by
    rw [List.map_append, List.sum_append, List.map_singleton, List.sum_singleton]
    exact hR.add hacc hx
  have hfold := h.fold (I := fun (xs : List α) k => R k (xs.map width).sum) hstep n
    (show R 0 (([] : List α).map width).sum from hR.refl 0)
  apply hfold.bind
  intro xs k hk
  apply consumes_sized
  intro _
  rw [Nat.zero_add] at hk
  exact hR.add (hR.refl 8) hk

theorem consumes_present {α : Type} {r : Reader α} {width : α → Nat}
    (h : r.Consumes fun x k => R k (width x)) :
    (do if ← read_bool then some <$> r else pure none).Consumes
      fun x k => R k (x.elim 1 (1 + width ·)) := by
  apply consumes_bool.bind
  rintro b k rfl
  cases b with
  | true => exact h.map fun _ _ hm => hR.add (hR.refl 1) hm
  | false => exact Reader.consumes_pure (hR.refl 1)

theorem consumes_two {α γ : Type} {r : Reader α} {r' : Reader γ} {width : α → Nat}
    {width' : γ → Nat} (h : r.Consumes fun x k => R k (width x))
    (h' : r'.Consumes fun y k => R k (width' y)) :
    (do let x ← r; let y ← r'; pure (x, y)).Consumes
      fun p k => R k (width p.1 + width' p.2) := by
  apply h.bind
  intro x k hx
  apply h'.bind
  intro y m hy
  exact Reader.consumes_pure (hR.add hx hy)

end sums

mutual

theorem Ty.deserialize_consumes : (t : Ty) → (target : Target) → t.Keyless →
    (t.deserialize bodies.deserialize containers target).Consumes fun x k => k = t.width bodies x
  | .pod size, _, _ => consumes_pod size
  | .string, _, _ => consumes_string
  | .bits, _, _ => by
    apply (consumes_sequence .eq consumes_bool).imp
    rintro x k rfl
    simp [Ty.width]
  | .local_actor_handle, _, _ => consumes_handle
  | .actor_info, _, _ => by
    apply consumes_string.bind
    rintro url k rfl
    apply consumes_handle.bind
    rintro actor k rfl
    exact Reader.consumes_pure rfl
  | .pointer t, .returned, h => t.deserialize_consumes .in_place h
  -- it is written through before it points anywhere
  | .pointer _, .in_place, _ => fun _ _ _ hs => nomatch hs
  | .smart_ptr _ t, _, h => by
    apply (consumes_present .eq (t.deserialize_consumes .in_place h)).imp
    rintro (_ | x) k rfl <;> rfl
  | .optional t, _, h => by
    apply (consumes_present .eq (t.deserialize_consumes .returned h)).imp
    rintro (_ | x) k rfl <;> rfl
  | .pair a b, _, h =>
    consumes_two .eq (a.deserialize_consumes .in_place h.1) (b.deserialize_consumes .in_place h.2)
  | .empty_tuple, _, _ => Reader.consumes_pure rfl
  | .tuple t ts, _, h =>
    consumes_two .eq (t.deserialize_consumes .in_place h.1) (ts.deserialize_consumes h.2)
  | .sequence _ t, _, h => consumes_sequence .eq (t.deserialize_consumes .returned h)
  | .const t, _, h => t.deserialize_consumes .in_place h
  | .message_body, _, _ => by
    apply (consumes_present .eq bodies.consumes).imp
    rintro (_ | x) k rfl <;> rfl

theorem Pack.deserialize_consumes : (ts : Pack) → ts.Keyless →
    (ts.deserialize bodies.deserialize containers).Consumes fun x k => k = ts.width bodies x
  | .nil, _ => Reader.consumes_pure rfl
  | .cons t ts, h =>
    consumes_two .eq (t.deserialize_consumes .in_place h.1) (ts.deserialize_consumes h.2)

end

/-- The items of two lists, compared in size one by one. -/
theorem sum_le_length_flatMap {ι α : Type} {rel : ι → α → Prop} {enc : ι → List UInt8}
    {width : α → Nat} {good : ι → Prop}
    (h : ∀ x y, rel x y → width y ≤ (enc x).length ∧ (width y = (enc x).length → good x))
    {xs : List ι} {ys : List α} (hrel : List.Forall₂ rel xs ys) :
    (ys.map width).sum ≤ (xs.flatMap enc).length ∧
      ((ys.map width).sum = (xs.flatMap enc).length → ∀ x ∈ xs, good x) := by
  induction hrel with
  | nil => exact ⟨le_refl _, fun _ _ hx => nomatch hx⟩
  | @cons x y xs ys hxy _ ih =>
    obtain ⟨hle, hgood⟩ := h x y hxy
    obtain ⟨hles, hgoods⟩ := ih
    rw [List.map_cons, List.sum_cons, List.flatMap_cons, List.length_append]
    refine ⟨by omega, ?_⟩
    intro heq z hz
    rcases List.mem_cons.mp hz with rfl | hz
    · exact hgood (by omega)
    · exact hgoods (by omega) z hz

mutual

/-- **A value is as wide as its bytes only if every `std::tuple<>` in it was
    `const`.** -/
theorem Ty.width_le : (t : Ty) → (target : Target) → (is_const : Bool) → (x : t.Val β) →
    (y : t.Val β') → t.Keyless → t.Equal bodies.same x y →
    t.width bodies y ≤ (t.bytes bodies is_const x).length ∧
      (t.width bodies y = (t.bytes bodies is_const x).length →
        t.Every EmptyTupleConst target is_const x)
  | .pod size, _, _, x, y, _, _ => ⟨x.2.ge, fun _ => trivial⟩
  | .string, _, _, x, _, _, rfl => by
    simp [Ty.width, Ty.bytes, Ty.Every, EmptyTupleConst, size_bytes]
  | .bits, _, _, x, _, _, rfl => by
    simp [Ty.width, Ty.bytes, Ty.Every, EmptyTupleConst, size_bytes, bool_bytes,
      List.length_flatMap]
  | .local_actor_handle, _, _, x, _, _, _ => by
    simp [Ty.width, Ty.bytes, Ty.Every, EmptyTupleConst, handle_bytes, bool_bytes]
  | .actor_info, _, _, x, _, _, rfl => by
    simp [Ty.width, Ty.bytes, Ty.Every, EmptyTupleConst, handle_bytes, bool_bytes, size_bytes,
      Nat.add_assoc]
  | .pointer t, _, _, x, y, hk, h => by
    obtain ⟨hle, hgood⟩ := t.width_le .in_place false x y hk h
    exact ⟨hle, fun heq => ⟨trivial, hgood heq⟩⟩
  | .smart_ptr _ t, _, _, some x, some y, hk, .some h => by
    obtain ⟨hle, hgood⟩ := t.width_le .in_place false x y hk h
    simp only [Ty.width, Ty.bytes, bool_bytes, List.length_append, length_little_endian_bytes]
    refine ⟨by omega, fun heq => ⟨trivial, ?_⟩⟩
    rintro z ⟨⟩
    exact hgood (by omega)
  | .smart_ptr _ t, _, _, none, none, _, _ => by
    simp [Ty.width, Ty.bytes, bool_bytes, Ty.Every, EmptyTupleConst]
  | .optional t, _, _, some x, some y, hk, .some h => by
    obtain ⟨hle, hgood⟩ := t.width_le .returned true x y hk h
    simp only [Ty.width, Ty.bytes, bool_bytes, List.length_append, length_little_endian_bytes]
    refine ⟨by omega, fun heq => ⟨trivial, ?_⟩⟩
    rintro z ⟨⟩
    exact hgood (by omega)
  | .optional t, _, _, none, none, _, _ => by
    simp [Ty.width, Ty.bytes, bool_bytes, Ty.Every, EmptyTupleConst]
  | .pair a b, _, _, x, y, hk, h => by
    obtain ⟨hle, hgood⟩ := a.width_le .in_place true x.1 y.1 hk.1 h.1
    obtain ⟨hle', hgood'⟩ := b.width_le .in_place true x.2 y.2 hk.2 h.2
    simp only [Ty.width, Ty.bytes, List.length_append]
    exact ⟨by omega, fun heq => ⟨trivial, hgood (by omega), hgood' (by omega)⟩⟩
  | .empty_tuple, _, true, _, _, _, _ => ⟨le_refl _, fun _ => rfl⟩
  -- what is written for it is not read
  | .empty_tuple, _, false, _, _, _, _ => ⟨Nat.zero_le _, fun heq => nomatch heq⟩
  | .tuple t ts, _, _, x, y, hk, h => by
    obtain ⟨hle, hgood⟩ := t.width_le .in_place true x.1 y.1 hk.1 h.1
    obtain ⟨hle', hgood'⟩ := ts.width_le x.2 y.2 hk.2 h.2
    simp only [Ty.width, Ty.bytes, List.length_append]
    exact ⟨by omega, fun heq => ⟨trivial, hgood (by omega), hgood' (by omega)⟩⟩
  | .sequence _ t, _, is_const, x, y, hk, h => by
    obtain ⟨hle, hgood⟩ := sum_le_length_flatMap
      (fun x y h => t.width_le .returned is_const x y hk h) h
    simp only [Ty.width, Ty.bytes, size_bytes, List.length_append, length_little_endian_bytes]
    exact ⟨by omega, fun heq => ⟨trivial, hgood (by omega)⟩⟩
  | .const t, _, _, x, y, hk, h => by
    obtain ⟨hle, hgood⟩ := t.width_le .in_place true x y hk h
    exact ⟨hle, fun heq => ⟨trivial, hgood heq⟩⟩
  | .message_body, _, _, some x, some y, _, .some h => by
    have hlen := (bodies.of_same x y h).2
    simp only [Ty.width, Ty.bytes, bool_bytes, List.length_append, length_little_endian_bytes,
      hlen, le_refl, true_and]
    exact fun _ => trivial
  | .message_body, _, _, none, none, _, _ => by
    simp [Ty.width, Ty.bytes, bool_bytes, Ty.Every, EmptyTupleConst]

theorem Pack.width_le : (ts : Pack) → (x : ts.Val β) → (y : ts.Val β') → ts.Keyless →
    ts.Equal bodies.same x y →
    ts.width bodies y ≤ (ts.bytes bodies x).length ∧
      (ts.width bodies y = (ts.bytes bodies x).length → ts.Every EmptyTupleConst x)
  | .nil, _, _, _, _ => ⟨le_refl _, fun _ => trivial⟩
  | .cons t ts, x, y, hk, h => by
    obtain ⟨hle, hgood⟩ := t.width_le .in_place true x.1 y.1 hk.1 h.1
    obtain ⟨hle', hgood'⟩ := ts.width_le x.2 y.2 hk.2 h.2
    simp only [Pack.width, Pack.bytes, List.length_append]
    exact ⟨by omega, fun heq => ⟨hgood (by omega), hgood' (by omega)⟩⟩

end

mutual

/-- The bodies in a value that equals a decoded one fit. -/
theorem Ty.fits_of_equal : (t : Ty) → (target : Target) → (is_const : Bool) → (x : t.Val β) →
    (y : t.Val β') → t.Equal bodies.same x y → t.Every (BodyFits bodies) target is_const x
  | .pod _, _, _, _, _, _ => trivial
  | .string, _, _, _, _, _ => trivial
  | .bits, _, _, _, _, _ => trivial
  | .local_actor_handle, _, _, _, _, _ => trivial
  | .actor_info, _, _, _, _, _ => trivial
  | .pointer t, _, _, x, y, h => ⟨trivial, t.fits_of_equal .in_place false x y h⟩
  | .smart_ptr _ t, _, _, some x, some y, .some h =>
    ⟨trivial, fun _ hz => Option.some.inj hz ▸ t.fits_of_equal .in_place false x y h⟩
  | .smart_ptr _ _, _, _, none, _, _ => ⟨trivial, fun _ hz => nomatch hz⟩
  | .optional t, _, _, some x, some y, .some h =>
    ⟨trivial, fun _ hz => Option.some.inj hz ▸ t.fits_of_equal .returned true x y h⟩
  | .optional _, _, _, none, _, _ => ⟨trivial, fun _ hz => nomatch hz⟩
  | .pair a b, _, _, x, y, h =>
    ⟨trivial, a.fits_of_equal .in_place true x.1 y.1 h.1,
      b.fits_of_equal .in_place true x.2 y.2 h.2⟩
  | .empty_tuple, _, _, _, _, _ => trivial
  | .tuple t ts, _, _, x, y, h =>
    ⟨trivial, t.fits_of_equal .in_place true x.1 y.1 h.1, ts.fits_of_equal x.2 y.2 h.2⟩
  | .sequence _ t, _, is_const, _, _, h =>
    ⟨trivial, fun x' hx' =>
      let ⟨y', _, h'⟩ := exists_mem_of_forall₂ h hx'
      t.fits_of_equal .returned is_const x' y' h'⟩
  | .set _ t, _, _, _, _, ⟨_, h, _⟩ =>
    ⟨trivial, fun x' hx' =>
      let ⟨y', _, h'⟩ := exists_mem_of_forall₂ h hx'
      t.fits_of_equal .returned true x' y' h'⟩
  | .map _ k v, _, _, _, _, ⟨_, h, _⟩ =>
    ⟨trivial, fun x' hx' =>
      let ⟨y', _, h'⟩ := exists_mem_of_forall₂ h hx'
      ⟨k.fits_of_equal .in_place true x'.1 y'.1 h'.1,
        v.fits_of_equal .in_place true x'.2 y'.2 h'.2⟩⟩
  | .const t, _, _, x, y, h => ⟨trivial, t.fits_of_equal .in_place true x y h⟩
  | .message_body, _, _, some _, some _, .some h =>
    fun _ hb => Option.some.inj hb ▸ (bodies.of_same _ _ h).1
  | .message_body, _, _, none, _, _ => fun _ hb => nomatch hb

theorem Pack.fits_of_equal : (ts : Pack) → (x : ts.Val β) → (y : ts.Val β') →
    ts.Equal bodies.same x y → ts.Every (BodyFits bodies) x
  | .nil, _, _, _ => trivial
  | .cons t ts, x, y, h =>
    ⟨t.fits_of_equal .in_place true x.1 y.1 h.1, ts.fits_of_equal x.2 y.2 h.2⟩

end

/-- Only sound values are read as equal ones, when every `std::tuple<>` is `const`. -/
theorem Ty.sound_of_equal {t : Ty} {target : Target} {is_const : Bool} {x : t.Val β}
    {y : t.Val β'} {rest rest' : List UInt8}
    (hkeys : t.Every (KeysDiffer containers) target is_const x)
    (hconst : t.Every EmptyTupleConst target is_const x)
    (hread : t.deserialize bodies.deserialize containers target
      (t.bytes bodies is_const x ++ rest) = some (y, rest'))
    (heq : t.Equal bodies.same x y) : t.Every (PartSound bodies containers) target is_const x := by
  have hfits := t.fits_of_equal bodies target is_const x y heq
  have haligned : t.Every (PartAligned bodies containers) target is_const x :=
    t.every_and (fun _ _ _ _ hkf hc => ⟨hkf.1, hkf.2, hc⟩) _ _ x
      (t.every_and (fun _ _ _ _ hk hf => And.intro hk hf) _ _ x hkeys hfits) hconst
  apply Ty.every_sound bodies containers haligned
  -- the parts are aligned, so only a raw pointer can be unsound, and this fails
  by_contra hnot
  have hfails := t.deserialize_fails bodies containers target is_const x haligned hnot rest
  rw [hread] at hfails
  cases hfails

/-- **Only sound values are read back**, as far as the type has no sets and maps or
    nothing is stray in the bytes. -/
theorem Ty.sound_of_read {t : Ty} {target : Target} {is_const : Bool} {x : t.Val β}
    {y : t.Val β'} {rest : List UInt8}
    (hkeys : t.Every (KeysDiffer containers) target is_const x)
    (hread : t.deserialize bodies.deserialize containers target
      (t.bytes bodies is_const x ++ rest) = some (y, rest))
    (heq : t.Equal bodies.same x y)
    (h : t.Keyless ∨ t.Every EmptyTupleConst target is_const x) :
    t.Every (PartSound bodies containers) target is_const x := by
  have hconst : t.Every EmptyTupleConst target is_const x := by
    rcases h with hkeyless | hconst
    · -- the reader has taken no more than the width, and it has taken everything
      obtain ⟨n, hn, hwidth⟩ :=
        t.deserialize_consumes bodies containers target hkeyless _ y rest hread
      rw [List.length_append] at hn
      exact (t.width_le bodies target is_const x y hkeyless heq).2 (by omega)
    · exact hconst
  exact Ty.sound_of_equal bodies containers hkeys hconst hread heq

end failures

/-! ### Values without bodies -/

def no_bodies : BodyCodec Empty Empty where
  serialize b := nomatch b
  bytes b := nomatch b
  appends b := nomatch b
  deserialize := failure
  same _ _ := False
  fits _ := True
  takes b := nomatch b
  width b := nomatch b
  consumes _ _ _ h := nomatch h
  of_same b := nomatch b

theorem no_bodies_fit (t : Ty) (target : Target) (is_const : Bool) (x : t.Val Empty) :
    BodyFits no_bodies t target is_const x := by
  cases t with
  | message_body =>
    intro b
    cases b
  | _ => trivial

/-- A value of a type, in which sets and maps have no two equivalent keys. -/
structure Value (containers : KeyedContainers) (t : Ty) where
  val : t.Val Empty
  keys_differ : ∀ is_const, t.Every (KeysDiffer containers) .returned is_const val

/-- `read<T>` compiles, and reads what the serializer writes into an empty buffer, followed by
    `rest`, as an equal value, up to `rest`. -/
def RoundTrips (std : StandardLibrary) (containers : KeyedContainers) (t : Ty) (is_const : Bool)
    (v : t.Val Empty) (rest : List UInt8) : Prop :=
  t.shape.load_compiles std .returned = true ∧
    ∃ bytes w, t.serialize no_bodies is_const v (Serializer.make []) =
        some (Serializer.make bytes) ∧
      t.deserialize no_bodies.deserialize containers .returned (bytes ++ rest) = some (w, rest) ∧
      t.Equal no_bodies.same v w

/-- What it takes. -/
structure Ty.HasRoundTrip (std : StandardLibrary) (t : Ty) (is_const : Bool) (v : t.Val Empty) :
    Prop where
  compiles : t.shape.load_compiles std .returned = true
  pointer_returned : t.Every PointerReturned .returned is_const v
  empty_tuple_const : t.Every EmptyTupleConst .returned is_const v

theorem roundTrips_iff {std : StandardLibrary} {containers : KeyedContainers} {t : Ty}
    {is_const : Bool} {v : t.Val Empty} {rest : List UInt8} :
    RoundTrips std containers t is_const v rest ↔ t.shape.load_compiles std .returned = true ∧
      ∃ w, t.deserialize no_bodies.deserialize containers .returned
        (t.bytes no_bodies is_const v ++ rest) = some (w, rest) ∧ t.Equal no_bodies.same v w := by
  have happends := t.serialize_appends no_bodies is_const v []
  rw [List.nil_append] at happends
  refine and_congr_right fun _ => ?_
  constructor
  · rintro ⟨bytes, w, hbytes, hread, heq⟩
    rw [happends] at hbytes
    obtain rfl := congrArg Serializer.bytes (Option.some.inj hbytes)
    exact ⟨w, hread, heq⟩
  · rintro ⟨w, hread, heq⟩
    exact ⟨_, w, happends, hread, heq⟩

/-- Containers that are not used. -/
def no_keys : KeyedContainers where
  same_key _ _ _ _ _ := false
  same_key_congr _ _ _ _ _ _ _ _ _ _ _ := rfl
  position _ _ _ xs _ := xs.length

/-- `std::pair<int*, int>{&x, 2}` with `x = 1` -/
def pointer_and_int : Ty.Val Empty (.pair (.pointer (.pod 4)) (.pod 4)) :=
  (⟨[1, 0, 0, 0], rfl⟩, ⟨[2, 0, 0, 0], rfl⟩)

end ZAF
