import ZAF.Serialization.Shapes

/-! # Accepted and rebuilt

    A type that the traits accept has a decoder, if the bodies compile. What the decoder
    makes of a value depends on the parts of the value: it rebuilds all of them, or it
    fails at the first one that it cannot rebuild.
-/

namespace ZAF

open Wire

/-! ### The parts of a value -/

abbrev ShapeProperty := (s : Shape) → Target → s.Val → Prop

mutual

/-- A value and all its parts have a property. -/
def Shape.Every (P : ShapeProperty) : ShapeProperty
  | .pod size, target, x => P (.pod size) target x
  | .string, target, x => P .string target x
  | .bits, target, x => P .bits target x
  | .local_actor_handle, target, x => P .local_actor_handle target x
  | .actor_info, target, x => P .actor_info target x
  | .other, target, x => P .other target x
  | .pointer t, target, x => P (.pointer t) target x ∧ t.Every P .in_place x
  | .smart_ptr ptr t, target, x =>
    P (.smart_ptr ptr t) target x ∧ ∀ y, x = some y → t.Every P .in_place y
  | .count_pointer t, target, x =>
    P (.count_pointer t) target x ∧ ∀ y, x = some y → t.Every P .in_place y
  | .optional t, target, x =>
    P (.optional t) target x ∧ ∀ y, x = some y → t.Every P .returned y
  | .pair a b, target, x =>
    P (.pair a b) target x ∧ a.Every P .in_place x.1 ∧ b.Every P .in_place x.2
  | .empty_tuple, target, x => P .empty_tuple target x
  | .tuple t ts, target, x =>
    P (.tuple t ts) target x ∧ t.Every P .in_place x.1 ∧ ts.Every P x.2
  | .sequence seq t, target, x => P (.sequence seq t) target x ∧ ∀ y ∈ x.1, t.Every P .returned y
  | .set c t, target, x => P (.set c t) target x ∧ ∀ y ∈ x.1, t.Every P .returned y
  | .map c k v, target, x =>
    P (.map c k v) target x ∧ ∀ y ∈ x.1, k.Every P .in_place y.1 ∧ v.Every P .in_place y.2
  | .array n t, target, x => P (.array n t) target x ∧ ∀ y ∈ x.1, t.Every P .returned y
  | .unfillable t, target, x => P (.unfillable t) target x ∧ ∀ y ∈ x.1, t.Every P .returned y
  | .forward_list t, target, x =>
    P (.forward_list t) target x ∧ ∀ y ∈ x.1, t.Every P .returned y
  | .const t, target, x => P (.const t) target x ∧ t.Every P .in_place x

def ShapePack.Every (P : ShapeProperty) : (ts : ShapePack) → ts.Val → Prop
  | .nil, _ => True
  | .cons t ts, x => t.Every P .in_place x.1 ∧ ts.Every P x.2

end

/-- An array has all its items. -/
def ArrayFull : ShapeProperty
  | .array n _, _, x => x.1.length = n + 1
  | _, _, _ => True

/-- The decoder does not have to put an item into a container that takes none, nor to
    write through a raw pointer that it finds null. -/
def Rebuildable : ShapeProperty
  | .pointer _, target, _ => target = .returned
  | .array _ _, _, _ => False
  | .unfillable _, _, x => x.1 = []
  | .forward_list _, _, x => x.1 = []
  | _, _, _ => True

/-! ### Reading -/

section splits

theorem splits_present {α : Type} {r : Reader α} {bytes : List UInt8} {P : α → Prop}
    {condition : Prop} (h : r.Splits bytes P condition) {Q : Option α → Prop}
    (hQ : ∀ y, P y → Q (some y)) :
    (do if ← read_bool then some <$> r else pure none).Splits (bool_bytes true ++ bytes) Q
      condition := by
  apply (takes_bool true).bind_splits
  rintro b rfl
  exact h.map hQ

/-- The condition on what is present. -/
theorem forall_some_iff {α : Type} {p : α → Prop} (x : α) :
    (True ∧ ∀ y, some x = some y → p y) ↔ p x :=
  ⟨fun h => h.2 x rfl, fun h => ⟨trivial, fun _ hy => Option.some.inj hy ▸ h⟩⟩

theorem forall_none_iff {α : Type} {p : α → Prop} :
    (True ∧ ∀ y, none = some y → p y) ↔ True :=
  iff_of_true ⟨trivial, nofun⟩ trivial

variable {α ι : Type} {enc : ι → List UInt8}

theorem splits_items {read : Reader α} {insert : List α → α → List α} {rel : ι → α → Prop}
    {good : ι → Prop} {P : Sized α → Prop} (xs : Sized ι)
    (h : ∀ x ∈ xs.1, read.Splits (enc x) (rel x) (good x))
    (htakes : (∀ x ∈ xs.1, read.Takes (enc x) (rel x)) →
      (deserialize_items read insert).Takes (size_bytes xs.1.length ++ xs.1.flatMap enc) P) :
    (deserialize_items read insert).Splits (size_bytes xs.1.length ++ xs.1.flatMap enc) P
      (True ∧ ∀ x ∈ xs.1, good x) := by
  constructor
  · intro hgood
    exact htakes fun x hx => (h x hx).1 (hgood.2 x hx)
  · intro hnot
    exact fails_items xs (fun x hx => (h x hx).1) (fun x hx => (h x hx).2)
      fun hgood => hnot ⟨trivial, hgood⟩

/-- No items are read, one is too many. -/
theorem splits_no_items (xs : Sized ι) {it : Option α} {P : α → Prop}
    (hit : xs.1 = [] → ∃ y, it = some y ∧ P y) :
    (deserialize_no_items it).Splits (size_bytes xs.1.length ++ xs.1.flatMap enc) P
      (xs.1 = []) := by
  apply (takes_size xs).bind_splits
  rintro n rfl
  constructor
  · intro hempty
    obtain ⟨y, rfl, hy⟩ := hit hempty
    rw [hempty]
    exact Reader.takes_pure hy
  · intro hne
    rw [if_neg (mt List.eq_nil_of_length_eq_zero hne)]
    exact Reader.fails_failure _

end splits

section reading

variable (std : StandardLibrary) (containers : KeyedContainers)

theorem equal_no_items {t : Ty} {x : Sized (t.Val Empty)} (h : x.1 = []) :
    (Ty.sequence .list t).Equal no_bodies.same x no_items := by
  show List.Forall₂ _ x.1 []
  rw [h]
  exact .nil

mutual

/-- **A value is read back if all its parts can be rebuilt, else the decoder fails.** -/
theorem Shape.deserialize_splits : (s : Shape) → (target : Target) → (is_const : Bool) →
    (x : s.Val) → s.is_savable = true → s.into_compiles std = true →
    s.Every ArrayFull target x →
    s.erase.Every (PartAligned no_bodies containers) target is_const x →
    (s.deserialize containers target).Splits (s.erase.bytes no_bodies is_const x)
      (s.erase.Equal no_bodies.same x) (s.Every Rebuildable target x)
  | .pod _, _, _, x, _, _, _, _ => (takes_pod x).splits
  | .string, _, _, x, _, _, _, _ => (takes_string x).splits
  | .bits, target, is_const, x, _, _, _, _ =>
    (Ty.bits.deserialize_takes no_bodies containers target is_const x
      ⟨⟨trivial, trivial, trivial⟩, trivial⟩).splits
  | .local_actor_handle, _, _, x, _, _, _, _ => (takes_handle x).splits
  | .actor_info, target, is_const, x, _, _, _, _ =>
    (Ty.actor_info.deserialize_takes no_bodies containers target is_const x
      ⟨⟨trivial, trivial, trivial⟩, trivial⟩).splits
  | .pointer t, .returned, _, x, hs, hl, hf, ha =>
    (t.deserialize_splits .in_place false x hs hl hf.2 ha.2).congr (and_iff_right rfl)
  | .pointer _, .in_place, _, _, _, _, _, _ =>
    (Reader.Fails.splits (Reader.fails_failure _) _).congr (iff_false_intro fun h => nomatch h.1)
  | .smart_ptr _ t, _, _, some x, hs, hl, hf, ha =>
    (splits_present (t.deserialize_splits .in_place false x hs hl (hf.2 x rfl) (ha.2 x rfl))
      fun _ => .some).congr (forall_some_iff x)
  | .smart_ptr _ _, _, _, none, _, _, _, _ => (takes_absent _ .none).splits.congr forall_none_iff
  | .optional t, _, _, some x, hs, hl, hf, ha =>
    have hl := (Bool.and_eq_true_iff.mp hl).1
    (splits_present (t.deserialize_splits .returned true x hs hl (hf.2 x rfl) (ha.2 x rfl))
      fun _ => .some).congr (forall_some_iff x)
  | .optional _, _, _, none, _, _, _, _ => (takes_absent _ .none).splits.congr forall_none_iff
  | .pair a b, _, _, x, hs, hl, hf, ha => by
    obtain ⟨hsa, hsb⟩ := Bool.and_eq_true_iff.mp hs
    obtain ⟨hla, hlb⟩ := Bool.and_eq_true_iff.mp hl
    exact ((a.deserialize_splits .in_place true x.1 hsa hla hf.2.1 ha.2.1).two
      (b.deserialize_splits .in_place true x.2 hsb hlb hf.2.2 ha.2.2)).congr (and_iff_right trivial)
  | .empty_tuple, _, true, _, _, _, _, _ => (Reader.takes_pure trivial).splits
  | .empty_tuple, _, false, _, _, _, _, ha => nomatch ha.empty_tuple_const
  | .tuple t ts, _, _, x, hs, hl, hf, ha => by
    obtain ⟨hst, hsts⟩ := Bool.and_eq_true_iff.mp hs
    obtain ⟨hlt, hlts⟩ := Bool.and_eq_true_iff.mp hl
    have hst := (Bool.and_eq_true_iff.mp hst).1
    exact ((t.deserialize_splits .in_place true x.1 hst hlt hf.2.1 ha.2.1).two
      (ts.deserialize_splits x.2 hsts hlts hf.2.2 ha.2.2)).congr (and_iff_right trivial)
  | .sequence _ t, _, is_const, x, hs, hl, hf, ha =>
    have hl := (Bool.and_eq_true_iff.mp hl).1
    splits_items x
      (fun y hy => t.deserialize_splits .returned is_const y hs hl (hf.2 y hy) (ha.2 y hy))
      (takes_sequence x)
  | .set c t, _, _, x, hs, hl, hf, ha =>
    have hl := (Bool.and_eq_true_iff.mp hl).1
    splits_items x
      (fun y hy => t.deserialize_splits .returned true y hs hl (hf.2 y hy) (ha.2 y hy))
      fun h => takes_keyed x h _ fun _ =>
        pairwise_of_forall₂ (containers.same_key_congr c t.erase no_bodies.same) ha.1.keys_differ
  | .map c k v, _, _, x, hs, hl, hf, ha => by
    obtain ⟨hsk, hsv⟩ := Bool.and_eq_true_iff.mp hs
    obtain ⟨hlk, hlv⟩ := Bool.and_eq_true_iff.mp (Bool.and_eq_true_iff.mp hl).1
    exact splits_items x
      (fun y hy =>
        (k.deserialize_splits .in_place true y.1 hsk hlk (hf.2 y hy).1 (ha.2 y hy).1).two
          (v.deserialize_splits .in_place true y.2 hsv hlv (hf.2 y hy).2 (ha.2 y hy).2))
      fun h => takes_keyed x h _ fun _ =>
        pairwise_of_forall₂
          (fun x y x' y' hx hy =>
            containers.same_key_congr c k.erase no_bodies.same x.1 y.1 x'.1 y'.1 hx.1 hy.1)
          ha.1.keys_differ
  | .array n t, _, _, x, _, _, hf, _ => by
    have hne : x.1 ≠ [] := List.ne_nil_of_length_eq_add_one hf.1
    exact (splits_no_items x fun h => absurd h hne).congr
      (iff_of_false (fun h => h.1) hne)
  | .unfillable t, _, _, x, _, _, _, _ =>
    (splits_no_items x fun h => ⟨no_items, rfl, equal_no_items h⟩).congr
      ⟨fun h => h.1, fun h => ⟨h, h ▸ nofun⟩⟩
  | .forward_list t, _, _, x, _, _, _, _ =>
    (splits_no_items x fun h => ⟨no_items, rfl, equal_no_items h⟩).congr
      ⟨fun h => h.1, fun h => ⟨h, h ▸ nofun⟩⟩
  | .const t, _, _, x, hs, hl, hf, ha =>
    (t.deserialize_splits .in_place true x hs hl hf.2 ha.2).congr (and_iff_right trivial)

theorem ShapePack.deserialize_splits : (ts : ShapePack) → (x : ts.Val) →
    ts.all_serializable = true → ts.into_compiles std = true → ts.Every ArrayFull x →
    ts.erase.Every (PartAligned no_bodies containers) x →
    (ts.deserialize containers).Splits (ts.erase.bytes no_bodies x)
      (ts.erase.Equal no_bodies.same x) (ts.Every Rebuildable x)
  | .nil, _, _, _, _, _ => (Reader.takes_pure trivial).splits
  | .cons t ts, x, hs, hl, hf, ha => by
    obtain ⟨hst, hsts⟩ := Bool.and_eq_true_iff.mp hs
    obtain ⟨hlt, hlts⟩ := Bool.and_eq_true_iff.mp hl
    have hst := (Bool.and_eq_true_iff.mp hst).1
    exact (t.deserialize_splits .in_place true x.1 hst hlt hf.1 ha.1).two
      (ts.deserialize_splits x.2 hsts hlts hf.2 ha.2)

end

/-! ### What a value has taken -/

theorem consumes_no_items {α : Type} {it : Option α} {P : α → Nat → Prop}
    (h : ∀ x, it = some x → P x 8) : (deserialize_no_items it).Consumes P := by
  apply (consumes_uint 8).bind
  rintro size k rfl
  split
  · intro s x rest hs
    obtain ⟨y, hy, hpure⟩ := Option.bind_eq_some_iff.mp hs
    cases hpure
    exact ⟨0, (Nat.zero_add _).symm, h x hy⟩
  · intro s x rest hs
    cases hs

mutual

/-- Less than its width when an array was left as it was. -/
theorem Shape.deserialize_consumes : (s : Shape) → (target : Target) → s.erase.Keyless →
    (s.deserialize containers target).Consumes fun x k => k ≤ s.erase.width no_bodies x
  | .pod size, _, _ => (consumes_pod size).imp fun _ _ => le_of_eq
  | .string, _, _ => consumes_string.imp fun _ _ => le_of_eq
  | .bits, target, h => (Ty.bits.deserialize_consumes no_bodies containers target h).imp
    fun _ _ => le_of_eq
  | .local_actor_handle, _, _ => consumes_handle.imp fun _ _ => le_of_eq
  | .actor_info, target, h => (Ty.actor_info.deserialize_consumes no_bodies containers target h).imp
    fun _ _ => le_of_eq
  | .other, _, _ => fun _ _ _ hs => nomatch hs
  | .pointer t, .returned, h => t.deserialize_consumes .in_place h
  | .pointer _, .in_place, _ => fun _ _ _ hs => nomatch hs
  | .smart_ptr _ t, _, h => by
    apply (consumes_present .le (t.deserialize_consumes .in_place h)).imp
    rintro (_ | x) k hk <;> exact hk
  | .count_pointer _, _, _ => fun _ _ _ hs => nomatch hs
  | .optional t, _, h => by
    apply (consumes_present .le (t.deserialize_consumes .returned h)).imp
    rintro (_ | x) k hk <;> exact hk
  | .pair a b, _, h =>
    consumes_two .le (a.deserialize_consumes .in_place h.1) (b.deserialize_consumes .in_place h.2)
  | .empty_tuple, _, _ => Reader.consumes_pure (le_refl 0)
  | .tuple t ts, _, h =>
    consumes_two .le (t.deserialize_consumes .in_place h.1) (ts.deserialize_consumes h.2)
  | .sequence _ t, _, h => consumes_sequence .le (t.deserialize_consumes .returned h)
  | .array _ _, _, _ => consumes_no_items fun _ _ => Nat.le_add_right 8 _
  | .unfillable _, _, _ => consumes_no_items fun _ _ => Nat.le_add_right 8 _
  | .forward_list _, _, _ => consumes_no_items fun _ _ => Nat.le_add_right 8 _
  | .const t, _, h => t.deserialize_consumes .in_place h

theorem ShapePack.deserialize_consumes : (ts : ShapePack) → ts.erase.Keyless →
    (ts.deserialize containers).Consumes fun x k => k ≤ ts.erase.width no_bodies x
  | .nil, _ => Reader.consumes_pure (le_refl 0)
  | .cons t ts, h =>
    consumes_two .le (t.deserialize_consumes .in_place h.1) (ts.deserialize_consumes h.2)

end

end reading

/-! ### Accepted types -/

/-- The type that the traits look at for `T`, and the type of what is read. -/
def Shape.remove_const : Shape → Shape
  | .const t => t.remove_const
  | s => s

theorem Shape.is_savable_remove_const : (s : Shape) →
    s.is_savable = true → s.remove_const.is_savable = true
  | .const t, h => t.is_savable_remove_const h
  | .pod _, _ | .string, _ | .bits, _ | .local_actor_handle, _ | .actor_info, _ => rfl
  | .pointer _, h | .smart_ptr _ _, h | .count_pointer _, h | .optional _, h | .pair _ _, h => h
  | .empty_tuple, _ => rfl
  | .tuple _ _, h | .sequence _ _, h | .set _ _, h | .map _ _ _, h => h
  | .array _ _, h | .unfillable _, h | .forward_list _, h => h

/-- A value of a type, in which sets and maps have no two equivalent keys and arrays have
    all their items. -/
structure ShapeValue (containers : KeyedContainers) (s : Shape) where
  val : s.Val
  keys_differ : ∀ is_const, s.erase.Every (KeysDiffer containers) .returned is_const val
  arrays_full : s.Every ArrayFull .returned val

/-- There is a codec for the type, and what it writes for the value, followed by `rest`, is
    read as an equal value, up to `rest`. -/
structure Rebuilds (std : StandardLibrary) (containers : KeyedContainers) (s : Shape)
    (is_const : Bool) (v : s.Val) (rest : List UInt8) : Prop where
  save_compiles : s.save_compiles = true
  load_compiles : s.load_compiles std .returned = true
  decoded : ∃ bytes w, s.erase.serialize no_bodies is_const v (Serializer.make []) =
      some (Serializer.make bytes) ∧
    s.deserialize containers .returned (bytes ++ rest) = some (w, rest) ∧
    s.erase.Equal no_bodies.same v w

/-- What it takes. -/
structure Shape.HasDecoder (std : StandardLibrary) (s : Shape) (is_const : Bool) (v : s.Val) :
    Prop where
  save_compiles : s.save_compiles = true
  load_compiles : s.load_compiles std .returned = true
  rebuildable : s.Every Rebuildable .returned v
  empty_tuple_const : s.erase.Every EmptyTupleConst .returned is_const v

section accepted

variable {std : StandardLibrary} {containers : KeyedContainers} {s : Shape} {is_const : Bool}
  {rest : List UInt8}

theorem ShapeValue.splits (v : ShapeValue containers s) (hs : s.is_savable = true)
    (hl : s.load_compiles std .returned = true)
    (hconst : s.erase.Every EmptyTupleConst .returned is_const v.val) :
    (s.deserialize containers .returned).Splits (s.erase.bytes no_bodies is_const v.val)
      (s.erase.Equal no_bodies.same v.val) (s.Every Rebuildable .returned v.val) :=
  s.deserialize_splits std containers .returned is_const v.val hs
    (Bool.and_eq_true_iff.mp hl).1 v.arrays_full
    (Ty.every_and
      (fun t target is_const x hk hc => ⟨hk, no_bodies_fit t target is_const x, hc⟩)
      _ _ _ v.val (v.keys_differ is_const) hconst)

/-- The bytes that are read are those of the value. -/
theorem Rebuilds.read {v : s.Val} (h : Rebuilds std containers s is_const v rest) :
    ∃ w, s.deserialize containers .returned (s.erase.bytes no_bodies is_const v ++ rest) =
      some (w, rest) ∧ s.erase.Equal no_bodies.same v w := by
  obtain ⟨bytes, w, hwrite, hread, heq⟩ := h.decoded
  rw [s.erase.serialize_appends no_bodies is_const v [], List.nil_append] at hwrite
  obtain rfl := congrArg Serializer.bytes (Option.some.inj hwrite)
  exact ⟨w, hread, heq⟩

/-- A byte that is written for a `std::tuple<>` is never made up for. -/
theorem Rebuilds.empty_tuple_const {v : s.Val} (h : Rebuilds std containers s is_const v rest)
    (hkeyless : s.erase.Keyless) : s.erase.Every EmptyTupleConst .returned is_const v := by
  obtain ⟨w, hread, heq⟩ := h.read
  obtain ⟨n, hn, hwidth⟩ := s.deserialize_consumes containers .returned hkeyless _ w rest hread
  obtain ⟨hle, hconst⟩ := s.erase.width_le no_bodies .returned is_const v w hkeyless heq
  rw [List.length_append] at hn
  exact hconst (by omega)

theorem Rebuilds.hasDecoder {v : ShapeValue containers s}
    (h : Rebuilds std containers s is_const v.val rest) (hs : s.is_savable = true)
    (hconst : s.erase.Every EmptyTupleConst .returned is_const v.val) :
    s.HasDecoder std is_const v.val := by
  obtain ⟨w, hread, -⟩ := h.read
  exact ⟨h.save_compiles, h.load_compiles, (v.splits hs h.load_compiles hconst).of_read hread,
    hconst⟩

end accepted

/-- `std::vector<std::pair<std::string, std::optional<std::array<std::string, 2>>>>` -/
def named_arrays : Shape := .sequence .vector (.pair .string (.optional (.array 1 .string)))

/-- One pair, whose `std::optional` is empty. -/
def no_array : ShapeValue no_keys named_arrays where
  val := ⟨[(no_items, none)], by decide⟩
  keys_differ _ := by simp [named_arrays, Shape.erase, Ty.Every, KeysDiffer]
  arrays_full := ⟨trivial, List.forall_mem_singleton.mpr ⟨trivial, trivial, trivial, nofun⟩⟩

/-- `std::array<std::string, 2>` of empty strings. -/
def two_strings : ShapeValue no_keys (.array 1 .string) where
  val := ⟨[no_items, no_items], by decide⟩
  keys_differ _ := by simp [Shape.erase, Ty.Every, KeysDiffer]
  arrays_full := ⟨rfl, fun _ _ => trivial⟩

end ZAF
