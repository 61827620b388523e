import ZAF.Serialization.Parts

/-! # The round trip of values

    Writing a value appends its bytes; reading takes them off again and gives an equal
    value, when all parts of the value are sound.
-/

namespace ZAF

open Wire Serializer

/-! ### Writing -/

section write

variable {β β' : Type} (bodies : BodyCodec β β')

/-- A size, then the items. -/
theorem appends_items {α : Type} {w : α → Serializer → Option Serializer} {enc : α → List UInt8}
    (n : Nat) {xs : List α} (h : ∀ x ∈ xs, Appends (w x) (enc x)) :
    Appends (fun s => xs.foldlM (fun s x => w x s) (s.write_uint 8 n))
      (size_bytes n ++ xs.flatMap enc) :=
  (Appends.foldlM h).after_bytes _

mutual

/-- **`serialize` appends bytes**, whatever is in the buffer. -/
theorem Ty.serialize_appends : (t : Ty) → (is_const : Bool) → (x : t.Val β) →
    Appends (t.serialize bodies is_const x) (t.bytes bodies is_const x)
  | .pod _, _, x => appends_write_bytes x.1
  | .string, true, x => (appends_write_bytes x.1).after_bytes _
  | .string, false, x => by
    have h := appends_items x.1.length
      fun c (_ : c ∈ x.1) => appends_write_bytes [c]
    rw [List.flatMap_singleton'] at h
    exact h
  | .bits, _, x => appends_items x.1.length fun b _ => appends_write_bytes (bool_bytes b)
  | .local_actor_handle, _, x => (appends_write_bytes _).after_bytes _
  | .actor_info, _, x => by
    have h := (((appends_write_bytes (bool_bytes x.actor.use_swsr_msg_delivery)).after_bytes
      (little_endian_bytes 4 x.actor.local_actor_id.toNat)).after_bytes
      x.net_gate_url.1).after_bytes (size_bytes x.net_gate_url.1.length)
    rw [← List.append_assoc] at h
    exact h
  | .pointer t, _, x => t.serialize_appends false x
  | .smart_ptr _ t, _, some x => (t.serialize_appends false x).after_bytes _
  | .smart_ptr _ _, _, none => appends_write_bytes (bool_bytes false)
  | .optional t, _, some x => (t.serialize_appends true x).after_bytes _
  | .optional _, _, none => appends_write_bytes (bool_bytes false)
  | .pair a b, _, x => (a.serialize_appends true x.1).comp (b.serialize_appends true x.2)
  | .empty_tuple, true, _ => appends_nil
  | .empty_tuple, false, x => appends_write_bytes [x]
  | .tuple t ts, _, x => (t.serialize_appends true x.1).comp (ts.serialize_appends x.2)
  | .sequence _ t, is_const, x =>
    appends_items x.1.length fun y _ => t.serialize_appends is_const y
  | .set _ t, _, x => appends_items x.1.length fun y _ => t.serialize_appends true y
  | .map _ k v, _, x => appends_items x.1.length fun y _ =>
    (k.serialize_appends true y.1).comp (v.serialize_appends true y.2)
  | .const t, _, x => t.serialize_appends true x
  | .message_body, _, some b => (bodies.appends b).after_bytes _
  | .message_body, _, none => appends_write_bytes (bool_bytes false)

/-- The members of a tuple one after the other, as constants. -/
theorem Pack.serialize_appends : (ts : Pack) → (x : ts.Val β) →
    Appends (ts.serialize bodies x) (ts.bytes bodies x)
  | .nil, _ => appends_nil
  | .cons t ts, x => (t.serialize_appends true x.1).comp (ts.serialize_appends x.2)

end

end write

/-! ### Reading what has no parts -/

theorem takes_chars (xs : List UInt8) :
    (read_chars xs.length).Takes xs (Eq xs) := by
  intro rest
  refine ⟨xs, ?_, rfl⟩
  rw [read_chars, read_bytes, if_pos (by simp), List.take_left, List.drop_left]

/-- An unsigned number in its bytes, if it fits them. -/
theorem takes_uint {n v : Nat} (h : v < 256 ^ n) :
    (read_uint n).Takes (little_endian_bytes n v) (Eq v) := by
  intro rest
  refine ⟨v, ?_, rfl⟩
  obtain ⟨bytes, hread, rfl⟩ := takes_chars (little_endian_bytes n v) rest
  rw [length_little_endian_bytes, read_chars] at hread
  rw [read_uint, read_pod, hread, Option.map_some]
  show some (little_endian (little_endian_bytes n v), rest) = _
  rw [little_endian_little_endian_bytes, Nat.mod_eq_of_lt h]

theorem takes_bool (b : Bool) : read_bool.Takes (bool_bytes b) (Eq b) := by
  apply (takes_uint (n := 1) (v := b.toNat) (by cases b <;> decide)).map
  rintro x rfl
  cases b <;> rfl

theorem takes_size {α : Type} (xs : Sized α) :
    (read_uint 8).Takes (size_bytes xs.1.length) (Eq (xs.1.length)) :=
  takes_uint xs.2

/-- A POD is its bytes. -/
theorem takes_pod {size : Nat} (x : { bytes : List UInt8 // bytes.length = size }) :
    (deserialize_pod size).Takes x.1 (Eq x) := by
  intro rest
  obtain ⟨bytes, rfl⟩ := x
  refine ⟨⟨bytes, rfl⟩, ?_, rfl⟩
  simp [deserialize_pod]

/-- A list whose size fits 64 bits is taken as it is. -/
theorem takes_sized {α : Type} {xs : List α} (h : xs.length < 2 ^ 64) {P : Sized α → Prop}
    (hP : P ⟨xs, h⟩) : (sized xs).Takes [] P := by
  rw [sized, dif_pos h]
  exact Reader.takes_pure hP

theorem takes_string (x : Sized UInt8) :
    deserialize_string.Takes (size_bytes x.1.length ++ x.1) (Eq x) := by
  apply (takes_size x).bind
  rintro n rfl
  apply (takes_chars x.1).bind_nil
  rintro bytes rfl
  exact takes_sized x.2 rfl

theorem takes_handle (l : LocalActorHandle) : deserialize_handle.Takes (handle_bytes l) (Eq l) := by
  apply (takes_uint (UInt32.toNat_lt l.local_actor_id)).bind
  rintro id rfl
  apply (takes_bool l.use_swsr_msg_delivery).bind_nil
  rintro b rfl
  rw [UInt32.ofNat_toNat]
  exact Reader.takes_pure rfl

/-! ### Reading the items of a container -/

section items

variable {α ι : Type} {read : Reader α} {insert : List α → α → List α} {enc : ι → List UInt8}
  {rel : ι → α → Prop}

/-- A container is read as its items are, when all of them stay in it. -/
theorem takes_items (xs : Sized ι) (h : ∀ x ∈ xs.1, read.Takes (enc x) (rel x))
    {P : Sized α → Prop}
    (hinsert : ∀ ys, List.Forall₂ rel xs.1 ys →
      ∃ out : List α, out.length = ys.length ∧ out = ys.foldl insert [] ∧ ∀ h, P ⟨out, h⟩) :
    (deserialize_items read insert).Takes (size_bytes xs.1.length ++ xs.1.flatMap enc) P := by
  apply (takes_size xs).bind
  rintro n rfl
  apply (Reader.Takes.fold h []).bind_nil
  rintro out ⟨ys, hys, hout⟩
  obtain ⟨out', hlen, hout', hP⟩ := hinsert ys hys
  rw [← hout'] at hout
  have hlt : out.length < 2 ^ 64 := by
    rw [hout, hlen, ← hys.length_eq]
    exact xs.2
  exact takes_sized hlt (by subst hout; exact hP hlt)

/-- To append the items one by one is to append them all. -/
theorem foldl_append_eq (ys acc : List α) :
    ys.foldl (fun xs x => xs ++ [x]) acc = acc ++ ys := by
  induction ys generalizing acc with
  | nil => exact (List.append_nil acc).symm
  | cons y ys ih => rw [List.foldl_cons, ih, List.append_assoc, List.singleton_append]

/-- `emplace_back` -/
theorem takes_sequence (xs : Sized ι) (h : ∀ x ∈ xs.1, read.Takes (enc x) (rel x)) :
    (deserialize_items read fun xs x => xs ++ [x]).Takes
      (size_bytes xs.1.length ++ xs.1.flatMap enc) (fun ys => List.Forall₂ rel xs.1 ys.1) := by
  apply takes_items xs h
  intro ys hys
  refine ⟨ys, rfl, ?_, fun _ => hys⟩
  rw [foldl_append_eq, List.nil_append]

/-- An item with a new key is put somewhere. -/
theorem emplace_new_perm {same : α → α → Bool} {position : List α → α → Nat} {xs : List α}
    {x : α} (h : (xs.any fun y => same y x) = false) :
    (emplace same position xs x).Perm (xs ++ [x]) := by
  rw [emplace, h, if_neg Bool.false_ne_true]
  calc xs.take (position xs x) ++ x :: xs.drop (position xs x)
      |>.Perm (x :: (xs.take (position xs x) ++ xs.drop (position xs x))) := List.perm_middle
    _ = x :: xs := by rw [List.take_append_drop]
    _ |>.Perm (xs ++ [x]) := (List.perm_append_singleton x xs).symm

/-- The old items stay, and the new ones with other keys are put to them. -/
theorem foldl_emplace_into_perm {same : α → α → Bool} {position : List α → α → Nat}
    {ys : List α} (old : List α)    (hys : ys.Pairwise fun x y => same x y = false) :
    (ys.foldl (emplace same position) old).Perm
      (old ++ ys.filter fun y => !old.any fun x => same x y) := by
  induction ys generalizing old with
  | nil => simp
  | cons y ys ih =>
    obtain ⟨hy, hys⟩ := List.pairwise_cons.mp hys
    rw [List.foldl_cons]
    by_cases hany : (old.any fun x => same x y) = true
    · have hkeep : emplace same position old y = old := by rw [emplace, if_pos hany]
      rw [hkeep, List.filter_cons_of_neg (by simp [hany])]
      exact ih old hys
    · have hnew : (emplace same position old y).Perm (old ++ [y]) :=
        emplace_new_perm (Bool.not_eq_true _ ▸ hany)
      have hfilter : ys.filter (fun z => !(emplace same position old y).any fun x => same x z) =
          ys.filter fun z => !old.any fun x => same x z := by
        apply List.filter_congr
        intro z hz
        rw [hnew.any_eq, List.any_append, List.any_cons, hy z hz, List.any_nil, Bool.or_false,
          Bool.or_false]
      rw [List.filter_cons_of_pos (by simpa using hany), List.append_cons]
      refine (ih _ hys).trans ?_
      rw [hfilter]
      exact hnew.append_right _

/-- `emplace`, when different items have different keys. -/
theorem takes_keyed (xs : Sized ι) (h : ∀ x ∈ xs.1, read.Takes (enc x) (rel x))
    {same : α → α → Bool} (position : List α → α → Nat)
    (hsame : ∀ ys, List.Forall₂ rel xs.1 ys → ys.Pairwise fun x y => same x y = false) :
    (deserialize_items read (emplace same position)).Takes
      (size_bytes xs.1.length ++ xs.1.flatMap enc)
      (fun ys => ∃ zs, List.Forall₂ rel xs.1 zs ∧ ys.1.Perm zs) := by
  apply takes_items xs h
  intro ys hys
  -- no key is there twice, so no item is dropped
  have hperm : (ys.foldl (emplace same position) []).Perm ys := by
    have hinto : (ys.foldl (emplace same position) []).Perm
        ([] ++ ys.filter fun y => !(([] : List α).any fun x => same x y)) :=
      foldl_emplace_into_perm [] (hsame ys hys)
    simpa using hinto
  exact ⟨_, hperm.length_eq, rfl, fun _ => ⟨ys, hys, hperm⟩⟩

end items

/-! ### Reading -/

section read

variable {β β' : Type} (bodies : BodyCodec β β') (containers : KeyedContainers)

/-- An optional part is preceded by its presence. -/
theorem takes_present {α : Type} {r : Reader α} {bytes : List UInt8} {P : α → Prop}
    (h : r.Takes bytes P) {Q : Option α → Prop} (hQ : ∀ y, P y → Q (some y)) :
    (do if ← read_bool then some <$> r else pure none).Takes (bool_bytes true ++ bytes) Q := by
  apply (takes_bool true).bind
  rintro b rfl
  exact h.map hQ

/-- Nothing follows if the part is absent. -/
theorem takes_absent {α : Type} (r : Reader α) {Q : Option α → Prop} (hQ : Q none) :
    (do if ← read_bool then some <$> r else pure none).Takes (bool_bytes false) Q := by
  apply (takes_bool false).bind_nil
  rintro b rfl
  exact Reader.takes_pure hQ

theorem exists_mem_of_forall₂ {ι α : Type} {rel : ι → α → Prop} {xs : List ι} {ys : List α}
    (h : List.Forall₂ rel xs ys) {x : ι} (hx : x ∈ xs) : ∃ y ∈ ys, rel x y := by
  induction h with
  | nil => cases hx
  | @cons z y xs ys hz h ih =>
    rcases List.mem_cons.mp hx with rfl | hx
    · exact ⟨y, List.mem_cons_self, hz⟩
    · obtain ⟨y', hy', hrel⟩ := ih hx
      exact ⟨y', List.mem_cons_of_mem _ hy', hrel⟩

/-- Equal items have different keys when the items have. -/
theorem pairwise_of_forall₂ {ι α : Type} {rel : ι → α → Prop} {same : ι → ι → Bool}
    {same' : α → α → Bool}
    (hcongr : ∀ x y x' y', rel x x' → rel y y' → same x y = same' x' y') {xs : List ι}
    (hxs : xs.Pairwise fun x y => same x y = false) {ys : List α} (h : List.Forall₂ rel xs ys) :
    ys.Pairwise fun x y => same' x y = false := by
  induction h with
  | nil => exact .nil
  | @cons x x' xs ys hx h ih =>
    obtain ⟨hhead, htail⟩ := List.pairwise_cons.mp hxs
    refine List.pairwise_cons.mpr ⟨?_, ih htail⟩
    intro y' hy'
    obtain ⟨y, hy, hrel⟩ := exists_mem_of_forall₂ (List.Forall₂.flip h) hy'
    rw [← hcongr x y x' y' hx hrel]
    exact hhead y hy

mutual

/-- **What has been written is read back**, when all parts of the value are sound. -/
theorem Ty.deserialize_takes : (t : Ty) → (target : Target) → (is_const : Bool) →
    (x : t.Val β) → t.Every (PartSound bodies containers) target is_const x →
    (t.deserialize bodies.deserialize containers target).Takes (t.bytes bodies is_const x)
      (t.Equal bodies.same x)
  | .pod _, _, _, x, _ => takes_pod x
  | .string, _, _, x, _ => takes_string x
  | .bits, _, _, x, _ => by
    apply (takes_sequence x fun b _ => takes_bool b).imp
    intro y hy
    exact Subtype.ext (List.forall₂_eq_eq_eq ▸ hy)
  | .local_actor_handle, _, _, x, _ => takes_handle x
  | .actor_info, _, _, x, _ => by
    apply (takes_string x.net_gate_url).bind
    rintro url rfl
    apply (takes_handle x.actor).bind_nil
    rintro actor rfl
    exact Reader.takes_pure rfl
  | .pointer t, .returned, _, x, h => t.deserialize_takes .in_place false x h.2
  | .pointer _, .in_place, _, _, h => nomatch h.1.pointer_returned
  | .smart_ptr _ t, _, _, some x, h =>
    takes_present (t.deserialize_takes .in_place false x (h.2 x rfl)) fun _ => .some
  | .smart_ptr _ _, _, _, none, _ => takes_absent _ .none
  | .optional t, _, _, some x, h =>
    takes_present (t.deserialize_takes .returned true x (h.2 x rfl)) fun _ => .some
  | .optional _, _, _, none, _ => takes_absent _ .none
  | .pair a b, _, _, x, h =>
    Reader.Takes.two (a.deserialize_takes .in_place true x.1 h.2.1)
      (b.deserialize_takes .in_place true x.2 h.2.2)
  | .empty_tuple, _, true, _, _ => Reader.takes_pure trivial
  | .empty_tuple, _, false, _, h => nomatch h.empty_tuple_const
  | .tuple t ts, _, _, x, h =>
    Reader.Takes.two (t.deserialize_takes .in_place true x.1 h.2.1) (ts.deserialize_takes x.2 h.2.2)
  | .sequence _ t, _, is_const, x, h =>
    takes_sequence x fun y hy => t.deserialize_takes .returned is_const y (h.2 y hy)
  | .set c t, _, _, x, h =>
    takes_keyed x (fun y hy => t.deserialize_takes .returned true y (h.2 y hy)) _ fun _ =>
      pairwise_of_forall₂ (containers.same_key_congr c t bodies.same) h.1.keys_differ
  | .map c k v, _, _, x, h =>
    takes_keyed x
      (fun y hy => Reader.Takes.two (k.deserialize_takes .in_place true y.1 (h.2 y hy).1)
        (v.deserialize_takes .in_place true y.2 (h.2 y hy).2)) _ fun _ =>
      pairwise_of_forall₂
        (fun x y x' y' hx hy =>
          containers.same_key_congr c k bodies.same x.1 y.1 x'.1 y'.1 hx.1 hy.1)
        h.1.keys_differ
  | .const t, _, _, x, h => t.deserialize_takes .in_place true x h.2
  | .message_body, _, _, some b, h =>
    takes_present (bodies.takes b (h.body_fits b rfl)) fun _ => .some
  | .message_body, _, _, none, _ => takes_absent _ .none

/-- The members are decoded in place, one after the other. -/
theorem Pack.deserialize_takes : (ts : Pack) → (x : ts.Val β) →
    ts.Every (PartSound bodies containers) x →
    (ts.deserialize bodies.deserialize containers).Takes (ts.bytes bodies x)
      (ts.Equal bodies.same x)
  | .nil, _, _ => Reader.takes_pure trivial
  | .cons t ts, x, h =>
    Reader.Takes.two (t.deserialize_takes .in_place true x.1 h.1) (ts.deserialize_takes x.2 h.2)

end

end read
end ZAF
