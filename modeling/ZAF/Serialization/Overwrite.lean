import Mathlib.Data.List.Pairwise
import ZAF.Serialization.Failures

/-! # Decoding into an object

    `deserialize(s, t)` finds `t` as it was left. Every overload deals with that in its own
    way: it writes over the old value, assigns a new one, leaves it alone, adds to it, or
    passes it on part by part. What was in `t` is gone afterwards only if all of its
    parts are dealt with in one of the first two ways.
-/

namespace ZAF

open Wire

/-! ### `deserialize(s, t)` -/

/-- `resize` of a vector or a string. -/
def resized {α : Type} (xs : List α) (n : Nat) (x : α) : List α :=
  xs.take n ++ List.replicate (n - xs.length) x

section into

variable {β : Type} (deserialize_body : Reader β) (containers : KeyedContainers)

/-- `str.resize(s.read<size_t>())`, and `memcpy` over what is there then. -/
def deserialize_string_into (str : List UInt8) : Reader (Sized UInt8) := do
  let size ← read_uint 8
  let bytes ← read_chars size
  sized (bytes ++ (resized str size 0).drop size)

/-- `v.resize(size)`, and an assignment to each element. -/
def deserialize_bits_into (v : List Bool) : Reader (Sized Bool) := do
  let size ← read_uint 8
  let v ← read_bool.fold (fun (i, v) b => (i + 1, v.set i b)) size (0, resized v size false)
  sized v.2

/-- The containers: the items are put to those that are there. -/
def deserialize_items_into {α : Type} (read : Reader α) (insert : List α → α → List α)
    (it : List α) : Reader (Sized α) := do
  let size ← read_uint 8
  let it ← read.fold insert size it
  sized it

mutual

/-- `deserialize(s, t)`, where `t` has an old value. -/
def Ty.deserialize_into : (t : Ty) → t.Val β → Reader (t.Val β)
  | .pod size, _ => deserialize_pod size
  | .string, str => deserialize_string_into str.1
  | .bits, v => deserialize_bits_into v.1
  | .local_actor_handle, _ => deserialize_handle
  | .actor_info, a => do
    let url ← deserialize_string_into a.net_gate_url.1
    let actor ← deserialize_handle
    pure ⟨actor, url⟩
  -- into what it points to
  | .pointer t, pnt => t.deserialize_into pnt
  -- a new object, and the old one is deleted
  | .smart_ptr _ t, _ => do
    if ← read_bool then
      some <$> t.deserialize deserialize_body containers .in_place
    else pure none
  -- there is no `else`
  | .optional t, o => do
    if ← read_bool then
      some <$> t.deserialize deserialize_body containers .returned
    else pure o
  | .pair a b, p => do
    let x ← a.deserialize_into p.1
    let y ← b.deserialize_into p.2
    pure (x, y)
  | .empty_tuple, t => pure t
  | .tuple t ts, p => do
    let x ← t.deserialize_into p.1
    let xs ← ts.deserialize_into p.2
    pure (x, xs)
  | .sequence _ t, it =>
    deserialize_items_into (t.deserialize deserialize_body containers .returned)
      (fun xs x => xs ++ [x]) it.1
  | .set c t, it =>
    deserialize_items_into (t.deserialize deserialize_body containers .returned)
      (emplace (containers.same_key c t) (containers.position c t)) it.1
  | .map c k v, it =>
    deserialize_items_into (do
        let x ← k.deserialize deserialize_body containers .in_place
        let y ← v.deserialize deserialize_body containers .in_place
        pure (x, y))
      (emplace (fun x y => containers.same_key c k x.1 y.1)
        (fun xs x => containers.position c k (xs.map Prod.fst) x.1)) it.1
  | .const t, x => t.deserialize_into x
  | .message_body, _ => do
    if ← read_bool then some <$> deserialize_body else pure none

/-- `s.read(std::get<I>(t) ...)` -/
def Pack.deserialize_into : (ts : Pack) → ts.Val β → Reader (ts.Val β)
  | .nil, _ => pure ()
  | .cons t ts, p => do
    let x ← t.deserialize_into p.1
    let xs ← ts.deserialize_into p.2
    pure (x, xs)

end

end into

/-! ### What is replaced -/

section replaces

variable {β β' : Type} (R : β → β' → Prop) (containers : KeyedContainers)

mutual

/-- Nothing of the old value is left when `x` is decoded into it: a sequence was empty; a set
    or a map keeps its items, and `x` has them all, which are not put there again; a
    `std::optional` that becomes empty was so. -/
def Ty.Replaces : (t : Ty) → (old : t.Val β') → (x : t.Val β) → Prop
  | .pod _, _, _ | .string, _, _ | .bits, _, _ | .local_actor_handle, _, _ => True
  | .actor_info, _, _ | .smart_ptr _ _, _, _ | .empty_tuple, _, _ | .message_body, _, _ => True
  | .pointer t, old, x => t.Replaces old x
  | .optional _, old, x => x = none → old = none
  | .pair a b, old, x => a.Replaces old.1 x.1 ∧ b.Replaces old.2 x.2
  | .tuple t ts, old, x => t.Replaces old.1 x.1 ∧ ts.Replaces old.2 x.2
  | .sequence _ _, old, _ => old.1 = []
  | .set c t, old, x =>
    ∀ y ∈ old.1, ∃ z ∈ x.1, t.Equal R z y ∧ containers.same_key c t y y = true
  | .map c k v, old, x =>
    ∀ y ∈ old.1, ∃ z ∈ x.1, (k.Equal R z.1 y.1 ∧ v.Equal R z.2 y.2) ∧
      containers.same_key c k y.1 y.1 = true
  | .const t, old, x => t.Replaces old x

def Pack.Replaces : (ts : Pack) → (old : ts.Val β') → (x : ts.Val β) → Prop
  | .nil, _, _ => True
  | .cons t ts, old, x => t.Replaces old.1 x.1 ∧ ts.Replaces old.2 x.2

end

end replaces

/-! ### What is written over -/

theorem length_resized {α : Type} (xs : List α) (n : Nat) (x : α) :
    (resized xs n x).length = n := by
  rw [resized, List.length_append, List.length_take, List.length_replicate]
  omega

/-- The whole of the resized string is overwritten. -/
theorem takes_string_into (str : List UInt8) (x : Sized UInt8) :
    (deserialize_string_into str).Takes (size_bytes x.1.length ++ x.1) (Eq x) := by
  apply (takes_size x).bind
  rintro n rfl
  apply (takes_chars x.1).bind_nil
  rintro bytes rfl
  rw [List.drop_eq_nil_of_le (length_resized str _ 0).le]
  exact takes_sized (by simpa using x.2) (Subtype.ext (List.append_nil _).symm)

/-- Assigning the elements one after the other. -/
theorem foldl_set_eq {α : Type} (ys done xs : List α) (h : ys.length = xs.length) :
    ys.foldl (fun (p : Nat × List α) y => (p.1 + 1, p.2.set p.1 y)) (done.length, done ++ xs) =
      (done.length + ys.length, done ++ ys) := by
  induction ys generalizing done xs with
  | nil =>
    obtain rfl : xs = [] := List.eq_nil_of_length_eq_zero h.symm
    rfl
  | cons y ys ih =>
    cases xs with
    | nil => cases h
    | cons x xs =>
      have hset : (done ++ x :: xs).set done.length y = (done ++ [y]) ++ xs := by simp
      have hnext := ih (done ++ [y]) xs (Nat.succ.inj h)
      rw [List.length_append, List.length_singleton] at hnext
      rw [List.foldl_cons, hset, hnext, List.length_cons, List.append_assoc, Nat.add_assoc,
        Nat.add_comm 1]
      rfl

/-- All elements of the resized vector are assigned. -/
theorem takes_bits_into (v : List Bool) (x : Sized Bool) :
    (deserialize_bits_into v).Takes (size_bytes x.1.length ++ x.1.flatMap bool_bytes) (Eq x) := by
  apply (takes_size x).bind
  rintro n rfl
  apply (Reader.Takes.fold (fun b _ => takes_bool b) _).bind_nil
  rintro out ⟨ys, hys, rfl⟩
  obtain rfl : x.1 = ys := List.forall₂_eq_eq_eq ▸ hys
  have hfold := foldl_set_eq x.1 [] (resized v x.1.length false) (length_resized ..).symm
  rw [List.nil_append, List.nil_append] at hfold
  rw [show ([] : List Bool).length = 0 from rfl] at hfold
  rw [hfold]
  exact takes_sized x.2 rfl

/-! ### What is added to -/

section items

variable {α ι : Type} {read : Reader α} {enc : ι → List UInt8} {rel : ι → α → Prop}

theorem decides_sized {xs : List α} {P : Sized α → Prop} {condition : Prop}
    (h : ∀ h, P ⟨xs, h⟩ ↔ condition) (hlong : condition → xs.length < 2 ^ 64) :
    (sized xs).Decides [] P condition := by
  rw [sized]
  split
  · next hlt => exact (Reader.takes_pure (P := fun x => P x ↔ condition) (h hlt)).decides
  · next hge => exact (Reader.fails_failure []).decides fun hc => hge (hlong hc)

/-- A sequence is right if there was nothing in it. -/
theorem decides_sequence_into (xs : Sized ι) (h : ∀ x ∈ xs.1, read.Takes (enc x) (rel x))
    (old : List α) :
    (deserialize_items_into read (fun xs x => xs ++ [x]) old).Decides
      (size_bytes xs.1.length ++ xs.1.flatMap enc) (fun ys => List.Forall₂ rel xs.1 ys.1)
      (old = []) := by
  apply (takes_size xs).bind_decides
  rintro n rfl
  apply (Reader.Takes.fold h old).bind_nil_decides
  rintro out ⟨ys, hys, rfl⟩
  rw [foldl_append_eq]
  apply decides_sized
  · intro _
    constructor
    · intro hall
      have hlen := hall.length_eq
      rw [hys.length_eq, List.length_append] at hlen
      exact List.eq_nil_of_length_eq_zero (by omega)
    · rintro rfl
      exact hys
  · rintro rfl
    rw [List.nil_append, ← hys.length_eq]
    exact xs.2

section emplace

variable {same : α → α → Bool} {position : List α → α → Nat}

/-- Elements with equivalent keys are the same element of a list with different keys. -/
theorem eq_of_same (hsymm : ∀ x y, same x y = same y x) {xs : List α}
    (hxs : xs.Pairwise fun x y => same x y = false) {x y : α} (hx : x ∈ xs) (hy : y ∈ xs)
    (hsame : same x y = true) : x = y := by
  by_contra hne
  have hsymm : Std.Symm fun x y => same x y = false := ⟨fun x y hxy => (hsymm y x).trans hxy⟩
  rw [hxs.forall hx hy hne] at hsame
  cases hsame

theorem nodup_of_same {xs : List α} (hxs : xs.Pairwise fun x y => same x y = false)
    (hself : ∀ x ∈ xs, same x x = true) : xs.Nodup := by
  refine hxs.imp_of_mem ?_
  rintro x y hx - hxy rfl
  rw [hself x hx] at hxy
  cases hxy

/-- As many items that are equivalent to none like them were written as are read. -/
theorem countP_eq_of_forall₂ {p : ι → Bool} {q : α → Bool} {xs : List ι} {ys : List α}
    (hpq : ∀ x y, rel x y → p x = q y) (h : List.Forall₂ rel xs ys) :
    xs.countP p = ys.countP q := by
  induction h with
  | nil => rfl
  | cons hxy _ ih => rw [List.countP_cons, List.countP_cons, ih, hpq _ _ hxy]

end emplace

section merge

variable {same : ι → ι → Bool} {same' : α → α → Bool} (position : List α → α → Nat)
  (hsymm : ∀ x y, same x y = same y x) (hsymm' : ∀ x y, same' x y = same' y x)
  (hcongr : ∀ x y x' y', rel x x' → rel y y' → same x y = same' x' y')
  {xs : List ι} (hxs : xs.Pairwise fun x y => same x y = false)
  {old ys : List α} (hold : old.Pairwise fun x y => same' x y = false)
  (hys : List.Forall₂ rel xs ys)

section matching

variable (hall : ∀ o ∈ old, ∃ x ∈ xs, rel x o)
include hsymm hcongr hxs hall

/-- An old item and a new one with its key are equal to the same written item. -/
theorem rel_of_same {o : α} (ho : o ∈ old) {x : ι} (hx : x ∈ xs) {y : α} (hxy : rel x y)
    (hoy : same' o y = true) : rel x o := by
  obtain ⟨x', hx', hrel⟩ := hall o ho
  rw [← hcongr x' x o y hrel hxy] at hoy
  exact eq_of_same hsymm hxs hx' hx hoy ▸ hrel

include hys in
/-- What is not put into the container is equivalent to what is read like it. -/
theorem same_self_of_not_new {o y : α} (ho : o ∈ old) (hy : y ∈ ys) (hoy : same' o y = true) :
    same' y y = true := by
  obtain ⟨x, hx, hxy⟩ := exists_mem_of_forall₂ hys.flip hy
  have hxo := rel_of_same hsymm hcongr hxs hall ho hx hxy hoy
  rwa [← hcongr x x y y hxy hxy, hcongr x x o y hxo hxy]

end matching

section kept

/-- The old item that stands for a new one with its key. -/
def kept (same' : α → α → Bool) (old : List α) (y : α) : α :=
  (old.find? fun o => same' o y).getD y

theorem kept_of_new {y : α} (h : ∀ o ∈ old, same' o y = false) : kept same' old y = y := by
  have hfind : (old.find? fun o => same' o y) = none := by
    rw [List.find?_eq_none]
    intro o ho
    simp [h o ho]
  rw [kept, hfind, Option.getD_none]

theorem kept_cases (same' : α → α → Bool) (old : List α) (y : α) :
    (kept same' old y = y ∧ ∀ o ∈ old, same' o y = false) ∨
      (kept same' old y ∈ old ∧ same' (kept same' old y) y = true) := by
  cases hfind : old.find? fun o => same' o y with
  | none =>
    have hnew : ∀ o ∈ old, same' o y = false := by simpa using hfind
    exact .inl ⟨kept_of_new hnew, hnew⟩
  | some o =>
    right
    rw [kept, hfind, Option.getD_some]
    have hoy := List.find?_some hfind
    exact ⟨List.mem_of_find?_eq_some hfind, hoy⟩

variable (hall : ∀ o ∈ old, ∃ x ∈ xs, rel x o)
include hsymm hcongr hxs hall

theorem rel_kept {x : ι} (hx : x ∈ xs) {y : α} (hxy : rel x y) : rel x (kept same' old y) := by
  rcases kept_cases same' old y with ⟨hy, -⟩ | ⟨ho, hoy⟩
  · rwa [hy]
  · exact rel_of_same hsymm hcongr hxs hall ho hx hxy hoy

include hys in
theorem forall₂_kept : List.Forall₂ rel xs (ys.map (kept same' old)) := by
  rw [List.forall₂_map_right_iff]
  rw [List.forall₂_iff_zip] at hys ⊢
  refine ⟨hys.1, fun {x y} hmem => ?_⟩
  exact rel_kept hsymm hcongr hxs hall (List.of_mem_zip hmem).1 (hys.2 hmem)

include hsymm' hold in
theorem kept_eq {o : α} (ho : o ∈ old) (hself : same' o o = true) {x : ι} (hx : x ∈ xs) {y : α}
    (hxo : rel x o) (hxy : rel x y) : kept same' old y = o := by
  have hoy : same' o y = true := by rw [← hcongr x x o y hxo hxy, hcongr x x o o hxo hxo, hself]
  rcases kept_cases same' old y with ⟨-, hnew⟩ | ⟨ho', ho'y⟩
  · rw [hnew o ho] at hoy
    cases hoy
  · have hxo' := rel_of_same hsymm hcongr hxs hall ho' hx hxy ho'y
    refine eq_of_same hsymm' hold ho' ho ?_
    rw [← hcongr x x _ o hxo' hxo, hcongr x x o o hxo hxo, hself]

end kept

include hsymm hsymm' hcongr hxs hold hys in
/-- **A merge.** What is read into a set or a map equals what was written exactly if every
    old item equals one of it, and is what this one is equivalent to when it is read. -/
theorem foldl_emplace_equal_iff :
    (∃ zs, List.Forall₂ rel xs zs ∧ (ys.foldl (emplace same' position) old).Perm zs) ↔
      ∀ o ∈ old, ∃ x ∈ xs, rel x o ∧ same' o o = true := by
  have hpairwise {zs : List α} (hzs : List.Forall₂ rel xs zs) :=
    pairwise_of_forall₂ hcongr hxs hzs
  have hmerged : (ys.foldl (emplace same' position) old).Perm
      (old ++ ys.filter fun y => !old.any fun x => same' x y) :=
    foldl_emplace_into_perm old (hpairwise hys)
  have hsplit := List.filter_append_perm (fun y => !old.any fun x => same' x y) ys
  constructor
  · rintro ⟨zs, hzs, hperm⟩ o ho
    have hall : ∀ o ∈ old, ∃ x ∈ xs, rel x o := fun o ho =>
      exists_mem_of_forall₂ hzs.flip
        (hperm.mem_iff.mp (hmerged.mem_iff.mpr (List.mem_append_left _ ho)))
    obtain ⟨x, hx, hxo⟩ := hall o ho
    refine ⟨x, hx, hxo, ?_⟩
    -- count the items that are equivalent to none that is read like them
    let p (y : α) : Bool := !same' y y
    have hcount {zs : List α} (hzs : List.Forall₂ rel xs zs) :=
      countP_eq_of_forall₂ (p := fun x => !same x x) (q := p)
        (fun x y hxy => congrArg _ (hcongr x x y y hxy hxy)) hzs
    have hleft : (ys.filter fun y => !!old.any fun x => same' x y).countP p = 0 := by
      rw [List.countP_eq_zero]
      intro y hy
      obtain ⟨hy, hany⟩ := List.mem_filter.mp hy
      rw [Bool.not_not] at hany
      obtain ⟨o', ho', ho'y⟩ := List.any_eq_true.mp hany
      simp [p, same_self_of_not_new hsymm hcongr hxs hys hall ho' hy ho'y]
    have hzero : old.countP p = 0 := by
      have hm := (hmerged.symm.trans hperm).countP_eq p
      have hs := hsplit.countP_eq p
      rw [List.countP_append] at hm hs
      have := hcount hzs
      have := hcount hys
      omega
    simpa [p] using List.countP_eq_zero.mp hzero o ho
  · intro hall
    have hrel : ∀ o ∈ old, ∃ x ∈ xs, rel x o := fun o ho =>
      let ⟨x, hx, hxo, _⟩ := hall o ho
      ⟨x, hx, hxo⟩
    have hself : ∀ o ∈ old, same' o o = true := fun o ho =>
      let ⟨_, _, _, hoo⟩ := hall o ho
      hoo
    have hzs := forall₂_kept hsymm hcongr hxs hys hrel
    refine ⟨ys.map (kept same' old), hzs, hmerged.trans ?_⟩
    -- the new items are there as they are read, the others are the old ones
    refine .trans ?_ (hsplit.map (kept same' old))
    rw [List.map_append]
    have hnew : (ys.filter fun y => !old.any fun x => same' x y).map (kept same' old) =
        ys.filter fun y => !old.any fun x => same' x y := by
      refine (List.map_congr_left fun y hy => kept_of_new fun o ho => ?_).trans (List.map_id _)
      have hany := (List.mem_filter.mp hy).2
      simp only [Bool.not_eq_true', List.any_eq_false, Bool.not_eq_true] at hany
      exact hany o ho
    rw [hnew]
    refine List.perm_append_comm.trans (.append_left _ ?_)
    have hold_of_mem : ∀ w ∈ (ys.filter fun y => !!old.any fun x => same' x y).map
        (kept same' old), w ∈ old := by
      intro w hw
      obtain ⟨y, hy, rfl⟩ := List.mem_map.mp hw
      have hany := (List.mem_filter.mp hy).2
      rw [Bool.not_not] at hany
      obtain ⟨o, ho, hoy⟩ := List.any_eq_true.mp hany
      rcases kept_cases same' old y with ⟨-, hnot⟩ | ⟨hmem, -⟩
      · rw [hnot o ho] at hoy
        cases hoy
      · exact hmem
    have hsub : ((ys.filter fun y => !!old.any fun x => same' x y).map (kept same' old)).Pairwise
        fun x y => same' x y = false :=
      (hpairwise hzs).sublist (List.filter_sublist.map _)
    rw [List.perm_ext_iff_of_nodup (nodup_of_same hold hself)
      (nodup_of_same hsub fun w hw => hself w (hold_of_mem w hw))]
    intro o
    refine ⟨fun ho => ?_, hold_of_mem o⟩
    obtain ⟨x, hx, hxo, hoo⟩ := hall o ho
    obtain ⟨y, hy, hxy⟩ := exists_mem_of_forall₂ hys hx
    refine List.mem_map.mpr ⟨y, List.mem_filter.mpr ⟨hy, ?_⟩,
      kept_eq hsymm hsymm' hcongr hxs hold hrel ho hoo hx hxo hxy⟩
    rw [Bool.not_not, List.any_eq_true]
    exact ⟨o, ho, by rw [← hcongr x x o y hxo hxy, hcongr x x o o hxo hxo, hoo]⟩

end merge

/-- A set or a map is right if it had nothing but items of the written one. -/
theorem decides_keyed_into (xs : Sized ι) (h : ∀ x ∈ xs.1, read.Takes (enc x) (rel x))
    {same : ι → ι → Bool} {same' : α → α → Bool} (position : List α → α → Nat)
    (hsymm : ∀ x y, same x y = same y x) (hsymm' : ∀ x y, same' x y = same' y x)
    (hcongr : ∀ x y x' y', rel x x' → rel y y' → same x y = same' x' y')
    (hxs : xs.1.Pairwise fun x y => same x y = false) {old : List α}
    (hold : old.Pairwise fun x y => same' x y = false) :
    (deserialize_items_into read (emplace same' position) old).Decides
      (size_bytes xs.1.length ++ xs.1.flatMap enc)
      (fun ys => ∃ zs, List.Forall₂ rel xs.1 zs ∧ ys.1.Perm zs)
      (∀ o ∈ old, ∃ x ∈ xs.1, rel x o ∧ same' o o = true) := by
  apply (takes_size xs).bind_decides
  rintro n rfl
  apply (Reader.Takes.fold h old).bind_nil_decides
  rintro out ⟨ys, hys, rfl⟩
  have hiff := foldl_emplace_equal_iff position hsymm hsymm' hcongr hxs hold hys
  apply decides_sized fun _ => hiff
  intro hall
  obtain ⟨zs, hzs, hperm⟩ := hiff.mpr hall
  rw [hperm.length_eq, ← hzs.length_eq]
  exact xs.2

end items

/-! ### What is right in the end -/

/-- Keys are compared in the same way from both sides. -/
def KeyedContainers.Symmetric (containers : KeyedContainers) : Prop :=
  ∀ c (k : Ty) {β : Type} (x y : k.Val β), containers.same_key c k x y = containers.same_key c k y x

section decides

variable {β β' : Type} (bodies : BodyCodec β β') {containers : KeyedContainers}

/-- An optional part that is present is replaced. -/
theorem decides_present {α : Type} {r : Reader α} {bytes : List UInt8} {P : α → Prop}
    (h : r.Takes bytes P) (absent : Option α) {Q : Option α → Prop}
    (hQ : ∀ y, P y → Q (some y)) {condition : Prop} (hc : condition) :
    (do if ← read_bool then some <$> r else pure absent).Decides (bool_bytes true ++ bytes) Q
      condition := by
  apply (takes_bool true).bind_decides
  rintro b rfl
  exact (Reader.Takes.map (Q := fun x => Q x ↔ condition) h fun y hy =>
    iff_of_true (hQ y hy) hc).decides

/-- One that is absent is what the decoder makes of it. -/
theorem decides_absent {α : Type} (r : Reader α) {absent : Option α} {Q : Option α → Prop}
    {condition : Prop} (hQ : Q absent ↔ condition) :
    (do if ← read_bool then some <$> r else pure absent).Decides (bool_bytes false) Q
      condition := by
  apply (takes_bool false).bind_nil_decides
  rintro b rfl
  exact (Reader.takes_pure (P := fun x => Q x ↔ condition) hQ).decides

mutual

/-- **Whether the old value is gone**, when the parts of the encoded one are sound. -/
theorem Ty.deserialize_into_decides (symmetric : containers.Symmetric) : (t : Ty) →
    (is_const : Bool) → (old : t.Val β') → (x : t.Val β) →
    t.Every (PartSound bodies containers) .in_place is_const x →
    t.Every (KeysDiffer containers) .in_place is_const old →
    (t.deserialize_into bodies.deserialize containers old).Decides (t.bytes bodies is_const x)
      (t.Equal bodies.same x) (t.Replaces bodies.same containers old x)
  | .pod _, _, _, x, _, _ => (takes_pod x).decides_true
  | .string, _, old, x, _, _ => (takes_string_into old.1 x).decides_true
  | .bits, _, old, x, _, _ => (takes_bits_into old.1 x).decides_true
  | .local_actor_handle, _, _, x, _, _ => (takes_handle x).decides_true
  | .actor_info, _, old, x, _, _ => by
    apply Reader.Takes.decides_true
    apply (takes_string_into old.net_gate_url.1 x.net_gate_url).bind
    rintro url rfl
    apply (takes_handle x.actor).bind_nil
    rintro actor rfl
    exact Reader.takes_pure rfl
  | .pointer _, _, _, _, h, _ => nomatch h.1.pointer_returned
  | .smart_ptr _ t, _, _, some x, h, _ =>
    decides_present (t.deserialize_takes bodies containers .in_place false x (h.2 x rfl)) none
      (fun _ => .some) trivial
  | .smart_ptr _ _, _, _, none, _, _ => decides_absent _ (iff_of_true .none trivial)
  | .optional t, _, old, some x, h, _ =>
    decides_present (t.deserialize_takes bodies containers .returned true x (h.2 x rfl)) old
      (fun _ => .some) nofun
  | .optional _, _, none, none, _, _ => decides_absent _ (iff_of_true .none fun _ => rfl)
  | .optional _, _, some _, none, _, _ =>
    decides_absent _ (iff_of_false nofun fun hr => nomatch hr rfl)
  | .pair a b, _, old, x, h, hold =>
    (a.deserialize_into_decides symmetric true old.1 x.1 h.2.1 hold.2.1).two
      (b.deserialize_into_decides symmetric true old.2 x.2 h.2.2 hold.2.2)
  | .empty_tuple, true, _, _, _, _ => (Reader.takes_pure trivial).decides_true
  | .empty_tuple, false, _, _, h, _ => nomatch h.empty_tuple_const
  | .tuple t ts, _, old, x, h, hold =>
    (t.deserialize_into_decides symmetric true old.1 x.1 h.2.1 hold.2.1).two
      (ts.deserialize_into_decides symmetric old.2 x.2 h.2.2 hold.2.2)
  | .sequence _ t, is_const, old, x, h, _ =>
    decides_sequence_into x
      (fun y hy => t.deserialize_takes bodies containers .returned is_const y (h.2 y hy)) old.1
  | .set c t, _, _, x, h, hold =>
    decides_keyed_into x
      (fun y hy => t.deserialize_takes bodies containers .returned true y (h.2 y hy)) _
      (symmetric c t) (symmetric c t)
      (containers.same_key_congr c t bodies.same) h.1.keys_differ hold.1
  | .map c k v, _, _, x, h, hold =>
    decides_keyed_into x
      (fun y hy => Reader.Takes.two
        (k.deserialize_takes bodies containers .in_place true y.1 (h.2 y hy).1)
        (v.deserialize_takes bodies containers .in_place true y.2 (h.2 y hy).2)) _
      (fun x y => symmetric c k x.1 y.1) (fun x y => symmetric c k x.1 y.1)
      (fun x y x' y' hx hy =>
        containers.same_key_congr c k bodies.same x.1 y.1 x'.1 y'.1 hx.1 hy.1)
      h.1.keys_differ hold.1
  | .const t, _, old, x, h, hold => t.deserialize_into_decides symmetric true old x h.2 hold.2
  | .message_body, _, _, some b, h, _ =>
    decides_present (bodies.takes b (h.body_fits b rfl)) none (fun _ => .some) trivial
  | .message_body, _, _, none, _, _ => decides_absent _ (iff_of_true .none trivial)

theorem Pack.deserialize_into_decides (symmetric : containers.Symmetric) : (ts : Pack) →
    (old : ts.Val β') → (x : ts.Val β) →
    ts.Every (PartSound bodies containers) x → ts.Every (KeysDiffer containers) old →
    (ts.deserialize_into bodies.deserialize containers old).Decides (ts.bytes bodies x)
      (ts.Equal bodies.same x) (ts.Replaces bodies.same containers old x)
  | .nil, _, _, _, _ => (Reader.takes_pure trivial).decides_true
  | .cons t ts, old, x, h, hold =>
    (t.deserialize_into_decides symmetric true old.1 x.1 h.1 hold.1).two
      (ts.deserialize_into_decides symmetric old.2 x.2 h.2 hold.2)

end

end decides

/-! ### Values without bodies -/

/-- `v` is written and read into an object that holds `old`: the object equals `v` then, and
    as much is taken as is for a fresh one. -/
def ReadReplaces (std : StandardLibrary) (containers : KeyedContainers) (t : Ty)
    (is_const : Bool) (old v : t.Val Empty) (rest : List UInt8) : Prop :=
  t.shape.load_compiles std .in_place = true ∧
  ∃ bytes w fresh rest', t.serialize no_bodies is_const v (Serializer.make []) =
      some (Serializer.make bytes) ∧
    t.deserialize no_bodies.deserialize containers .in_place (bytes ++ rest) =
      some (fresh, rest') ∧
    t.deserialize_into no_bodies.deserialize containers old (bytes ++ rest) = some (w, rest') ∧
    t.Equal no_bodies.same v w

/-- The keys of a value are the same wherever it stands. -/
theorem Value.keys_differ_in_place {containers : KeyedContainers} {t : Ty}
    (v : Value containers t) (is_const : Bool) :
    t.Every (KeysDiffer containers) .in_place is_const v.val := by
  have h := v.keys_differ is_const
  cases t <;> exact h

def same_plain_key : (k : Ty) → {β : Type} → k.Val β → k.Val β → Bool
  | .pod _, _, x, y => x.1 == y.1
  | .string, _, x, y => x.1 == y.1
  | _, _, _, _ => true

/-- Sets and maps whose keys are scalars or strings; others have one item at most. -/
def plain_keys : KeyedContainers where
  same_key _ k _ x y := same_plain_key k x y
  same_key_congr c k β β' R x y x' y' hx hy := by
    cases k with
    | pod size =>
      obtain rfl : x = x' := hx
      obtain rfl : y = y' := hy
      rfl
    | string =>
      obtain rfl : x = x' := hx
      obtain rfl : y = y' := hy
      rfl
    | _ => rfl
  position _ _ _ xs _ := xs.length

theorem plain_keys_symmetric : plain_keys.Symmetric := by
  intro c k β x y
  cases k with
  | pod size => exact Bool.beq_comm (α := List UInt8)
  | string => exact Bool.beq_comm (α := List UInt8)
  | _ => rfl

/-- `std::pair<std::optional<char>, std::set<char>>` -/
abbrev optional_and_set : Ty := .pair (.optional (.pod 1)) (.set 0 (.pod 1))

def char (c : UInt8) : Ty.Val Empty (.pod 1) := ⟨[c], rfl⟩

/-- `{{}, {1}}` -/
def without_optional : Value plain_keys optional_and_set where
  val := (none, ⟨[char 1], by decide⟩)
  keys_differ is_const := by simp [Ty.Every, KeysDiffer]

/-- `{{3}, {1, 2}}` -/
def with_optional : Value plain_keys optional_and_set where
  val := (some (char 3), ⟨[char 1, char 2], by decide⟩)
  keys_differ is_const := by
    refine ⟨trivial, ⟨trivial, fun _ _ => trivial⟩, ?_, fun _ _ => trivial⟩
    exact List.pairwise_pair.mpr rfl

/-- A `std::vector<char>` with the one item `c`. -/
def one_item (c : UInt8) : Value no_keys (.sequence .vector (.pod 1)) where
  val := ⟨[char c], by simp⟩
  keys_differ is_const := by simp [Ty.Every, KeysDiffer]

end ZAF
