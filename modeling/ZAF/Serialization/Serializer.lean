import ZAF.Message.Body

/-! # The serializer and its write pointer

    A `Serializer` writes into a byte buffer at a write pointer, which can be moved
    back: what is written then takes the place of what was there. The encoders use
    this to put in a length after they have written what it is the length of.

    An encoder that finds the write pointer at the end and leaves it there appends
    bytes. `Appends` says which.
-/

namespace ZAF

/-! ### The machine -/

/-- The buffer and the position in it. -/
@[ext]
structure Serializer where
  bytes : List UInt8
  wptr : Nat
  wptr_le : wptr ≤ bytes.length

/-- The little-endian bytes of a number in `n` bytes. -/
def little_endian_bytes : Nat → Nat → List UInt8
  | 0, _ => []
  | n + 1, v => UInt8.ofNat v :: little_endian_bytes n (v / 256)

@[simp] theorem length_little_endian_bytes (n v : Nat) :
    (little_endian_bytes n v).length = n := by
  induction n generalizing v with
  | zero => rfl
  | succ n ih => rw [little_endian_bytes, List.length_cons, ih]

/-- What does not fit in the bytes is lost. -/
theorem little_endian_little_endian_bytes (n v : Nat) :
    little_endian (little_endian_bytes n v) = v % 256 ^ n := by
  induction n generalizing v with
  | zero => rw [Nat.pow_zero, Nat.mod_one]; rfl
  | succ n ih =>
    have hcons : little_endian (little_endian_bytes (n + 1) v) =
        (UInt8.ofNat v).toNat + 256 * little_endian (little_endian_bytes n (v / 256)) := rfl
    rw [hcons, ih, Nat.pow_succ', Nat.mod_mul, UInt8.toNat_ofNat']

namespace Serializer

/-- `Serializer(byte_buffer)` -/
def make (byte_buffer : List UInt8) : Serializer := ⟨byte_buffer, byte_buffer.length, le_refl _⟩

/-- What is in the way of `b` is overwritten, the rest of `b` is appended. -/
def write_bytes (s : Serializer) (b : List UInt8) : Serializer :=
  if s.wptr = s.bytes.length then make (s.bytes ++ b)
  else
    let copy_len := min (s.bytes.length - s.wptr) b.length
    -- the last part is empty unless the overwriting reaches the end
    { bytes := s.bytes.take s.wptr ++ b.take copy_len ++ s.bytes.drop (s.wptr + copy_len) ++
        b.drop copy_len
      wptr := s.wptr + b.length
      wptr_le := by
        have := s.wptr_le
        simp only [List.length_append, List.length_take, List.length_drop]
        omega }

/-- `write_pod` of an unsigned integer of `n` bytes. -/
def write_uint (s : Serializer) (n v : Nat) : Serializer := s.write_bytes (little_endian_bytes n v)

/-- `write` of a `bool`. -/
def write_bool (s : Serializer) (b : Bool) : Serializer := s.write_uint 1 b.toNat

def size (s : Serializer) : Nat := s.bytes.length

/-- `none` when it throws. -/
def move_write_ptr_to (s : Serializer) (ptr : Nat) : Option Serializer :=
  if h : ptr ≤ s.bytes.length then some ⟨s.bytes, ptr, h⟩ else none

def move_write_ptr_to_end (s : Serializer) : Serializer := make s.bytes

/-! ### At the end of the buffer -/

@[simp] theorem bytes_make (bytes : List UInt8) : (make bytes).bytes = bytes := rfl

@[simp] theorem size_make (bytes : List UInt8) : (make bytes).size = bytes.length := rfl

@[simp] theorem write_bytes_make (bytes b : List UInt8) :
    (make bytes).write_bytes b = make (bytes ++ b) := if_pos rfl

@[simp] theorem write_uint_make (bytes : List UInt8) (n v : Nat) :
    (make bytes).write_uint n v = make (bytes ++ little_endian_bytes n v) :=
  write_bytes_make bytes _

/-- Writing as much as was there before. -/
theorem write_bytes_back {front old new back : List UInt8} (hlen : new.length = old.length)
    (h : front.length ≤ (front ++ old ++ back).length) (hold : old ≠ []) :
    ((⟨front ++ old ++ back, front.length, h⟩ : Serializer).write_bytes new).bytes =
      front ++ new ++ back := by
  have hpos : 0 < old.length := List.length_pos_iff.mpr hold
  have hne : front.length ≠ (front ++ old ++ back).length := by
    simp only [List.length_append]
    omega
  have hmin : min ((front ++ old ++ back).length - front.length) new.length = new.length := by
    simp only [List.length_append]
    omega
  unfold write_bytes
  simp only [if_neg hne, hmin, List.take_length, List.drop_length, List.append_nil]
  congr 1
  · rw [List.append_assoc, List.take_left]
  · rw [hlen, ← List.length_append, List.drop_left]

/-- Going back to put the length of `back` where `0` was written. -/
theorem fill_in_length (front back : List UInt8) :
    ((make (front ++ little_endian_bytes 4 0 ++ back)).move_write_ptr_to front.length).bind
        (fun s => some (s.write_uint 4 (s.size - front.length - 4)).move_write_ptr_to_end) =
      some (make (front ++ little_endian_bytes 4 back.length ++ back)) := by
  have hle : front.length ≤ (front ++ little_endian_bytes 4 0 ++ back).length := by
    rw [List.append_assoc, List.length_append]
    exact Nat.le_add_right _ _
  have hlen : (front ++ little_endian_bytes 4 0 ++ back).length - front.length - 4 =
      back.length := by
    simp only [List.length_append, length_little_endian_bytes]
    omega
  rw [move_write_ptr_to, bytes_make, dif_pos hle, Option.bind_some, size, hlen,
    move_write_ptr_to_end, write_uint,
    write_bytes_back (by simp) hle (List.ne_nil_of_length_eq_add_one rfl)]

/-- A step from the end of the buffer to its end. -/
def Appends (w : Serializer → Option Serializer) (bytes : List UInt8) : Prop :=
  ∀ front, w (make front) = some (make (front ++ bytes))

theorem appends_nil : Appends some [] := by
  intro front
  rw [List.append_nil]

theorem appends_write_bytes (b : List UInt8) : Appends (fun s => some (s.write_bytes b)) b := by
  intro front
  dsimp only
  rw [write_bytes_make]

theorem Appends.comp {v w : Serializer → Option Serializer} {xs ys : List UInt8}
    (hv : Appends v xs) (hw : Appends w ys) : Appends (fun s => (v s).bind w) (xs ++ ys) := by
  intro front
  dsimp only
  rw [hv front, Option.bind_some, hw, List.append_assoc]

/-- Bytes first, then another writer. -/
theorem Appends.after_bytes {w : Serializer → Option Serializer} {ys : List UInt8}
    (hw : Appends w ys) (b : List UInt8) : Appends (fun s => w (s.write_bytes b)) (b ++ ys) := by
  intro front
  dsimp only
  rw [write_bytes_make, hw, List.append_assoc]

/-- One writer after the other, for the items of a list. -/
theorem Appends.foldlM {ι : Type} {w : ι → Serializer → Option Serializer}
    {enc : ι → List UInt8} {xs : List ι} (h : ∀ x ∈ xs, Appends (w x) (enc x)) :
    Appends (fun s => xs.foldlM (fun s x => w x s) s) (xs.flatMap enc) := by
  induction xs with
  | nil => exact appends_nil
  | cons x xs ih =>
    intro front
    have hx := h x List.mem_cons_self front
    have ih := ih (fun y hy => h y (List.mem_cons_of_mem _ hy)) (front ++ enc x)
    dsimp only
    rw [List.foldlM_cons, hx, List.flatMap_cons, ← List.append_assoc]
    exact ih

end Serializer
end ZAF
