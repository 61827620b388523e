import ZAF.Framework.Ring

/-! # The single-writer single-reader delivery queue

    `SWSRDeliveryQueue` is a ring of `cap = 2 ^ scale` items addressed by two
    free-running `unsigned` counters: the writer owns `write_idx`, the reader
    owns `read_idx`, and `items[i & bit_mask]` is the item of counter value `i`.

    This module holds the data structure and its operations as the source
    computes them on loaded copies of the counters, and `Repr`, which says what
    sequence of items a queue stands for. The single-threaded and the
    two-threaded uses are modelled on top of it.
-/

namespace ZAF

open Ring

/-- What `push` does when the queue is full. -/
inductive SWSRDeliveryQueueFullStrategy where
  /-- Wait until the reader has released a slot. -/
  | Blocking
  /-- Double the buffer; only for messages to self. -/
  | Resize
  /-- Give the message up. -/
  | Giveup
  deriving DecidableEq, Repr

/-- The fields of the queue, with the defaults of the source. -/
structure SWSRDeliveryQueue (Item : Type) where
  write_idx : UInt32 := 0
  read_idx : UInt32 := 0
  may_have_message : Bool := false
  /-- `2` to a power, once `resize` has been called. -/
  cap : UInt32 := 0
  /-- `cap - 1`. -/
  bit_mask : UInt32 := 0
  items : List Item := []
  flag_stop_pop_some : Bool := false
  num_empty_read : UInt32 := 0
  is_writing_by_sender : Bool := true
  max_messages_read : UInt32 := 100
  max_empty_read : UInt32 := 100
  deriving Repr

namespace SWSRDeliveryQueue

variable {Item : Type}

/-! ### Progress flag -/

/-- `may_have_message.exchange(true)`: whether the flag was false, and the queue
    with the flag set. -/
def inc_write_progress (q : SWSRDeliveryQueue Item) : Bool × SWSRDeliveryQueue Item :=
  (!q.may_have_message, { q with may_have_message := true })

/-- The reader clears the flag. -/
def inc_read_progress (q : SWSRDeliveryQueue Item) : SWSRDeliveryQueue Item :=
  { q with may_have_message := false }

/-! ### Counters -/

/-- Whether the writer cannot push anything. -/
def full (q : SWSRDeliveryQueue Item) : Bool := q.write_idx - q.read_idx == q.cap

/-- Whether there is nothing to read. -/
def empty (q : SWSRDeliveryQueue Item) : Bool := q.write_idx == q.read_idx

/-- The number of unread items. -/
def size (q : SWSRDeliveryQueue Item) : UInt32 := q.write_idx - q.read_idx

/-- The full test of `push`, on a loaded `write_idx` and a loaded `read_idx`. -/
def push_blocked (q : SWSRDeliveryQueue Item) (w r : UInt32) : Bool := w - q.cap == r

/-- The slot of a counter value. -/
def slot (q : SWSRDeliveryQueue Item) (i : UInt32) : Nat := (i &&& q.bit_mask).toNat

/-! ### The buffer -/

variable [Inhabited Item]

/-- `std::vector::resize`: cut, or fill up with value-initialised items. -/
def vector_resize (items : List Item) (n : Nat) : List Item :=
  items.take n ++ List.replicate (n - items.length) default

/-- `std::move(begin, begin + m, begin + dest)`, one item after the other. The
    moved-from items are never read again; they keep their value here, as
    pointers do. -/
def move_range (items : List Item) (m dest : Nat) : List Item :=
  (List.range m).foldl (fun acc j => acc.set (dest + j) (acc.getD j default)) items

/-- Set the capacity to `2 ^ scale`. -/
def resize (q : SWSRDeliveryQueue Item) (scale : Nat) : SWSRDeliveryQueue Item :=
  let cap : UInt32 := 1 <<< UInt32.ofNat scale
  { q with cap := cap, items := vector_resize q.items cap.toNat, bit_mask := cap - 1 }

/-- The item of a counter value. -/
def item (q : SWSRDeliveryQueue Item) (i : UInt32) : Item := q.items.getD (q.slot i) default

/-- The oldest unread item. -/
def top (q : SWSRDeliveryQueue Item) : Item := q.item q.read_idx

/-- The `Resize` case of a `push` that loaded `w` and found the queue full. -/
def grow (q : SWSRDeliveryQueue Item) (w : UInt32) : SWSRDeliveryQueue Item :=
  let cap := q.cap <<< 1
  { q with
    items := move_range (vector_resize q.items cap.toNat) (q.slot w) q.cap.toNat
    cap := cap
    bit_mask := cap - 1 }

/-- `items[w & bit_mask] = elem`. -/
def store (q : SWSRDeliveryQueue Item) (w : UInt32) (elem : Item) : SWSRDeliveryQueue Item :=
  { q with items := q.items.set (q.slot w) elem }

/-- `write_idx.fetch_add(1)`. -/
def publish (q : SWSRDeliveryQueue Item) : SWSRDeliveryQueue Item :=
  { q with write_idx := q.write_idx + 1 }

/-- `read_idx.fetch_add(1)`, after the pop handler has returned. -/
def release (q : SWSRDeliveryQueue Item) : SWSRDeliveryQueue Item :=
  { q with read_idx := q.read_idx + 1 }

/-- `push` without interference by a reader: the result and the queue. A
    blocking push on a full queue waits for ever. -/
def push (q : SWSRDeliveryQueue Item) (elem : Item) :
    SWSRDeliveryQueueFullStrategy → Option (Bool × SWSRDeliveryQueue Item)
  | s =>
    let w := q.write_idx
    if q.push_blocked w q.read_idx then
      match s with
      | .Blocking => none
      | .Resize => some (true, ((q.grow w).store w elem).publish)
      | .Giveup => some (false, q)
    else some (true, (q.store w elem).publish)

/-- The unread items: `items[i & bit_mask]` for `i = read_idx, ..., write_idx - 1`. -/
def readable (q : SWSRDeliveryQueue Item) : List Item :=
  (List.range q.size.toNat).map fun i => q.item (q.read_idx + UInt32.ofNat i)

end SWSRDeliveryQueue
end ZAF
