import ZAF.Framework.System

/-! # Counting pointers

    A `CountPointer` shares an object with other ones. The object comes with a counter of
    32 bits on the heap; the pointer that counts down to 0 calls its destructor, if it has
    one, and deletes both.

    Objects and counters are addresses. The variables of type `CountPointer` are no parts of
    the objects, and the destructors do not use them.
-/

namespace ZAF.CountPointers

/-! ### The heap -/

variable {D : Type}

/-- What happens when a counter becomes 0; `D` are the destructors. -/
inductive Event (D : Type) where
  /-- A destructor is called by a pointer with this value. -/
  | called (d : D) (value : Option Nat)
  /-- `delete value` -/
  | deleted (o : Nat)
  deriving DecidableEq

def Event.object_deleted : Event D → Option Nat
  | .called _ _ => none
  | .deleted o => some o

/-- What `new unsigned(1)`, `delete` and the destructors have done. -/
structure Heap (D : Type) where
  /-- The counters in the order of their allocation, `none` after `delete count`. -/
  counters : List (Option UInt32)
  /-- The destructors that were called and the objects that were deleted, in order. -/
  events : List (Event D)
  /-- Has a counter been used that is not there? -/
  undefined : Bool
  deriving DecidableEq

namespace Heap

def empty : Heap D := ⟨[], [], false⟩

/-- The objects in the order in which they were deleted. -/
def deleted (h : Heap D) : List Nat := h.events.filterMap Event.object_deleted

/-- `new unsigned(1)` -/
def new_count (h : Heap D) : Heap D × Nat :=
  ({ h with counters := h.counters ++ [some 1] }, h.counters.length)

/-- `*count = f(*count)` -/
def update (h : Heap D) (count : Nat) (f : UInt32 → UInt32) : Heap D :=
  match h.counters[count]? with
  | some (some n) => { h with counters := h.counters.set count (some (f n)) }
  | _ => { h with undefined := true }

end Heap

/-! ### The pointers -/

structure CountPointer (D : Type) where
  value : Option Nat := none
  count : Option Nat := none
  destructor : Option D := none
  deriving DecidableEq

namespace CountPointer

def inc_count (h : Heap D) (p : CountPointer D) : Heap D :=
  match p.count with
  | some count => h.update count (· + 1)
  | none => h

/-- What follows when the counter has become 0: the destructor is called, then both are
    deleted. -/
def free (h : Heap D) (p : CountPointer D) (count : Nat) : Heap D :=
  { h with
    events := h.events ++ (p.destructor.map fun d => .called d p.value).toList ++
      (p.value.map Event.deleted).toList
    counters := h.counters.set count none }

def dec_count (h : Heap D) (p : CountPointer D) : Heap D × CountPointer D :=
  match p.count with
  | some count =>
    let h := h.update count (· - 1)
    if h.counters[count]? = some (some 0) then (p.free h count, {})
    else (h, p)
  | none => (h, p)

/-- `CountPointer(U*)`, also for a null pointer. -/
def construct (h : Heap D) : (ptr : Option Nat) → Heap D × CountPointer D
  | some ptr =>
    let (h, count) := h.new_count
    (h, { value := ptr, count := count })
  | none => (h, {})

/-- `CountPointer(const CountPointer&)` -/
def copy_construct (h : Heap D) (ptr : CountPointer D) : Heap D × CountPointer D :=
  let p := { value := ptr.value, count := ptr.count, destructor := ptr.destructor }
  (p.inc_count h, p)

/-- `CountPointer(CountPointer&&)`: the new pointer and the old one. -/
def move_construct (ptr : CountPointer D) : CountPointer D × CountPointer D :=
  ({ value := ptr.value, count := ptr.count, destructor := ptr.destructor }, {})

/-- `operator=(U*)` -/
def assign_raw (h : Heap D) (p : CountPointer D) (ptr : Option Nat) : Heap D × CountPointer D :=
  let (h, _) := p.dec_count h
  match ptr with
  | some ptr =>
    let (h, count) := h.new_count
    (h, { value := ptr, count := count })
  | none => (h, {})

/-- `operator=(const CountPointer&)` -/
def assign_copy (h : Heap D) (p ptr : CountPointer D) : Heap D × CountPointer D :=
  if p.count ≠ ptr.count then
    let (h, _) := p.dec_count h
    let p := { count := ptr.count, value := ptr.value, destructor := ptr.destructor }
    (p.inc_count h, p)
  else (h, p)

/-- `operator=(CountPointer&&)`, where the other pointer is another variable. -/
def assign_move (h : Heap D) (p ptr : CountPointer D) :
    Heap D × CountPointer D × CountPointer D :=
  let (h, p) := p.dec_count h
  let p :=
    if p.count ≠ ptr.count then
      { count := ptr.count, value := ptr.value, destructor := ptr.destructor }
    else p
  (h, p, {})

/-- `operator=(std::nullptr_t)` -/
def assign_null (h : Heap D) (p : CountPointer D) : Heap D × CountPointer D :=
  let (h, _) := p.dec_count h
  (h, {})

def set_destructor (p : CountPointer D) (d : D) : CountPointer D := { p with destructor := d }

end CountPointer

/-! ### Programs with such pointers -/

structure State (D : Type) where
  /-- The variables in the order of their construction, `none` after their destruction. -/
  pointers : List (Option (CountPointer D))
  heap : Heap D
  /-- The raw pointers that have been handed in. -/
  handed : List Nat
  deriving DecidableEq

/-- An operation; a number names a variable. -/
inductive Operation (D : Type) where
  | construct (ptr : Option Nat)
  | copy_construct (j : Nat)
  | move_construct (j : Nat)
  | assign_raw (i : Nat) (ptr : Option Nat)
  | assign_copy (i j : Nat)
  | assign_move (i j : Nat)
  | assign_null (i : Nat)
  | set_destructor (i : Nat) (d : D)
  | destroy (i : Nat)

namespace State

def empty : State D := ⟨[], .empty, []⟩

/-- A variable that has been constructed and not been destroyed. -/
def read (s : State D) (i : Nat) : Option (CountPointer D) := (s.pointers[i]?).join

def write (s : State D) (i : Nat) (h : Heap D) (p : CountPointer D) : State D :=
  { s with pointers := s.pointers.set i (some p), heap := h }

def add (s : State D) (h : Heap D) (p : CountPointer D) : State D :=
  { s with pointers := s.pointers ++ [some p], heap := h }

def hand_in (s : State D) (ptr : Option Nat) : State D :=
  { s with handed := s.handed ++ ptr.toList }

/-- A raw pointer is handed in only once. -/
def next (s : State D) : Operation D → Option (State D)
  | .construct ptr =>
    if ∀ o ∈ ptr, o ∉ s.handed then
      let (h, p) := CountPointer.construct s.heap ptr
      some ((s.add h p).hand_in ptr)
    else none
  | .copy_construct j => do
    let ptr ← s.read j
    let (h, p) := CountPointer.copy_construct s.heap ptr
    return s.add h p
  | .move_construct j => do
    let ptr ← s.read j
    let (p, ptr) := CountPointer.move_construct ptr
    return (s.write j s.heap ptr).add s.heap p
  | .assign_raw i ptr => do
    let p ← s.read i
    if ∀ o ∈ ptr, o ∉ s.handed then
      let (h, p) := p.assign_raw s.heap ptr
      return (s.write i h p).hand_in ptr
    else none
  | .assign_copy i j => do
    let p ← s.read i
    let ptr ← s.read j
    let (h, p) := p.assign_copy s.heap ptr
    return s.write i h p
  | .assign_move i j => do
    let p ← s.read i
    let ptr ← s.read j
    if i = j then return s
    else
      let (h, p, ptr) := p.assign_move s.heap ptr
      return (s.write i h p).write j h ptr
  | .assign_null i => do
    let p ← s.read i
    let (h, p) := p.assign_null s.heap
    return s.write i h p
  | .set_destructor i d => do
    let p ← s.read i
    return s.write i s.heap (p.set_destructor d)
  | .destroy i => do
    let p ← s.read i
    return { s with pointers := s.pointers.set i none, heap := (p.dec_count s.heap).1 }

/-- All that an operation can do. -/
inductive Steps (s : State D) : Operation D → State D → Prop where
  | construct (ptr : Option Nat) (hptr : ∀ o ∈ ptr, o ∉ s.handed) :
      Steps s (.construct ptr) ((s.add (CountPointer.construct s.heap ptr).1
        (CountPointer.construct s.heap ptr).2).hand_in ptr)
  | copy_construct (j : Nat) (ptr : CountPointer D) (hj : s.read j = some ptr) :
      Steps s (.copy_construct j) (s.add (CountPointer.copy_construct s.heap ptr).1
        (CountPointer.copy_construct s.heap ptr).2)
  | move_construct (j : Nat) (ptr : CountPointer D) (hj : s.read j = some ptr) :
      Steps s (.move_construct j) ((s.write j s.heap (CountPointer.move_construct ptr).2).add
        s.heap (CountPointer.move_construct ptr).1)
  | assign_raw (i : Nat) (ptr : Option Nat) (p : CountPointer D) (hi : s.read i = some p)
      (hptr : ∀ o ∈ ptr, o ∉ s.handed) :
      Steps s (.assign_raw i ptr) ((s.write i (p.assign_raw s.heap ptr).1
        (p.assign_raw s.heap ptr).2).hand_in ptr)
  | assign_copy (i j : Nat) (p ptr : CountPointer D) (hi : s.read i = some p)
      (hj : s.read j = some ptr) :
      Steps s (.assign_copy i j) (s.write i (p.assign_copy s.heap ptr).1
        (p.assign_copy s.heap ptr).2)
  | assign_move_self (i : Nat) (p : CountPointer D) (hi : s.read i = some p) :
      Steps s (.assign_move i i) s
  | assign_move (i j : Nat) (p ptr : CountPointer D) (hij : i ≠ j) (hi : s.read i = some p)
      (hj : s.read j = some ptr) :
      Steps s (.assign_move i j) ((s.write i (p.assign_move s.heap ptr).1
        (p.assign_move s.heap ptr).2.1).write j (p.assign_move s.heap ptr).1
        (p.assign_move s.heap ptr).2.2)
  | assign_null (i : Nat) (p : CountPointer D) (hi : s.read i = some p) :
      Steps s (.assign_null i) (s.write i (p.assign_null s.heap).1 (p.assign_null s.heap).2)
  | set_destructor (i : Nat) (d : D) (p : CountPointer D) (hi : s.read i = some p) :
      Steps s (.set_destructor i d) (s.write i s.heap (p.set_destructor d))
  | destroy (i : Nat) (p : CountPointer D) (hi : s.read i = some p) :
      Steps s (.destroy i)
        { s with pointers := s.pointers.set i none, heap := (p.dec_count s.heap).1 }

theorem next_cases {s s' : State D} {op : Operation D} (h : s.next op = some s') :
    s.Steps op s' := by
  cases op with
  | construct ptr =>
    simp only [next] at h
    split at h <;> cases h
    next hptr => exact .construct ptr hptr
  | copy_construct j =>
    obtain ⟨ptr, hj, heq⟩ := Option.bind_eq_some_iff.mp h
    cases heq
    exact .copy_construct j ptr hj
  | move_construct j =>
    obtain ⟨ptr, hj, heq⟩ := Option.bind_eq_some_iff.mp h
    cases heq
    exact .move_construct j ptr hj
  | assign_raw i ptr =>
    obtain ⟨p, hi, heq⟩ := Option.bind_eq_some_iff.mp h
    split at heq <;> cases heq
    next hptr => exact .assign_raw i ptr p hi hptr
  | assign_copy i j =>
    obtain ⟨p, hi, heq⟩ := Option.bind_eq_some_iff.mp h
    obtain ⟨ptr, hj, heq⟩ := Option.bind_eq_some_iff.mp heq
    cases heq
    exact .assign_copy i j p ptr hi hj
  | assign_move i j =>
    obtain ⟨p, hi, heq⟩ := Option.bind_eq_some_iff.mp h
    obtain ⟨ptr, hj, heq⟩ := Option.bind_eq_some_iff.mp heq
    split at heq <;> cases heq
    · next hij =>
      subst hij
      exact .assign_move_self i p hi
    · next hij => exact .assign_move i j p ptr hij hi hj
  | assign_null i =>
    obtain ⟨p, hi, heq⟩ := Option.bind_eq_some_iff.mp h
    cases heq
    exact .assign_null i p hi
  | set_destructor i d =>
    obtain ⟨p, hi, heq⟩ := Option.bind_eq_some_iff.mp h
    cases heq
    exact .set_destructor i d p hi
  | destroy i =>
    obtain ⟨p, hi, heq⟩ := Option.bind_eq_some_iff.mp h
    cases heq
    exact .destroy i p hi

end State

def system (D : Type) : LTS.System (State D) (Operation D) where
  init s := s = .empty
  next := State.next

end ZAF.CountPointers
