import ZAF.Framework.System
import ZAF.SWSR.Content

/-! # One writer and one reader

    The writer runs `push` with `Blocking` or `Giveup`, the reader runs `pop_one`
    and `pop_some`, and their atomic loads and updates of the two counters
    interleave in every order. Either thread acts on a copy of the other one's
    counter that may be old; old copies only make the writer wait longer and the
    reader read less.

    The history of a run is kept next to the queue: what has been accepted, what
    has been given to pop handlers, and what has been released.
-/

namespace ZAF.Concurrent

open LTS Ring SWSRDeliveryQueue

variable {Item : Type}

/-! ### State -/

/-- The writer's program counter, with the local variables of `push`. -/
inductive WriterPc (Item : Type) where
  /-- Between pushes; the result of the last one. -/
  | idle (result : Option Bool)
  /-- `write_idx` is loaded; next is the full test. -/
  | loaded (elem : Item) (s : SWSRDeliveryQueueFullStrategy) (w : UInt32)
  /-- In the loop of `Blocking`; next is another full test. -/
  | spinning (elem : Item) (w : UInt32)
  /-- A slot is free; next is `items[w & bit_mask] = elem`. -/
  | storing (elem : Item) (w : UInt32)
  /-- The item is stored; next is `write_idx.fetch_add(1)`. -/
  | publishing (elem : Item) (w : UInt32)

/-- The local variables of the loop of `pop_some`. -/
structure PopSome where
  w : UInt32
  r : UInt32
  num_read : UInt32
  max_messages_read : UInt32

/-- The reader's program counter. -/
inductive ReaderPc (Item : Type) where
  /-- Between reads; what the last `pop_some` returned. -/
  | idle (num_read : Option UInt32)
  /-- `pop_some` has loaded `write_idx`; next it loads `read_idx`. -/
  | loading (w max_messages_read : UInt32)
  /-- At the head of the loop of `pop_some`. -/
  | looping (loop : PopSome)
  /-- In the handler of `item`, which lies in `slot`; `loop` is the loop of
      `pop_some` to go back to, if any. -/
  | handling (item : Item) (slot : Nat) (loop : Option PopSome)

/-- The item whose handler is running. -/
def ReaderPc.running : ReaderPc Item → Option Item
  | .handling item _ _ => some item
  | _ => none

/-- The shared queue, both threads, and the history. -/
structure State (Item : Type) where
  queue : SWSRDeliveryQueue Item
  writer : WriterPc Item
  reader : ReaderPc Item
  /-- The accepted pushes: those whose item has been published. -/
  accepted : List Item
  /-- The items given to pop handlers. -/
  received : List Item
  /-- The items whose slot has been released. -/
  returned : List Item

/-- Who does what next. -/
inductive Label (Item : Type) where
  /-- The writer calls `push(elem, s)` and loads `write_idx`. -/
  | push (elem : Item) (s : SWSRDeliveryQueueFullStrategy)
  /-- The writer goes on with its push. -/
  | writer
  /-- The reader calls `pop_one(handler)` on a queue it sees non-empty. -/
  | pop_one
  /-- The reader calls `pop_some(handler, max_messages_read)` and loads `write_idx`. -/
  | pop_some (max_messages_read : UInt32)
  /-- The reader goes on; inside a handler, the handler returns. -/
  | reader
  /-- The running handler calls `stop_pop_some()`. -/
  | stop_pop_some

/-! ### Steps -/

variable [Inhabited Item]

/-- `top()` and the call of the handler on it. -/
def call_handler (s : State Item) (loop : Option PopSome) : State Item :=
  { s with
    reader := .handling s.queue.top (s.queue.slot s.queue.read_idx) loop
    received := s.received ++ [s.queue.top] }

/-- The writer's next step inside `push`. -/
def writer_next (s : State Item) : Option (State Item) :=
  match s.writer with
  | .idle _ => none
  | .loaded elem strategy w =>
    if s.queue.push_blocked w s.queue.read_idx then
      match strategy with
      | .Blocking => some { s with writer := .spinning elem w }
      -- growing is not part of the two-threaded use
      | .Resize => none
      | .Giveup => some { s with writer := .idle (some false) }
    else some { s with writer := .storing elem w }
  | .spinning elem w =>
    if s.queue.push_blocked w s.queue.read_idx then some s
    else some { s with writer := .storing elem w }
  | .storing elem w =>
    some { s with queue := s.queue.store w elem, writer := .publishing elem w }
  | .publishing elem _ =>
    some { s with
      queue := s.queue.publish
      writer := .idle (some true)
      accepted := s.accepted ++ [elem] }

/-- The reader's next step inside `pop_one` or `pop_some`. -/
def reader_next (s : State Item) : Option (State Item) :=
  match s.reader with
  | .idle _ => none
  | .loading w max =>
    some { s with
      queue := { s.queue with flag_stop_pop_some := false }
      reader := .looping ⟨w, s.queue.read_idx, 0, max⟩ }
  | .looping loop =>
    if loop.r ≠ loop.w ∧ s.queue.flag_stop_pop_some = false ∧
        loop.num_read < loop.max_messages_read then
      some (call_handler s (some loop))
    else some { s with reader := .idle (some loop.num_read) }
  | .handling item _ loop =>
    -- the handler returns and `read_idx` is incremented
    some { s with
      queue := s.queue.release
      reader :=
        match loop with
        | none => .idle none
        | some l => .looping ⟨l.w, l.r + 1, l.num_read + 1, l.max_messages_read⟩
      returned := s.returned ++ [item] }

/-- One atomic step of one of the threads. -/
def next (s : State Item) : Label Item → Option (State Item)
  | .push elem strategy =>
    match s.writer with
    | .idle _ =>
      if strategy = .Resize then none
      else some { s with writer := .loaded elem strategy s.queue.write_idx }
    | _ => none
  | .writer => writer_next s
  | .pop_one =>
    match s.reader with
    | .idle _ => if s.queue.empty then none else some (call_handler s none)
    | _ => none
  | .pop_some max =>
    match s.reader with
    | .idle _ => some { s with reader := .loading s.queue.write_idx max }
    | _ => none
  | .reader => reader_next s
  | .stop_pop_some =>
    match s.reader with
    | .handling _ _ _ => some { s with queue := { s.queue with flag_stop_pop_some := true } }
    | _ => none

/-- A fresh queue after `resize(scale)`, both threads idle. -/
def start (Item : Type) [Inhabited Item] (scale : Nat) : State Item where
  queue := ({} : SWSRDeliveryQueue Item).resize scale
  writer := .idle none
  reader := .idle none
  accepted := []
  received := []
  returned := []

/-- The two threads on one queue as a labelled system. -/
def system (Item : Type) [Inhabited Item] (scale : Nat) : System (State Item) (Label Item) where
  init := fun s => s = start Item scale
  next := next

/-! ### The invariant -/

/-- The writer's copy of its own counter is current, and past the full test a
    slot is free for it. -/
def WriterInv (q : SWSRDeliveryQueue Item) (k r₀ : Nat) (unread : List Item) :
    WriterPc Item → Prop
  | .idle _ => True
  | .loaded _ strategy w => w = q.write_idx ∧ strategy ≠ .Resize
  | .spinning _ w => w = q.write_idx
  | .storing _ w => w = q.write_idx ∧ unread.length < 2 ^ k
  | .publishing elem w =>
    w = q.write_idx ∧ unread.length < 2 ^ k ∧
      q.items.getD ((r₀ + unread.length) % 2 ^ k) default = elem

/-- A snapshot of `write_idx` lies between the two counters. -/
def Snapshot (r₀ : Nat) (unread : List Item) (w : UInt32) : Prop :=
  ∃ d, d ≤ unread.length ∧ w = word (r₀ + d)

/-- The reader's copy of its own counter is current, and the handler it runs is
    the one of the oldest item. -/
def ReaderInv (k r₀ : Nat) (unread : List Item) : ReaderPc Item → Prop
  | .idle _ => True
  | .loading w _ => Snapshot r₀ unread w
  | .looping loop => loop.r = word r₀ ∧ Snapshot r₀ unread loop.w
  | .handling item slot loop =>
    unread.head? = some item ∧ slot = r₀ % 2 ^ k ∧
      ∀ l, loop = some l → l.r = word r₀ ∧ ∃ d, 0 < d ∧ d ≤ unread.length ∧ l.w = word (r₀ + d)

/-- The invariant: the queue holds what was accepted and not yet released. -/
structure Inv (k : Nat) (s : State Item) (unread : List Item) : Prop where
  content : s.queue.Content k s.returned.length unread
  accepted_eq : s.accepted = s.returned ++ unread
  received_eq : s.received = s.returned ++ s.reader.running.toList
  writer : WriterInv s.queue k s.returned.length unread s.writer
  reader : ReaderInv k s.returned.length unread s.reader

theorem inv_start {k : Nat} (hk : k ≤ 31) : Inv k (start Item k) [] :=
  ⟨content_resize hk, rfl, rfl, trivial, trivial⟩

omit [Inhabited Item] in
/-- More content leaves snapshots and handlers of the reader valid. -/
theorem ReaderInv.append {k r₀ : Nat} {unread : List Item} {c : ReaderPc Item}
    (h : ReaderInv k r₀ unread c) (x : Item) : ReaderInv k r₀ (unread ++ [x]) c := by
  have hlen : ∀ d, d ≤ unread.length → d ≤ (unread ++ [x]).length := by
    intro d hd
    rw [List.length_append]
    exact Nat.le_add_right_of_le hd
  cases c with
  | idle n => trivial
  | loading w max =>
    obtain ⟨d, hd, hw⟩ := h
    exact ⟨d, hlen d hd, hw⟩
  | looping loop =>
    obtain ⟨hr, d, hd, hw⟩ := h
    exact ⟨hr, d, hlen d hd, hw⟩
  | handling item slot loop =>
    obtain ⟨hhead, hslot, hloop⟩ := h
    refine ⟨by rw [List.head?_append, hhead]; rfl, hslot, ?_⟩
    intro l hl
    obtain ⟨hr, d, hpos, hd, hw⟩ := hloop l hl
    exact ⟨hr, d, hpos, hlen d hd, hw⟩

/-- Releasing the oldest item leaves the writer's free slot where it is. -/
theorem WriterInv.release {q : SWSRDeliveryQueue Item} {k r₀ : Nat} {x : Item} {xs : List Item}
    {c : WriterPc Item} (h : WriterInv q k r₀ (x :: xs) c) :
    WriterInv q.release k (r₀ + 1) xs c := by
  -- Oldest and newest move together: `r₀ + 1` and one item fewer.
  cases c with
  | idle n => trivial
  | loaded e st w => exact h
  | spinning e w => exact h
  | storing e w =>
    refine ⟨h.1, ?_⟩
    have := h.2
    rw [List.length_cons] at this
    omega
  | publishing e w =>
    obtain ⟨hw, hlt, hx⟩ := h
    rw [List.length_cons] at hlt
    refine ⟨hw, by omega, ?_⟩
    show q.items.getD _ default = e
    rw [show r₀ + 1 + xs.length = r₀ + (x :: xs).length from by rw [List.length_cons]; omega]
    exact hx

/-! ### Step lemmas -/

section steps

variable {k : Nat} {s s' : State Item} {unread : List Item}

/-- Calling a handler on the oldest item, when there is one. -/
theorem inv_call_handler (h : Inv k s unread) (hreceived : s.received = s.returned)
    (hne : unread ≠ []) {loop : Option PopSome}
    (hloop : ∀ l, loop = some l → l.r = word s.returned.length ∧
      ∃ d, 0 < d ∧ d ≤ unread.length ∧ l.w = word (s.returned.length + d)) :
    Inv k (call_handler s loop) unread := by
  cases unread with
  | nil => exact absurd rfl hne
  | cons x xs =>
    have htop := h.content.top_eq
    refine ⟨h.content, h.accepted_eq, ?_, h.writer, ?_, ?_, hloop⟩
    · show s.received ++ [s.queue.top] = s.returned ++ [s.queue.top]
      rw [hreceived]
    · rw [htop]
      rfl
    · rw [h.content.read_eq, h.content.slot_eq]
      rfl

/-- Outside handlers everything received has been returned. -/
theorem Inv.received_of_not_running (h : Inv k s unread) (hr : s.reader.running = none) :
    s.received = s.returned := by
  rw [h.received_eq, hr, Option.toList_none, List.append_nil]

/-- A step of the writer inside `push`: the content only changes when the item
    is published, and then by that item. -/
theorem inv_writer_next (h : Inv k s unread) (hn : writer_next s = some s') :
    (Inv k s' unread ∧ s'.writer ≠ .idle (some true)) ∨
      ∃ x, Inv k s' (unread ++ [x]) ∧ s'.writer = .idle (some true) := by
  have hw := h.writer
  simp only [writer_next] at hn
  split at hn
  · cases hn
  · next elem strategy w hpc =>
    rw [hpc] at hw
    obtain ⟨rfl, hs⟩ := hw
    split at hn
    · -- The full test succeeds: `Blocking` spins, `Giveup` returns false.
      split at hn
      · cases hn
        exact .inl ⟨⟨h.content, h.accepted_eq, h.received_eq, rfl, h.reader⟩, by simp⟩
      · cases hn
      · cases hn
        exact .inl ⟨⟨h.content, h.accepted_eq, h.received_eq, trivial, h.reader⟩, by simp⟩
    · next hfree =>
      cases hn
      have hroom := h.content.length_lt_of_not_blocked hfree
      exact .inl ⟨⟨h.content, h.accepted_eq, h.received_eq, ⟨rfl, hroom⟩, h.reader⟩, by simp⟩
  · next elem w hpc =>
    rw [hpc] at hw
    obtain rfl := hw
    split at hn
    · cases hn
      exact .inl ⟨h, by rw [hpc]; simp⟩
    · next hfree =>
      cases hn
      have hroom := h.content.length_lt_of_not_blocked hfree
      exact .inl ⟨⟨h.content, h.accepted_eq, h.received_eq, ⟨rfl, hroom⟩, h.reader⟩, by simp⟩
  · next elem w hpc =>
    rw [hpc] at hw
    obtain ⟨rfl, hroom⟩ := hw
    cases hn
    obtain ⟨hcontent, hcell⟩ := h.content.store hroom elem
    exact .inl ⟨⟨hcontent, h.accepted_eq, h.received_eq, ⟨rfl, hroom, hcell⟩, h.reader⟩, by simp⟩
  · next elem w hpc =>
    -- `write_idx.fetch_add(1)` makes the item readable.
    rw [hpc] at hw
    obtain ⟨rfl, hroom, hcell⟩ := hw
    cases hn
    refine .inr ⟨elem, ⟨h.content.publish hroom hcell, ?_, h.received_eq, trivial,
      h.reader.append elem⟩, rfl⟩
    show s.accepted ++ [elem] = _
    rw [h.accepted_eq, List.append_assoc]

/-- A step of the reader inside `pop_one` or `pop_some`: the content only changes
    when a handler returns, and then by the oldest item. -/
theorem inv_reader_next (h : Inv k s unread) (hn : reader_next s = some s') :
    Inv k s' unread ∨ ∃ x xs, unread = x :: xs ∧ Inv k s' xs := by
  have hr := h.reader
  simp only [reader_next] at hn
  split at hn
  · cases hn
  · next w max hpc =>
    rw [hpc] at hr
    cases hn
    have hreceived := h.received_of_not_running (by rw [hpc]; rfl)
    refine .inl ⟨h.content.set_stop false, h.accepted_eq, ?_, h.writer, h.content.read_eq, hr⟩
    simpa [ReaderPc.running] using hreceived
  · next loop hpc =>
    rw [hpc] at hr
    obtain ⟨hread, d, hd, hw⟩ := hr
    have hreceived := h.received_of_not_running (by rw [hpc]; rfl)
    split at hn
    · next hgo =>
      cases hn
      -- the snapshot is ahead of `r`, so there is an oldest item
      have hpos : 0 < d := by
        rcases Nat.eq_zero_or_pos d with rfl | hpos
        · exact absurd (hread.trans hw.symm) hgo.1
        · exact hpos
      have hne : unread ≠ [] := by
        intro hnil
        rw [hnil] at hd
        exact absurd hpos (Nat.not_lt_of_le hd)
      refine .inl (inv_call_handler h hreceived hne ?_)
      intro l hl
      cases hl
      exact ⟨hread, d, hpos, hd, hw⟩
    · cases hn
      refine .inl ⟨h.content, h.accepted_eq, ?_, h.writer, trivial⟩
      simpa [ReaderPc.running] using hreceived
  · next item slot loop hpc =>
    rw [hpc] at hr
    obtain ⟨hhead, -, hloop⟩ := hr
    obtain ⟨xs, rfl⟩ : ∃ xs, unread = item :: xs := List.head?_eq_some_iff.mp hhead
    cases hn
    have hlen : (s.returned ++ [item]).length = s.returned.length + 1 := by simp
    refine .inr ⟨item, xs, rfl, ?_, ?_, ?_, ?_, ?_⟩
    · show s.queue.release.Content k (s.returned ++ [item]).length xs
      rw [hlen]
      exact h.content.release
    · show s.accepted = (s.returned ++ [item]) ++ xs
      rw [h.accepted_eq, List.append_assoc]
      rfl
    · have hreceived := h.received_eq
      rw [hpc] at hreceived
      cases loop <;> simpa [ReaderPc.running] using hreceived
    · show WriterInv s.queue.release k (s.returned ++ [item]).length xs s.writer
      rw [hlen]
      exact h.writer.release
    · show ReaderInv k (s.returned ++ [item]).length xs _
      rw [hlen]
      cases loop with
      | none => trivial
      | some l =>
        -- The snapshot stays and `r` moves on, so it is one item less ahead.
        obtain ⟨hlr, d, hpos, hd, hlw⟩ := hloop l rfl
        rw [List.length_cons] at hd
        refine ⟨?_, d - 1, by omega, ?_⟩
        · show l.r + 1 = _
          rw [hlr]
          exact word_add _ 1
        · show l.w = _
          rw [hlw]
          congr 1
          omega

/-- The start of a push. -/
theorem next_push {x : Item} {strategy : SWSRDeliveryQueueFullStrategy}
    (hn : next s (.push x strategy) = some s') :
    strategy ≠ .Resize ∧ s' = { s with writer := .loaded x strategy s.queue.write_idx } := by
  simp only [next] at hn
  split at hn
  · split at hn
    · cases hn
    · next hs =>
      cases hn
      exact ⟨hs, rfl⟩
  · cases hn

/-- The start of a `pop_some`. -/
theorem next_pop_some {max : UInt32} (hn : next s (.pop_some max) = some s') :
    s.reader.running = none ∧ s' = { s with reader := .loading s.queue.write_idx max } := by
  simp only [next] at hn
  split at hn
  · next n hpc =>
    cases hn
    exact ⟨by rw [hpc]; rfl, rfl⟩
  · cases hn

theorem inv_push (h : Inv k s unread) {x : Item} {strategy : SWSRDeliveryQueueFullStrategy}
    (hn : next s (.push x strategy) = some s') : Inv k s' unread := by
  obtain ⟨hs, rfl⟩ := next_push hn
  exact ⟨h.content, h.accepted_eq, h.received_eq, ⟨rfl, hs⟩, h.reader⟩

theorem inv_pop_some (h : Inv k s unread) {max : UInt32}
    (hn : next s (.pop_some max) = some s') : Inv k s' unread := by
  obtain ⟨hrun, rfl⟩ := next_pop_some hn
  refine ⟨h.content, h.accepted_eq, ?_, h.writer, unread.length, Nat.le_refl _, h.content.write_eq⟩
  simpa [ReaderPc.running] using h.received_of_not_running hrun

/-- Every step of either thread keeps the invariant. -/
theorem inv_step (h : Inv k s unread) {l : Label Item} (hn : next s l = some s') :
    ∃ unread', Inv k s' unread' := by
  cases l with
  | push elem strategy => exact ⟨_, inv_push h hn⟩
  | writer =>
    rcases inv_writer_next h hn with ⟨h', -⟩ | ⟨x, h', -⟩
    · exact ⟨_, h'⟩
    · -- The item has been published.
      exact ⟨_, h'⟩
  | pop_one =>
    simp only [next] at hn
    split at hn
    · next n hpc =>
      split at hn
      · cases hn
      · next hne =>
        cases hn
        have hreceived := h.received_of_not_running (by rw [hpc]; rfl)
        refine ⟨unread, inv_call_handler h hreceived ?_ ?_⟩
        · intro hnil
          exact hne (h.content.empty_iff.mpr hnil)
        · intro l hl
          cases hl
    · cases hn
  | pop_some max => exact ⟨_, inv_pop_some h hn⟩
  | reader =>
    rcases inv_reader_next h hn with h' | ⟨x, xs, -, h'⟩
    · exact ⟨_, h'⟩
    · -- A handler has returned.
      exact ⟨_, h'⟩
  | stop_pop_some =>
    simp only [next] at hn
    split at hn
    · cases hn
      exact ⟨unread, h.content.set_stop true, h.accepted_eq, h.received_eq, h.writer, h.reader⟩
    · cases hn

/-- The invariant does not depend on what the two sides tell each other. -/
theorem Inv.set_progress (h : Inv k s unread) (may_have_message is_writing : Bool)
    (num_empty_read : UInt32) :
    Inv k { s with queue := { s.queue with
      may_have_message := may_have_message
      is_writing_by_sender := is_writing
      num_empty_read := num_empty_read } } unread :=
  ⟨h.content.set_progress _ _ _, h.accepted_eq, h.received_eq, h.writer, h.reader⟩

end steps

/-! ### Frames -/

omit [Inhabited Item] in
/-- Inside `push` the writer changes the items and its own counter, and nothing of
    the reader. -/
theorem writer_next_frame {s s' : State Item} (hn : writer_next s = some s') :
    s'.reader = s.reader ∧
      s'.queue =
        { s.queue with items := s'.queue.items, write_idx := s'.queue.write_idx } := by
  simp only [writer_next] at hn
  split at hn
  · cases hn
  · split at hn
    · split at hn <;> cases hn <;> exact ⟨rfl, rfl⟩
    · cases hn
      exact ⟨rfl, rfl⟩
  · split at hn <;> cases hn <;> exact ⟨rfl, rfl⟩
  · cases hn
    exact ⟨rfl, rfl⟩
  · cases hn
    exact ⟨rfl, rfl⟩

/-- Inside `pop_some` the reader changes its own counter and the flag that breaks
    the loop, and nothing of the writer. -/
theorem reader_next_frame {s s' : State Item} (hn : reader_next s = some s') :
    s'.writer = s.writer ∧
      s'.queue =
        { s.queue with
          read_idx := s'.queue.read_idx
          flag_stop_pop_some := s'.queue.flag_stop_pop_some } := by
  simp only [reader_next] at hn
  split at hn
  · cases hn
  · cases hn
    exact ⟨rfl, rfl⟩
  · split at hn <;> cases hn <;> exact ⟨rfl, rfl⟩
  · cases hn
    exact ⟨rfl, rfl⟩

/-! ### Blocking pushes and draining reads -/

/-- The push that the writer is in, if any, waits for a free slot. -/
def WriterPc.Blocking : WriterPc Item → Prop
  | .loaded _ strategy _ => strategy = .Blocking
  | _ => True

omit [Inhabited Item] in
/-- A blocking push ends by being accepted. -/
theorem writer_next_blocking {s s' : State Item} (hb : s.writer.Blocking)
    (hn : writer_next s = some s') :
    s'.writer.Blocking ∧ ∀ result, s'.writer = .idle result → result = some true := by
  simp only [writer_next] at hn
  split at hn
  · cases hn
  · next elem strategy w hpc =>
    rw [hpc] at hb
    obtain rfl : strategy = .Blocking := hb
    split at hn
    · cases hn
      exact ⟨trivial, by simp⟩
    · cases hn
      exact ⟨trivial, by simp⟩
  · next elem w hpc =>
    split at hn
    · cases hn
      exact ⟨by rw [hpc]; trivial, by rw [hpc]; simp⟩
    · cases hn
      exact ⟨trivial, by simp⟩
  · cases hn
    exact ⟨trivial, by simp⟩
  · cases hn
    exact ⟨trivial, by simp⟩

/-- The `pop_some` that the reader is in empties the queue, if nothing is published
    any more: its snapshot of `write_idx` is current and its bound suffices. -/
def Drains (s : State Item) : Prop :=
  match s.reader with
  | .loading w max => w = s.queue.write_idx ∧ s.queue.readable.length ≤ max.toNat
  | .looping l =>
    l.w = s.queue.write_idx ∧ s.queue.flag_stop_pop_some = false ∧
      l.num_read.toNat + s.queue.readable.length ≤ l.max_messages_read.toNat
  | .handling _ _ (some l) =>
    l.w = s.queue.write_idx ∧ s.queue.flag_stop_pop_some = false ∧
      l.num_read.toNat + s.queue.readable.length ≤ l.max_messages_read.toNat
  | _ => False

/-- A draining `pop_some` goes on draining, or returns and leaves nothing. -/
theorem drains_reader_next {k : Nat} {s s' : State Item} {unread : List Item}
    (h : Inv k s unread) (hd : Drains s) (hn : reader_next s = some s') :
    Drains s' ∨ (∃ n, s'.reader = .idle (some n)) ∧ s'.queue.readable = [] := by
  have hr := h.reader
  have hreadable := h.content.readable_eq
  cases hpc : s.reader with
  | idle n =>
    rw [Drains, hpc] at hd
    exact hd.elim
  | loading w max =>
    rw [Drains, hpc] at hd
    simp only [reader_next, hpc] at hn
    cases hn
    refine .inl ⟨hd.1, rfl, ?_⟩
    rw [show (0 : UInt32).toNat = 0 from rfl, Nat.zero_add]
    exact hd.2
  | looping loop =>
    rw [Drains, hpc] at hd
    rw [hpc] at hr
    obtain ⟨hw, hstop, hbound⟩ := hd
    simp only [reader_next, hpc] at hn
    split at hn
    · cases hn
      exact .inl ⟨hw, hstop, hbound⟩
    · next hexit =>
      cases hn
      refine .inr ⟨⟨_, rfl⟩, ?_⟩
      show s.queue.readable = []
      by_contra hne
      -- the loop can only have ended at its snapshot or at its bound
      have hlen : 0 < s.queue.readable.length := List.length_pos_iff.mpr hne
      refine hexit ⟨?_, hstop, ?_⟩
      · rw [hr.1, hw, h.content.write_eq]
        intro heq
        have hzero := (word_inj (n := 0) (by decide) h.content.length_lt).mp heq
        rw [hreadable] at hlen
        omega
      · rw [UInt32.lt_iff_toNat_lt]
        omega
  | handling item slot loop =>
    rw [Drains, hpc] at hd
    rw [hpc] at hr
    cases loop with
    | none => exact hd.elim
    | some l =>
      -- One more message is read and one fewer is left.
      obtain ⟨hw, hstop, hbound⟩ := hd
      obtain ⟨xs, rfl⟩ := List.head?_eq_some_iff.mp hr.1
      simp only [reader_next, hpc] at hn
      cases hn
      have hrelease := h.content.release
      rw [hreadable, List.length_cons] at hbound
      refine .inl ⟨hw, hstop, ?_⟩
      show (l.num_read + 1).toNat + s.queue.release.readable.length ≤ l.max_messages_read.toNat
      rw [hrelease.readable_eq, UInt32.toNat_add, UInt32.toNat_one]
      have := l.max_messages_read.toNat_lt
      omega

/-- The invariant holds in every reachable state. -/
theorem inv_reachable {scale : Nat} (hscale : scale ≤ 31) {s : State Item}
    (hs : Reachable (system Item scale) s) : ∃ unread, Inv scale s unread := by
  apply hs.invariant fun s => ∃ unread, Inv scale s unread
  · intro s hinit
    rw [hinit]
    exact ⟨[], inv_start hscale⟩
  · intro s l s' hinv _ hn
    obtain ⟨unread, h⟩ := hinv
    exact inv_step h hn

/-! ### Delivery -/

/-- What the two threads owe each other. -/
structure Delivery (s : State Item) : Prop where
  /-- Handlers get the accepted items in order. -/
  received_prefix : s.received <+: s.accepted
  /-- The item whose handler is running still lies in the queue. -/
  received_eq : s.received = s.returned ++ s.reader.running.toList
  /-- The unread slots hold the rest. -/
  accepted_eq : s.accepted = s.returned ++ s.queue.readable
  /-- The two counters, also across their wrap. -/
  size_le : s.queue.size.toNat ≤ s.queue.cap.toNat
  /-- The slot given to a handler keeps its item until the handler returns, and
      the writer is not about to store into it. -/
  slot_kept : ∀ item slot loop, s.reader = .handling item slot loop →
    s.queue.items.getD slot default = item ∧
      ∀ elem w, s.writer = .storing elem w → s.queue.slot w ≠ slot

/-- The writer stores behind the unread items, never over the oldest one. -/
theorem Inv.slot_kept {k : Nat} {s : State Item} {unread : List Item} (h : Inv k s unread)
    {item : Item} {slot : Nat} {loop : Option PopSome}
    (hpc : s.reader = .handling item slot loop) :
    s.queue.items.getD slot default = item ∧
      ∀ elem w, s.writer = .storing elem w → s.queue.slot w ≠ slot := by
  have hr := h.reader
  rw [hpc] at hr
  obtain ⟨hhead, rfl, -⟩ := hr
  obtain ⟨xs, rfl⟩ : ∃ xs, unread = item :: xs := List.head?_eq_some_iff.mp hhead
  constructor
  · have htop := h.content.top_eq
    rwa [top, SWSRDeliveryQueue.item, h.content.read_eq, h.content.slot_eq] at htop
  · intro elem w hw heq
    have hwriter := h.writer
    rw [hw] at hwriter
    obtain ⟨rfl, hroom⟩ := hwriter
    rw [h.content.write_eq, h.content.slot_eq] at heq
    -- both counters lie within one turn of the ring
    have hzero : (item :: xs).length = 0 :=
      slot_inj hroom (Nat.two_pow_pos k) (by rw [heq, Nat.add_zero])
    exact absurd hzero (Nat.succ_ne_zero _)

/-- The invariant gives delivery. -/
theorem Inv.delivery {k : Nat} {s : State Item} {unread : List Item} (h : Inv k s unread) :
    Delivery s where
  received_prefix := by
    -- What is received and not returned is the first of the unread items.
    rw [h.received_eq, h.accepted_eq, List.prefix_append_right_inj]
    have hr := h.reader
    cases hpc : s.reader with
    | handling item slot loop =>
      rw [hpc] at hr
      obtain ⟨xs, rfl⟩ := List.head?_eq_some_iff.mp hr.1
      exact ⟨xs, rfl⟩
    | _ => exact List.nil_prefix
  received_eq := h.received_eq
  accepted_eq := by rw [h.content.readable_eq, h.accepted_eq]
  size_le := by
    rw [h.content.size_eq, h.content.cap_eq]
    exact h.content.length_le
  slot_kept := fun _ _ _ hpc => h.slot_kept hpc

/-- A push is given up at the load of `read_idx` that finds the queue full. -/
theorem Inv.giveup {k : Nat} {s s' : State Item} {unread : List Item} (h : Inv k s unread)
    {l : Label Item} (hn : next s l = some s') (hs' : s'.writer = .idle (some false))
    (hs : s.writer ≠ .idle (some false)) : l = .writer ∧ unread.length = 2 ^ k := by
  have hwriter := h.writer
  cases l with
  | writer =>
    refine ⟨rfl, ?_⟩
    simp only [next, writer_next] at hn
    split at hn
    · cases hn
    · next elem strategy w hpc =>
      rw [hpc] at hwriter
      obtain ⟨rfl, -⟩ := hwriter
      split at hn
      · next hblocked => exact h.content.push_blocked_iff.mp hblocked
      · cases hn
        cases hs'
    · split at hn
      · cases hn
        exact absurd hs' hs
      · cases hn
        cases hs'
    · cases hn
      cases hs'
    · cases hn
      cases hs'
  | push elem strategy =>
    -- A push only starts here.
    simp only [next] at hn
    split at hn
    · split at hn
      · cases hn
      · cases hn
        cases hs'
    · cases hn
  | pop_one =>
    -- The reader leaves the writer's program counter alone, here and below.
    simp only [next] at hn
    split at hn
    · split at hn
      · cases hn
      · cases hn
        exact absurd hs' hs
    · cases hn
  | pop_some max =>
    simp only [next] at hn
    split at hn
    · cases hn
      exact absurd hs' hs
    · cases hn
  | reader =>
    simp only [next, reader_next] at hn
    split at hn
    · cases hn
    · cases hn
      exact absurd hs' hs
    · split at hn <;> cases hn <;> exact absurd hs' hs
    · cases hn
      exact absurd hs' hs
  | stop_pop_some =>
    simp only [next] at hn
    split at hn
    · cases hn
      exact absurd hs' hs
    · cases hn

/-- **The queue between two threads loses, duplicates and reorders nothing**, for
    every capacity, every interleaving and any number of pushes. A push is given
    up only at a load of `read_idx` that finds `cap` unread items. -/
theorem delivers_in_order {scale : Nat} (hscale : scale ≤ 31) {s : State Item}
    (hs : Reachable (system Item scale) s) :
    Delivery s ∧
    ∀ l s', next s l = some s' → s'.writer = .idle (some false) →
      s.writer ≠ .idle (some false) →
      l = .writer ∧ s.queue.readable.length = s.queue.cap.toNat := by
  obtain ⟨unread, h⟩ := inv_reachable hscale hs
  refine ⟨h.delivery, ?_⟩
  intro l s' hn hs' hne
  rw [h.content.readable_eq, h.content.cap_eq]
  exact h.giveup hn hs' hne

/-- A run on a queue of capacity `1`: while the handler of the first item runs,
    one push is given up. -/
theorem delivers_in_order_run :
    ∃ s : State Nat,
      (s.accepted, s.received, s.returned, s.queue.readable) = ([5], [5], [], [5]) ∧
      Delivery s ∧
      ∀ l s', next s l = some s' → s'.writer = .idle (some false) →
        s.writer ≠ .idle (some false) →
        l = .writer ∧ s.queue.readable.length = s.queue.cap.toNat := by
  obtain ⟨s, hs, hobs⟩ := System.reachable_of_exec
    (system Nat 0) (fun _ _ => True)
    [.push 5 .Blocking, .writer, .writer, .writer, .pop_some 1, .reader, .reader, .push 6 .Giveup]
    (fun s => (s.accepted, s.received, s.returned, s.queue.readable)) (s := start Nat 0)
    (b := ([5], [5], [], [5])) rfl (by decide)
  exact ⟨s, hobs, delivers_in_order (by decide) hs⟩

end ZAF.Concurrent
