import ZAF.Framework.System
import ZAF.SWSR.Content

/-! # The self queue: one thread, growing

    An actor delivers messages to itself through a queue that it both writes and
    reads, and pushes with `Resize`. One thread runs `push`, `pop_one` and
    `pop_some`; while a pop handler runs, the handler may push as well and may
    ask `pop_some` to stop.

    The growth step moves the items in front of `write_idx & bit_mask` behind the
    old end of the buffer. That is the right move when the bit `cap` of
    `read_idx` is clear. When it is set, the wrapped items are the ones that
    should have stayed, and the reader is sent to slots nobody has written.
-/

namespace ZAF.SelfQueue

open LTS Ring SWSRDeliveryQueue

variable {Item : Type}

/-! ### State -/

/-- Where the thread is. -/
inductive Control (Item : Type) where
  /-- Between operations. -/
  | idle
  /-- In the handler that `pop_one` called on `item`. -/
  | pop_one (item : Item)
  /-- In the handler that `pop_some` called on `item`, with its local variables. -/
  | pop_some (item : Item) (w r num_read max_messages_read : UInt32)

/-- The item whose handler is running. -/
def Control.running : Control Item → Option Item
  | .idle => none
  | .pop_one item => some item
  | .pop_some item _ _ _ _ => some item

/-- The queue, the thread and the history. -/
structure State (Item : Type) where
  queue : SWSRDeliveryQueue Item
  control : Control Item
  /-- The items pushed so far. -/
  pushed : List Item
  /-- The items given to pop handlers so far. -/
  handed : List Item
  /-- The items whose pop handler has returned. -/
  returned : List Item

/-- What the thread does next. -/
inductive Label (Item : Type) where
  /-- `push(x, Resize)`, also from inside a pop handler. -/
  | push (x : Item)
  /-- `pop_one(handler)` on a non-empty queue. -/
  | pop_one
  /-- `pop_some(handler, max_messages_read)`. -/
  | pop_some (max_messages_read : UInt32)
  /-- `stop_pop_some()`. -/
  | stop_pop_some
  /-- The running pop handler returns. -/
  | handler_returns

/-! ### Steps -/

variable [Inhabited Item]

/-- Call a pop handler on the oldest item. -/
def call_handler (s : State Item) (control : Item → Control Item) : State Item :=
  { s with control := control s.queue.top, handed := s.handed ++ [s.queue.top] }

/-- The head of the loop of `pop_some`. -/
def pop_some_loop (s : State Item) (w r num_read max_messages_read : UInt32) : State Item :=
  if r ≠ w ∧ s.queue.flag_stop_pop_some = false ∧ num_read < max_messages_read then
    call_handler s fun item => .pop_some item w r num_read max_messages_read
  else { s with control := .idle }

/-- `read_idx.fetch_add(1)` after the handler of `item` has returned. -/
def release_item (s : State Item) (item : Item) : State Item :=
  { s with queue := s.queue.release, returned := s.returned ++ [item] }

/-- One step of the thread. -/
def next (s : State Item) : Label Item → Option (State Item)
  | .push x =>
    match s.queue.push x .Resize with
    | some (_, q) => some { s with queue := q, pushed := s.pushed ++ [x] }
    | none => none
  | .pop_one =>
    match s.control with
    | .idle => if s.queue.empty then none else some (call_handler s .pop_one)
    | _ => none
  | .pop_some max =>
    match s.control with
    | .idle =>
      let s' := { s with queue := { s.queue with flag_stop_pop_some := false } }
      some (pop_some_loop s' s.queue.write_idx s.queue.read_idx 0 max)
    | _ => none
  | .stop_pop_some =>
    some { s with queue := { s.queue with flag_stop_pop_some := true } }
  | .handler_returns =>
    match s.control with
    | .idle => none
    | .pop_one item => some { release_item s item with control := .idle }
    | .pop_some item w r num_read max =>
      some (pop_some_loop (release_item s item) w (r + 1) (num_read + 1) max)

/-- A fresh queue after `resize(scale)`. -/
def start (Item : Type) [Inhabited Item] (scale : Nat) : State Item where
  queue := ({} : SWSRDeliveryQueue Item).resize scale
  control := .idle
  pushed := []
  handed := []
  returned := []

/-- The self queue as a labelled system. -/
def system (Item : Type) [Inhabited Item] (scale : Nat) : System (State Item) (Label Item) where
  init := fun s => s = start Item scale
  next := next

/-! ### The property and its conditions -/

/-- The queue is a FIFO: the items whose handler has returned, followed by the
    readable ones, are the pushed ones in push order; the item whose handler is
    running is the first readable one, since its slot is released only
    afterwards. -/
structure FIFO (s : State Item) : Prop where
  order : s.returned ++ s.queue.readable = s.pushed
  handed_eq : s.handed = s.returned ++ s.control.running.toList
  running_eq : ∀ x, s.control.running = some x → s.queue.readable.head? = some x

/-- Whether the step is a push that finds the queue full. -/
def grows (s : State Item) : Label Item → Bool
  | .push _ => s.queue.push_blocked s.queue.write_idx s.queue.read_idx
  | _ => false

/-- The capacity stays representable: only a capacity below `2 ^ 31` doubles. -/
def bounded (s : State Item) (l : Label Item) : Prop :=
  grows s l = true → s.queue.cap.toNat < 2 ^ 31

/-- The queue grows only while the bit `cap` of `read_idx` is clear. -/
def aligned (s : State Item) (l : Label Item) : Prop :=
  grows s l = true → s.queue.read_idx &&& s.queue.cap = 0

instance (s : State Item) (l : Label Item) : Decidable (bounded s l) :=
  inferInstanceAs (Decidable (_ → _))

instance (s : State Item) (l : Label Item) : Decidable (aligned s l) :=
  inferInstanceAs (Decidable (_ → _))

/-! ### The invariant -/

/-- What the local variables of a running handler say, when the queue holds
    `unread` from counter `r₀` on. -/
def ControlInv (r₀ : Nat) (unread : List Item) : Control Item → Prop
  | .idle => True
  | .pop_one item => unread.head? = some item
  | .pop_some item w r _ _ =>
    unread.head? = some item ∧ r = word r₀ ∧
      ∃ d, 0 < d ∧ d ≤ unread.length ∧ w = word (r₀ + d)

/-- The invariant: the queue holds what has been pushed and not yet released. -/
structure Inv (s : State Item) (k : Nat) (unread : List Item) : Prop where
  content : s.queue.Content k s.returned.length unread
  pushed_eq : s.pushed = s.returned ++ unread
  handed_eq : s.handed = s.returned ++ s.control.running.toList
  control : ControlInv s.returned.length unread s.control

theorem Inv.fifo {s : State Item} {k : Nat} {unread : List Item} (h : Inv s k unread) :
    FIFO s := by
  refine ⟨?_, h.handed_eq, ?_⟩
  · rw [h.content.readable_eq, h.pushed_eq]
  · intro x hx
    rw [h.content.readable_eq]
    have hc := h.control
    cases hctl : s.control with
    | idle => rw [hctl] at hx; cases hx
    | pop_one item => rw [hctl] at hc hx; cases hx; exact hc
    | pop_some item w r n m => rw [hctl] at hc hx; cases hx; exact hc.1

theorem inv_start {k : Nat} (hk : k ≤ 31) : Inv (start Item k) k [] :=
  ⟨content_resize hk, rfl, rfl, trivial⟩

omit [Inhabited Item] in
/-- More content behind the oldest item does not disturb a running handler. -/
theorem ControlInv.append {r₀ : Nat} {unread : List Item} {c : Control Item}
    (h : ControlInv r₀ unread c) (x : Item) : ControlInv r₀ (unread ++ [x]) c := by
  cases c with
  | idle => trivial
  | pop_one item =>
    show (unread ++ [x]).head? = some item
    rw [List.head?_append, show unread.head? = some item from h]
    rfl
  | pop_some item w r n m =>
    obtain ⟨hhead, hr, d, hpos, hd, hw⟩ := h
    refine ⟨?_, hr, d, hpos, ?_, hw⟩
    · rw [List.head?_append, hhead]
      rfl
    · rw [List.length_append]
      omega

/-! ### Step lemmas -/

section steps

variable {s s' : State Item} {k : Nat} {unread : List Item}

/-- A push appends to the content, growing the queue if need be. -/
theorem inv_push (h : Inv s k unread) {x : Item} (hb : bounded s (.push x))
    (ha : aligned s (.push x)) (hn : next s (.push x) = some s') :
    ∃ k', Inv s' k' (unread ++ [x]) := by
  -- pushing into a queue with a free slot, whatever its capacity
  have hpush : ∀ {q : SWSRDeliveryQueue Item} {k' : Nat},
      q.Content k' s.returned.length unread → unread.length < 2 ^ k' →
      s' = { s with queue := (q.store q.write_idx x).publish, pushed := s.pushed ++ [x] } →
      Inv s' k' (unread ++ [x]) := by
    rintro q k' hq hlt rfl
    obtain ⟨hstore, hcell⟩ := hq.store hlt x
    refine ⟨hstore.publish hlt hcell, ?_, h.handed_eq, h.control.append x⟩
    show s.pushed ++ [x] = _
    rw [h.pushed_eq, List.append_assoc]
  simp only [next, push] at hn
  split at hn
  · next q hq =>
    split at hq
    · next hfull =>
      -- the queue is full: it doubles first
      have hlen := h.content.push_blocked_iff.mp hfull
      have hk : k < 31 := by
        have hlt : 2 ^ k < 2 ^ 31 := h.content.cap_eq ▸ hb hfull
        exact (Nat.pow_lt_pow_iff_right (by decide)).mp hlt
      have hgrown := h.content.grow hlen hk (ha hfull)
      have hroom : unread.length < 2 ^ (k + 1) := by
        rw [hlen]
        exact Nat.pow_lt_pow_right (by decide) (Nat.lt_succ_self k)
      cases hq
      exact ⟨k + 1, hpush hgrown hroom (Option.some.inj hn).symm⟩
    · next hfull =>
      -- there is a free slot already
      have hroom := h.content.length_lt_of_not_blocked hfull
      cases hq
      exact ⟨k, hpush h.content hroom (Option.some.inj hn).symm⟩
  · cases hn

/-- The loop of `pop_some`, entered between two items. -/
theorem inv_pop_some_loop (hcontent : s.queue.Content k s.returned.length unread)
    (hpushed : s.pushed = s.returned ++ unread) (hhanded : s.handed = s.returned)
    {w : UInt32} {d : Nat} (hd : d ≤ unread.length) (hw : w = word (s.returned.length + d))
    (num_read max : UInt32) :
    Inv (pop_some_loop s w (word s.returned.length) num_read max) k unread := by
  rw [pop_some_loop]
  split
  · next hloop =>
    -- the snapshot `w` is ahead of `r`, so there is an oldest item
    have hpos : 0 < d := by
      rcases Nat.eq_zero_or_pos d with rfl | hpos
      · exact absurd hw.symm hloop.1
      · exact hpos
    cases unread with
    | nil => exact absurd hpos (Nat.not_lt_of_le hd)
    | cons x xs =>
      have htop := hcontent.top_eq
      refine ⟨hcontent, hpushed, ?_, ?_⟩
      · show s.handed ++ [s.queue.top] = s.returned ++ [s.queue.top]
        rw [hhanded]
      · exact ⟨by rw [htop]; rfl, rfl, d, hpos, hd, hw⟩
  · exact ⟨hcontent, hpushed, by simpa [Control.running] using hhanded, trivial⟩

/-- `pop_one` hands out the oldest item. -/
theorem inv_pop_one (h : Inv s k unread) (hn : next s .pop_one = some s') :
    Inv s' k unread := by
  simp only [next] at hn
  split at hn
  · next hidle =>
    split at hn
    · cases hn
    · next hne =>
      cases hn
      have hhanded : s.handed = s.returned := by
        have := h.handed_eq
        rwa [hidle, Control.running, Option.toList_none, List.append_nil] at this
      cases unread with
      | nil => exact absurd (h.content.empty_iff.mpr rfl) hne
      | cons x xs =>
        have htop := h.content.top_eq
        refine ⟨h.content, h.pushed_eq, ?_, ?_⟩
        · show s.handed ++ [s.queue.top] = s.returned ++ [s.queue.top]
          rw [hhanded]
        · show (x :: xs).head? = some s.queue.top
          rw [htop]
          rfl
  · cases hn

/-- `pop_some` takes its snapshot and enters its loop. -/
theorem inv_pop_some (h : Inv s k unread) {max : UInt32}
    (hn : next s (.pop_some max) = some s') : Inv s' k unread := by
  simp only [next] at hn
  split at hn
  · next hidle =>
    cases hn
    have hhanded : s.handed = s.returned := by
      have := h.handed_eq
      rwa [hidle, Control.running, Option.toList_none, List.append_nil] at this
    have hloop := inv_pop_some_loop
      (s := { s with queue := { s.queue with flag_stop_pop_some := false } })
      (h.content.set_stop false) h.pushed_eq hhanded (Nat.le_refl _) h.content.write_eq 0 max
    rwa [← h.content.read_eq] at hloop
  · cases hn

/-- When the handler of the oldest item returns, the item is released. -/
theorem inv_release {x : Item} {xs : List Item}
    (hcontent : s.queue.Content k s.returned.length (x :: xs))
    (hpushed : s.pushed = s.returned ++ x :: xs) :
    (release_item s x).queue.Content k (release_item s x).returned.length xs ∧
      (release_item s x).pushed = (release_item s x).returned ++ xs := by
  constructor
  · show s.queue.release.Content k (s.returned ++ [x]).length xs
    rw [List.length_append]
    exact hcontent.release
  · show s.pushed = (s.returned ++ [x]) ++ xs
    rw [hpushed, List.append_assoc]
    rfl

/-- The end of a handler: `pop_one` is done, `pop_some` goes round its loop. -/
theorem inv_handler_returns (h : Inv s k unread) (hn : next s .handler_returns = some s') :
    ∃ rest, Inv s' k rest := by
  have hc := h.control
  have hhanded := h.handed_eq
  simp only [next] at hn
  split at hn
  · cases hn
  · next item hctl =>
    cases hn
    rw [hctl] at hc hhanded
    obtain ⟨xs, rfl⟩ : ∃ xs, unread = item :: xs := List.head?_eq_some_iff.mp hc
    obtain ⟨hcontent, hpushed⟩ := inv_release h.content h.pushed_eq
    exact ⟨xs, hcontent, hpushed, by simpa [release_item, Control.running] using hhanded, trivial⟩
  · next item w r num_read max hctl =>
    -- `pop_some` goes on with its old snapshot, now `d - 1` items ahead
    cases hn
    rw [hctl] at hc hhanded
    obtain ⟨hhead, rfl, d, hpos, hd, hw⟩ := hc
    obtain ⟨xs, rfl⟩ : ∃ xs, unread = item :: xs := List.head?_eq_some_iff.mp hhead
    obtain ⟨hcontent, hpushed⟩ := inv_release h.content h.pushed_eq
    have hlen : (release_item s item).returned.length = s.returned.length + 1 := by
      simp [release_item]
    have hw' : w = word ((release_item s item).returned.length + (d - 1)) := by
      rw [hw, hlen]
      congr 1
      omega
    have hd' : d - 1 ≤ xs.length := by
      rw [List.length_cons] at hd
      omega
    have hloop := inv_pop_some_loop hcontent hpushed hhanded hd' hw' (num_read + 1) max
    rw [hlen, ← word_add] at hloop
    exact ⟨xs, hloop⟩

/-- Every step whose growth is aligned keeps the invariant. -/
theorem inv_step (h : Inv s k unread) {l : Label Item} (hb : bounded s l) (ha : aligned s l)
    (hn : next s l = some s') : ∃ k' unread', Inv s' k' unread' := by
  cases l with
  | push x =>
    obtain ⟨k', h'⟩ := inv_push h hb ha hn
    exact ⟨k', _, h'⟩
  | pop_one => exact ⟨k, unread, inv_pop_one h hn⟩
  | pop_some max => exact ⟨k, unread, inv_pop_some h hn⟩
  | stop_pop_some =>
    cases hn
    exact ⟨k, unread, h.content.set_stop true, h.pushed_eq, h.handed_eq, h.control⟩
  | handler_returns =>
    obtain ⟨rest, h'⟩ := inv_handler_returns h hn
    exact ⟨k, rest, h'⟩

end steps

/-- The invariant holds in every state reached by aligned growth. -/
theorem inv_reachable {scale : Nat} (hscale : scale ≤ 31) {s : State Item}
    (hs : ReachableVia (system Item scale) (fun s l => bounded s l ∧ aligned s l) s) :
    ∃ k unread, Inv s k unread := by
  apply hs.invariant fun s => ∃ k unread, Inv s k unread
  · intro s hinit
    rw [hinit]
    exact ⟨scale, [], inv_start hscale⟩
  · intro s l s' hinv hguard hn
    obtain ⟨k, unread, h⟩ := hinv
    exact inv_step h hguard.1 hguard.2 hn

/-! ### The growth step -/

/-- Growing a full queue whose oldest item is not the value-initialised one
    leaves the readable items unchanged exactly when the bit `cap` of `read_idx`
    is clear: otherwise the reader is sent to a slot that was never written. -/
theorem grow_readable_iff {q : SWSRDeliveryQueue Item} {k r : Nat} {xs : List Item}
    (h : q.Content k r xs) (hfull : xs.length = 2 ^ k) (hk : k < 31)
    (hhead : xs.head? ≠ some default) :
    (q.grow q.write_idx).readable = q.readable ↔ q.read_idx &&& q.cap = 0 := by
  constructor
  · intro heq
    by_contra hodd
    have htop := h.grow_misaligned hfull hk hodd
    have hsize : (q.grow q.write_idx).size.toNat = 2 ^ k := by
      rw [← hfull, ← h.size_eq]
      rfl
    -- the first readable item of the grown queue is the fresh slot
    have hfirst : (q.grow q.write_idx).readable.head? = some default := by
      obtain ⟨n, hn⟩ : ∃ n, 2 ^ k = n + 1 := ⟨2 ^ k - 1, by have := Nat.two_pow_pos k; omega⟩
      rw [readable, hsize, hn, List.range_succ_eq_map, List.map_cons, List.head?_cons, ← htop, top]
      simp
    rw [heq, h.readable_eq] at hfirst
    exact hhead hfirst
  · intro haligned
    rw [(h.grow hfull hk haligned).readable_eq, h.readable_eq]

/-! ### The queue is a FIFO -/

/-- **The self queue is an unbounded FIFO as long as it grows aligned.** In every
    run whose growth steps find the bit `cap` of `read_idx` clear, the items
    handed to pop handlers followed by the readable ones are the pushed ones. A
    growth step by itself keeps the readable items exactly under that
    condition. -/
theorem fifo_of_aligned :
    (∀ scale ≤ 31, ∀ s : State Item,
      ReachableVia (system Item scale) (fun s l => bounded s l ∧ aligned s l) s → FIFO s) ∧
    (∀ (q : SWSRDeliveryQueue Item) (k r : Nat) (xs : List Item),
      q.Content k r xs → xs.length = 2 ^ k → k < 31 → xs.head? ≠ some default →
      ((q.grow q.write_idx).readable = q.readable ↔ q.read_idx &&& q.cap = 0)) := by
  constructor
  · intro scale hscale s hs
    obtain ⟨k, unread, h⟩ := inv_reachable hscale hs
    exact h.fifo
  · intro q k r xs h hfull hk hhead
    exact grow_readable_iff h hfull hk hhead

/-- A run that grows twice inside a pop handler, both times aligned, and the
    queue of capacity `1` that is full at counter `0`. -/
theorem fifo_of_aligned_run :
    (∃ s : State Nat, (s.pushed, s.returned) = ([5, 6, 7, 8], [5]) ∧ FIFO s) ∧
    ((((({} : SWSRDeliveryQueue Nat).resize 0).store 0 5).publish.grow 1).readable = [5]) := by
  constructor
  · obtain ⟨s, hs, hobs⟩ := System.reachable_of_exec
      (system Nat 0) (fun s l => bounded s l ∧ aligned s l)
      [.push 5, .pop_some 3, .push 6, .push 7, .push 8, .stop_pop_some, .handler_returns]
      (fun s => (s.pushed, s.returned)) (s := start Nat 0) (b := ([5, 6, 7, 8], [5])) rfl
      (by decide)
    exact ⟨s, hobs, fifo_of_aligned.1 0 (by decide) s hs⟩
  · have hcontent :
        ((({} : SWSRDeliveryQueue Nat).resize 0).store 0 5).publish.Content 0 0 [5] := by
      obtain ⟨h1, h2⟩ := (@content_resize Nat _ 0 (by decide)).store (by decide) 5
      exact h1.publish (by decide) h2
    exact (fifo_of_aligned.2 _ 0 0 [5] hcontent rfl (by decide) (by decide)).mpr (by decide)

/-- Unaligned growth loses an item: with capacity `1`, after one item has been
    pushed and popped, the second push finds the queue empty and the third finds
    it full with `read_idx = 1`. The readable items are then a slot that was
    never written and the third item. -/
theorem not_fifo_unaligned :
    ¬ ∀ scale ≤ 31, ∀ s : State Nat, ReachableVia (system Nat scale) bounded s → FIFO s := by
  intro hall
  obtain ⟨s, hs, hobs⟩ := System.reachable_of_exec (system Nat 0) bounded
    [.push 5, .pop_one, .handler_returns, .push 6, .push 7]
    (fun s => (s.returned, s.queue.readable, s.pushed)) (s := start Nat 0)
    (b := ([5], [0, 7], [5, 6, 7])) rfl (by decide)
  obtain ⟨hreturned, hreadable, hpushed⟩ := by simpa only [Prod.mk.injEq] using hobs
  have horder := (hall 0 (by decide) s hs).order
  rw [hreturned, hreadable, hpushed] at horder
  exact absurd horder (by decide)

end ZAF.SelfQueue
