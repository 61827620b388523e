import ZAF.Framework.System
import ZAF.SWSR.Content

/-! # Reading a batch

    `pop_some` hands some of the unread items to a pop handler. The source has
    four overloads: with an explicit bound or with a default one, and with or
    without an action for a queue that stays empty. They forward to one another.

    One thread reads here, and the handler may push to the queue it reads while
    the queue is not full, or ask the batch to stop.
-/

namespace ZAF.Batch

open LTS Ring SWSRDeliveryQueue

variable {Item : Type}

/-! ### Handlers -/

/-- What a pop handler does to its queue. -/
inductive Action (Item : Type) where
  /-- `push(x, s)`, unless the queue is full. -/
  | push (x : Item) (s : SWSRDeliveryQueueFullStrategy)
  | stop_pop_some
  deriving DecidableEq, Repr

/-- A pop handler: what it does with an item, given the items it has had before
    in the same call. The queue it sees meanwhile is determined by these. -/
abbrev PopHandler (Item : Type) := List Item → Item → List (Action Item)

variable [Inhabited Item]

/-- The effect of an action on the queue. -/
def Action.run (q : SWSRDeliveryQueue Item) : Action Item → SWSRDeliveryQueue Item
  | .push x s =>
    if q.full then q
    else
      match q.push x s with
      | some (_, q') => q'
      | none => q
  | .stop_pop_some => { q with flag_stop_pop_some := true }

/-! ### The overloads -/

/-- A call in progress: the queue, and what the handler has been given. -/
structure Reading (Item : Type) where
  queue : SWSRDeliveryQueue Item
  handed : List Item

def pop_one (handler : PopHandler Item) (s : Reading Item) : Reading Item :=
  let item := s.queue.top
  { queue := ((handler s.handed item).foldl Action.run s.queue).release
    handed := s.handed ++ [item] }

/-- The loop of `pop_some`. It reads one message in each round, so that
    `max_messages_read` rounds of fuel never run out. -/
def pop_some_loop (handler : PopHandler Item) (w max_messages_read : UInt32) :
    Nat → UInt32 → UInt32 → Reading Item → UInt32 × Reading Item
  | 0, _, num_read, s => (num_read, s)
  | fuel + 1, r, num_read, s =>
    if r ≠ w ∧ s.queue.flag_stop_pop_some = false ∧ num_read < max_messages_read then
      pop_some_loop handler w max_messages_read fuel (r + 1) (num_read + 1) (pop_one handler s)
    else (num_read, s)

/-- `pop_some(handler, max_messages_read)`. -/
def pop_some_bounded (handler : PopHandler Item) (max_messages_read : UInt32) (s : Reading Item) :
    UInt32 × Reading Item :=
  let w := s.queue.write_idx
  let r := s.queue.read_idx
  pop_some_loop handler w max_messages_read max_messages_read.toNat r 0
    { s with queue := { s.queue with flag_stop_pop_some := false } }

/-- `pop_some(handler)`. -/
def pop_some (handler : PopHandler Item) (s : Reading Item) : UInt32 × Reading Item :=
  pop_some_bounded handler s.queue.max_messages_read s

/-- `pop_some(handler, on_reach_max_empty_read, max_messages_read)`: whether the
    action is called, at the end, and the queue. -/
def pop_some_or_stop_bounded (handler : PopHandler Item) (max_messages_read : UInt32)
    (s : Reading Item) : Bool × Reading Item :=
  let (n, s) := pop_some_bounded handler max_messages_read s
  if n = 0 then
    let q := { s.queue with num_empty_read := s.queue.num_empty_read + 1 }
    if q.num_empty_read = q.max_empty_read then
      -- read once more in case the writer has written meanwhile
      let s := (pop_some_bounded handler max_messages_read
        { s with queue := q.inc_read_progress }).2
      (true, { s with queue := { s.queue with num_empty_read := 0 } })
    else (false, { s with queue := q })
  else (false, { s with queue := { s.queue with num_empty_read := 0 } })

/-- `pop_some(handler, on_reach_max_empty_read)`. -/
def pop_some_or_stop (handler : PopHandler Item) (s : Reading Item) : Bool × Reading Item :=
  pop_some_or_stop_bounded handler s.queue.max_empty_read s

/-! ### Calls -/

/-- Which overload is called, with its explicit argument. -/
inductive Overload where
  | bounded (max_messages_read : UInt32)
  | default
  | or_stop_bounded (max_messages_read : UInt32)
  | or_stop
  deriving DecidableEq, Repr

/-- What a call of `pop_some` does: the queue it leaves, the items handed out,
    the number it returns if it returns one, and whether it calls the action for
    a queue that stays empty. -/
structure Outcome (Item : Type) where
  queue : SWSRDeliveryQueue Item
  handed : List Item
  num_read : Option UInt32
  reached_max_empty_read : Bool

/-- A call. -/
def call (q : SWSRDeliveryQueue Item) (handler : PopHandler Item) : Overload → Outcome Item
  | .bounded max =>
    let (n, s) := pop_some_bounded handler max ⟨q, []⟩
    ⟨s.queue, s.handed, some n, false⟩
  | .default =>
    let (n, s) := pop_some handler ⟨q, []⟩
    ⟨s.queue, s.handed, some n, false⟩
  | .or_stop_bounded max =>
    let (stop, s) := pop_some_or_stop_bounded handler max ⟨q, []⟩
    ⟨s.queue, s.handed, none, stop⟩
  | .or_stop =>
    let (stop, s) := pop_some_or_stop handler ⟨q, []⟩
    ⟨s.queue, s.handed, none, stop⟩

/-- The bound a caller asks for: the explicit argument or `max_messages_read`. -/
def Overload.bound (q : SWSRDeliveryQueue Item) : Overload → UInt32
  | .bounded max => max
  | .default => q.max_messages_read
  | .or_stop_bounded max => max
  | .or_stop => q.max_messages_read

/-- Whether the overload takes an action for a queue that stays empty. -/
def Overload.takes_action : Overload → Bool
  | .bounded _ => false
  | .default => false
  | .or_stop_bounded _ => true
  | .or_stop => true

/-! ### Runs -/

/-- A queue in use, and how many calls have found it empty since the last one that
    has not: of all calls, and of those with an action. -/
structure State (Item : Type) where
  queue : SWSRDeliveryQueue Item
  empty_calls : Nat
  action_empty_calls : Nat

/-- What the thread does next. -/
inductive Label (Item : Type) where
  /-- `push(x, s)` on a queue that is not full. -/
  | push (x : Item) (s : SWSRDeliveryQueueFullStrategy)
  /-- A call with a bound of at least one. -/
  | pop_some (handler : PopHandler Item) (overload : Overload)

def next (s : State Item) : Label Item → Option (State Item)
  | .push x strategy =>
    if s.queue.full then none
    else some { s with queue := Action.run s.queue (.push x strategy) }
  | .pop_some handler overload =>
    if overload.bound s.queue = 0 then none
    else some {
      queue := (call s.queue handler overload).queue
      empty_calls := if s.queue.readable.isEmpty then s.empty_calls + 1 else 0
      action_empty_calls :=
        if overload.takes_action then
          if s.queue.readable.isEmpty then s.action_empty_calls + 1 else 0
        else s.action_empty_calls }

/-- A queue with any content and any settings, before the first call. -/
structure Start (s : State Item) : Prop where
  content : ∃ k r xs, Content s.queue k r xs
  one_le_messages : 1 ≤ s.queue.max_messages_read
  one_le_empty : 1 ≤ s.queue.max_empty_read
  num_empty_read : s.queue.num_empty_read = 0
  empty_calls : s.empty_calls = 0
  action_empty_calls : s.action_empty_calls = 0

def system (Item : Type) [Inhabited Item] : System (State Item) (Label Item) where
  init := Start
  next := next

/-! ### The property -/

/-- Whether the handler asks to stop during this item. -/
def stops (handler : PopHandler Item) (seen : List Item) (x : Item) : Bool :=
  (handler seen x).any fun
    | .push _ _ => false
    | .stop_pop_some => true

/-- The items up to the first one during which the handler asks to stop, with
    that one. -/
def up_to_stop (handler : PopHandler Item) : List Item → List Item → List Item
  | _, [] => []
  | seen, x :: xs =>
    if stops handler seen x then [x] else x :: up_to_stop handler (seen ++ [x]) xs

/-- What a call is to do: hand out the oldest items up to its bound and up to
    the first stop, advance `read_idx` by their number and report that number, and
    call the action on every `max_empty_read`-th consecutive call that found the
    queue empty. -/
structure Exact (s : State Item) (handler : PopHandler Item) (overload : Overload)
    (o : Outcome Item) : Prop where
  handed : o.handed =
    (up_to_stop handler [] s.queue.readable).take (overload.bound s.queue).toNat
  advance : o.queue.read_idx = s.queue.read_idx + UInt32.ofNat o.handed.length
  reported : ∀ n, o.num_read = some n →
    n.toNat = o.handed.length ∧ o.queue.read_idx = s.queue.read_idx + n
  rest : ∃ pushed, o.queue.readable = s.queue.readable.drop o.handed.length ++ pushed
  action : o.reached_max_empty_read = true ↔ overload.takes_action = true ∧
    s.queue.readable = [] ∧ (s.empty_calls + 1) % s.queue.max_empty_read.toNat = 0

/-- The overload with an action and no explicit bound takes `max_empty_read` for
    the bound. It is right where this bound cuts the batch as `max_messages_read`
    would. -/
def bounds_agree (q : SWSRDeliveryQueue Item) (handler : PopHandler Item) : Overload → Prop
  | .or_stop =>
    let wanted := (up_to_stop handler [] q.readable).length
    min q.max_empty_read.toNat wanted = min q.max_messages_read.toNat wanted
  | _ => True

/-- `num_empty_read` is neither advanced nor reset by a call without an action. It is
    right where its count and the one of all calls reach `max_empty_read` together. -/
def counts_agree (s : State Item) (overload : Overload) : Prop :=
  overload.takes_action = true → s.queue.readable = [] →
    ((s.empty_calls + 1) % s.queue.max_empty_read.toNat = 0 ↔
      (s.action_empty_calls + 1) % s.queue.max_empty_read.toNat = 0)

/-! ### What a handler does to the queue -/

/-- The settings and the count of empty reads are those of `q`. -/
structure SameSettings (q q' : SWSRDeliveryQueue Item) : Prop where
  num_empty_read : q'.num_empty_read = q.num_empty_read
  max_messages_read : q'.max_messages_read = q.max_messages_read
  max_empty_read : q'.max_empty_read = q.max_empty_read

omit [Inhabited Item] in
theorem SameSettings.refl (q : SWSRDeliveryQueue Item) : SameSettings q q := ⟨rfl, rfl, rfl⟩

omit [Inhabited Item] in
theorem SameSettings.trans {q q' q'' : SWSRDeliveryQueue Item} (h : SameSettings q q')
    (h' : SameSettings q' q'') : SameSettings q q'' :=
  ⟨h'.1.trans h.1, h'.2.trans h.2, h'.3.trans h.3⟩

section handler

variable {q : SWSRDeliveryQueue Item} {k r : Nat} {xs : List Item}

/-- The two tests for a full queue agree. -/
theorem full_iff (h : Content q k r xs) :
    q.full = true ↔ q.push_blocked q.write_idx q.read_idx = true := by
  rw [h.push_blocked_iff, full, beq_iff_eq, ← UInt32.toNat_inj, h.cap_eq]
  show q.size.toNat = _ ↔ _
  rw [h.size_eq]

/-- Pushing to a queue that is not full. -/
theorem push_run (h : Content q k r xs) (x : Item) (s : SWSRDeliveryQueueFullStrategy)
    (hfree : ¬ q.full = true) :
    Action.run q (.push x s) = (q.store q.write_idx x).publish ∧
      Content (Action.run q (.push x s)) k r (xs ++ [x]) := by
  have hnot : ¬ q.push_blocked q.write_idx q.read_idx = true := fun hb =>
    hfree ((full_iff h).mpr hb)
  have hrun : Action.run q (.push x s) = (q.store q.write_idx x).publish := by
    simp [Action.run, hfree, push, hnot]
  have hlt := h.length_lt_of_not_blocked hnot
  have hstore := h.store hlt x
  refine ⟨hrun, ?_⟩
  rw [hrun]
  exact hstore.1.publish hlt hstore.2

/-- An action appends to the content, and sets the flag if it is the one to stop. -/
theorem run_content (h : Content q k r xs) (a : Action Item) :
    (∃ pushed, Content (a.run q) k r (xs ++ pushed)) ∧ SameSettings q (a.run q) ∧
      ((a.run q).flag_stop_pop_some = true ↔ q.flag_stop_pop_some = true ∨ a = .stop_pop_some) := by
  cases a with
  | stop_pop_some =>
    refine ⟨⟨[], ?_⟩, ⟨rfl, rfl, rfl⟩, by simp [Action.run]⟩
    rw [List.append_nil]
    exact h.set_stop true
  | push x s =>
    by_cases hfull : q.full = true
    · have hrun : Action.run q (.push x s) = q := by simp [Action.run, hfull]
      rw [hrun]
      exact ⟨⟨[], by simpa using h⟩, .refl q, by simp⟩
    · obtain ⟨hrun, hcontent⟩ := push_run h x s hfull
      refine ⟨⟨[x], hcontent⟩, ?_⟩
      rw [hrun]
      exact ⟨⟨rfl, rfl, rfl⟩, by simp [store, publish]⟩

/-- A handler that does all its actions. -/
theorem foldl_content (actions : List (Action Item)) (h : Content q k r xs) :
    (∃ pushed, Content (actions.foldl Action.run q) k r (xs ++ pushed)) ∧
      SameSettings q (actions.foldl Action.run q) ∧
      ((actions.foldl Action.run q).flag_stop_pop_some = true ↔
        q.flag_stop_pop_some = true ∨ .stop_pop_some ∈ actions) := by
  induction actions generalizing q xs with
  | nil => exact ⟨⟨[], by simpa using h⟩, .refl q, by simp⟩
  | cons a actions ih =>
    obtain ⟨⟨ys, hcontent⟩, hsame, hflag⟩ := run_content h a
    obtain ⟨⟨zs, hcontent'⟩, hsame', hflag'⟩ := ih hcontent
    refine ⟨⟨ys ++ zs, by simpa using hcontent'⟩, hsame.trans hsame', ?_⟩
    rw [List.foldl_cons, hflag', hflag, List.mem_cons, or_assoc, eq_comm (a := a)]

end handler

omit [Inhabited Item] in
theorem stops_iff (handler : PopHandler Item) (seen : List Item) (x : Item) :
    stops handler seen x = true ↔ .stop_pop_some ∈ handler seen x := by
  rw [stops, List.any_eq_true]
  constructor
  · rintro ⟨a, ha, hstop⟩
    cases a with
    | push y s => cases hstop
    | stop_pop_some => exact ha
  · intro ha
    exact ⟨_, ha, rfl⟩

/-! ### What a batch does -/

/-- From `s`, with the unread items `xs` at counter `r`, the items `batch` are
    handed out to reach `s'`. -/
structure Reads (k r : Nat) (xs batch : List Item) (s s' : Reading Item) : Prop where
  handed : s'.handed = s.handed ++ batch
  content : ∃ pushed, Content s'.queue k (r + batch.length) (xs.drop batch.length ++ pushed)
  settings : SameSettings s.queue s'.queue

/-- No item. -/
theorem Reads.none {s : Reading Item} {k r : Nat} {xs : List Item} (h : Content s.queue k r xs) :
    Reads k r xs [] s s :=
  ⟨(List.append_nil _).symm, ⟨[], by simpa using h⟩, .refl _⟩

/-- One item. -/
theorem pop_one_reads (handler : PopHandler Item) {s : Reading Item} {k r : Nat} {x : Item}
    {xs : List Item} (h : Content s.queue k r (x :: xs)) :
    Reads k r (x :: xs) [x] s (pop_one handler s) ∧
      ((pop_one handler s).queue.flag_stop_pop_some = true ↔
        s.queue.flag_stop_pop_some = true ∨ stops handler s.handed x = true) := by
  have htop := h.top_eq
  obtain ⟨⟨ys, hcontent⟩, hsame, hflag⟩ := foldl_content (handler s.handed x) h
  simp only [pop_one, htop]
  refine ⟨⟨rfl, ⟨ys, hcontent.release⟩, ⟨hsame.1, hsame.2, hsame.3⟩⟩, ?_⟩
  rw [stops_iff]
  exact hflag

omit [Inhabited Item] in
theorem up_to_stop_length_le (handler : PopHandler Item) (seen xs : List Item) :
    (up_to_stop handler seen xs).length ≤ xs.length := by
  induction xs generalizing seen with
  | nil => simp [up_to_stop]
  | cons x xs ih =>
    simp only [up_to_stop]
    split
    · simp
    · simpa using ih (seen ++ [x])

/-- A first item and then the others. -/
theorem Reads.cons {k r : Nat} {x : Item} {xs batch : List Item} {s s₁ s' : Reading Item}
    {pushed : List Item} (h₁ : Reads k r (x :: xs) [x] s s₁)
    (h' : Reads k (r + 1) (xs ++ pushed) batch s₁ s') (hle : batch.length ≤ xs.length) :
    Reads k r (x :: xs) (x :: batch) s s' := by
  obtain ⟨zs, hcontent⟩ := h'.content
  refine ⟨?_, ⟨pushed ++ zs, ?_⟩, h₁.settings.trans h'.settings⟩
  · rw [h'.handed, h₁.handed, List.append_assoc]
    rfl
  · rw [List.drop_append_of_le_length hle, List.append_assoc, Nat.add_assoc,
      Nat.add_comm 1] at hcontent
    simpa using hcontent

/-- What is handed out when `n` rounds of the loop are left and the items `xs` were
    there at its start. -/
def batch (handler : PopHandler Item) (n : Nat) (s : Reading Item) (xs : List Item) : List Item :=
  if s.queue.flag_stop_pop_some then [] else (up_to_stop handler s.handed xs).take n

theorem batch_cons (handler : PopHandler Item) (n : Nat) {s : Reading Item} {k r : Nat} {x : Item}
    {xs pushed : List Item} (h : Content s.queue k r (x :: (xs ++ pushed)))
    (hflag : ¬ s.queue.flag_stop_pop_some = true) :
    batch handler (n + 1) s (x :: xs) = x :: batch handler n (pop_one handler s) xs := by
  obtain ⟨hone, hstop⟩ := pop_one_reads handler h
  rw [batch, if_neg hflag, up_to_stop, batch, hone.handed]
  by_cases hx : stops handler s.handed x = true
  · rw [if_pos hx, if_pos (hstop.mpr (.inr hx))]
    simp
  · have hgo : ¬ (pop_one handler s).queue.flag_stop_pop_some = true := by
      rw [hstop]
      exact fun h' => h'.elim hflag hx
    rw [if_neg hx, if_neg hgo, List.take_succ_cons]

omit [Inhabited Item] in
theorem batch_length_le (handler : PopHandler Item) (n : Nat) (s : Reading Item) (xs : List Item) :
    (batch handler n s xs).length ≤ xs.length := by
  rw [batch]
  split
  · exact Nat.zero_le _
  · exact (List.length_take_le' _ _).trans (up_to_stop_length_le ..)

/-- The head of the loop goes on while an item of the start is left. -/
theorem word_ne {r n : Nat} (hpos : 0 < n) (hn : n < 2 ^ 32) : word r ≠ word (r + n) := by
  have hinj := word_inj (r := r) (n := 0) (by decide) hn
  rw [Nat.add_zero] at hinj
  rw [Ne, hinj]
  omega

/-- **The loop**: what it hands out, where the items `xs` were there at its start and
    `pushed` is behind them by now. -/
theorem pop_some_loop_reads (handler : PopHandler Item) {k : Nat} {max_messages_read : UInt32}
    (fuel : Nat) {r : Nat} {num_read : UInt32} {s : Reading Item} {xs : List Item}
    (hfuel : num_read.toNat + fuel = max_messages_read.toNat) {pushed : List Item}
    (h : Content s.queue k r (xs ++ pushed)) {result : UInt32 × Reading Item}
    (hresult : pop_some_loop handler (word (r + xs.length)) max_messages_read fuel (word r)
      num_read s = result) :
    Reads k r (xs ++ pushed) (batch handler fuel s xs) s result.2 ∧
      result.1.toNat = num_read.toNat + (batch handler fuel s xs).length := by
  induction fuel generalizing r num_read s xs pushed with
  | zero =>
    rw [show batch handler 0 s xs = [] by simp [batch], ← hresult]
    exact ⟨.none h, rfl⟩
  | succ fuel ih =>
    by_cases hflag : s.queue.flag_stop_pop_some = true
    · rw [show batch handler (fuel + 1) s xs = [] by simp [batch, hflag], ← hresult]
      simpa [pop_some_loop, hflag] using Reads.none h
    cases xs with
    | nil =>
      rw [show batch handler (fuel + 1) s [] = [] by simp [batch, up_to_stop], ← hresult]
      simpa [pop_some_loop] using Reads.none h
    | cons x xs =>
      have hroom : num_read < max_messages_read := by
        rw [UInt32.lt_iff_toNat_lt]
        omega
      have hahead : word r ≠ word (r + (x :: xs).length) := by
        have hlen := h.length_lt
        rw [List.length_append] at hlen
        exact word_ne (by simp) (by omega)
      have hnum : (num_read + 1).toNat = num_read.toNat + 1 := by
        have hmax := max_messages_read.toNat_lt
        rw [UInt32.toNat_add, UInt32.toNat_one, Nat.mod_eq_of_lt (by omega)]
      have hhead : Content s.queue k r (x :: (xs ++ pushed)) := h
      obtain ⟨hone, -⟩ := pop_one_reads handler hhead
      obtain ⟨ys, hcontent⟩ := hone.content
      have hcontent : Content (pop_one handler s).queue k (r + 1) (xs ++ (pushed ++ ys)) := by
        simpa using hcontent
      rw [pop_some_loop, if_pos ⟨hahead, by simpa using hflag, hroom⟩, List.length_cons,
        Nat.add_comm xs.length, ← Nat.add_assoc,
        show word r + 1 = word (r + 1) from word_add r 1] at hresult
      have hrest := ih (by omega) hcontent hresult
      rw [← List.append_assoc] at hrest
      rw [batch_cons handler fuel h hflag]
      refine ⟨hone.cons hrest.1 ?_, ?_⟩
      · rw [List.length_append]
        exact (batch_length_le ..).trans (Nat.le_add_right ..)
      · rw [hrest.2, hnum, List.length_cons]
        omega

/-- **A call without an action.** -/
theorem pop_some_bounded_reads (handler : PopHandler Item) (max_messages_read : UInt32)
    {s : Reading Item} {k r : Nat} {xs : List Item} (h : Content s.queue k r xs) :
    let result := pop_some_bounded handler max_messages_read s
    let batch := (up_to_stop handler s.handed xs).take max_messages_read.toNat
    Reads k r xs batch s result.2 ∧ result.1.toNat = batch.length := by
  intro result batch
  have hcontent := h.set_stop false
  rw [← List.append_nil xs] at hcontent
  have hfuel : (0 : UInt32).toNat + max_messages_read.toNat = max_messages_read.toNat := by simp
  have hloop := pop_some_loop_reads handler (s := { s with queue := { s.queue with
    flag_stop_pop_some := false } }) _ hfuel hcontent rfl
  rw [← h.read_eq, ← h.write_eq, List.append_nil] at hloop
  obtain ⟨⟨hhanded, hrest, hsame⟩, hnum⟩ := hloop
  refine ⟨⟨hhanded, hrest, ⟨hsame.1, hsame.2, hsame.3⟩⟩, ?_⟩
  rw [show result.1.toNat = _ from hnum]
  simp [batch, Batch.batch]

/-- A call on an empty queue resets the flag and is done. -/
theorem pop_some_bounded_nil (handler : PopHandler Item) (max_messages_read : UInt32)
    {s : Reading Item} {k r : Nat} (h : Content s.queue k r []) :
    pop_some_bounded handler max_messages_read s =
      (0, { s with queue := { s.queue with flag_stop_pop_some := false } }) := by
  have hend : s.queue.write_idx = s.queue.read_idx := by
    rw [h.write_eq, h.read_eq]
    rfl
  rw [pop_some_bounded, hend]
  cases max_messages_read.toNat with
  | zero => rfl
  | succ fuel => simp [pop_some_loop]

/-- What a call with an action makes of the count of empty reads: whether it
    calls the action, and the count afterwards. -/
def count_empty (q : SWSRDeliveryQueue Item) (found_empty : Bool) : Bool × UInt32 :=
  if found_empty then
    if q.num_empty_read + 1 = q.max_empty_read then (true, 0) else (false, q.num_empty_read + 1)
  else (false, 0)

/-- From `s`, with the unread items `xs` at counter `r`, a call hands out the items
    `batch` to reach `s'`; the settings stay. -/
structure Delivers (k r : Nat) (xs batch : List Item) (s s' : Reading Item) : Prop where
  handed : s'.handed = s.handed ++ batch
  content : ∃ pushed, Content s'.queue k (r + batch.length) (xs.drop batch.length ++ pushed)
  max_messages_read : s'.queue.max_messages_read = s.queue.max_messages_read
  max_empty_read : s'.queue.max_empty_read = s.queue.max_empty_read

omit [Inhabited Item] in
/-- A bound of at least one leaves nothing out of a batch but the empty one. -/
theorem take_eq_nil {max : UInt32} (hmax : 1 ≤ max) (handler : PopHandler Item)
    (seen xs : List Item) : (up_to_stop handler seen xs).take max.toNat = [] ↔ xs = [] := by
  rw [UInt32.le_iff_toNat_le, UInt32.toNat_one] at hmax
  cases xs with
  | nil => simp [up_to_stop]
  | cons x xs =>
    have hne : up_to_stop handler seen (x :: xs) ≠ [] := by
      rw [up_to_stop]
      split <;> simp
    have hpos : max.toNat ≠ 0 := by omega
    simp [List.take_eq_nil_iff, hne, hpos]

/-- **A call with an action.** -/
theorem pop_some_or_stop_bounded_delivers (handler : PopHandler Item) {max_messages_read : UInt32}
    (hmax : 1 ≤ max_messages_read) {s : Reading Item} {k r : Nat} {xs : List Item}
    (h : Content s.queue k r xs) :
    let result := pop_some_or_stop_bounded handler max_messages_read s
    Delivers k r xs ((up_to_stop handler s.handed xs).take max_messages_read.toNat) s result.2 ∧
      (result.1, result.2.queue.num_empty_read) = count_empty s.queue xs.isEmpty := by
  by_cases hxs : xs = []
  · subst hxs
    have hnone : (up_to_stop handler s.handed []).take max_messages_read.toNat = [] := by
      simp [up_to_stop]
    have hempty := h.set_stop false
    simp only [pop_some_or_stop_bounded, pop_some_bounded_nil handler max_messages_read h, hnone,
      count_empty, List.isEmpty_nil, if_true]
    by_cases hreach : s.queue.num_empty_read + 1 = s.queue.max_empty_read
    · -- nothing has been written meanwhile: the second call is empty as well
      have hagain := hempty.set_progress false s.queue.is_writing_by_sender
        (s.queue.num_empty_read + 1)
      rw [if_pos hreach, if_pos hreach, inc_read_progress,
        pop_some_bounded_nil handler max_messages_read hagain]
      exact ⟨⟨(List.append_nil _).symm, ⟨[], hagain.set_progress _ _ _⟩, rfl, rfl⟩, rfl⟩
    · rw [if_neg hreach, if_neg hreach]
      exact ⟨⟨(List.append_nil _).symm, ⟨[], hempty.set_progress _ _ _⟩, rfl, rfl⟩, rfl⟩
  · obtain ⟨⟨hhanded, ⟨pushed, hcontent⟩, hsame⟩, hnum⟩ :=
      pop_some_bounded_reads handler max_messages_read h
    have hsome : (pop_some_bounded handler max_messages_read s).1 ≠ 0 := by
      rw [Ne, ← UInt32.toNat_inj, UInt32.toNat_zero, hnum, List.length_eq_zero_iff,
        take_eq_nil hmax]
      exact hxs
    simp only [pop_some_or_stop_bounded, if_neg hsome]
    refine ⟨⟨hhanded, ⟨pushed, hcontent.set_progress _ _ _⟩, hsame.2, hsame.3⟩, ?_⟩
    simp [count_empty, hxs]

/-! ### The calls of a run -/

/-- The bound that the overload really uses. -/
def Overload.bound_used (q : SWSRDeliveryQueue Item) : Overload → UInt32
  | .bounded max => max
  | .default => q.max_messages_read
  | .or_stop_bounded max => max
  | .or_stop => q.max_empty_read

/-- What a call does, whichever overload it is of. -/
theorem call_delivers (handler : PopHandler Item) (overload : Overload)
    {q : SWSRDeliveryQueue Item} (hused : 1 ≤ overload.bound_used q) {k r : Nat} {xs : List Item}
    (h : Content q k r xs) :
    let o := call q handler overload
    Delivers k r xs ((up_to_stop handler [] xs).take (overload.bound_used q).toNat) ⟨q, []⟩
        ⟨o.queue, o.handed⟩ ∧
      (∀ n, o.num_read = some n → n.toNat = o.handed.length) ∧
      (o.reached_max_empty_read, o.queue.num_empty_read) =
        if overload.takes_action then count_empty q xs.isEmpty else (false, q.num_empty_read) := by
  have h' : Content (Reading.mk q []).queue k r xs := h
  cases overload with
  | bounded max =>
    obtain ⟨hreads, hnum⟩ := pop_some_bounded_reads handler max h'
    refine ⟨⟨hreads.1, hreads.2, hreads.3.2, hreads.3.3⟩, ?_, ?_⟩
    · rintro n ⟨rfl⟩
      exact hnum.trans (congrArg List.length hreads.handed).symm
    · simpa [call, Overload.takes_action] using hreads.settings.1
  | default =>
    obtain ⟨hreads, hnum⟩ := pop_some_bounded_reads handler q.max_messages_read h'
    refine ⟨⟨hreads.1, hreads.2, hreads.3.2, hreads.3.3⟩, ?_, ?_⟩
    · rintro n ⟨rfl⟩
      exact hnum.trans (congrArg List.length hreads.handed).symm
    · simpa [call, pop_some, Overload.takes_action] using hreads.settings.1
  | or_stop_bounded max =>
    obtain ⟨hdelivers, hcount⟩ := pop_some_or_stop_bounded_delivers handler hused h'
    exact ⟨hdelivers, by simp [call], hcount⟩
  | or_stop =>
    obtain ⟨hdelivers, hcount⟩ := pop_some_or_stop_bounded_delivers handler hused h'
    exact ⟨hdelivers, by simp [call], hcount⟩

/-- The count of empty reads is that of the empty calls, modulo its maximum. -/
structure Inv (s : State Item) : Prop where
  content : ∃ k r xs, Content s.queue k r xs
  one_le_messages : 1 ≤ s.queue.max_messages_read
  one_le_empty : 1 ≤ s.queue.max_empty_read
  count : s.queue.num_empty_read.toNat = s.action_empty_calls % s.queue.max_empty_read.toNat

omit [Inhabited Item] in
/-- The count goes around at `max_empty_read`. -/
theorem count_empty_eq {q : SWSRDeliveryQueue Item} {n : Nat} (hpos : 1 ≤ q.max_empty_read)
    (hcount : q.num_empty_read.toNat = n % q.max_empty_read.toNat) :
    ((count_empty q true).1 = true ↔ (n + 1) % q.max_empty_read.toNat = 0) ∧
      (count_empty q true).2.toNat = (n + 1) % q.max_empty_read.toNat := by
  rw [UInt32.le_iff_toNat_le, UInt32.toNat_one] at hpos
  have hlt := Nat.mod_lt n hpos
  have hmax := q.max_empty_read.toNat_lt
  have hnext : (n + 1) % q.max_empty_read.toNat =
      (q.num_empty_read.toNat + 1) % q.max_empty_read.toNat := by
    rw [hcount, Nat.mod_add_mod]
  have hsucc : (q.num_empty_read + 1).toNat = q.num_empty_read.toNat + 1 := by
    rw [UInt32.toNat_add, UInt32.toNat_one, Nat.mod_eq_of_lt (by omega)]
  rw [hnext, count_empty, if_pos rfl]
  by_cases hreach : q.num_empty_read + 1 = q.max_empty_read
  · rw [if_pos hreach, ← hreach, hsucc, Nat.mod_self]
    simp
  · have hne : q.num_empty_read.toNat + 1 ≠ q.max_empty_read.toNat := by
      rw [← hsucc]
      exact fun heq => hreach (UInt32.toNat_inj.mp heq)
    rw [if_neg hreach, Nat.mod_eq_of_lt (by omega), hsucc]
    simp

/-- Whatever it is called for, `1 ≤ max_empty_read` makes the bound that is used
    positive with the one that is asked for. -/
theorem Inv.one_le_used {s : State Item} (h : Inv s) {overload : Overload}
    (hbound : 1 ≤ overload.bound s.queue) : 1 ≤ overload.bound_used s.queue := by
  cases overload with
  | or_stop => exact h.one_le_empty
  | _ => exact hbound

/-- The action is called on every `max_empty_read`-th of the empty calls with an action. -/
theorem Inv.action_iff {s : State Item} (h : Inv s) {overload : Overload} {xs : List Item}
    {reached : Bool} {num_empty_read : UInt32}
    (hcount : (reached, num_empty_read) =
      if overload.takes_action then count_empty s.queue xs.isEmpty
      else (false, s.queue.num_empty_read)) :
    reached = true ↔ overload.takes_action = true ∧ xs = [] ∧
      (s.action_empty_calls + 1) % s.queue.max_empty_read.toNat = 0 := by
  have hreached := congrArg Prod.fst hcount
  simp only at hreached
  rw [hreached]
  by_cases htakes : overload.takes_action = true
  · cases xs with
    | nil => simp [htakes, (count_empty_eq h.one_le_empty h.count).1]
    | cons x xs => simp [htakes, count_empty]
  · simp [htakes]

theorem inv_start {s : State Item} (h : Start s) : Inv s := by
  refine ⟨h.content, h.one_le_messages, h.one_le_empty, ?_⟩
  rw [h.num_empty_read, h.action_empty_calls, Nat.zero_mod]
  rfl

theorem inv_next {s s' : State Item} {l : Label Item} (h : Inv s) (hn : next s l = some s') :
    Inv s' := by
  obtain ⟨k, r, xs, hcontent⟩ := h.content
  cases l with
  | push x strategy =>
    simp only [next] at hn
    split at hn
    · cases hn
    · next hfree =>
      cases hn
      obtain ⟨⟨pushed, hpushed⟩, hsame, -⟩ := run_content hcontent (.push x strategy)
      refine ⟨⟨k, r, _, hpushed⟩, ?_, ?_, ?_⟩
      · exact hsame.max_messages_read ▸ h.one_le_messages
      · exact hsame.max_empty_read ▸ h.one_le_empty
      · rw [hsame.num_empty_read, hsame.max_empty_read]
        exact h.count
  | pop_some handler overload =>
    simp only [next] at hn
    split at hn
    · cases hn
    · next hbound =>
      cases hn
      have hbound : 1 ≤ overload.bound s.queue := by
        rw [UInt32.le_iff_toNat_le, UInt32.toNat_one]
        rw [← UInt32.toNat_inj, UInt32.toNat_zero] at hbound
        omega
      obtain ⟨hdelivers, -, hcount⟩ :=
        call_delivers handler overload (h.one_le_used hbound) hcontent
      obtain ⟨pushed, hrest⟩ := hdelivers.content
      refine ⟨⟨k, _, _, hrest⟩, ?_, ?_, ?_⟩
      · exact hdelivers.max_messages_read ▸ h.one_le_messages
      · exact hdelivers.max_empty_read ▸ h.one_le_empty
      · rw [hdelivers.max_empty_read]
        have hnum := congrArg Prod.snd hcount
        simp only at hnum ⊢
        rw [hnum, hcontent.readable_eq]
        split
        · cases hxs : xs.isEmpty with
          | true => simpa using (count_empty_eq h.one_le_empty h.count).2
          | false => simp [count_empty]
        · exact h.count

theorem inv_of_reachable {s : State Item} (hs : Reachable (system Item) s) : Inv s :=
  hs.invariant Inv (fun _ => inv_start) (fun _ _ _ h _ hn => inv_next h hn)

/-- **`pop_some` delivers an exact batch just where its bounds and its counts agree.** In a
    queue with any content and settings, in any run of calls and pushes, a call hands out
    the oldest items up to its bound and the first stop, advances `read_idx` by the number
    it reports and calls its action at the right time, exactly if it is not of the
    overload that takes `max_empty_read` for a bound, or the batch is cut alike, and the
    calls without an action have not put its count of empty calls out of step. -/
theorem pop_some_exact_iff {s : State Item} (hs : Reachable (system Item) s)
    (handler : PopHandler Item) (overload : Overload) (hbound : 1 ≤ overload.bound s.queue) :
    Exact s handler overload (call s.queue handler overload) ↔
      bounds_agree s.queue handler overload ∧ counts_agree s overload := by
  have hinv := inv_of_reachable hs
  obtain ⟨k, r, xs, hcontent⟩ := hinv.content
  obtain ⟨hdelivers, hreported, hcount⟩ :=
    call_delivers handler overload (hinv.one_le_used hbound) hcontent
  generalize call s.queue handler overload = o at hdelivers hreported hcount ⊢
  obtain ⟨pushed, hrest⟩ := hdelivers.content
  have hhanded : o.handed =
      (up_to_stop handler [] s.queue.readable).take (overload.bound_used s.queue).toNat := by
    rw [hcontent.readable_eq]
    exact hdelivers.handed
  have hlength : o.handed.length =
      ((up_to_stop handler [] xs).take (overload.bound_used s.queue).toNat).length :=
    congrArg List.length hdelivers.handed
  have hread : o.queue.read_idx = s.queue.read_idx + UInt32.ofNat o.handed.length := by
    rw [hcontent.read_eq, hlength]
    exact hrest.read_eq.trans (word_add ..).symm
  have haction : o.reached_max_empty_read = true ↔ overload.takes_action = true ∧
      s.queue.readable = [] ∧
      (s.action_empty_calls + 1) % s.queue.max_empty_read.toNat = 0 := by
    rw [hcontent.readable_eq]
    exact hinv.action_iff hcount
  -- all but the bound and the count is right for every overload
  have hexact : Exact s handler overload o ↔
      (up_to_stop handler [] s.queue.readable).take (overload.bound_used s.queue).toNat =
        (up_to_stop handler [] s.queue.readable).take (overload.bound s.queue).toNat ∧
      counts_agree s overload := by
    constructor
    · intro h
      refine ⟨by rw [← hhanded, h.handed], fun htakes hempty => ?_⟩
      have hiff := h.action.symm.trans haction
      simpa only [htakes, hempty, true_and] using hiff
    · rintro ⟨htake, hagree⟩
      refine ⟨hhanded.trans htake, hread, ?_, ⟨pushed, ?_⟩, ?_⟩
      · intro n hn
        have hlen := hreported n hn
        refine ⟨hlen, ?_⟩
        rw [hread, ← hlen, UInt32.ofNat_toNat]
      · rw [hcontent.readable_eq, hlength]
        exact hrest.readable_eq
      · rw [haction]
        exact and_congr_right fun htakes => and_congr_right fun hempty =>
          (hagree htakes hempty).symm
  rw [hexact]
  refine and_congr_left fun _ => ?_
  cases overload with
  | or_stop => exact List.take_eq_take_iff
  | _ => exact iff_of_true rfl trivial

/-! ### A queue with two items -/

/-- A fresh queue may have any settings. -/
theorem start_fresh {scale : Nat} (hscale : scale ≤ 31) {max_messages_read max_empty_read : UInt32}
    (hmessages : 1 ≤ max_messages_read) (hempty : 1 ≤ max_empty_read) :
    Start (⟨{ ({} : SWSRDeliveryQueue Item).resize scale with
      max_messages_read := max_messages_read, max_empty_read := max_empty_read }, 0, 0⟩ :
        State Item) := by
  have h : Content (({} : SWSRDeliveryQueue Item).resize scale) scale 0 [] := content_resize hscale
  exact ⟨⟨scale, 0, [], h.1, h.2, h.3, h.4, h.5, h.6, h.7⟩, hmessages, hempty, rfl, rfl, rfl⟩

/-- The queue `7, 8`, to be read one message at a time. -/
def two_items : SWSRDeliveryQueue Nat :=
  let q : SWSRDeliveryQueue Nat :=
    { ({} : SWSRDeliveryQueue Nat).resize 2 with max_messages_read := 1, max_empty_read := 2 }
  ((Action.push 7 .Giveup).run q |> fun q => (Action.push 8 .Giveup).run q)

theorem two_items_reachable : Reachable (system Nat) ⟨two_items, 0, 0⟩ := by
  have hstart : Start ⟨{ ({} : SWSRDeliveryQueue Nat).resize 2 with
      max_messages_read := 1, max_empty_read := 2 }, 0, 0⟩ :=
    start_fresh (by decide) (by decide) (by decide)
  exact .step (.push 8 .Giveup) (.step (.push 7 .Giveup) (.init hstart) trivial rfl) trivial rfl

/-- With an explicit bound of three, a handler that stops during the first item
    gets that item only. -/
theorem pop_some_exact_iff_stop :
    Exact ⟨two_items, 0, 0⟩ (fun _ x => if x = 7 then [.stop_pop_some] else []) (.bounded 3)
      (call two_items (fun _ x => if x = 7 then [.stop_pop_some] else []) (.bounded 3)) :=
  (pop_some_exact_iff two_items_reachable _ (.bounded 3) (by decide)).mpr ⟨trivial, nofun⟩

/-- Asked for a batch with the default bound of one message, the overload with an
    action hands out two. -/
theorem not_pop_some_exact :
    ¬ ∀ (s : State Nat), Reachable (system Nat) s → ∀ (handler : PopHandler Nat)
      (overload : Overload), 1 ≤ overload.bound s.queue →
      Exact s handler overload (call s.queue handler overload) := by
  intro h
  have hexact := h _ two_items_reachable (fun _ _ => []) .or_stop (by decide)
  exact absurd hexact.handed (by decide)

end ZAF.Batch
