import Mathlib.Data.List.Sort
import ZAF.Framework.System

/-! # Timeouts and delayed messages

    An actor may send a message with a delay. The message is kept in a map, ordered by
    due time, until an event loop of the actor flushes it. A loop that sleeps must not
    sleep past the first due time: it measures the time that remains and passes it to
    `zmq::poll`, for which every negative timeout means to wait forever.

    Times are nanoseconds, timeouts are milliseconds. The clock is read by the labels
    of the steps.
-/

namespace ZAF

/-! ### Delayed messages -/

/-- The due times in `delayed_messages`. -/
@[ext]
structure DelayedMessages where
  due : List Int
  sorted : due.Pairwise (· ≤ ·)

namespace DelayedMessages

def empty : DelayedMessages := ⟨[], .nil⟩

/-- `delayed_messages.emplace` -/
def emplace (q : DelayedMessages) (send_time : Int) : DelayedMessages :=
  ⟨q.due.orderedInsert (· ≤ ·) send_time, q.sorted.orderedInsert send_time _⟩

/-- `delayed_messages.erase(delayed_messages.begin())` -/
def erase_first (q : DelayedMessages) : DelayedMessages := ⟨q.due.tail, q.sorted.tail⟩

/-- Is the first message due? -/
def due_at (q : DelayedMessages) (now : Int) : Bool := q.due.head?.any (· ≤ now)

/-- The nanoseconds of a millisecond. -/
def millisecond : Int := 1000000

/-- `remaining_time_to_next_delayed_message`: `duration_cast` truncates. -/
def remaining_time (q : DelayedMessages) (now : Int) : Option Int :=
  q.due.head?.map fun d => (d - now).tdiv millisecond

/-- A timeout of `zmq::poll` that does not sleep past a message: it is finite, no longer
    than the time that remains, and `0` when the time is over. -/
def Prompt (q : DelayedMessages) (now timeout : Int) : Prop :=
  ∀ d ∈ q.due, 0 ≤ timeout ∧ (d ≤ now → timeout = 0) ∧
    (now < d → timeout * millisecond ≤ d - now)

/-- Truncation rounds towards zero. -/
theorem tdiv_millisecond (x : Int) :
    (0 ≤ x ∧ x.tdiv millisecond = x / 1000000) ∨
      (x < 0 ∧ x.tdiv millisecond = -(-x / 1000000)) := by
  rcases Int.lt_or_le x 0 with hneg | hnonneg
  · right
    refine ⟨hneg, ?_⟩
    have hneg' : 0 ≤ -x := by omega
    rw [← Int.tdiv_eq_ediv_of_nonneg hneg', Int.neg_tdiv, Int.neg_neg]
    rfl
  · exact .inl ⟨hnonneg, Int.tdiv_eq_ediv_of_nonneg hnonneg⟩

theorem first_le {first d : Int} {due : List Int} (sorted : (first :: due).Pairwise (· ≤ ·))
    (hd : d ∈ first :: due) : first ≤ d := by
  rcases List.mem_cons.mp hd with rfl | hd
  · exact le_refl _
  · exact List.rel_of_pairwise_cons sorted hd

/-- A prompt timeout is not negative and no longer than the rest of the time. -/
theorem prompt_iff_le {q : DelayedMessages} {now remaining : Int}
    (hremaining : q.remaining_time now = some remaining) (timeout : Int) :
    q.Prompt now timeout ↔ 0 ≤ timeout ∧ timeout ≤ max remaining 0 := by
  obtain ⟨due, sorted⟩ := q
  cases due with
  | nil => cases hremaining
  | cons first due =>
    obtain rfl : (first - now).tdiv millisecond = remaining := Option.some.inj hremaining
    have hdiv := tdiv_millisecond (first - now)
    constructor
    · intro hprompt
      obtain ⟨hnonneg, hover, hrest⟩ := hprompt first List.mem_cons_self
      refine ⟨hnonneg, ?_⟩
      unfold millisecond at *
      omega
    · rintro ⟨hnonneg, hle⟩ d hd
      have hfirst := first_le sorted hd
      refine ⟨hnonneg, ?_, ?_⟩
      · -- the first message is over as well
        intro hover
        omega
      · intro hrest
        unfold millisecond at *
        omega

theorem prompt_of_nothing {q : DelayedMessages} {now : Int} (h : q.remaining_time now = none)
    (timeout : Int) : q.Prompt now timeout := by
  rw [remaining_time, Option.map_eq_none_iff, List.head?_eq_none_iff] at h
  intro d hd
  rw [h] at hd
  cases hd

/-- The measured time itself is prompt unless a message is late by a millisecond. -/
theorem prompt_remaining_iff (q : DelayedMessages) (now : Int) :
    q.Prompt now ((q.remaining_time now).getD (-1)) ↔ ∀ d ∈ q.due, now - d < millisecond := by
  obtain ⟨due, sorted⟩ := q
  cases due with
  | nil => exact ⟨fun _ d hd => (nomatch hd), fun _ d hd => (nomatch hd)⟩
  | cons first due =>
    have hremaining : DelayedMessages.remaining_time ⟨first :: due, sorted⟩ now =
        some ((first - now).tdiv millisecond) := rfl
    rw [prompt_iff_le hremaining]
    change 0 ≤ (first - now).tdiv millisecond ∧ _ ↔ _
    have hdiv := tdiv_millisecond (first - now)
    constructor
    · intro hprompt d hd
      have hfirst := first_le sorted hd
      -- a message that is late by a millisecond makes the measured time negative
      unfold millisecond at *
      omega
    · intro hlate
      have hfirst := hlate first List.mem_cons_self
      refine ⟨?_, le_max_left _ _⟩
      unfold millisecond at *
      omega

end DelayedMessages

/-! ### The loops of an actor -/

/-- The cases of `receive_once`: timeout `-1`, timeout `0`, and other timeouts with the
    time when they are over. -/
inductive ReceiveMode where
  | blocking
  | once
  | timed (deadline timeout : Int)

/-- The timeout that `receive_once` passes on, given the time that remains. -/
def ReceiveMode.poll_timeout : ReceiveMode → Option Int → Int
  | .blocking, some remaining => max remaining 0
  | .blocking, none => -1
  | .once, _ => 0
  | .timed _ timeout, some remaining => min (max remaining 0) timeout
  | .timed _ timeout, none => timeout

/-- The delayed messages and the reading of the clock with which a loop measures the time
    that remains. -/
structure Measurement where
  delayed_messages : DelayedMessages
  now : Int

def Measurement.remaining (m : Measurement) : Option Int := m.delayed_messages.remaining_time m.now

/-- Where a loop stands. `delayed` says that the loop has found a delayed message when it
    measured the time, so that it will flush. -/
inductive Point where
  | measuring
  /-- `inner_receive_once` is called. -/
  | entering (timeout : Int) (delayed : Bool)
  /-- In `process_recv_poll_reqs`, which calls back for the sockets that are removed. -/
  | removing (timeout : Int) (delayed : Bool)
  /-- `zmq::poll` is entered next. -/
  | polling (timeout : Int) (delayed : Bool)
  | handling (delayed : Bool)
  | flushing (received : Bool)
  /-- Is the timeout of `receive_once` over? -/
  | checking

/-- Code that an actor runs: its own, `receive_once`, or `NetGateActor::launch`. What has
    been measured last is kept; no step looks at it. -/
inductive Frame where
  | user
  | receive_once (mode : ReceiveMode) (measured : Measurement) (point : Point)
  | launch (point : Point)

/-- The frame runs handlers, callbacks or other code of the actor, which may call
    `receive_once`. -/
def Frame.Running : Frame → Prop
  | .user => True
  | .receive_once _ _ (.removing _ _) => True
  | .receive_once _ _ (.handling _) => True
  | .launch (.handling _) => True
  | _ => False

instance (f : Frame) : Decidable f.Running := by
  unfold Frame.Running
  split <;> infer_instance

/-- An actor: its last reading of the clock, its delayed messages and its stack. -/
structure Sleeper where
  now : Int
  delayed_messages : DelayedMessages
  frames : List Frame

/-- The steps of an actor, with what they read: times and what has been received. -/
inductive SleeperStep where
  /-- A call of `receive_once(callback, timeout)`. -/
  | receive_once (timeout now : Int)
  | delayed_send (delay now : Int)
  /-- Code of the actor takes time. -/
  | work (now : Int)
  /-- It throws, and what has called it does not catch. -/
  | throws
  | measure (now : Int)
  /-- `inner_receive_once` finds a pending message. -/
  | take_pending
  | process_recv_poll_reqs
  | poll (received : Bool)
  /-- The handlers, or the callbacks, have returned. -/
  | handled
  /-- One turn of the loop in `flush_delayed_messages`. -/
  | flush (now : Int)
  | check (now : Int)

namespace Sleeper

/-- The frame that `receive_once` starts with. -/
def called (q : DelayedMessages) (timeout now : Int) : Frame :=
  let timeout := max timeout (-1)
  if timeout = -1 then .receive_once .blocking ⟨q, now⟩ .measuring
  else if timeout = 0 then .receive_once .once ⟨q, now⟩ (.entering 0 true)
  else
    .receive_once (.timed (now + timeout * DelayedMessages.millisecond) timeout) ⟨q, now⟩ .measuring

/-- After the last message that is due has been flushed. -/
def flushed (frame : Frame) (received : Bool) : List Frame :=
  match frame with
  | .receive_once .blocking measured _ =>
    if received then [] else [.receive_once .blocking measured .measuring]
  | .receive_once (.timed deadline timeout) measured _ =>
    if received then [] else [.receive_once (.timed deadline timeout) measured .checking]
  | .receive_once .once _ _ => []
  | .launch _ => if received then [.launch (.handling true)] else [.launch .measuring]
  | .user => [.user]

/-- A step of the frame on top of the stack: what it becomes and the delayed messages. -/
def step (s : Sleeper) (frame : Frame) : SleeperStep → Option (List Frame × DelayedMessages)
  | .receive_once timeout now =>
    if frame.Running then
      some ([called s.delayed_messages timeout now, frame], s.delayed_messages)
    else none
  | .delayed_send delay now =>
    if frame.Running then some ([frame], s.delayed_messages.emplace (now + delay)) else none
  | .work _ => if frame.Running then some ([frame], s.delayed_messages) else none
  | .throws => if frame.Running then some ([], s.delayed_messages) else none
  | .measure now =>
    let remaining := s.delayed_messages.remaining_time now
    match frame with
    | .receive_once mode _ .measuring =>
      some ([.receive_once mode ⟨s.delayed_messages, now⟩
        (.entering (mode.poll_timeout remaining) remaining.isSome)], s.delayed_messages)
    | .launch .measuring =>
      some ([.launch (.polling (remaining.getD (-1)) remaining.isSome)], s.delayed_messages)
    | _ => none
  | .take_pending =>
    match frame with
    | .receive_once mode measured (.entering _ delayed) =>
      some ([.receive_once mode measured (.handling delayed)], s.delayed_messages)
    | _ => none
  | .process_recv_poll_reqs =>
    match frame with
    | .receive_once mode measured (.entering timeout delayed) =>
      some ([.receive_once mode measured (.removing timeout delayed)], s.delayed_messages)
    | _ => none
  | .poll received =>
    match frame with
    | .receive_once mode measured (.polling _ delayed) =>
      some (if received then [.receive_once mode measured (.handling delayed)]
        else if delayed then [.receive_once mode measured (.flushing false)] else [],
        s.delayed_messages)
    | .launch (.polling _ delayed) =>
      some (if delayed then [.launch (.flushing received)]
        else if received then [.launch (.handling false)] else [.launch .measuring],
        s.delayed_messages)
    | _ => none
  | .handled =>
    match frame with
    | .receive_once mode measured (.removing timeout delayed) =>
      some ([.receive_once mode measured (.polling timeout delayed)], s.delayed_messages)
    | .receive_once mode measured (.handling delayed) =>
      some (if delayed then [.receive_once mode measured (.flushing true)] else [],
        s.delayed_messages)
    | .launch (.handling _) => some ([.launch .measuring], s.delayed_messages)
    | _ => none
  | .flush now =>
    match frame with
    | .receive_once _ _ (.flushing received) | .launch (.flushing received) =>
      if s.delayed_messages.due_at now then some ([frame], s.delayed_messages.erase_first)
      else some (flushed frame received, s.delayed_messages)
    | _ => none
  | .check now =>
    match frame with
    | .receive_once (.timed deadline _) measured .checking =>
      -- a count of nanoseconds
      let timeout := deadline - now
      some (if timeout ≤ 0 then []
        else [.receive_once (.timed deadline timeout) measured .measuring], s.delayed_messages)
    | _ => none

/-- The time that a step reads from the clock. -/
def reading : SleeperStep → Option Int
  | .receive_once _ now | .delayed_send _ now | .work now => some now
  | .measure now | .flush now | .check now => some now
  | .throws | .take_pending | .process_recv_poll_reqs | .poll _ | .handled => none

/-- The clock does not run backwards. -/
def next (s : Sleeper) (label : SleeperStep) : Option Sleeper :=
  match s.frames with
  | [] => none
  | frame :: frames =>
    let now := (reading label).getD s.now
    if now < s.now then none
    else (s.step frame label).map fun p => ⟨now, p.2, p.1 ++ frames⟩

/-- An actor that starts with some code. -/
def system (frame : Frame) : LTS.System Sleeper SleeperStep where
  init s := s.delayed_messages = .empty ∧ s.frames = [frame]
  next := next

end Sleeper

/-! ### What a loop has measured -/

/-- `inner_receive_once` has got the timeout. -/
def Point.Gets (timeout : Int) : Point → Prop
  | .entering t _ | .removing t _ | .polling t _ => t = timeout
  | _ => True

/-- A timeout that is passed is computed from what has been measured, for a net gate just
    now. -/
def Frame.Measured (q : DelayedMessages) (now : Int) : Frame → Prop
  | .receive_once mode measured point => point.Gets (mode.poll_timeout measured.remaining)
  | .launch (.polling timeout _) => timeout = (q.remaining_time now).getD (-1)
  | _ => True

def ReceiveMode.Positive : ReceiveMode → Prop
  | .timed _ timeout => 0 < timeout
  | _ => True

/-- No less than what has been measured remains, or a call with a timeout waits less than
    that; one that does not wait has nothing to measure. -/
def ReceiveMode.InTime (mode : ReceiveMode) (measured : Option Int) (remaining : Int) : Prop :=
  match mode, measured with
  | .blocking, some m => m ≤ max remaining 0
  | .blocking, none => False
  | .once, _ => True
  | .timed _ timeout, some m => min m timeout ≤ max remaining 0
  | .timed _ timeout, none => timeout ≤ max remaining 0

theorem ReceiveMode.Positive.inTime_iff {mode : ReceiveMode} (h : mode.Positive)
    (measured : Option Int) (remaining : Int) :
    mode.InTime measured remaining ↔
      0 ≤ mode.poll_timeout measured ∧ mode.poll_timeout measured ≤ max remaining 0 := by
  cases mode with
  | once => exact iff_of_true trivial ⟨le_refl _, le_max_right _ _⟩
  | blocking =>
    cases measured with
    | none => exact iff_of_false id fun hle => absurd hle.1 (by decide)
    | some m =>
      simp only [InTime, poll_timeout]
      omega
  | timed deadline timeout =>
    change 0 < timeout at h
    cases measured <;> simp only [InTime, poll_timeout] <;> omega

/-- A `receive_once` with a timeout that is over returns. -/
def Frame.Positive : Frame → Prop
  | .receive_once mode _ _ => mode.Positive
  | _ => True

/-- What running code does changes nothing about what has been measured before. -/
theorem Frame.Running.measured_iff {f : Frame} (h : f.Running) (q q' : DelayedMessages)
    (now now' : Int) : f.Measured q now ↔ f.Measured q' now' := by
  cases f with
  | user | receive_once => rfl
  | launch point => cases point <;> first | rfl | exact h.elim

namespace Sleeper

/-- The frames that take the place of the frame on top. -/
structure TopSound (top : List Frame) (q : DelayedMessages) (now : Int) : Prop where
  positive : ∀ f ∈ top, f.Positive
  measured : ∀ f ∈ top, f.Measured q now
  running : ∀ f ∈ top.tail, f.Running

theorem topSound_nil (q : DelayedMessages) (now : Int) : TopSound [] q now :=
  ⟨by simp, by simp, by simp⟩

theorem topSound_singleton {f : Frame} {q : DelayedMessages} {now : Int} (hp : f.Positive)
    (hm : f.Measured q now) : TopSound [f] q now :=
  ⟨by simpa using hp, by simpa using hm, by simp⟩

theorem positive_called (q : DelayedMessages) (timeout now : Int) :
    (called q timeout now).Positive := by
  unfold called
  dsimp only
  split
  · trivial
  · split
    · trivial
    · show 0 < max timeout (-1)
      omega

theorem measured_called (q : DelayedMessages) (timeout now : Int) (q' : DelayedMessages)
    (now' : Int) : (called q timeout now).Measured q' now' := by
  unfold called
  dsimp only
  split
  · trivial
  · split
    · rfl
    · trivial

theorem topSound_flushed {f : Frame} (hp : f.Positive) (received : Bool) (q : DelayedMessages)
    (now : Int) : TopSound (flushed f received) q now := by
  cases f with
  | user => exact topSound_singleton trivial trivial
  | launch point => cases received <;> exact topSound_singleton trivial trivial
  | receive_once mode measured point =>
    cases mode with
    | once => exact topSound_nil q now
    | blocking =>
      cases received with
      | true => exact topSound_nil q now
      | false => exact topSound_singleton trivial trivial
    | timed deadline timeout =>
      cases received with
      | true => exact topSound_nil q now
      | false => exact topSound_singleton hp trivial

variable {s s' : Sleeper}

/-- What a step makes of the frame on top. -/
theorem topSound_step {f : Frame} (hp : f.Positive) (hm : f.Measured s.delayed_messages s.now)
    {label : SleeperStep} {top : List Frame} {q : DelayedMessages}
    (h : s.step f label = some (top, q)) : TopSound top q ((reading label).getD s.now) := by
  cases label with
  | receive_once timeout now =>
    simp only [step] at h
    split at h
    · next hrunning =>
      cases h
      -- the caller stays below, and only running code calls
      have hm := (hrunning.measured_iff _ s.delayed_messages _ now).mp hm
      exact ⟨by simpa using ⟨positive_called _ timeout now, hp⟩,
        by simpa using ⟨measured_called _ timeout now _ _, hm⟩, by simpa using hrunning⟩
    · cases h
  | delayed_send delay now =>
    simp only [step] at h
    split at h
    · next hrunning =>
      cases h
      exact topSound_singleton hp ((hrunning.measured_iff _ _ _ _).mp hm)
    · cases h
  | work now =>
    simp only [step] at h
    split at h
    · next hrunning =>
      cases h
      exact topSound_singleton hp ((hrunning.measured_iff _ _ _ _).mp hm)
    · cases h
  | throws =>
    simp only [step] at h
    split at h <;> cases h
    exact topSound_nil _ _
  | measure now =>
    simp only [step] at h
    split at h
    · cases h
      exact topSound_singleton hp rfl
    · cases h
      exact topSound_singleton trivial rfl
    · cases h
  | take_pending =>
    simp only [step] at h
    split at h <;> cases h
    exact topSound_singleton hp trivial
  | process_recv_poll_reqs =>
    simp only [step] at h
    split at h <;> cases h
    exact topSound_singleton hp hm
  | poll received =>
    simp only [step] at h
    split at h
    · next delayed =>
      cases received <;> cases delayed <;> cases h
      · exact topSound_nil _ _
      all_goals exact topSound_singleton hp trivial
    · next delayed =>
      cases received <;> cases delayed <;> cases h <;> exact topSound_singleton trivial trivial
    · cases h
  | handled =>
    simp only [step] at h
    split at h
    · cases h
      exact topSound_singleton hp hm
    · next delayed =>
      cases delayed <;> cases h
      · exact topSound_nil _ _
      · exact topSound_singleton hp trivial
    · cases h
      exact topSound_singleton trivial trivial
    · cases h
  | flush now =>
    simp only [step] at h
    split at h
    · split at h <;> cases h
      · exact topSound_singleton hp trivial
      · exact topSound_flushed hp _ _ _
    · split at h <;> cases h
      · exact topSound_singleton hp trivial
      · exact topSound_flushed hp _ _ _
    · cases h
  | check now =>
    simp only [step] at h
    split at h
    · split at h <;> cases h
      · exact topSound_nil _ _
      -- the timeout that is left is positive, or the loop would have returned
      · next hpos => exact topSound_singleton (not_le.mp hpos) trivial
    · cases h

/-- What holds in every run. -/
structure Sound (s : Sleeper) : Prop where
  positive : ∀ f ∈ s.frames, f.Positive
  measured : ∀ f ∈ s.frames, f.Measured s.delayed_messages s.now
  running : ∀ f ∈ s.frames.tail, f.Running

theorem Sound.next (h : s.Sound) {label : SleeperStep} (hnext : s.next label = some s') :
    s'.Sound := by
  unfold Sleeper.next at hnext
  split at hnext
  · cases hnext
  next f frames hframes =>
  dsimp only at hnext
  split at hnext
  · cases hnext
  obtain ⟨⟨top, q⟩, hstep, rfl⟩ := Option.map_eq_some_iff.mp hnext
  have htop := topSound_step (h.positive f (hframes ▸ List.mem_cons_self))
    (h.measured f (hframes ▸ List.mem_cons_self)) hstep
  -- the frames below are running, and stay what they are
  have hrunning : ∀ g ∈ frames, g.Running := by
    have := h.running
    rwa [hframes] at this
  have hpositive : ∀ g ∈ frames, g.Positive := fun g hg =>
    h.positive g (hframes ▸ List.mem_cons_of_mem _ hg)
  have hmeasured : ∀ g ∈ frames, g.Measured s.delayed_messages s.now := fun g hg =>
    h.measured g (hframes ▸ List.mem_cons_of_mem _ hg)
  refine ⟨?_, ?_, ?_⟩
  · intro g hg
    rcases List.mem_append.mp hg with hg | hg
    · exact htop.positive g hg
    · exact hpositive g hg
  · intro g hg
    rcases List.mem_append.mp hg with hg | hg
    · exact htop.measured g hg
    · exact ((hrunning g hg).measured_iff _ _ _ _).mp (hmeasured g hg)
  · intro g hg
    cases top with
    | nil => exact hrunning g (List.mem_of_mem_tail hg)
    | cons f' top =>
      rcases List.mem_append.mp hg with hg | hg
      · exact htop.running g hg
      · exact hrunning g hg

/-- The code that an actor starts with. -/
def Starts : Frame → Prop
  | .user => True
  | .launch .measuring => True
  | _ => False

theorem sound_of_reachable {frame : Frame} (hstart : Starts frame)
    (h : LTS.Reachable (system frame) s) : s.Sound := by
  apply h.invariant Sound
  · rintro s ⟨hq, hframes⟩
    have hp : frame.Positive ∧ frame.Measured s.delayed_messages s.now := by
      unfold Starts at hstart
      split at hstart
      · exact ⟨trivial, trivial⟩
      · exact ⟨trivial, trivial⟩
      · exact hstart.elim
    refine ⟨?_, ?_, ?_⟩ <;> rw [hframes]
    · simpa using hp.1
    · simpa using hp.2
    · simp
  · intro s label s' hs _ hnext
    exact hs.next hnext

theorem prompt_receive_once_iff {frame : Frame} (hstart : Starts frame)
    (h : LTS.Reachable (system frame) s) {mode : ReceiveMode} {measured : Measurement}
    {timeout : Int} {delayed : Bool} {frames : List Frame}
    (hframes : s.frames = .receive_once mode measured (.polling timeout delayed) :: frames) :
    s.delayed_messages.Prompt s.now timeout ↔
      ∀ remaining, s.delayed_messages.remaining_time s.now = some remaining →
        mode.InTime measured.remaining remaining := by
  have hsound := sound_of_reachable hstart h
  have hmem : .receive_once mode measured (.polling timeout delayed) ∈ s.frames :=
    hframes ▸ List.mem_cons_self
  have htimeout : timeout = mode.poll_timeout measured.remaining := hsound.measured _ hmem
  have hpositive : mode.Positive := hsound.positive _ hmem
  cases hremaining : s.delayed_messages.remaining_time s.now with
  | none => exact iff_of_true (DelayedMessages.prompt_of_nothing hremaining _) nofun
  | some remaining =>
    simp only [Option.some.injEq, forall_eq']
    rw [DelayedMessages.prompt_iff_le hremaining, htimeout]
    exact (hpositive.inTime_iff _ _).symm

theorem prompt_launch_iff (h : LTS.Reachable (system (.launch .measuring)) s) {timeout : Int}
    {delayed : Bool} {frames : List Frame}
    (hframes : s.frames = .launch (.polling timeout delayed) :: frames) :
    s.delayed_messages.Prompt s.now timeout ↔
      ∀ d ∈ s.delayed_messages.due, s.now - d < DelayedMessages.millisecond := by
  have hstarts : Starts (.launch .measuring) := trivial
  have hsound := sound_of_reachable hstarts h
  have hmem : .launch (.polling timeout delayed) ∈ s.frames := hframes ▸ List.mem_cons_self
  have hmeasured : timeout = _ := hsound.measured _ hmem
  rw [hmeasured]
  exact DelayedMessages.prompt_remaining_iff _ _

end Sleeper

/-! ### The loop of an executor -/

/-- An executor: the delayed messages of the actors that it hosts, itself among them. -/
structure HostingExecutor where
  now : Int
  hosted : List DelayedMessages
  /-- Is `zmq::poll` entered next? -/
  polling : Bool

inductive ExecutorStep where
  | poll (received : Bool)
  | delayed_send (i : Nat) (delay now : Int)
  /-- One turn of the loop in `flush_delayed_messages` of an actor that has received a
      message. -/
  | flush (i : Nat) (now : Int)
  /-- `NewActor` and `ActorTransfer` -/
  | listen_to_actor (delayed_messages : DelayedMessages)
  /-- An actor has been deactivated or sent to another executor. -/
  | remove (i : Nat)
  /-- The actors have handled what they have received. -/
  | handled

namespace HostingExecutor

/-- `zmq::poll(poll_items)` -/
def timeout : Int := -1

def next (s : HostingExecutor) : ExecutorStep → Option HostingExecutor
  | .poll received => if s.polling then some { s with polling := !received } else none
  | .delayed_send i delay now =>
    if s.polling ∨ now < s.now then none
    else some { s with now, hosted := s.hosted.modify i fun q => q.emplace (now + delay) }
  | .flush i now =>
    if s.polling ∨ now < s.now then none
    else some { s with
      now, hosted := s.hosted.modify i fun q => if q.due_at now then q.erase_first else q }
  | .listen_to_actor delayed_messages =>
    if s.polling then none else some { s with hosted := s.hosted ++ [delayed_messages] }
  | .remove i => if s.polling then none else some { s with hosted := s.hosted.eraseIdx i }
  | .handled => if s.polling then none else some { s with polling := true }

def system : LTS.System HostingExecutor ExecutorStep where
  init s := s.hosted = [.empty] ∧ s.polling = true
  next := next

theorem prompt_iff (q : DelayedMessages) (now : Int) : q.Prompt now timeout ↔ q.due = [] := by
  constructor
  · intro h
    cases hdue : q.due with
    | nil => rfl
    | cons d due =>
      -- an executor always waits forever
      have hfinite := (h d (hdue ▸ List.mem_cons_self)).1
      exact absurd hfinite (by decide)
  · intro h d hd
    rw [h] at hd
    cases hd

end HostingExecutor

/-! ### The loops compared -/

/-- A loop; for `receive_once`, with the call that it is in and what has been measured
    there. -/
inductive EventLoop where
  /-- `ActorBehavior::receive_once` -/
  | receive_once (mode : ReceiveMode) (measured : Measurement)
  /-- `NetGate::NetGateActor::launch` -/
  | net_gate
  /-- `ActorEngine::Executor::launch` -/
  | executor

/-- The delayed messages of the actors that a loop hosts, the last reading of the clock and
    the timeout that is passed, when the loop enters `zmq::poll` in some run. -/
inductive EntersPoll : EventLoop → List DelayedMessages → (now timeout : Int) → Prop where
  | receive_once {frame : Frame} {s : Sleeper} {mode : ReceiveMode} {measured : Measurement}
      {timeout : Int} {delayed : Bool} {frames : List Frame} :
      Sleeper.Starts frame → LTS.Reachable (Sleeper.system frame) s →
      s.frames = .receive_once mode measured (.polling timeout delayed) :: frames →
      EntersPoll (.receive_once mode measured) [s.delayed_messages] s.now timeout
  | net_gate {s : Sleeper} {timeout : Int} {delayed : Bool} {frames : List Frame} :
      LTS.Reachable (Sleeper.system (.launch .measuring)) s →
      s.frames = .launch (.polling timeout delayed) :: frames →
      EntersPoll .net_gate [s.delayed_messages] s.now timeout
  | executor {s : HostingExecutor} :
      LTS.Reachable HostingExecutor.system s → s.polling = true →
      EntersPoll .executor s.hosted s.now HostingExecutor.timeout

/-- For `receive_once`, the callbacks have left as much time as was measured; for a net
    gate, no hosted message is late by a millisecond; for an executor, there is none. -/
def InTime : EventLoop → List DelayedMessages → Int → Prop
  | .receive_once mode measured, hosted, now =>
    ∀ q ∈ hosted, ∀ remaining, q.remaining_time now = some remaining →
      mode.InTime measured.remaining remaining
  | .net_gate, hosted, now => ∀ q ∈ hosted, ∀ d ∈ q.due, now - d < DelayedMessages.millisecond
  | .executor, hosted, _ => ∀ q ∈ hosted, q.due = []

/-- So it is when nothing has been delayed and no time has passed since it was measured. -/
theorem inTime_of_unchanged (mode : ReceiveMode) (q : DelayedMessages) (now : Int) :
    InTime (.receive_once mode ⟨q, now⟩) [q] now := by
  intro q' hq' remaining hremaining
  rw [List.mem_singleton.mp hq'] at hremaining
  rw [Measurement.remaining, hremaining]
  cases mode with
  | once => trivial
  | blocking => exact le_max_left _ _
  | timed deadline timeout => exact (min_le_left _ _).trans (le_max_left _ _)

/-- **A loop does not sleep past a delayed message, exactly when its messages are in
    time.** -/
theorem prompt_iff_in_time {loop : EventLoop} {hosted : List DelayedMessages} {now timeout : Int}
    (h : EntersPoll loop hosted now timeout) :
    (∀ q ∈ hosted, q.Prompt now timeout) ↔ InTime loop hosted now := by
  cases h with
  | receive_once hstart hreach hframes =>
    simp only [InTime, List.mem_singleton, forall_eq]
    exact Sleeper.prompt_receive_once_iff hstart hreach hframes
  | net_gate hreach hframes =>
    simp only [InTime, List.mem_singleton, forall_eq]
    exact Sleeper.prompt_launch_iff hreach hframes
  | executor hreach hpolling =>
    exact forall₂_congr fun q _ => HostingExecutor.prompt_iff q _

/-! ### A net gate with a delayed message -/

/-- A handler sends a message with a delay of 5 ms; the time is measured again at `now`. -/
def delayed_run (now : Int) : List SleeperStep :=
  [.measure 0, .poll true, .delayed_send 5000000 0, .handled, .measure now]

/-- What a net gate in a run is about to do. -/
def Sleeper.observe (s : Sleeper) : Option (Int × List Int × Int) :=
  match s.frames with
  | .launch (.polling timeout _) :: _ => some (timeout, s.delayed_messages.due, s.now)
  | _ => none

theorem entersPoll_of_exec (run : List SleeperStep) (timeout now : Int) (due : List Int)
    (h : ((Sleeper.system (.launch .measuring)).execVia (fun _ _ => True)
      ⟨0, .empty, [.launch .measuring]⟩ run).map Sleeper.observe =
        some (some (timeout, due, now))) :
    ∃ q : DelayedMessages, q.due = due ∧ EntersPoll .net_gate [q] now timeout := by
  obtain ⟨s, hs, hobs⟩ := (Sleeper.system (.launch .measuring)).reachable_of_exec
    (fun _ _ => True) run Sleeper.observe ⟨rfl, rfl⟩ h
  unfold Sleeper.observe at hobs
  split at hobs
  · next hframes =>
    cases hobs
    exact ⟨s.delayed_messages, rfl, .net_gate hs hframes⟩
  · cases hobs

theorem prompt_iff_in_time_delayed :
    ∃ q : DelayedMessages, q.due = [5000000] ∧ EntersPoll .net_gate [q] 1000000 4 ∧
      q.Prompt 1000000 4 := by
  obtain ⟨q, hq, henters⟩ :=
    entersPoll_of_exec (delayed_run 1000000) 4 1000000 [5000000] (by decide +kernel)
  refine ⟨q, hq, henters, (prompt_iff_in_time henters).mpr ?_ q List.mem_cons_self⟩
  simp only [InTime, List.mem_singleton, forall_eq, hq]
  decide

/-- The handler has taken 7 ms: the loop waits forever. -/
theorem not_prompt :
    ¬ ∀ (loop : EventLoop) (hosted : List DelayedMessages) (now timeout : Int),
      EntersPoll loop hosted now timeout → ∀ q ∈ hosted, q.Prompt now timeout := by
  intro hall
  obtain ⟨q, hq, henters⟩ :=
    entersPoll_of_exec (delayed_run 7000000) (-2) 7000000 [5000000] (by decide +kernel)
  have hprompt := hall _ _ _ _ henters q List.mem_cons_self 5000000 (by rw [hq]; decide)
  exact absurd hprompt.1 (by decide)

end ZAF
