import Mathlib.Order.MinMax
import ZAF.EventLoop.Timeout

/-! # The deadline of `receive_once`

    A call of `receive_once` with a positive timeout is to be back when the timeout is
    over. While messages are delayed, the call sleeps no longer than until the first of
    them is due, flushes, and computes from the clock how long it may still sleep.

    The model is one such call, together with the messages that are delayed when it
    starts. It keeps the last time that the code has read: the code does not read the
    clock when nothing is delayed. Times are nanoseconds that fit the clock.
-/

namespace ZAF

/-! ### The call -/

/-- A call has returned, or stands somewhere in the loop. -/
inductive ReceiveStage where
  | at (point : Point)
  | returned (received : Bool)

/-- A call of `receive_once(callback, duration)` for a positive `duration`. -/
structure TimedReceive where
  duration : Int
  /-- The reading of the clock with which the call starts. -/
  start : Int
  e : Int
  /-- The variable `timeout`: it starts as `duration`. -/
  timeout : Int
  /-- The last reading. -/
  now : Int
  /-- The reading from which the timeout has been computed again; no step looks at it. -/
  checked : Option Int
  delayed_messages : DelayedMessages
  stage : ReceiveStage

inductive TimedReceiveStep where
  /-- `remaining_time_to_next_delayed_message` -/
  | measure (now : Int)
  /-- `inner_receive_once`: has a message been received? -/
  | poll (received : Bool)
  /-- The callback has returned. It may have read the clock and delayed messages. -/
  | handled (now : Int) (delayed_messages : DelayedMessages)
  /-- One turn of the loop in `flush_delayed_messages`. -/
  | flush (now : Int)
  /-- The timeout is computed again. -/
  | check (now : Int)

namespace TimedReceive

def called (duration start : Int) (delayed_messages : DelayedMessages) : TimedReceive where
  duration := duration
  start := start
  e := start + duration * DelayedMessages.millisecond
  timeout := duration
  now := start
  checked := none
  delayed_messages := delayed_messages
  stage := .at .measuring

/-- After the last message that is due has been flushed. -/
def flushed : Bool → ReceiveStage
  | true => .returned true
  | false => .at .checking

def next (s : TimedReceive) : TimedReceiveStep → Option TimedReceive
  | .measure now =>
    match s.stage with
    | .at .measuring =>
      match s.delayed_messages.remaining_time now with
      | some remaining =>
        let t := (ReceiveMode.timed s.e s.timeout).poll_timeout (some remaining)
        if now < s.now then none else some { s with now, stage := .at (.polling t true) }
      | none => some { s with stage := .at (.polling s.timeout false) }
    | _ => none
  | .poll received =>
    match s.stage with
    | .at (.polling _ delayed) =>
      some { s with stage :=
        if received then .at (.handling delayed)
        else if delayed then .at (.flushing false) else .returned false }
    | _ => none
  | .handled now delayed_messages =>
    match s.stage with
    | .at (.handling delayed) =>
      if now < s.now then none
      else some { s with
        now, delayed_messages
        stage := if delayed then .at (.flushing true) else .returned true }
    | _ => none
  | .flush now =>
    match s.stage with
    | .at (.flushing received) =>
      if s.delayed_messages.due = [] then some { s with stage := flushed received }
      else if now < s.now then none
      else if s.delayed_messages.due_at now then
        some { s with now, delayed_messages := s.delayed_messages.erase_first }
      else some { s with now, stage := flushed received }
    | _ => none
  | .check now =>
    match s.stage with
    | .at .checking =>
      -- a count of nanoseconds
      let timeout := s.e - now
      if now < s.now then none
      else some { s with
        now, timeout
        checked := some now
        stage := if timeout ≤ 0 then .returned false else .at .measuring }
    | _ => none

/-- The calls with a positive timeout. -/
def system : LTS.System TimedReceive TimedReceiveStep where
  init s := ∃ duration start delayed_messages,
    0 < duration ∧ s = called duration start delayed_messages
  next := next

/-! ### What is expected of a call -/

/-- A time in whole milliseconds, rounded up. What is over takes no time. -/
def whole_milliseconds (x : Int) : Int := max (-(-x / DelayedMessages.millisecond)) 0

/-- A wait is no longer than the time that remains, and a call that computes no time that
    remains returns `false`. -/
def Respects (s : TimedReceive) : Prop :=
  (∀ timeout delayed, s.stage = .at (.polling timeout delayed) →
    timeout ≤ whole_milliseconds (s.e - s.now)) ∧
  ∀ now s', s.stage = .at .checking → s.e ≤ now → s.next (.check now) = some s' →
    s'.stage = .returned false

/-- The timeout of the call is still right at `now`: less than a millisecond has passed
    since the call started; or the timeout has just been computed again, and it is a single
    nanosecond. -/
def Current (s : TimedReceive) (now : Int) : Prop :=
  match s.checked with
  | none => now - s.start < DelayedMessages.millisecond
  | some checked => now = checked ∧ s.e = checked + 1

/-- The next delayed message is due within the time that remains, or the timeout is still
    right. -/
def InTime (s : TimedReceive) : TimedReceiveStep → Prop
  | .measure now =>
    match s.delayed_messages.remaining_time now with
    | some remaining => remaining ≤ whole_milliseconds (s.e - now) ∨ s.Current now
    | none => s.Current s.now
  | _ => True

instance (s : TimedReceive) (now : Int) : Decidable (s.Current now) := by
  unfold Current
  split <;> infer_instance

instance (s : TimedReceive) (label : TimedReceiveStep) : Decidable (s.InTime label) := by
  unfold InTime
  split
  · split <;> infer_instance
  · infer_instance

/-! ### The timeout -/

theorem whole_milliseconds_nonneg (x : Int) : 0 ≤ whole_milliseconds x := le_max_right _ _

/-- The timeout at the top of the loop is the one that the call was given, or the
    nanoseconds that remained when it was computed again. -/
def Fresh (s : TimedReceive) : Prop :=
  match s.checked with
  | none => s.timeout = s.duration ∧ s.now = s.start
  | some checked => 0 < s.timeout ∧ s.timeout = s.e - checked ∧ s.now = checked

structure Sound (s : TimedReceive) : Prop where
  positive : 0 < s.duration
  deadline : s.e = s.start + s.duration * DelayedMessages.millisecond
  fresh : s.stage = .at .measuring → s.Fresh

variable {s s' : TimedReceive}

theorem sound_called {duration start : Int} (h : 0 < duration) (q : DelayedMessages) :
    (called duration start q).Sound :=
  ⟨h, rfl, fun _ => ⟨rfl, rfl⟩⟩

/-- What a step of a call does. -/
inductive Stepped (s : TimedReceive) : TimedReceiveStep → TimedReceive → Prop where
  | measured {now remaining : Int} (hstage : s.stage = .at .measuring)
      (hremaining : s.delayed_messages.remaining_time now = some remaining)
      (hnow : s.now ≤ now) :
      Stepped s (.measure now) { s with
        now
        stage := .at (.polling
          ((ReceiveMode.timed s.e s.timeout).poll_timeout (some remaining)) true) }
  /-- Nothing is delayed, and the clock is not read. -/
  | unmeasured {now : Int} (hstage : s.stage = .at .measuring)
      (hremaining : s.delayed_messages.remaining_time now = none) :
      Stepped s (.measure now) { s with stage := .at (.polling s.timeout false) }
  | received {timeout : Int} {delayed : Bool} (hstage : s.stage = .at (.polling timeout delayed)) :
      Stepped s (.poll true) { s with stage := .at (.handling delayed) }
  | timed_out {timeout : Int} (hstage : s.stage = .at (.polling timeout true)) :
      Stepped s (.poll false) { s with stage := .at (.flushing false) }
  | gave_up {timeout : Int} (hstage : s.stage = .at (.polling timeout false)) :
      Stepped s (.poll false) { s with stage := .returned false }
  | handled {now : Int} {delayed : Bool} (q : DelayedMessages)
      (hstage : s.stage = .at (.handling delayed)) (hnow : s.now ≤ now) :
      Stepped s (.handled now q) { s with
        now, delayed_messages := q
        stage := if delayed then .at (.flushing true) else .returned true }
  | flush_first {now : Int} {received : Bool} (hstage : s.stage = .at (.flushing received))
      (hnow : s.now ≤ now) (hdue : s.delayed_messages.due_at now) :
      Stepped s (.flush now)
        { s with now, delayed_messages := s.delayed_messages.erase_first }
  /-- The clock has been read if something is delayed still. -/
  | flushed {now last : Int} {received : Bool} (hstage : s.stage = .at (.flushing received))
      (hlast : s.now ≤ last) :
      Stepped s (.flush now) { s with now := last, stage := flushed received }
  | expired {now : Int} (hstage : s.stage = .at .checking) (hnow : s.now ≤ now)
      (hover : s.e - now ≤ 0) :
      Stepped s (.check now) { s with
        now, timeout := s.e - now, checked := some now, stage := .returned false }
  | checked {now : Int} (hstage : s.stage = .at .checking) (hnow : s.now ≤ now)
      (hleft : 0 < s.e - now) :
      Stepped s (.check now) { s with
        now, timeout := s.e - now, checked := some now, stage := .at .measuring }

theorem stepped_of_next {label : TimedReceiveStep} (hnext : s.next label = some s') :
    Stepped s label s' := by
  cases label with
  | measure now =>
    simp only [next] at hnext
    split at hnext
    · next hstage =>
      split at hnext
      · next remaining hremaining =>
        split at hnext <;> cases hnext
        next hnow => exact .measured hstage hremaining (not_lt.mp hnow)
      · next hremaining =>
        cases hnext
        exact .unmeasured hstage hremaining
    · cases hnext
  | poll received =>
    simp only [next] at hnext
    split at hnext
    · next timeout delayed hstage =>
      cases hnext
      cases received with
      | true => exact .received hstage
      | false =>
        cases delayed with
        | true => exact .timed_out hstage
        | false => exact .gave_up hstage
    · cases hnext
  | handled now q =>
    simp only [next] at hnext
    split at hnext
    · next delayed hstage =>
      split at hnext <;> cases hnext
      next hnow => exact .handled q hstage (not_lt.mp hnow)
    · cases hnext
  | flush now =>
    simp only [next] at hnext
    split at hnext
    · next received hstage =>
      split at hnext
      · cases hnext
        exact .flushed hstage (le_refl _)
      · split at hnext
        · cases hnext
        · next hnow =>
          split at hnext <;> cases hnext
          · next hdue => exact .flush_first hstage (not_lt.mp hnow) hdue
          · exact .flushed hstage (not_lt.mp hnow)
    · cases hnext
  | check now =>
    simp only [next] at hnext
    split at hnext
    · next hstage =>
      split at hnext <;> cases hnext
      next hnow =>
      split
      · next hover => exact .expired hstage (not_lt.mp hnow) hover
      · next hleft => exact .checked hstage (not_lt.mp hnow) (not_le.mp hleft)
    · cases hnext

/-- A step does not change what was given to the call. -/
theorem next_frame {label : TimedReceiveStep} (hnext : s.next label = some s') :
    s'.duration = s.duration ∧ s'.start = s.start ∧ s'.e = s.e := by
  cases stepped_of_next hnext <;> exact ⟨rfl, rfl, rfl⟩

/-- Only a new computation leads back to the top of the loop. -/
theorem fresh_next {label : TimedReceiveStep} (hnext : s.next label = some s')
    (hstage' : s'.stage = .at .measuring) : s'.Fresh := by
  cases stepped_of_next hnext with
  | measured | unmeasured | received | timed_out | gave_up | expired => cases hstage'
  | @handled now delayed q hstage hnow => cases delayed <;> cases hstage'
  | flush_first hstage hnow hdue => cases hstage.symm.trans hstage'
  | @flushed now last received hstage hlast => cases received <;> cases hstage'
  | checked hstage hnow hleft => exact ⟨hleft, rfl, rfl⟩

theorem Sound.next (h : s.Sound) {label : TimedReceiveStep} (hnext : s.next label = some s') :
    s'.Sound := by
  obtain ⟨hduration, hstart, he⟩ := next_frame hnext
  refine ⟨hduration ▸ h.positive, ?_, fresh_next hnext⟩
  rw [he, hstart, hduration]
  exact h.deadline

theorem sound_of_reachable (h : LTS.Reachable system s) : s.Sound := by
  apply h.invariant Sound
  · rintro s ⟨duration, start, q, hpos, rfl⟩
    exact sound_called hpos q
  · intro s label s' hs _ hnext
    exact hs.next hnext

/-! ### The waits -/

theorem check_returns {now : Int} (hover : s.e ≤ now)
    (hnext : s.next (.check now) = some s') : s'.stage = .returned false := by
  cases stepped_of_next hnext with
  | expired => rfl
  | checked hstage hnow hleft => omega

theorem respects_of_not_polling
    (h : ∀ timeout delayed, s.stage ≠ .at (.polling timeout delayed)) : s.Respects :=
  ⟨fun timeout delayed hstage => absurd hstage (h timeout delayed),
    fun _ _ _ hover hnext => check_returns hover hnext⟩

/-- A wait is compared with the last reading. -/
theorem respects_iff_of_polling {timeout : Int} {delayed : Bool}
    (hstage : s.stage = .at (.polling timeout delayed)) :
    s.Respects ↔ timeout ≤ whole_milliseconds (s.e - s.now) := by
  constructor
  · intro h
    exact h.1 timeout delayed hstage
  · intro hle
    refine ⟨fun timeout' delayed' hstage' => ?_,
      fun _ _ _ hover hnext => check_returns hover hnext⟩
    cases hstage.symm.trans hstage'
    exact hle

/-- A wait that respects the deadline ends less than a millisecond after it. -/
theorem Respects.ends_by_deadline (h : s.Respects) {timeout : Int} {delayed : Bool}
    (hstage : s.stage = .at (.polling timeout delayed)) (hrest : s.now ≤ s.e) :
    s.now + timeout * DelayedMessages.millisecond < s.e + DelayedMessages.millisecond := by
  have hle := h.1 timeout delayed hstage
  unfold whole_milliseconds DelayedMessages.millisecond at *
  omega

/-- The timeout itself is no longer than the time that remains exactly while it is right. -/
theorem timeout_le_iff (h : s.Sound) (hfresh : s.Fresh) {now : Int} (hnow : s.now ≤ now) :
    s.timeout ≤ whole_milliseconds (s.e - now) ↔ s.Current now := by
  have hpos := h.positive
  have hdeadline := h.deadline
  unfold Fresh at hfresh
  unfold Current whole_milliseconds DelayedMessages.millisecond at *
  split at hfresh
  · obtain ⟨htimeout, hstart⟩ := hfresh
    simp only [htimeout]
    constructor <;> intro _ <;> omega
  · obtain ⟨hleft, htimeout, hchecked⟩ := hfresh
    simp only [htimeout] at *
    constructor
    · intro _
      omega
    · rintro ⟨hsame, hlast⟩
      omega

theorem respects_next_iff (h : s.Sound) {label : TimedReceiveStep}
    (hnext : s.next label = some s') : s'.Respects ↔ s.InTime label := by
  cases stepped_of_next hnext with
  | measured hstage hremaining hnow =>
    rw [respects_iff_of_polling rfl]
    simp only [InTime, hremaining, ReceiveMode.poll_timeout]
    -- a time that is over is waited for as none, which is never too long
    rw [min_le_iff, max_le_iff, timeout_le_iff h (h.fresh hstage) hnow]
    simp only [whole_milliseconds_nonneg, and_true]
  | unmeasured hstage hremaining =>
    rw [respects_iff_of_polling rfl]
    simp only [InTime, hremaining]
    exact timeout_le_iff h (h.fresh hstage) (le_refl _)
  | received | timed_out | gave_up | expired | checked =>
    refine iff_of_true (respects_of_not_polling ?_) trivial
    intro timeout delayed hpolling
    cases hpolling
  | @handled now delayed q hstage hnow =>
    refine iff_of_true (respects_of_not_polling ?_) trivial
    intro timeout delayed' hpolling
    cases delayed <;> cases hpolling
  | flush_first hstage hnow hdue =>
    refine iff_of_true (respects_of_not_polling ?_) trivial
    intro timeout delayed hpolling
    cases hstage.symm.trans hpolling
  | @flushed now last received hstage hlast =>
    refine iff_of_true (respects_of_not_polling ?_) trivial
    intro timeout delayed hpolling
    cases received <;> cases hpolling

/-- **A call respects its deadline exactly when all its waits are in time.** -/
theorem respects_iff_in_time {duration start : Int} {q : DelayedMessages}
    {steps : List (TimedReceive × TimedReceiveStep)} (hpos : 0 < duration)
    (hrun : LTS.Run system (called duration start q) steps s) :
    (∀ t ∈ LTS.passes steps s, t.Respects) ↔ ∀ step ∈ steps, step.1.InTime step.2 := by
  apply hrun.forall_iff ⟨duration, start, q, hpos, rfl⟩
  · apply respects_of_not_polling
    intro timeout delayed hstage
    cases hstage
  · intro s label s' hs _ hnext
    exact respects_next_iff (sound_of_reachable hs) hnext

/-! ### A call of 10 ms with a message that is due after 5 ms -/

def one_delayed : DelayedMessages := ⟨[5000000], List.pairwise_singleton _ _⟩

/-- The message is flushed at `now`, when the time is computed again. -/
def interrupted_run (now : Int) : List TimedReceiveStep :=
  [.measure 0, .poll false, .flush now, .flush now, .check now]

/-- What a call waits for, how much time remains, and whether it has returned. -/
def observe (s : TimedReceive) : Option Int × Int × Option Bool :=
  match s.stage with
  | .at (.polling timeout _) => (some timeout, s.e - s.now, none)
  | .at _ => (none, s.e - s.now, none)
  | .returned received => (none, s.e - s.now, some received)

/-- The sleep takes until the deadline: the call returns, and has respected it. -/
theorem respects_iff_in_time_late :
    ∃ (steps : List (TimedReceive × TimedReceiveStep)) (s : TimedReceive),
      LTS.Run system (called 10 0 one_delayed) steps s ∧ s.observe = (none, 0, some false) ∧
        ∀ t ∈ LTS.passes steps s, t.Respects := by
  obtain ⟨steps, s, hrun, htime, hobs⟩ := system.run_of_exec InTime (interrupted_run 10000000)
    observe (s := called 10 0 one_delayed) (b := (none, 0, some false)) (by decide +kernel)
  exact ⟨steps, s, hrun, hobs, (respects_iff_in_time (by decide) hrun).mpr htime⟩

/-- The call has half of its time left, and waits 5 000 000 ms for it. -/
theorem not_respects :
    ¬ ∀ (duration start : Int) (q : DelayedMessages)
      (steps : List (TimedReceive × TimedReceiveStep)) (s : TimedReceive),
      0 < duration → LTS.Run system (called duration start q) steps s →
        ∀ t ∈ LTS.passes steps s, t.Respects := by
  intro hall
  obtain ⟨steps, s, hrun, -, hobs⟩ := system.run_of_exec (fun _ _ => True)
    (interrupted_run 5000000 ++ [.measure 5000000]) observe
    (s := called 10 0 one_delayed) (b := (some 5000000, 5000000, none)) (by decide +kernel)
  have hrespects := hall 10 0 one_delayed steps s (by decide) hrun s (by simp [LTS.passes])
  unfold observe at hobs
  split at hobs
  · next timeout delayed hstage =>
    obtain ⟨rfl, hrest⟩ : timeout = 5000000 ∧ s.e - s.now = 5000000 := by simpa using hobs
    have hle := (respects_iff_of_polling hstage).mp hrespects
    rw [hrest] at hle
    exact absurd hle (by decide)
  · cases hobs
  · cases hobs

end TimedReceive

end ZAF
