import ZAF.ActorBehaviorX.Tokens
import ZAF.SWSR.Refinement

/-! # Delivery in order

    The two actors tell each other about the queue through flags, notifications
    and consumption messages. None of this touches what the queue holds: the two
    actors implement the same bounded queue as the two threads alone. So messages
    are handled in the order in which they were sent, also in the runs in which
    some are left unread or deleted with the queue.
-/

namespace ZAF.Delivery

open LTS SWSRDeliveryQueue

variable {Item : Type} [Inhabited Item]

/-- The flags of the queue with other values. -/
def set_progress (c : Concurrent.State Item) (may_have_message is_writing_by_sender : Bool)
    (num_empty_read : UInt32) : Concurrent.State Item :=
  { c with queue := { c.queue with may_have_message, is_writing_by_sender, num_empty_read } }

/-- What a step of an actor does to the queue and its two threads: a step of a
    thread or none, and then perhaps a change of the flags. -/
inductive CoreSteps (c : Concurrent.State Item) : Concurrent.State Item → Prop where
  | same : CoreSteps c c
  | flags (may_have_message is_writing_by_sender : Bool) (num_empty_read : UInt32) :
      CoreSteps c (set_progress c may_have_message is_writing_by_sender num_empty_read)
  | thread {c' : Concurrent.State Item} (l : Concurrent.Label Item)
      (hn : Concurrent.next c l = some c') : CoreSteps c c'
  | thread_flags {c' : Concurrent.State Item} (l : Concurrent.Label Item)
      (hn : Concurrent.next c l = some c') (may_have_message is_writing_by_sender : Bool)
      (num_empty_read : UInt32) :
      CoreSteps c (set_progress c' may_have_message is_writing_by_sender num_empty_read)

section steps

variable {s s' : State Item}

theorem unreference_core (s : State Item) : s.unreference.core = s.core := by
  rcases unreference_eq s with heq | ⟨-, -, heq⟩ <;> rw [heq]

theorem start_pop_some_core {r : ReceiverPc} (hn : start_pop_some s r = some s') :
    CoreSteps s.core s'.core := by
  unfold start_pop_some at hn
  split at hn
  · cases hn
  · next core hcore =>
    cases hn
    exact .thread _ hcore

theorem sender_next_core (hn : sender_next s = some s') : CoreSteps s.core s'.core := by
  unfold sender_next at hn
  split at hn
  · cases hn
  · split at hn
    · cases hn
    · next core hcore =>
      cases hn
      exact .thread _ hcore
  · cases hn
    exact .flags _ _ _
  · cases hn
    exact .same
  · cases hn
    rw [unreference_core]
    exact .same
  · cases hn

theorem receiver_next_core (hn : receiver_next s = some s') : CoreSteps s.core s'.core := by
  unfold receiver_next at hn
  split at hn
  · cases hn
  · split at hn
    · split at hn
      · exact start_pop_some_core hn
      · cases hn
    · cases hn
      exact .same
  · next i n second hpc =>
    split at hn
    · cases hn
    · next core hcore =>
      split at hn
      · next num_read hidle =>
        -- `pop_some` has returned, and `num_empty_read` is counted.
        cases hn
        obtain ⟨e, r, heq, -⟩ := pop_some_returns_eq { s with core := core } i n second num_read
        rw [heq]
        exact .thread_flags _ hcore _ _ e
      · cases hn
        exact .thread _ hcore
  · cases hn
    exact .flags _ _ _
  · exact start_pop_some_core hn
  · cases hn
    show CoreSteps s.core (remove_active _ _ _).core
    unfold remove_active
    split
    · exact .same
    · rw [unreference_core]
      exact .same

/-- Every step of the two actors is one of these on the queue. -/
theorem core_step {l : Label Item} (hn : next s l = some s') : CoreSteps s.core s'.core := by
  cases stepped_of_next hn with
  | send x hpc hcore => exact .thread _ hcore
  | sender hn => exact sender_next_core hn
  | terminate hpc => exact .flags _ _ _
  | @receive m rest hpc hchannel =>
    rw [(process_control_frame _ m).1]
    exact .same
  | consume hpc => exact .same
  | receiver hn => exact receiver_next_core hn
  | other_notified hpc =>
    rw [(notify_swsr_queue_frame _ _ _).1]
    exact .same
  | other_emptied hpc hother => exact .same
  | other_read hpc => exact .same

end steps

/-! ### The invariant of the two threads -/

/-- It does not depend on the flags. -/
theorem CoreSteps.inv {k : Nat} {c c' : Concurrent.State Item} {unread : List Item}
    (hstep : CoreSteps c c') (h : Concurrent.Inv k c unread) :
    ∃ unread', Concurrent.Inv k c' unread' := by
  cases hstep with
  | same => exact ⟨unread, h⟩
  | flags may is_writing num_empty_read => exact ⟨unread, h.set_progress _ _ _⟩
  | thread l hn => exact Concurrent.inv_step h hn
  | thread_flags l hn may is_writing num_empty_read =>
    obtain ⟨unread', h'⟩ := Concurrent.inv_step h hn
    exact ⟨unread', h'.set_progress _ _ _⟩

/-- Nor does what the queue holds, seen from outside. -/
theorem CoreSteps.fifo {k : Nat} {c c' : Concurrent.State Item} {unread : List Item}
    (hstep : CoreSteps c c') (h : Concurrent.Inv k c unread) :
    c'.fifo = c.fifo ∨
      ∃ l', Fifo.next (fun n => decide (n < 2 ^ k)) c.fifo l' = some c'.fifo := by
  cases hstep with
  | same => exact .inl rfl
  | flags may is_writing num_empty_read => exact .inl rfl
  | thread l hn => exact Concurrent.fifo_step h hn
  | @thread_flags c' l hn may is_writing num_empty_read =>
    have hflags : (set_progress c' may is_writing num_empty_read).fifo = c'.fifo := rfl
    rw [hflags]
    exact Concurrent.fifo_step h hn

variable {scale : Nat}

/-- In every run, whatever the actors do. -/
theorem core_inv_reachable (hscale : scale ≤ 31) (max_messages_read max_empty_read : UInt32)
    {s : State Item} (hs : Reachable (system Item scale max_messages_read max_empty_read) s) :
    ∃ unread, Concurrent.Inv scale s.core unread := by
  apply hs.invariant fun s => ∃ unread, Concurrent.Inv scale s.core unread
  · intro s hinit
    rw [hinit]
    exact ⟨[], (inv_start hscale max_messages_read max_empty_read).core⟩
  · intro s l s' hinv _ hn
    obtain ⟨unread, h⟩ := hinv
    exact (core_step hn).inv h

/-! ### The two actors as a queue -/

/-- **The two actors implement a queue of bounded capacity.** -/
def simulation (scale : Nat) (hscale : scale ≤ 31)
    (max_messages_read max_empty_read : UInt32) :
    Simulation (system Item scale max_messages_read max_empty_read) (fun _ _ => True)
      (Fifo.system Item fun n => decide (n < 2 ^ scale))
      (fun s => ∃ unread, Concurrent.Inv scale s.core unread) where
  image s := s.core.fifo
  image_init s hinit := by
    subst hinit
    exact (inv_start hscale max_messages_read max_empty_read).core.fifo_eq
  image_step s l s' hinv _ hn := by
    obtain ⟨unread, h⟩ := hinv
    exact (core_step hn).fifo h

/-- **Messages are handled in the order in which they were sent**, and no more
    than the capacity are unread. -/
theorem handled_in_order (hscale : scale ≤ 31) (max_messages_read max_empty_read : UInt32)
    {s : State Item} (hs : Reachable (system Item scale max_messages_read max_empty_read) s) :
    s.core.accepted = s.core.returned ++ s.core.queue.readable ∧
      s.core.queue.readable.length ≤ 2 ^ scale := by
  have hfifo : Reachable (Fifo.system Item fun n => decide (n < 2 ^ scale)) s.core.fifo :=
    (simulation scale hscale max_messages_read max_empty_read).reachable
      (fun _ hs => core_inv_reachable hscale max_messages_read max_empty_read hs) hs
  exact ⟨Fifo.sent_eq hfifo, Fifo.content_length_le hfifo⟩

end ZAF.Delivery
