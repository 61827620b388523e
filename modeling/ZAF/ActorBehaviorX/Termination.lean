import ZAF.ActorBehaviorX.Tokens

/-! # The end of a sender

    A sender may be destroyed between any two of its pushes. The receiver drops
    the queue of a sender that has stopped writing, after it has found the queue
    empty. These are two observations. A push that completes between them leaves
    a notification on the way and a message in the queue.
-/

namespace ZAF.Delivery

open LTS SWSRDeliveryQueue

variable {Item : Type} [Inhabited Item]

/-- The end of a sender does not hurt the receiver. -/
structure UnhurtBySender (s : State Item) : Prop where
  /-- Every notification finds the queue of its sender. -/
  lookups : s.failed_lookups = 0
  /-- No message is deleted unread. -/
  kept : s.destroyed = []

/-- **A sender may terminate at any time, if the receiver does not drop a queue
    that has been pushed to since its flag was cleared, or that is not empty.** -/
theorem unhurt_of_drop_safe {scale : Nat} (hscale : scale ≤ 31)
    (max_messages_read max_empty_read : UInt32) {s : State Item}
    (hs : ReachableVia (system Item scale max_messages_read max_empty_read)
      (fun s l => drop_safe s l = true) s) :
    UnhurtBySender s := by
  have hinv : ∃ unread, Inv scale s unread := by
    apply hs.invariant fun s => ∃ unread, Inv scale s unread
    · intro s hinit
      rw [hinit]
      exact ⟨[], inv_start hscale max_messages_read max_empty_read⟩
    · rintro s l s' ⟨unread, h⟩ hsafe hn
      exact inv_step h hsafe hn
  obtain ⟨unread, h⟩ := hinv
  exact ⟨h.lookups, h.kept⟩

/-- A message is pushed, announced and read; the queue is found empty, the sender
    terminates, and the receiver drops the queue. -/
def drop_after_termination : List (Label Nat) := List.flatten
  [[.send 5, .sender, .sender, .sender, .sender, .sender, .receive, .receive, .consume],
    .replicate 6 .receiver, [.consume], .replicate 7 .receiver,
    [.terminate, .receiver, .sender, .receiver]]

theorem unhurt_of_drop_safe_run :
    ∃ s : State Nat,
      (s.core.returned, s.sender, s.swsr_recv_queue) = ([5], .gone, false) ∧ UnhurtBySender s := by
  obtain ⟨s, hs, hobs⟩ := System.reachable_of_exec
    (system Nat 0 100 1) (fun s l => drop_safe s l = true) drop_after_termination
    (fun s => (s.core.returned, s.sender, s.swsr_recv_queue))
    (s := start Nat 0 100 1) (b := ([5], .gone, false)) rfl (by decide +kernel)
  exact ⟨s, hobs, unhurt_of_drop_safe (by decide) 100 1 hs⟩

/-- The same run with a second message, pushed and announced after the queue was
    found empty and before the sender terminates. -/
def push_before_termination : List (Label Nat) := List.flatten
  [[.send 5, .sender, .sender, .sender, .sender, .sender, .receive, .receive, .consume],
    .replicate 6 .receiver, [.consume], .replicate 7 .receiver,
    [.send 6, .sender, .sender, .sender, .sender, .sender, .terminate, .receiver, .sender,
      .receiver, .receive]]

/-- The second message is deleted with the queue, and its notification does not
    find the queue. -/
theorem hurt_by_sender :
    ¬ ∀ scale ≤ 31, ∀ max_messages_read max_empty_read : UInt32,
      1 ≤ max_messages_read → 1 ≤ max_empty_read → ∀ s : State Nat,
      Reachable (system Nat scale max_messages_read max_empty_read) s → UnhurtBySender s := by
  intro hall
  obtain ⟨s, hs, hobs⟩ := System.reachable_of_exec
    (system Nat 0 100 1) (fun _ _ => True) push_before_termination
    (fun s => (s.destroyed, s.failed_lookups))
    (s := start Nat 0 100 1) (b := ([6], 1)) rfl (by decide +kernel)
  obtain ⟨hdestroyed, -⟩ := by simpa only [Prod.mk.injEq] using hobs
  have hkept := (hall 0 (by decide) 100 1 (by decide) (by decide) s hs).kept
  rw [hdestroyed] at hkept
  cases hkept

end ZAF.Delivery
