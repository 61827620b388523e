import ZAF.ActorBehaviorX.Tokens

/-! # Waking the receiver up

    The sender notifies the receiver only when it finds the progress flag clear.
    So what is published before the receiver clears the flag has to be read by the
    second `pop_some` that follows, and that one reads no more than its bound. The
    flag is cleared safely when the bound covers what is unread, or when the
    sender is inside a push whose exchange is still to come.
-/

namespace ZAF.Delivery

open LTS Ring SWSRDeliveryQueue SwapRemove Concurrent

variable {Item : Type} [Inhabited Item]

/-! ### The property and its condition -/

/-- No wake-up is lost: while the queue holds an unread message, somebody is bound
    to make the receiver read it. -/
def NoLostWakeup (s : State Item) : Prop :=
  s.core.queue.empty = false →
    .shared ∈ s.active_recv_queues ∨ .Notification ∈ s.channel ∨
      s.sender.in_push = true ∨ s.sender = .notifying

/-- The receiver clears the flag only when the second `pop_some` can read all that
    is unread, or when the sender is inside a push. -/
def burst_bounded (s : State Item) : Label Item → Bool
  | .receiver =>
    match s.receiver with
    | .clearing _ _ =>
      decide (s.core.queue.size ≤ s.core.queue.max_empty_read) || s.sender.in_push
    | _ => true
  | _ => true

/-- The step is not the end of the sender. -/
def Label.keeps_sender : Label Item → Bool
  | .terminate => false
  | _ => true

/-! ### What is left when the flag is clear -/

/-- What the receiver leaves in the queue, if nothing is published any more:
    nothing, or what the second `pop_some` is going to read. -/
def Drained (s : State Item) : Prop :=
  match s.receiver with
  | .rereading _ _ => s.core.queue.readable.length ≤ s.core.queue.max_empty_read.toNat
  | .reading _ _ true => Drains s.core
  | _ => s.core.queue.readable = []

/-- The invariant of runs in which the sender lives on. -/
structure Awake (k : Nat) (s : State Item) : Prop where
  inv : ∃ unread, Inv k s unread
  alive : s.sender.ended = false
  blocking : s.core.writer.Blocking
  /-- With a clear flag, a push is under way or the queue is being emptied. -/
  covered : s.core.queue.may_have_message = false →
    s.sender.in_push = true ∨ Drained s

theorem awake_start {k : Nat} (hk : k ≤ 31) (max_messages_read max_empty_read : UInt32) :
    Awake k (start Item k max_messages_read max_empty_read) := by
  have hinv := @inv_start Item _ k hk max_messages_read max_empty_read
  refine ⟨⟨[], hinv⟩, rfl, trivial, ?_⟩
  intro _
  exact .inr hinv.core.content.readable_eq

section steps

variable {k : Nat} {s s' : State Item}

/-- While the sender lives, the receiver never drops the queue. -/
theorem Awake.drop_safe (h : Awake k s) (l : Label Item) : drop_safe s l = true := by
  obtain ⟨unread, hinv⟩ := h.inv
  have hwriting := hinv.writing
  rw [h.alive] at hwriting
  cases l with
  | receiver =>
    simp only [Delivery.drop_safe]
    split
    · rw [hwriting]
      rfl
    · rfl
  | _ => rfl

/-- Unless the flag has just been cleared, a drained queue is empty. -/
theorem Drained.readable_eq_nil (hd : Drained s) (hcleared : s.receiver.cleared = false) :
    s.core.queue.readable = [] := by
  unfold Drained at hd
  split at hd
  · next hpc =>
    rw [hpc] at hcleared
    cases hcleared
  · next hpc =>
    rw [hpc] at hcleared
    cases hcleared
  · exact hd

/-- Steps of the receiver that keep the queue as it is keep it drained. -/
theorem drained_of_eq (hd : Drained s) (hcleared : s.receiver.cleared = false)
    (hcleared' : s'.receiver.cleared = false)
    (hreadable : s'.core.queue.readable = s.core.queue.readable) : Drained s' := by
  have hnil := hd.readable_eq_nil hcleared
  unfold Drained
  split
  · next hpc =>
    rw [hpc] at hcleared'
    cases hcleared'
  · next hpc =>
    rw [hpc] at hcleared'
    cases hcleared'
  · rw [hreadable, hnil]

/-- Every step of the sender keeps the queue covered. -/
theorem covered_sender_next (h : Awake k s) (hn : sender_next s = some s') :
    s'.core.writer.Blocking ∧ s'.sender.ended = false ∧
      (s'.core.queue.may_have_message = false → s'.sender.in_push = true ∨ Drained s') := by
  have halive := h.alive
  cases hpc : s.sender with
  | idle =>
    simp only [sender_next, hpc] at hn
    cases hn
  | pushing =>
    simp only [sender_next, hpc] at hn
    split at hn
    · cases hn
    · next core hcore =>
      cases hn
      obtain ⟨hblocking, hidle⟩ := writer_next_blocking h.blocking hcore
      refine ⟨hblocking, after_push_ended core.writer, ?_⟩
      intro _
      left
      show (SenderPc.after_push core.writer).in_push = true
      -- A blocking push is not given up, so the exchange follows it.
      unfold SenderPc.after_push
      split
      · rfl
      · next result hresult hw =>
        exact absurd (hidle _ hw) hresult
      · rfl
  | exchanging =>
    simp only [sender_next, hpc, inc_write_progress] at hn
    cases hn
    refine ⟨h.blocking, ?_, ?_⟩
    · show (if (!s.core.queue.may_have_message) = true then SenderPc.notifying else .idle).ended =
        false
      split <;> rfl
    · intro hmay
      cases hmay
  | notifying =>
    simp only [sender_next, hpc] at hn
    cases hn
    refine ⟨h.blocking, rfl, ?_⟩
    intro hmay
    rcases h.covered hmay with hpush | hdrained
    · rw [hpc] at hpush
      cases hpush
    · exact .inr hdrained
  | terminating =>
    rw [hpc] at halive
    cases halive
  | gone =>
    rw [hpc] at halive
    cases halive

/-- Starting the first `pop_some` leaves the queue as it is; starting the second
    one on a queue within the bound makes it drain the queue. -/
theorem covered_start_pop_some (h : Awake k s) {i n : Nat} (second : Bool)
    (hpc : s.receiver = if second then .rereading i n else .scanning i n)
    (hn : start_pop_some s (.reading i n second) = some s') :
    s'.core.writer = s.core.writer ∧ s'.sender = s.sender ∧
      (s'.core.queue.may_have_message = false → s'.sender.in_push = true ∨ Drained s') := by
  unfold start_pop_some at hn
  split at hn
  · cases hn
  · next core hcore =>
    cases hn
    obtain ⟨-, rfl⟩ := next_pop_some hcore
    refine ⟨rfl, rfl, ?_⟩
    intro hmay
    rcases h.covered hmay with hpush | hdrained
    · exact .inl hpush
    · right
      unfold Drained at hdrained
      rw [hpc] at hdrained
      cases second with
      | true => exact ⟨rfl, hdrained⟩
      | false => exact hdrained

/-- Inside `pop_some`: the first one finds nothing in a drained queue, the second
    one goes on draining it. -/
theorem covered_reading (h : Awake k s) {i n : Nat} {second : Bool}
    (hpc : s.receiver = .reading i n second) (hn : receiver_next s = some s') :
    s'.core.writer = s.core.writer ∧ s'.sender = s.sender ∧
      (s'.core.queue.may_have_message = false → s'.sender.in_push = true ∨ Drained s') := by
  obtain ⟨unread, hinv⟩ := h.inv
  simp only [receiver_next, hpc] at hn
  split at hn
  · cases hn
  · next core hcore =>
    obtain ⟨hwriter, hq⟩ := reader_next_frame hcore
    have hmay : core.queue.may_have_message = s.core.queue.may_have_message := by rw [hq]
    -- what is known of the queue after the step, if nobody is pushing
    have hleft : s.core.queue.may_have_message = false → s.sender.in_push = true ∨
        (second = true ∧ Drains core) ∨ core.queue.readable = [] ∧
          (second = true → ∃ n, core.reader = .idle (some n)) := by
      intro hclear
      rcases h.covered hclear with hpush | hdrained
      · exact .inl hpush
      · right
        unfold Drained at hdrained
        rw [hpc] at hdrained
        cases second with
        | true =>
          rcases drains_reader_next hinv.core hdrained hcore with hdrains | ⟨hidle, hnil⟩
          · exact .inl ⟨rfl, hdrains⟩
          · exact .inr ⟨hnil, fun _ => hidle⟩
        | false =>
          right
          rw [hinv.core.content.readable_eq] at hdrained
          obtain rfl := hdrained
          rcases inv_reader_next hinv.core hcore with hcore' | ⟨x, xs, hcons, -⟩
          · exact ⟨hcore'.content.readable_eq, by simp⟩
          · cases hcons
    split at hn
    · next num_read hidle =>
      cases hn
      obtain ⟨e, r, heq, hr⟩ := pop_some_returns_eq
        { s with core := core, receiver := .reading i n second } i n second num_read
      rw [heq]
      refine ⟨hwriter, rfl, ?_⟩
      intro hclear
      rcases hleft (hmay ▸ hclear) with hpush | ⟨-, hdrains⟩ | ⟨hnil, -⟩
      · exact .inl hpush
      · rw [Drains, hidle] at hdrains
        exact hdrains.elim
      · right
        rcases hr with ⟨rfl, rfl⟩ | ⟨rfl, rfl | rfl⟩ <;> exact hnil
    · next hidle =>
      cases hn
      refine ⟨hwriter, rfl, ?_⟩
      intro hclear
      rcases hleft (hmay ▸ hclear) with hpush | ⟨rfl, hdrains⟩ | ⟨hnil, hsecond⟩
      · exact .inl hpush
      · exact .inr hdrains
      · right
        cases second with
        | true =>
          obtain ⟨m, hm⟩ := hsecond rfl
          exact absurd hm (hidle m)
        | false => exact hnil

/-- Every step of the receiver keeps the queue covered, if it clears the flag
    safely. -/
theorem covered_receiver_next (h : Awake k s) (hburst : burst_bounded s .receiver = true)
    (hn : receiver_next s = some s') :
    s'.core.writer = s.core.writer ∧ s'.sender = s.sender ∧
      (s'.core.queue.may_have_message = false → s'.sender.in_push = true ∨ Drained s') := by
  obtain ⟨unread, hinv⟩ := h.inv
  cases hpc : s.receiver with
  | idle =>
    simp only [receiver_next, hpc] at hn
    cases hn
  | scanning i n =>
    simp only [receiver_next, hpc] at hn
    split at hn
    · split at hn
      · exact covered_start_pop_some h false hpc hn
      · cases hn
    · cases hn
      refine ⟨rfl, rfl, ?_⟩
      intro hmay
      rcases h.covered hmay with hpush | hdrained
      · exact .inl hpush
      · exact .inr (drained_of_eq hdrained (by rw [hpc]; rfl) rfl rfl)
  | reading i n second => exact covered_reading h hpc hn
  | clearing i n =>
    simp only [receiver_next, hpc] at hn
    cases hn
    refine ⟨rfl, rfl, ?_⟩
    intro _
    simp only [burst_bounded, hpc, Bool.or_eq_true, decide_eq_true_eq] at hburst
    rcases hburst with hsize | hpush
    · -- The second `pop_some` reads all that is there now.
      right
      show s.core.queue.readable.length ≤ s.core.queue.max_empty_read.toNat
      rw [UInt32.le_iff_toNat_le, hinv.core.content.size_eq] at hsize
      rw [hinv.core.content.readable_eq]
      exact hsize
    · exact .inl hpush
  | rereading i n =>
    simp only [receiver_next, hpc] at hn
    exact covered_start_pop_some h true hpc hn
  | dropping i n =>
    -- The sender is alive, so the queue is only taken from the active ones.
    have hwriting := hinv.writing
    rw [h.alive] at hwriting
    simp only [receiver_next, hpc, hwriting, Bool.not_false, if_true] at hn
    cases hn
    refine ⟨rfl, rfl, ?_⟩
    intro hmay
    rcases h.covered hmay with hpush | hdrained
    · exact .inl hpush
    · right
      unfold Drained at hdrained
      rw [hpc] at hdrained
      exact hdrained

/-- Steps of the receiver outside the reading of the queue. -/
theorem Awake.of_idle (h : Awake k s) (hinv' : ∃ unread, Inv k s' unread)
    (hcore : s'.core = s.core) (hsender : s'.sender = s.sender)
    (hcleared : s.receiver.cleared = false) (hcleared' : s'.receiver.cleared = false) :
    Awake k s' := by
  refine ⟨hinv', by rw [hsender]; exact h.alive, by rw [hcore]; exact h.blocking, ?_⟩
  intro hmay
  rw [hcore] at hmay
  rcases h.covered hmay with hpush | hdrained
  · exact .inl (by rw [hsender]; exact hpush)
  · exact .inr (drained_of_eq hdrained hcleared hcleared' (by rw [hcore]))

/-- Every step keeps the invariant, if the sender lives on and the flag is cleared
    safely. -/
theorem awake_step (h : Awake k s) {l : Label Item} (hkeeps : l.keeps_sender = true)
    (hburst : burst_bounded s l = true) (hn : next s l = some s') : Awake k s' := by
  obtain ⟨unread, hinv⟩ := h.inv
  have hinv' := inv_step hinv (h.drop_safe l) hn
  cases stepped_of_next hn with
  | send x hpc hcore =>
    obtain ⟨-, rfl⟩ := next_push hcore
    exact ⟨hinv', rfl, rfl, fun _ => .inl rfl⟩
  | sender hn =>
    obtain ⟨hblocking, hended, hcovered⟩ := covered_sender_next h hn
    exact ⟨hinv', hended, hblocking, hcovered⟩
  | terminate => cases hkeeps
  | @receive m rest hpc hchannel =>
    obtain ⟨hcore, hsender, hreceiver⟩ := process_control_frame { s with channel := rest } m
    exact h.of_idle hinv' hcore hsender (by rw [hpc]; rfl) (by rw [hreceiver, hpc]; rfl)
  | consume hpc => exact h.of_idle hinv' rfl rfl (by rw [hpc]; rfl) rfl
  | receiver hn =>
    obtain ⟨hwriter, hsender, hcovered⟩ := covered_receiver_next h hburst hn
    exact ⟨hinv', by rw [hsender]; exact h.alive, by rw [hwriter]; exact h.blocking, hcovered⟩
  | other_notified hpc =>
    obtain ⟨hcore, hsender, hreceiver⟩ := notify_swsr_queue_frame s .other true
    exact h.of_idle hinv' hcore hsender (by rw [hpc]; rfl) (by rw [hreceiver, hpc]; rfl)
  | other_emptied hpc hother => exact h.of_idle hinv' rfl rfl (by rw [hpc]; rfl) rfl
  | other_read hpc => exact h.of_idle hinv' rfl rfl (by rw [hpc]; rfl) rfl

/-- A queue that is covered loses no wake-up. -/
theorem Awake.no_lost_wakeup (h : Awake k s) : NoLostWakeup s := by
  obtain ⟨unread, hinv⟩ := h.inv
  intro hempty
  have htoken := hinv.token
  cases hmay : s.core.queue.may_have_message with
  | true =>
    -- the flag counts somebody who is bound to read
    rw [hmay, Bool.toNat_true] at htoken
    by_cases hactive : ActiveQueue.shared ∈ s.active_recv_queues
    · exact .inl hactive
    by_cases hchannel : ControlMessage.Notification ∈ s.channel
    · exact .inr (.inl hchannel)
    rw [List.count_eq_zero.mpr hactive, List.count_eq_zero.mpr hchannel] at htoken
    cases hpc : s.sender with
    | notifying => exact .inr (.inr (.inr rfl))
    | _ =>
      rw [hpc] at htoken
      simp only [SenderPc.owes] at htoken
      omega
  | false =>
    rcases h.covered hmay with hpush | hdrained
    · exact .inr (.inr (.inl hpush))
    · cases hcleared : s.receiver.cleared with
      | true =>
        -- The second `pop_some` is under way; the queue is active until it ends.
        obtain ⟨i, hi⟩ := ReceiverPc.entry_of_cleared hcleared
        exact .inl (List.mem_of_getElem? (hinv.entry i hi))
      | false =>
        have hnil := hdrained.readable_eq_nil hcleared
        rw [hinv.core.content.readable_eq] at hnil
        rw [hinv.core.content.empty_iff.mpr hnil] at hempty
        cases hempty

end steps

/-! ### No lost wake-up -/

/-- **No wake-up is lost, as long as the flag is cleared safely.** -/
theorem no_lost_wakeup_of_burst_bounded {scale : Nat} (hscale : scale ≤ 31)
    (max_messages_read max_empty_read : UInt32) {s : State Item}
    (hs : ReachableVia (system Item scale max_messages_read max_empty_read)
      (fun s l => l.keeps_sender = true ∧ burst_bounded s l = true) s) :
    NoLostWakeup s := by
  have hawake : Awake scale s := by
    apply hs.invariant (Awake scale)
    · intro s hinit
      rw [hinit]
      exact awake_start hscale max_messages_read max_empty_read
    · intro s l s' h hguard hn
      exact awake_step h hguard.1 hguard.2 hn
  exact hawake.no_lost_wakeup

/-- One message is read; two more are pushed while the receiver, with a bound of
    two messages, finds the queue empty and is about to clear the flag. -/
def burst_within_bound : List (Label Nat) := List.flatten
  [[.send 5, .sender, .sender, .sender, .sender, .sender, .receive, .receive, .consume],
    .replicate 6 .receiver, [.consume], .replicate 4 .receiver, [.consume, .receiver, .receiver],
    [.send 6, .sender, .sender, .sender, .sender, .send 7, .sender, .sender, .sender, .sender],
    [.receiver, .receiver]]

theorem no_lost_wakeup_of_burst_bounded_run :
    ∃ s : State Nat,
      (s.core.accepted, s.core.returned, s.core.queue.may_have_message) = ([5, 6, 7], [5], false) ∧
      NoLostWakeup s := by
  obtain ⟨s, hs, hobs⟩ := System.reachable_of_exec
    (system Nat 1 100 2) (fun s l => l.keeps_sender = true ∧ burst_bounded s l = true)
    burst_within_bound (fun s => (s.core.accepted, s.core.returned, s.core.queue.may_have_message))
    (s := start Nat 1 100 2) (b := ([5, 6, 7], [5], false)) rfl (by decide +kernel)
  exact ⟨s, hobs, no_lost_wakeup_of_burst_bounded (by decide) 100 2 hs⟩

/-- The same with a bound of one message. -/
def burst_beyond_bound : List (Label Nat) := List.flatten
  [[.send 5, .sender, .sender, .sender, .sender, .sender, .receive, .receive, .consume],
    .replicate 6 .receiver, [.consume, .receiver, .receiver],
    [.send 6, .sender, .sender, .sender, .sender, .send 7, .sender, .sender, .sender, .sender],
    .replicate 9 .receiver]

/-- The second of the two messages is left behind: the queue is no longer active,
    the flag is clear, and nobody is going to say so. -/
theorem lost_wakeup :
    ¬ ∀ scale ≤ 31, ∀ max_messages_read max_empty_read : UInt32,
      1 ≤ max_messages_read → 1 ≤ max_empty_read → ∀ s : State Nat,
      ReachableVia (system Nat scale max_messages_read max_empty_read)
        (fun _ l => l.keeps_sender = true) s → NoLostWakeup s := by
  intro hall
  obtain ⟨s, hs, hobs⟩ := System.reachable_of_exec
    (system Nat 1 100 1) (fun _ l => l.keeps_sender = true) burst_beyond_bound
    (fun s => (s.core.queue.empty, s.active_recv_queues, s.channel, s.sender))
    (s := start Nat 1 100 1) (b := (false, [], [], .idle)) rfl (by decide +kernel)
  obtain ⟨hempty, hactive, hchannel, hsender⟩ := by simpa only [Prod.mk.injEq] using hobs
  have hlost := hall 1 (by decide) 100 1 (by decide) (by decide) s hs hempty
  rw [hactive, hchannel, hsender] at hlost
  revert hlost
  decide

end ZAF.Delivery
