import ZAF.ActorBehaviorX.Delivery

/-! # Who is to read the queue

    The progress flag of the queue is set exactly while somebody is bound to read
    it: a notification on its way, a sender about to send one, or an entry of the
    active queues that has not been cleared. This is kept by every step, as long
    as the receiver never forgets a queue that somebody is still bound to read.
-/

namespace ZAF.Delivery

open LTS Ring SWSRDeliveryQueue SwapRemove

variable {Item : Type}

/-! ### Program counters -/

/-- The entry of the active queues that is being read. -/
def ReceiverPc.entry : ReceiverPc → Option Nat
  | .idle => none
  | .scanning _ _ => none
  | .reading i _ _ => some i
  | .clearing i _ => some i
  | .rereading i _ => some i
  | .dropping i _ => some i

/-- Whether the flag has been cleared for the entry that is being read. -/
def ReceiverPc.cleared : ReceiverPc → Bool
  | .idle => false
  | .scanning _ _ => false
  | .reading _ _ second => second
  | .clearing _ _ => false
  | .rereading _ _ => true
  | .dropping _ _ => true

/-- The notifications that the sender is about to send. -/
def SenderPc.owes : SenderPc → Nat
  | .notifying => 1
  | _ => 0

/-- Whether the sender is in its destructor or past it. -/
def SenderPc.ended : SenderPc → Bool
  | .terminating => true
  | .gone => true
  | _ => false

/-- Whether the sender is inside a push, before the exchange of the flag. -/
def SenderPc.in_push : SenderPc → Bool
  | .pushing => true
  | .exchanging => true
  | _ => false

theorem ReceiverPc.entry_of_cleared {r : ReceiverPc} (h : r.cleared = true) :
    ∃ i, r.entry = some i := by
  cases r with
  | idle => cases h
  | scanning i n => cases h
  | reading i n second => exact ⟨i, rfl⟩
  | clearing i n => cases h
  | rereading i n => exact ⟨i, rfl⟩
  | dropping i n => exact ⟨i, rfl⟩

/-- Wherever a push stands, the sender owes nothing and has not ended. -/
theorem after_push_owes (w : Concurrent.WriterPc Item) : (SenderPc.after_push w).owes = 0 := by
  unfold SenderPc.after_push
  split <;> rfl

theorem after_push_ended (w : Concurrent.WriterPc Item) :
    (SenderPc.after_push w).ended = false := by
  unfold SenderPc.after_push
  split <;> rfl

/-! ### The invariant -/

variable [Inhabited Item]

/-- What the receiver knows of the queue: its registration is on the way, or it
    is in the map, or it has been forgotten, and then nobody will ask for it. -/
inductive Registered (s : State Item) (unread : List Item) : Prop where
  | pending (rest : List ControlMessage)
      (channel_eq : s.channel = .Registration :: rest) (not_mem : .Registration ∉ rest)
      (recv_eq : s.swsr_recv_queue = false) (active_eq : s.active_recv_queues.count .shared = 0)
  | registered (not_mem : .Registration ∉ s.channel) (recv_eq : s.swsr_recv_queue = true)
  | forgotten (channel_eq : s.channel = []) (recv_eq : s.swsr_recv_queue = false)
      (active_eq : s.active_recv_queues.count .shared = 0) (unread_eq : unread = [])
      (ended : s.sender.ended = true)

/-- The invariant of the two actors: `unread` is what the queue holds. -/
structure Inv (k : Nat) (s : State Item) (unread : List Item) : Prop where
  core : Concurrent.Inv k s.core unread
  /-- The flag counts those who are bound to read. -/
  token : s.channel.count .Notification + s.sender.owes + s.active_recv_queues.count .shared =
    s.core.queue.may_have_message.toNat + s.receiver.cleared.toNat
  entry : ∀ i, s.receiver.entry = some i → s.active_recv_queues[i]? = some .shared
  writing : s.core.queue.is_writing_by_sender = !s.sender.ended
  registered : Registered s unread
  lookups : s.failed_lookups = 0
  kept : s.destroyed = []

/-- The receiver forgets a queue only when the flag is still clear and nothing is
    left to read. -/
def drop_safe (s : State Item) : Label Item → Bool
  | .receiver =>
    match s.receiver with
    | .dropping _ _ =>
      s.core.queue.is_writing_by_sender ||
        (!s.core.queue.may_have_message && s.core.queue.empty)
    | _ => true
  | _ => true

theorem inv_start {k : Nat} (hk : k ≤ 31) (max_messages_read max_empty_read : UInt32) :
    Inv k (start Item k max_messages_read max_empty_read) [] := by
  have hcore := @Concurrent.inv_start Item _ k hk
  refine ⟨⟨?_, rfl, rfl, trivial, trivial⟩, rfl, ?_, rfl, ?_, rfl, rfl⟩
  · have hc := hcore.content
    exact ⟨hc.scale_le, hc.cap_eq, hc.mask_eq, hc.items_length, hc.read_eq, hc.write_eq, hc.holds⟩
  · intro i hi
    cases hi
  · exact .pending [] rfl (by simp) rfl rfl

section steps

variable {k : Nat} {s s' : State Item} {unread : List Item}

/-! ### The last reference -/

/-- Dropping a reference deletes at most the items that are left. -/
theorem unreference_eq (s : State Item) :
    s.unreference = s ∨
      (s.swsr_send_queue = false ∧ s.swsr_recv_queue = false ∧
        s.unreference = { s with destroyed := s.destroyed ++ s.core.queue.readable }) := by
  unfold State.unreference
  split
  · exact .inl rfl
  · next h =>
    simp only [Bool.or_eq_true, not_or, Bool.not_eq_true] at h
    exact .inr ⟨h.1.1, h.1.2, rfl⟩

/-- An empty queue goes without a trace. -/
theorem unreference_of_empty (hc : s.core.queue.Content k s.core.returned.length []) :
    s.unreference = s := by
  rcases unreference_eq s with h | ⟨_, _, h⟩
  · exact h
  · rw [h, hc.readable_eq, List.append_nil]

/-- Nobody deletes a queue that the receiver knows or is going to know. -/
theorem unreference_of_registered
    (h : s.swsr_recv_queue = true ∨ .Registration ∈ s.channel) : s.unreference = s := by
  unfold State.unreference
  rcases h with h | h
  · rw [h, Bool.or_true, Bool.true_or, if_pos rfl]
  · rw [List.contains_iff_mem.mpr h, Bool.or_true, if_pos rfl]

/-! ### The sender -/

omit [Inhabited Item] in
/-- Steps that leave the channel and the entries of this queue alone keep what the
    receiver knows. -/
theorem Registered.of_sender {unread' : List Item} (h : Registered s unread)
    (hchannel : s'.channel = s.channel) (hrecv : s'.swsr_recv_queue = s.swsr_recv_queue)
    (hactive : s'.active_recv_queues.count .shared = s.active_recv_queues.count .shared)
    (hsender : s.sender.ended = true → s'.sender.ended = true ∧ unread' = unread) :
    Registered s' unread' := by
  cases h with
  | pending rest h1 h2 h3 h4 =>
    exact .pending rest (hchannel.trans h1) h2 (hrecv.trans h3) (hactive.trans h4)
  | registered h1 h2 => exact .registered (by rw [hchannel]; exact h1) (hrecv.trans h2)
  | forgotten h1 h2 h3 h4 h5 =>
    obtain ⟨hended, rfl⟩ := hsender h5
    exact .forgotten (hchannel.trans h1) (hrecv.trans h2) (hactive.trans h3) h4 hended

/-- The sender starts a push. -/
theorem inv_send (h : Inv k s unread) {x : Item} {core : Concurrent.State Item}
    (hpc : s.sender = .idle)
    (hcore : Concurrent.next s.core (.push x .Blocking) = some core) :
    Inv k { s with core := core, sender := .pushing } unread := by
  have hinv := Concurrent.inv_push h.core hcore
  obtain ⟨-, rfl⟩ := Concurrent.next_push hcore
  have htoken := h.token
  have hwriting := h.writing
  rw [hpc] at htoken hwriting
  refine ⟨hinv, htoken, h.entry, hwriting, ?_, h.lookups, h.kept⟩
  refine h.registered.of_sender rfl rfl rfl ?_
  intro hended
  rw [hpc] at hended
  cases hended

/-- The sender is destroyed: it stops writing. -/
theorem inv_terminate (h : Inv k s unread) (hpc : s.sender = .idle) :
    Inv k { s.set_queue { s.core.queue with is_writing_by_sender := false } with
      sender := .terminating } unread := by
  have htoken := h.token
  rw [hpc] at htoken
  refine ⟨h.core.set_progress _ _ _, htoken, h.entry, rfl, ?_, h.lookups, h.kept⟩
  refine h.registered.of_sender rfl rfl rfl ?_
  intro _
  exact ⟨rfl, rfl⟩

/-- The sender inside `push`: the content grows when the item is published. -/
theorem inv_pushing (h : Inv k s unread) (hpc : s.sender = .pushing)
    (hn : sender_next s = some s') : ∃ unread', Inv k s' unread' := by
  simp only [sender_next, hpc] at hn
  split at hn
  · cases hn
  · next core hcore =>
    cases hn
    obtain ⟨-, hq⟩ := Concurrent.writer_next_frame hcore
    have hmay : core.queue.may_have_message = s.core.queue.may_have_message := by rw [hq]
    have hwriting : core.queue.is_writing_by_sender = s.core.queue.is_writing_by_sender := by
      rw [hq]
    obtain ⟨unread', hinv⟩ : ∃ unread', Concurrent.Inv k core unread' := by
      rcases Concurrent.inv_writer_next h.core hcore with ⟨hinv, -⟩ | ⟨x, hinv, -⟩
      · exact ⟨_, hinv⟩
      · exact ⟨_, hinv⟩
    refine ⟨unread', hinv, ?_, h.entry, ?_, ?_, h.lookups, h.kept⟩
    · have htoken := h.token
      rw [hpc] at htoken
      show s.channel.count .Notification + (SenderPc.after_push core.writer).owes +
        s.active_recv_queues.count .shared =
          core.queue.may_have_message.toNat + s.receiver.cleared.toNat
      rw [hmay, after_push_owes, ← htoken]
      rfl
    · show core.queue.is_writing_by_sender = !(SenderPc.after_push core.writer).ended
      rw [hwriting, h.writing, hpc, after_push_ended]
      rfl
    · refine h.registered.of_sender rfl rfl rfl ?_
      intro hended
      rw [hpc] at hended
      cases hended

/-- Every step of the sender keeps the invariant. -/
theorem inv_sender_next (h : Inv k s unread) (hn : sender_next s = some s') :
    ∃ unread', Inv k s' unread' := by
  cases hpc : s.sender with
  | idle =>
    simp only [sender_next, hpc] at hn
    cases hn
  | pushing => exact inv_pushing h hpc hn
  | exchanging =>
    simp only [sender_next, hpc, inc_write_progress] at hn
    cases hn
    have htoken := h.token
    have hwriting := h.writing
    rw [hpc] at htoken hwriting
    refine ⟨unread, h.core.set_progress _ _ _, ?_, h.entry, ?_, ?_, h.lookups, h.kept⟩
    · -- the flag is set, or it becomes set and a notification is owed
      show s.channel.count .Notification +
        (if (!s.core.queue.may_have_message) = true then SenderPc.notifying else .idle).owes +
        s.active_recv_queues.count .shared = true.toNat + s.receiver.cleared.toNat
      cases hmay : s.core.queue.may_have_message with
      | true =>
        rw [hmay] at htoken
        exact htoken
      | false =>
        rw [hmay] at htoken
        simp only [SenderPc.owes, Bool.toNat_false, Bool.toNat_true, Bool.not_false, if_true]
          at htoken ⊢
        omega
    · show s.core.queue.is_writing_by_sender =
        !(if (!s.core.queue.may_have_message) = true then SenderPc.notifying else .idle).ended
      rw [hwriting]
      split <;> rfl
    · refine h.registered.of_sender rfl rfl rfl ?_
      intro hended
      rw [hpc] at hended
      cases hended
  | notifying =>
    simp only [sender_next, hpc] at hn
    cases hn
    have htoken := h.token
    have hwriting := h.writing
    rw [hpc] at htoken hwriting
    refine ⟨unread, h.core, ?_, h.entry, hwriting, ?_, h.lookups, h.kept⟩
    · show (s.channel ++ [ControlMessage.Notification]).count .Notification + 0 + _ = _
      rw [List.count_append, List.count_singleton_self]
      exact htoken
    · cases h.registered with
      | pending rest h1 h2 h3 h4 =>
        refine .pending (rest ++ [.Notification]) ?_ (by simpa using h2) h3 h4
        show s.channel ++ [ControlMessage.Notification] = _
        rw [h1]
        rfl
      | registered h1 h2 =>
        refine .registered ?_ h2
        show ControlMessage.Registration ∉ s.channel ++ [ControlMessage.Notification]
        simpa using h1
      | forgotten h1 h2 h3 h4 h5 =>
        -- Only a sender that has ended is forgotten.
        rw [hpc] at h5
        cases h5
  | terminating =>
    simp only [sender_next, hpc] at hn
    cases hn
    have htoken := h.token
    have hwriting := h.writing
    rw [hpc] at htoken hwriting
    refine ⟨unread, ?_⟩
    have hgone : Inv k { s with swsr_send_queue := false, sender := .gone } unread := by
      refine ⟨h.core, htoken, h.entry, hwriting, ?_, h.lookups, h.kept⟩
      refine h.registered.of_sender rfl rfl rfl ?_
      intro _
      exact ⟨rfl, rfl⟩
    -- The queue outlives the sender's reference, or it is empty.
    cases hgone.registered with
    | pending rest h1 =>
      rw [unreference_of_registered (.inr (by rw [h1]; exact List.mem_cons_self))]
      exact hgone
    | registered h1 h2 =>
      rw [unreference_of_registered (.inl h2)]
      exact hgone
    | forgotten h1 h2 h3 h4 h5 =>
      obtain rfl := h4
      rw [unreference_of_empty hgone.core.content]
      exact hgone
  | gone =>
    simp only [sender_next, hpc] at hn
    cases hn

/-! ### The receiver -/

/-- While an entry is read, the queue is active and the receiver knows it. -/
theorem Inv.active_of_entry (h : Inv k s unread) {i : Nat} (hi : s.receiver.entry = some i) :
    0 < s.active_recv_queues.count .shared ∧ .Registration ∉ s.channel ∧
      s.swsr_recv_queue = true := by
  have hmem := List.mem_of_getElem? (h.entry i hi)
  have hpos := List.count_pos_iff.mpr hmem
  cases h.registered with
  | pending rest h1 h2 h3 h4 => omega
  | registered h1 h2 => exact ⟨hpos, h1, h2⟩
  | forgotten h1 h2 h3 h4 h5 => omega

omit [Inhabited Item] in
/-- A notification concerns the active queues only. -/
theorem notify_swsr_queue_frame (s : State Item) (entry : ActiveQueue) (found : Bool) :
    (notify_swsr_queue s entry found).core = s.core ∧
      (notify_swsr_queue s entry found).sender = s.sender ∧
      (notify_swsr_queue s entry found).receiver = s.receiver := by
  unfold notify_swsr_queue
  split <;> split <;> exact ⟨rfl, rfl, rfl⟩

omit [Inhabited Item] in
/-- Nor does a registration change the queue. -/
theorem process_control_frame (s : State Item) (m : ControlMessage) :
    (process_control s m).core = s.core ∧ (process_control s m).sender = s.sender ∧
      (process_control s m).receiver = s.receiver := by
  cases m with
  | Registration => exact ⟨rfl, rfl, rfl⟩
  | Notification => exact notify_swsr_queue_frame _ _ _

omit [Inhabited Item] in
/-- A notification whose lookup succeeds adds an entry; it may send a consumption
    message. -/
theorem notify_swsr_queue_found (s : State Item) (entry : ActiveQueue) :
    ∃ c, notify_swsr_queue s entry true =
      { s with consumptions := c, active_recv_queues := s.active_recv_queues ++ [entry] } := by
  unfold notify_swsr_queue
  rw [if_pos rfl]
  split
  · exact ⟨_, rfl⟩
  · exact ⟨_, rfl⟩

/-- The receiver processes a registration or a notification. -/
theorem inv_receive (h : Inv k s unread) {m : ControlMessage} {rest : List ControlMessage}
    (hpc : s.receiver = .idle) (hchannel : s.channel = m :: rest) :
    Inv k (process_control { s with channel := rest } m) unread := by
  have htoken := h.token
  rw [hpc, hchannel] at htoken
  have hentry : ∀ i, ReceiverPc.idle.entry = some i →
      s.active_recv_queues[i]? = some .shared := by
    intro i hi
    cases hi
  cases m with
  | Registration =>
    cases h.registered with
    | pending rest' h1 h2 h3 h4 =>
      rw [hchannel] at h1
      cases h1
      refine ⟨h.core, ?_, ?_, h.writing, .registered h2 rfl, h.lookups, h.kept⟩
      · show rest.count .Notification + _ + _ = _ + s.receiver.cleared.toNat
        rw [hpc]
        exact htoken
      · show ∀ i, s.receiver.entry = some i → _
        rw [hpc]
        exact hentry
    | registered h1 h2 =>
      rw [hchannel] at h1
      exact absurd List.mem_cons_self h1
    | forgotten h1 h2 h3 h4 h5 =>
      rw [hchannel] at h1
      cases h1
  | Notification =>
    cases h.registered with
    | pending rest' h1 h2 h3 h4 =>
      -- The registration comes first in the channel.
      rw [hchannel] at h1
      cases h1
    | registered h1 h2 =>
      rw [hchannel] at h1
      have hmem : ControlMessage.Registration ∉ rest := fun hm => h1 (List.mem_cons_of_mem _ hm)
      obtain ⟨c, hc⟩ := notify_swsr_queue_found { s with channel := rest } .shared
      have hstate : process_control { s with channel := rest } .Notification =
          notify_swsr_queue { s with channel := rest } .shared true := by
        rw [← h2]
        rfl
      rw [hstate, hc]
      refine ⟨h.core, ?_, ?_, h.writing, .registered hmem h2, h.lookups, h.kept⟩
      · show rest.count .Notification + s.sender.owes +
          (s.active_recv_queues ++ [ActiveQueue.shared]).count .shared =
            s.core.queue.may_have_message.toNat + s.receiver.cleared.toNat
        rw [List.count_cons_self] at htoken
        rw [List.count_append, List.count_singleton_self, hpc]
        omega
      · intro i hi
        rw [show s.receiver = .idle from hpc] at hi
        cases hi
    | forgotten h1 h2 h3 h4 h5 =>
      rw [hchannel] at h1
      cases h1

/-- The receiver starts to go through the active queues. -/
theorem inv_consume (h : Inv k s unread) (hpc : s.receiver = .idle) :
    Inv k { s with
      consumptions := s.consumptions - 1
      receiver := .scanning 0 s.active_recv_queues.length } unread := by
  have htoken := h.token
  rw [hpc] at htoken
  refine ⟨h.core, htoken, ?_, h.writing, ?_, h.lookups, h.kept⟩
  · intro i hi
    cases hi
  · exact h.registered.of_sender rfl rfl rfl fun he => ⟨he, rfl⟩

/-- The other queues of the receiver come and go. -/
theorem inv_other_notified (h : Inv k s unread) (hpc : s.receiver = .idle) :
    Inv k (notify_swsr_queue s .other true) unread := by
  obtain ⟨c, hc⟩ := notify_swsr_queue_found s .other
  rw [hc]
  have hcount : (s.active_recv_queues ++ [ActiveQueue.other]).count .shared =
      s.active_recv_queues.count .shared := by
    rw [List.count_append, List.count_singleton]
    rfl
  refine ⟨h.core, ?_, ?_, h.writing, ?_, h.lookups, h.kept⟩
  · show _ + _ + (s.active_recv_queues ++ [ActiveQueue.other]).count .shared = _
    rw [hcount]
    exact h.token
  · intro i hi
    rw [show s.receiver = .idle from hpc] at hi
    cases hi
  · exact h.registered.of_sender rfl rfl hcount fun he => ⟨he, rfl⟩

/-- One of the other queues has been read to its end. -/
theorem inv_remove_other (h : Inv k s unread) {i n : Nat} (hpc : s.receiver = .scanning i n)
    (hother : s.active_recv_queues[i]? = some .other) : Inv k (remove_active s i n) unread := by
  have htoken := h.token
  rw [hpc] at htoken
  have hcount := swap_remove_count hother ActiveQueue.shared
  rw [if_neg (by decide), Nat.add_zero] at hcount
  refine ⟨h.core, ?_, ?_, h.writing, ?_, h.lookups, h.kept⟩
  · show _ + _ + (swap_remove s.active_recv_queues i).count .shared = _
    rw [hcount]
    exact htoken
  · intro j hj
    cases hj
  · exact h.registered.of_sender rfl rfl hcount fun he => ⟨he, rfl⟩

/-- The receiver goes on to the next entry. -/
theorem inv_scan (h : Inv k s unread) {i n : Nat} (hpc : s.receiver = .scanning i n) :
    Inv k { s with receiver := .scanning (i + 1) n } unread := by
  have htoken := h.token
  rw [hpc] at htoken
  refine ⟨h.core, htoken, ?_, h.writing, ?_, h.lookups, h.kept⟩
  · intro j hj
    cases hj
  · exact h.registered.of_sender rfl rfl rfl fun he => ⟨he, rfl⟩

/-- The receiver starts a `pop_some` on the entry `i`. -/
theorem inv_start_pop_some (h : Inv k s unread) {r : ReceiverPc} {i : Nat}
    (hentry : r.entry = some i) (hshared : s.active_recv_queues[i]? = some .shared)
    (hcleared : r.cleared = s.receiver.cleared) (hn : start_pop_some s r = some s') :
    Inv k s' unread := by
  unfold start_pop_some at hn
  split at hn
  · cases hn
  · next core hcore =>
    cases hn
    have hinv := Concurrent.inv_pop_some h.core hcore
    obtain ⟨-, rfl⟩ := Concurrent.next_pop_some hcore
    refine ⟨hinv, ?_, ?_, h.writing, ?_, h.lookups, h.kept⟩
    · show _ + _ + _ = _ + r.cleared.toNat
      rw [hcleared]
      exact h.token
    · intro j hj
      rw [show r.entry = some j from hj] at hentry
      cases hentry
      exact hshared
    · exact h.registered.of_sender rfl rfl rfl fun he => ⟨he, rfl⟩

omit [Inhabited Item] in
/-- The outcomes of a `pop_some` differ in `num_empty_read` and in where the
    receiver goes. -/
theorem pop_some_returns_eq (s : State Item) (i n : Nat) (second : Bool) (num_read : UInt32) :
    ∃ (e : UInt32) (r : ReceiverPc),
      pop_some_returns s i n second num_read =
        { s.set_queue { s.core.queue with num_empty_read := e } with receiver := r } ∧
      (second = true ∧ r = .dropping i n ∨
        second = false ∧ (r = .clearing i n ∨ r = .scanning (i + 1) n)) := by
  cases second with
  | true => exact ⟨0, _, rfl, .inl ⟨rfl, rfl⟩⟩
  | false =>
    unfold pop_some_returns
    rw [if_neg (by decide)]
    split
    · split
      · exact ⟨_, _, rfl, .inr ⟨rfl, .inl rfl⟩⟩
      · exact ⟨_, _, rfl, .inr ⟨rfl, .inr rfl⟩⟩
    · exact ⟨0, _, rfl, .inr ⟨rfl, .inr rfl⟩⟩

/-- A `pop_some` on the entry `i` has returned. -/
theorem inv_pop_some_returns (h : Inv k s unread) {i : Nat} {second : Bool}
    (hshared : s.active_recv_queues[i]? = some .shared) (hcleared : s.receiver.cleared = second)
    (n : Nat) (num_read : UInt32) : Inv k (pop_some_returns s i n second num_read) unread := by
  have htoken := h.token
  rw [hcleared] at htoken
  obtain ⟨e, r, heq, hr⟩ := pop_some_returns_eq s i n second num_read
  rw [heq]
  refine ⟨h.core.set_progress _ _ _, ?_, ?_, h.writing, ?_, h.lookups, h.kept⟩
  · show _ + _ + _ = _ + r.cleared.toNat
    rcases hr with ⟨rfl, rfl⟩ | ⟨rfl, rfl | rfl⟩ <;> exact htoken
  · intro j hj
    change r.entry = some j at hj
    rcases hr with ⟨rfl, rfl⟩ | ⟨rfl, rfl | rfl⟩ <;> cases hj <;> exact hshared
  · exact h.registered.of_sender rfl rfl rfl fun he => ⟨he, rfl⟩

/-- The receiver inside `pop_some`: the content shrinks when a handler returns. -/
theorem inv_reading (h : Inv k s unread) {i n : Nat} {second : Bool}
    (hpc : s.receiver = .reading i n second) (hn : receiver_next s = some s') :
    ∃ unread', Inv k s' unread' := by
  obtain ⟨-, hnot_mem, hrecv⟩ := h.active_of_entry (i := i) (by rw [hpc]; rfl)
  have hshared := h.entry i (by rw [hpc]; rfl)
  have htoken := h.token
  rw [hpc] at htoken
  simp only [receiver_next, hpc] at hn
  split at hn
  · cases hn
  · next core hcore =>
    obtain ⟨-, hq⟩ := Concurrent.reader_next_frame hcore
    have hmay : core.queue.may_have_message = s.core.queue.may_have_message := by rw [hq]
    have hwriting : core.queue.is_writing_by_sender = s.core.queue.is_writing_by_sender := by
      rw [hq]
    obtain ⟨unread', hinv⟩ : ∃ unread', Concurrent.Inv k core unread' := by
      rcases Concurrent.inv_reader_next h.core hcore with hinv | ⟨x, xs, -, hinv⟩
      · exact ⟨_, hinv⟩
      · exact ⟨_, hinv⟩
    have hgoing : Inv k { s with core := core } unread' := by
      refine ⟨hinv, ?_, h.entry, ?_, .registered hnot_mem hrecv, h.lookups, h.kept⟩
      · show _ + _ + _ = core.queue.may_have_message.toNat + _
        rw [hmay]
        exact h.token
      · show core.queue.is_writing_by_sender = _
        rw [hwriting, h.writing]
    refine ⟨unread', ?_⟩
    split at hn
    · cases hn
      rw [← hpc]
      exact inv_pop_some_returns hgoing hshared (by rw [hpc]; rfl) _ _
    · cases hn
      rw [← hpc]
      exact hgoing

/-- The receiver clears the flag: from now on nobody but the receiver itself is
    bound to read. -/
theorem inv_clearing (h : Inv k s unread) {i n : Nat} (hpc : s.receiver = .clearing i n) :
    Inv k { s.set_queue s.core.queue.inc_read_progress with receiver := .rereading i n }
      unread := by
  obtain ⟨hpos, hnot_mem, hrecv⟩ := h.active_of_entry (i := i) (by rw [hpc]; rfl)
  have hshared := h.entry i (by rw [hpc]; rfl)
  have htoken := h.token
  rw [hpc] at htoken
  refine ⟨h.core.set_progress _ _ _, ?_, ?_, h.writing, .registered hnot_mem hrecv, h.lookups,
    h.kept⟩
  · show s.channel.count .Notification + s.sender.owes + s.active_recv_queues.count .shared =
      false.toNat + true.toNat
    -- the entry was the one token
    have hle : s.core.queue.may_have_message.toNat ≤ 1 := Bool.toNat_le _
    simp only [ReceiverPc.cleared, Bool.toNat_false, Bool.toNat_true] at htoken ⊢
    omega
  · intro j hj
    cases hj
    exact hshared

/-- The receiver takes the queue from the active ones, and forgets it when the
    sender has stopped writing. -/
theorem inv_dropping (h : Inv k s unread) {i n : Nat} (hpc : s.receiver = .dropping i n)
    (hsafe : drop_safe s .receiver = true) (hn : receiver_next s = some s') :
    Inv k s' unread := by
  obtain ⟨hpos, hnot_mem, hrecv⟩ := h.active_of_entry (i := i) (by rw [hpc]; rfl)
  have hshared := h.entry i (by rw [hpc]; rfl)
  have hcount := swap_remove_count hshared ActiveQueue.shared
  rw [if_pos rfl] at hcount
  have htoken := h.token
  rw [hpc] at htoken
  simp only [ReceiverPc.cleared, Bool.toNat_true] at htoken
  have hremoved : s.channel.count .Notification + s.sender.owes +
      (swap_remove s.active_recv_queues i).count .shared =
        s.core.queue.may_have_message.toNat + false.toNat := by
    rw [Bool.toNat_false]
    omega
  cases hwriting : s.core.queue.is_writing_by_sender with
  | true =>
    simp only [receiver_next, hpc, hwriting, if_true] at hn
    cases hn
    refine ⟨h.core, hremoved, ?_, h.writing, .registered hnot_mem hrecv, h.lookups, h.kept⟩
    intro j hj
    cases hj
  | false =>
    -- the flag and the queue are found empty, so this was the last token
    have hended : s.sender.ended = true := by
      have := h.writing
      rw [hwriting] at this
      simpa using this
    simp only [drop_safe, hpc, hwriting, Bool.false_or, Bool.and_eq_true, Bool.not_eq_true']
      at hsafe
    obtain ⟨hmay, hempty⟩ := hsafe
    obtain rfl := h.core.content.empty_iff.mp hempty
    rw [hmay, Bool.toNat_false] at htoken hremoved
    have hchannel : s.channel = [] := by
      apply List.eq_nil_iff_forall_not_mem.mpr
      intro m hm
      cases m with
      | Registration => exact hnot_mem hm
      | Notification =>
        have := List.count_pos_iff.mpr hm
        omega
    simp only [receiver_next, hpc, hwriting, Bool.false_eq_true, if_false] at hn
    rw [unreference_of_empty
      (s := { s with swsr_recv_queue := false, receiver := .dropping i n }) h.core.content] at hn
    cases hn
    refine ⟨h.core, ?_, ?_, ?_, .forgotten hchannel rfl ?_ rfl hended, h.lookups, h.kept⟩
    · show s.channel.count .Notification + s.sender.owes +
        (swap_remove s.active_recv_queues i).count .shared =
          s.core.queue.may_have_message.toNat + false.toNat
      rw [hmay, Bool.toNat_false]
      exact hremoved
    · intro j hj
      cases hj
    · exact h.writing
    · show (swap_remove s.active_recv_queues i).count .shared = 0
      omega

/-- Every step of the receiver keeps the invariant, if it does not forget a queue
    that is still to be read. -/
theorem inv_receiver_next (h : Inv k s unread) (hsafe : drop_safe s .receiver = true)
    (hn : receiver_next s = some s') : ∃ unread', Inv k s' unread' := by
  cases hpc : s.receiver with
  | idle =>
    simp only [receiver_next, hpc] at hn
    cases hn
  | scanning i n =>
    simp only [receiver_next, hpc] at hn
    split at hn
    · split at hn
      · next hshared =>
        exact ⟨_, inv_start_pop_some h rfl hshared (by rw [hpc]; rfl) hn⟩
      · cases hn
    · cases hn
      have htoken := h.token
      rw [hpc] at htoken
      refine ⟨_, h.core, htoken, ?_, h.writing, ?_, h.lookups, h.kept⟩
      · intro j hj
        cases hj
      · exact h.registered.of_sender rfl rfl rfl fun he => ⟨he, rfl⟩
  | reading i n second => exact inv_reading h hpc hn
  | clearing i n =>
    simp only [receiver_next, hpc] at hn
    cases hn
    exact ⟨_, inv_clearing h hpc⟩
  | rereading i n =>
    simp only [receiver_next, hpc] at hn
    have hshared := h.entry i (by rw [hpc]; rfl)
    exact ⟨_, inv_start_pop_some h rfl hshared (by rw [hpc]; rfl) hn⟩
  | dropping i n => exact ⟨_, inv_dropping h hpc hsafe hn⟩

/-- Every step keeps the invariant, if the receiver does not forget a queue that
    is still to be read. -/
theorem inv_step (h : Inv k s unread) {l : Label Item} (hsafe : drop_safe s l = true)
    (hn : next s l = some s') : ∃ unread', Inv k s' unread' := by
  cases stepped_of_next hn with
  | send x hpc hcore => exact ⟨_, inv_send h hpc hcore⟩
  | sender hn => exact inv_sender_next h hn
  | terminate hpc => exact ⟨_, inv_terminate h hpc⟩
  | receive hpc hchannel => exact ⟨_, inv_receive h hpc hchannel⟩
  | consume hpc => exact ⟨_, inv_consume h hpc⟩
  | receiver hn => exact inv_receiver_next h hsafe hn
  | other_notified hpc => exact ⟨_, inv_other_notified h hpc⟩
  | other_emptied hpc hother => exact ⟨_, inv_remove_other h hpc hother⟩
  | other_read hpc => exact ⟨_, inv_scan h hpc⟩

end steps

end ZAF.Delivery
