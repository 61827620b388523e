import ZAF.Framework.System
import ZAF.NetGate.Sender

/-! # When a sender stops

    A `Termination` stops a sender only when it has forwarded no message since the
    `Termination` before, which the sender sends to itself after a delay. Messages wait
    in `pending_messages` or in the byte buffer, and the buffer is flushed by a message
    of the sender to itself or at the end of an SWSR consumption. The order in which the
    sender gets its own messages makes sure that the flush comes first.
-/

namespace ZAF

open Sender

/-! ### The system -/

/-- A sender in a run. -/
structure SenderRun where
  sender : Sender
  /-- Is it in the middle of a `SWSRMsgQueueConsumption`? -/
  consuming : Bool
  /-- Has the net gate told it to terminate? -/
  told : Bool
  /-- The messages that it has been asked to forward. -/
  forwarded : List MessageBytes

/-- What happens to a sender. -/
inductive SenderStep where
  /-- A message from another actor: on its own through ZMQ, or in a consumption through
      SWSR. -/
  | receive (m : SenderMessage)
  /-- The next message from itself. -/
  | receive_own
  /-- The time of a delayed message has come. -/
  | flush_delayed
  | start_consumption
  | end_consumption

namespace SenderRun

variable (connects : List UInt8 → Bool)

/-- The handling of a message, with a record of what is to be forwarded. -/
def handle (s : SenderRun) (m : SenderMessage) : Option SenderRun :=
  (s.sender.behavior connects m).map fun sender => match m with
    | .forward_message bytes => { s with sender, forwarded := s.forwarded ++ [bytes] }
    | .termination => { s with sender, told := true }
    | _ => { s with sender }

def next (s : SenderRun) : SenderStep → Option SenderRun
  | .receive m =>
    -- a consumption that has begun goes on to its end
    if s.consuming = false ∧ s.sender.activated = false then none
    else match m with
      | .flush_buffer => none
      -- the net gate sends one `Termination`
      | .termination => if s.told then none else s.handle connects m
      | .data_conn_req _ _ => s.handle connects m
      | .forward_message _ => s.handle connects m
  | .receive_own =>
    if s.consuming = true ∨ s.sender.activated = false then none
    else match s.sender.self_messages with
      | [] => none
      | m :: ms =>
        handle connects { s with sender := { s.sender with self_messages := ms } } m.message
  | .flush_delayed =>
    if s.consuming = true ∨ s.sender.activated = false then none
    else match s.sender.delayed_messages with
      | 0 => none
      | n + 1 => some { s with sender := { s.sender with
          delayed_messages := n
          self_messages := s.sender.self_messages ++ [.termination] } }
  | .start_consumption =>
    if s.consuming = true ∨ s.sender.activated = false then none
    else some { s with consuming := true }
  | .end_consumption =>
    if s.consuming = true then
      -- `consume_swsr_recv_queues` has returned
      some { s with sender := s.sender.post_swsr_consumption, consuming := false }
    else none

/-- A sender that has just been spawned. -/
def spawned : SenderRun := ⟨.initial, false, false, []⟩

variable {connects} {s s' : SenderRun}

variable (connects) in
/-- What a step does. -/
inductive Stepped (s : SenderRun) : SenderStep → SenderRun → Prop where
  | receive (m : SenderMessage) (s' : SenderRun)
      (hrunning : ¬ (s.consuming = false ∧ s.sender.activated = false))
      (hforeign : m ≠ .flush_buffer) (htold : m = .termination → s.told = false)
      (hhandle : s.handle connects m = some s') : Stepped s (.receive m) s'
  | receive_own (m : OwnMessage) (ms : List OwnMessage) (s' : SenderRun)
      (hconsuming : s.consuming = false) (hactivated : s.sender.activated = true)
      (hms : s.sender.self_messages = m :: ms)
      (hhandle : handle connects { s with sender := { s.sender with self_messages := ms } }
        m.message = some s') : Stepped s .receive_own s'
  | flush_delayed (n : Nat) (hactivated : s.sender.activated = true)
      (hdelayed : s.sender.delayed_messages = n + 1) :
      Stepped s .flush_delayed { s with sender := { s.sender with
        delayed_messages := n
        self_messages := s.sender.self_messages ++ [.termination] } }
  | start_consumption (hactivated : s.sender.activated = true) :
      Stepped s .start_consumption { s with consuming := true }
  | end_consumption (hconsuming : s.consuming = true) :
      Stepped s .end_consumption
        { s with sender := s.sender.post_swsr_consumption, consuming := false }

theorem stepped_of_next {step : SenderStep} (hnext : s.next connects step = some s') :
    s.Stepped connects step s' := by
  cases step with
  | receive m =>
    simp only [next] at hnext
    split at hnext
    · cases hnext
    next hrunning =>
    cases m with
    | flush_buffer => cases hnext
    | data_conn_req host port => exact .receive _ _ hrunning nofun nofun hnext
    | forward_message bytes => exact .receive _ _ hrunning nofun nofun hnext
    | termination =>
      dsimp only at hnext
      split at hnext
      · cases hnext
      next htold =>
      exact .receive _ _ hrunning nofun (fun _ => Bool.eq_false_of_not_eq_true htold) hnext
  | receive_own =>
    simp only [next] at hnext
    split at hnext
    · cases hnext
    next hidle =>
    obtain ⟨hconsuming, hactivated⟩ := not_or.mp hidle
    split at hnext
    · cases hnext
    next m ms hms =>
    exact .receive_own m ms s' (Bool.eq_false_of_not_eq_true hconsuming)
      (Bool.eq_true_of_not_eq_false hactivated) hms hnext
  | flush_delayed =>
    simp only [next] at hnext
    split at hnext
    · cases hnext
    next hidle =>
    split at hnext
    · cases hnext
    next n hdelayed =>
    cases hnext
    exact .flush_delayed n (Bool.eq_true_of_not_eq_false (not_or.mp hidle).2) hdelayed
  | start_consumption =>
    simp only [next] at hnext
    split at hnext
    · cases hnext
    next hidle =>
    cases hnext
    exact .start_consumption (Bool.eq_true_of_not_eq_false (not_or.mp hidle).2)
  | end_consumption =>
    simp only [next] at hnext
    split at hnext
    · next hconsuming =>
      cases hnext
      exact .end_consumption hconsuming
    · cases hnext

end SenderRun

/-- The runs of a sender. -/
def sender_system (connects : List UInt8 → Bool) : LTS.System SenderRun SenderStep where
  init s := s = .spawned
  next := SenderRun.next connects

/-- The messages that are pushed when a message is handled. -/
def Sender.pushes (s : Sender) : SenderMessage → Nat
  | .data_conn_req _ _ => s.pending_messages.length
  | .forward_message _ => if s.connected_url.isEmpty then 0 else 1
  | .termination => 0
  | .flush_buffer => 0

/-- The number of the buffered messages does not overflow. -/
def CountFits (s : SenderRun) : SenderStep → Prop
  | .receive m => s.sender.num_buffered_messages.toNat + s.sender.pushes m < 2 ^ 32
  | _ => True

instance (s : SenderRun) (step : SenderStep) : Decidable (CountFits s step) := by
  cases step <;> unfold CountFits <;> infer_instance

/-! ### The messages of a sender to itself -/

theorem head_flush_of_mem {ms : List OwnMessage} (h : .flush_buffer ∈ ms)
    (hnone : ms.count .termination = 0) : ms.head? = some .flush_buffer := by
  cases ms with
  | nil => cases h
  | cons m ms =>
    cases m with
    | flush_buffer => rfl
    | termination => exact absurd List.mem_cons_self (List.count_eq_zero.mp hnone)

/-- What a sender that goes on knows of its own messages. -/
structure Sender.Orderly (s : Sender) (told : Bool) : Prop where
  /-- What is buffered will be flushed. -/
  flushes : s.num_buffered_messages ≠ 0 → .flush_buffer ∈ s.self_messages
  /-- There is at most one `Termination` on its way. -/
  terminations : s.self_messages.count .termination + s.delayed_messages ≤ told.toNat
  told_of_idle : s.forward_any_message = false → told = true
  pending_of_idle : s.forward_any_message = false → s.pending_messages = []
  /-- The flush comes before the next `Termination`. -/
  flush_of_idle : s.forward_any_message = false → s.num_buffered_messages ≠ 0 →
    s.self_messages.head? = some .flush_buffer

namespace Sender

variable {s : Sender} {told : Bool}

/-! ### Pushing -/

theorem flushes_push_to_buffer (h : s.num_buffered_messages ≠ 0 → .flush_buffer ∈ s.self_messages)
    (m : MessageBytes) : .flush_buffer ∈ (s.push_to_buffer m).self_messages := by
  unfold push_to_buffer
  dsimp only
  split
  -- the first message asks for the flush, the others find the request there
  · exact List.mem_append_right _ List.mem_cons_self
  · next hne => exact h hne

theorem flushes_push_all (ms : List MessageBytes) {s : Sender}
    (h : s.num_buffered_messages ≠ 0 → .flush_buffer ∈ s.self_messages) :
    (ms.foldl push_to_buffer s).num_buffered_messages ≠ 0 →
      .flush_buffer ∈ (ms.foldl push_to_buffer s).self_messages := by
  induction ms generalizing s with
  | nil => exact h
  | cons m ms ih => exact ih fun _ => flushes_push_to_buffer h m

/-- What pushing leaves alone. -/
theorem push_all_frame (ms : List MessageBytes) (s : Sender) :
    (ms.foldl push_to_buffer s).self_messages.count .termination =
        s.self_messages.count .termination ∧
      (ms.foldl push_to_buffer s).delayed_messages = s.delayed_messages ∧
      (ms.foldl push_to_buffer s).forward_any_message = s.forward_any_message ∧
      (ms.foldl push_to_buffer s).activated = s.activated := by
  induction ms generalizing s with
  | nil => exact ⟨rfl, rfl, rfl, rfl⟩
  | cons m ms ih =>
    obtain ⟨hcount, hdelayed, hforward, hactivated⟩ := ih (s.push_to_buffer m)
    refine ⟨hcount.trans ?_, hdelayed, hforward, hactivated⟩
    unfold push_to_buffer
    dsimp only
    split
    · rw [List.count_append]
      rfl
    · rfl

/-! ### One message -/

theorem Orderly.forward_message (h : s.Orderly told) (m : MessageBytes) :
    (s.forward_message m).Orderly told := by
  by_cases hurl : s.connected_url = []
  · rw [forward_message_pending m hurl]
    exact ⟨h.flushes, h.terminations, nofun, nofun, nofun⟩
  · rw [forward_message_connected m hurl]
    obtain ⟨hcount, hdelayed, -⟩ := push_all_frame [m] { s with forward_any_message := true }
    refine ⟨fun _ => flushes_push_to_buffer h.flushes m, ?_, nofun, nofun, nofun⟩
    rw [List.foldl_cons, List.foldl_nil] at hcount hdelayed
    rw [hcount, hdelayed]
    exact h.terminations

theorem activated_forward_message (s : Sender) (m : MessageBytes) :
    (s.forward_message m).activated = s.activated := by
  by_cases hurl : s.connected_url = []
  · rw [forward_message_pending m hurl]
  · rw [forward_message_connected m hurl]
    rfl

theorem Orderly.data_conn_req (h : s.Orderly told) {connects : List UInt8 → Bool} {host : Host}
    {port : UInt16} {s' : Sender} (hreq : s.data_conn_req connects host port = some s') :
    s'.Orderly told ∧ s'.activated = s.activated := by
  unfold Sender.data_conn_req at hreq
  split at hreq
  · cases hreq
    obtain ⟨hcount, hdelayed, hforward, hactivated⟩ :=
      push_all_frame s.pending_messages { s with connected_url := tcp_url host port }
    refine ⟨⟨flushes_push_all _ h.flushes, ?_, ?_, fun _ => rfl, ?_⟩, hactivated⟩
    -- pushing sends no `Termination`
    · dsimp only
      rw [hcount, hdelayed]
      exact h.terminations
    · intro hidle
      exact h.told_of_idle (hforward.symm.trans hidle)
    · -- an idle sender has nothing to push
      intro hidle
      have hidle := hforward.symm.trans hidle
      have hnil := h.pending_of_idle hidle
      rw [hnil]
      exact h.flush_of_idle hidle
  · cases hreq

theorem Orderly.flush_byte_buffer (h : s.Orderly told) : s.flush_byte_buffer.Orderly told := by
  unfold Sender.flush_byte_buffer
  split
  · exact ⟨fun hne => absurd rfl hne, h.terminations, h.told_of_idle, h.pending_of_idle,
      fun _ hne => absurd rfl hne⟩
  · exact h

/-- The `Termination` from the net gate. -/
theorem Orderly.termination_told (h : s.Orderly false) :
    s.termination.Orderly true ∧ s.termination.activated = s.activated := by
  have hforward : s.forward_any_message = true := by
    cases hidle : s.forward_any_message with
    | true => rfl
    | false => exact absurd (h.told_of_idle hidle) nofun
  -- no `Termination` is in its queue yet, so the flush is first
  have hnone := h.terminations
  rw [Bool.toNat_false, Nat.le_zero, Nat.add_eq_zero_iff] at hnone
  rw [termination, if_pos hforward]
  refine ⟨⟨h.flushes, ?_, fun _ => rfl, ?_, ?_⟩, rfl⟩
  · dsimp only
    rw [hnone.1, hnone.2]
    decide
  · intro hidle
    rwa [Bool.not_eq_false', List.isEmpty_iff] at hidle
  · intro _ hne
    exact head_flush_of_mem (h.flushes hne) hnone.1

/-- The next message from itself is a `FlushBuffer`. -/
theorem Orderly.flush_own (h : s.Orderly told) {ms : List OwnMessage}
    (hms : s.self_messages = .flush_buffer :: ms) :
    ({ s with self_messages := ms } : Sender).flush_byte_buffer.Orderly told := by
  have hcount := h.terminations
  rw [hms, List.count_cons_of_ne (by decide)] at hcount
  unfold Sender.flush_byte_buffer
  split
  · exact ⟨fun hne => absurd rfl hne, hcount, h.told_of_idle, h.pending_of_idle,
      fun _ hne => absurd rfl hne⟩
  · next hzero =>
    have hzero : s.num_buffered_messages = 0 := not_not.mp hzero
    exact ⟨fun hne => absurd hzero hne, hcount, h.told_of_idle, h.pending_of_idle,
      fun _ hne => absurd hzero hne⟩

/-- The next message from itself is a `Termination`, and it has been forwarding. -/
theorem Orderly.termination_own (h : s.Orderly told) {ms : List OwnMessage}
    (hms : s.self_messages = .termination :: ms) (hforward : s.forward_any_message = true) :
    ({ s with self_messages := ms } : Sender).termination.Orderly told ∧
      ({ s with self_messages := ms } : Sender).termination.activated = s.activated := by
  have hcount := h.terminations
  rw [hms, List.count_cons_self] at hcount
  have hle := Bool.toNat_le told
  -- the only `Termination` was the one that has been taken
  have hflushes (hne : s.num_buffered_messages ≠ 0) : .flush_buffer ∈ ms := by
    have hmem := h.flushes hne
    rw [hms] at hmem
    exact (List.mem_cons.mp hmem).resolve_left nofun
  have hnone : ms.count .termination = 0 := by omega
  rw [termination, if_pos (by exact hforward)]
  refine ⟨⟨hflushes, ?_, ?_, ?_, ?_⟩, rfl⟩
  · show ms.count .termination + (s.delayed_messages + 1) ≤ told.toNat
    omega
  · intro _
    cases told with
    | true => rfl
    | false => rw [Bool.toNat_false] at hcount; omega
  · intro hidle
    rwa [Bool.not_eq_false', List.isEmpty_iff] at hidle
  · intro _ hne
    exact head_flush_of_mem (hflushes hne) hnone

/-- The next message from itself is a `Termination`, and it has been idle. -/
theorem Orderly.stop (h : s.Orderly told) {ms : List OwnMessage}
    (hms : s.self_messages = .termination :: ms) (hidle : s.forward_any_message = false) :
    s.pending_messages = [] ∧ s.num_buffered_messages = 0 := by
  refine ⟨h.pending_of_idle hidle, ?_⟩
  -- otherwise the flush would have come first
  by_contra hne
  have hhead := h.flush_of_idle hidle hne
  rw [hms] at hhead
  cases hhead

theorem Orderly.flush_delayed (h : s.Orderly told) {n : Nat} (hn : s.delayed_messages = n + 1) :
    ({ s with delayed_messages := n, self_messages := s.self_messages ++ [.termination] } :
      Sender).Orderly told where
  flushes hne := List.mem_append_left _ (h.flushes hne)
  terminations := by
    have hcount := h.terminations
    rw [hn] at hcount
    rw [List.count_append, List.count_singleton_self]
    show s.self_messages.count .termination + 1 + n ≤ told.toNat
    omega
  told_of_idle := h.told_of_idle
  pending_of_idle := h.pending_of_idle
  flush_of_idle hidle hne := by
    rw [List.head?_append, h.flush_of_idle hidle hne]
    rfl

/-- What does not matter to the messages. -/
theorem Keeps.frame {forwarded buffered : List MessageBytes} {batches : List (List MessageBytes)}
    (h : s.Keeps forwarded batches buffered) (self_messages : List OwnMessage)
    (delayed_messages : Nat) (forward_any_message activated : Bool) :
    ({ s with self_messages, delayed_messages, forward_any_message, activated } : Sender).Keeps
      forwarded batches buffered :=
  ⟨⟨h.sent, h.bytes, h.count, h.counts⟩, h.forwarded_eq, h.pending_eq_nil⟩

theorem Keeps.termination {forwarded buffered : List MessageBytes}
    {batches : List (List MessageBytes)} (h : s.Keeps forwarded batches buffered) :
    s.termination.Keeps forwarded batches buffered := by
  unfold Sender.termination
  split
  · exact h.frame ..
  · exact h.frame ..

end Sender

/-! ### Runs -/

/-- What holds in every run in which the number of the buffered messages fits. -/
structure SenderRun.Sound (s : SenderRun) : Prop where
  keeps : ∃ batches buffered, s.sender.Keeps s.forwarded batches buffered
  orderly : s.sender.activated = true → s.sender.Orderly s.told
  activated : s.consuming = true → s.sender.activated = true
  stopped : s.sender.activated = false →
    s.sender.pending_messages = [] ∧ s.sender.num_buffered_messages = 0

namespace SenderRun

variable {connects : List UInt8 → Bool} {s s' : SenderRun}

theorem sound_spawned : spawned.Sound where
  keeps := ⟨[], [], keeps_initial⟩
  orderly _ := ⟨fun hne => absurd rfl hne, le_refl _, nofun, nofun, nofun⟩
  activated := nofun
  stopped := nofun

theorem Sound.of_activated
    (hkeeps : ∃ batches buffered, s.sender.Keeps s.forwarded batches buffered)
    (horderly : s.sender.Orderly s.told) (hactivated : s.sender.activated = true) : s.Sound where
  keeps := hkeeps
  orderly _ := horderly
  activated _ := hactivated
  stopped hstopped := absurd (hactivated.symm.trans hstopped) nofun

/-- A message from another actor. -/
theorem Sound.receive (h : s.Sound) {m : SenderMessage} (hfits : CountFits s (.receive m))
    (hrunning : ¬ (s.consuming = false ∧ s.sender.activated = false))
    (hforeign : m ≠ .flush_buffer) (htold : m = .termination → s.told = false)
    (hhandle : s.handle connects m = some s') : s'.Sound := by
  have hactivated : s.sender.activated = true := by
    cases hconsuming : s.consuming with
    | true => exact h.activated hconsuming
    | false =>
      rw [hconsuming] at hrunning
      exact Bool.eq_true_of_not_eq_false fun hstopped => hrunning ⟨rfl, hstopped⟩
  have horderly := h.orderly hactivated
  obtain ⟨batches, buffered, hkeeps⟩ := h.keeps
  cases m with
  | flush_buffer => exact absurd rfl hforeign
  | termination =>
    cases hhandle
    rw [htold rfl] at horderly
    obtain ⟨horderly, heq⟩ := horderly.termination_told
    exact .of_activated ⟨_, _, hkeeps.termination⟩ horderly (heq.trans hactivated)
  | data_conn_req host port =>
    obtain ⟨sender, hreq, rfl⟩ := Option.map_eq_some_iff.mp hhandle
    obtain ⟨horderly, heq⟩ := horderly.data_conn_req hreq
    refine .of_activated ⟨_, _, (hkeeps.data_conn_req hreq ?_).2⟩ horderly (heq.trans hactivated)
    rw [← hkeeps.count]
    exact hfits
  | forward_message bytes =>
    cases hhandle
    refine .of_activated ?_ (horderly.forward_message bytes)
      ((activated_forward_message s.sender bytes).trans hactivated)
    by_cases hurl : s.sender.connected_url = []
    · exact ⟨_, _, hkeeps.forward_pending bytes hurl⟩
    · refine ⟨_, _, hkeeps.forward_connected bytes hurl ?_⟩
      rw [← hkeeps.count]
      have hone : s.sender.pushes (.forward_message bytes) = 1 :=
        if_neg (by rwa [List.isEmpty_iff])
      rw [CountFits, hone] at hfits
      exact hfits

/-- A message from itself. -/
theorem Sound.receive_own (h : s.Sound) {m : OwnMessage} {ms : List OwnMessage}
    (hconsuming : s.consuming = false) (hactivated : s.sender.activated = true)
    (hms : s.sender.self_messages = m :: ms)
    (hhandle : handle connects { s with sender := { s.sender with self_messages := ms } }
      m.message = some s') : s'.Sound := by
  have horderly := h.orderly hactivated
  obtain ⟨batches, buffered, hkeeps⟩ := h.keeps
  cases m with
  | flush_buffer =>
    cases hhandle
    obtain ⟨batches', hflush⟩ := (hkeeps.frame ms s.sender.delayed_messages
      s.sender.forward_any_message s.sender.activated).flush_byte_buffer
    exact .of_activated ⟨_, _, hflush⟩ (horderly.flush_own hms)
      ((activated_flush_byte_buffer _).trans hactivated)
  | termination =>
    cases hhandle
    have hkeeps := (hkeeps.frame ms s.sender.delayed_messages
      s.sender.forward_any_message s.sender.activated).termination
    by_cases hforward : s.sender.forward_any_message = true
    · obtain ⟨horderly', heq⟩ := horderly.termination_own hms hforward
      have htold : s.told = true := by
        have hcount := horderly.terminations
        rw [hms, List.count_cons_self] at hcount
        cases htold : s.told with
        | true => rfl
        | false => rw [htold, Bool.toNat_false] at hcount; omega
      rw [htold] at horderly'
      exact .of_activated ⟨_, _, hkeeps⟩ horderly' (heq.trans hactivated)
    · -- here the sender stops
      have hforward := Bool.eq_false_of_not_eq_true hforward
      have hstop := horderly.stop hms hforward
      have heq : ({ s.sender with self_messages := ms } : Sender).termination =
          { s.sender with self_messages := ms, activated := false } :=
        if_neg (by rw [hforward]; nofun)
      refine ⟨⟨_, _, hkeeps⟩, ?_, ?_, ?_⟩
      · intro hactive
        exact absurd (hactive.symm.trans (congrArg Sender.activated heq)) nofun
      · intro hconsuming'
        exact absurd (hconsuming.symm.trans hconsuming') nofun
      · intro _
        dsimp only
        rw [heq]
        exact hstop

theorem Sound.next (h : s.Sound) {step : SenderStep} (hfits : CountFits s step)
    (hnext : s.next connects step = some s') : s'.Sound := by
  cases stepped_of_next hnext with
  | receive m s' hrunning hforeign htold hhandle =>
    exact h.receive hfits hrunning hforeign htold hhandle
  | receive_own m ms s' hconsuming hactivated hms hhandle =>
    exact h.receive_own hconsuming hactivated hms hhandle
  | flush_delayed n hactivated hdelayed =>
    obtain ⟨batches, buffered, hkeeps⟩ := h.keeps
    have horderly := (h.orderly hactivated).flush_delayed hdelayed
    exact .of_activated ⟨_, _, hkeeps.frame (s.sender.self_messages ++ [.termination]) n
      s.sender.forward_any_message s.sender.activated⟩ horderly hactivated
  | start_consumption hactivated =>
    exact .of_activated h.keeps (h.orderly hactivated) hactivated
  | end_consumption hconsuming =>
    have hactivated := h.activated hconsuming
    obtain ⟨batches, buffered, hkeeps⟩ := h.keeps
    obtain ⟨batches', hflush⟩ := hkeeps.flush_byte_buffer
    exact .of_activated ⟨_, _, hflush⟩ (h.orderly hactivated).flush_byte_buffer
      ((activated_flush_byte_buffer s.sender).trans hactivated)

theorem sound_of_reachable (h : LTS.ReachableVia (sender_system connects) CountFits s) : s.Sound :=
  h.invariant Sound (fun s (hinit : s = spawned) => hinit ▸ sound_spawned)
    fun _ _ _ hsound => hsound.next

/-! ### Stopping -/

/-- The sender holds no message, and all that it has been asked to forward is written,
    in batches with the right counts. -/
structure HoldsNothing (s : SenderRun) : Prop where
  pending : s.sender.pending_messages = []
  buffered : s.sender.num_buffered_messages = 0
  written : ∃ batches : List (List MessageBytes),
    s.sender.net_send_socket = batches.map MessageBytes.frames ∧
      (∀ batch ∈ batches, batch.length < 2 ^ 32) ∧ batches.flatten = s.forwarded

/-- **A sender that stops holds nothing**, in runs in which the number of the buffered
    messages fits. It does not stop in the middle of a consumption. -/
theorem holds_nothing_of_stopped (h : LTS.ReachableVia (sender_system connects) CountFits s)
    (hstopped : s.sender.activated = false) : s.consuming = false ∧ s.HoldsNothing := by
  have hsound := sound_of_reachable h
  obtain ⟨hpending, hcount⟩ := hsound.stopped hstopped
  obtain ⟨batches, buffered, hkeeps⟩ := hsound.keeps
  have hbuffered : buffered = [] := by
    rw [← List.length_eq_zero_iff, ← hkeeps.count, hcount]
    rfl
  -- a sender is stopped by a message from itself, outside of consumptions
  have hdone : s.consuming = false := by
    apply Bool.eq_false_of_not_eq_true
    intro hconsuming
    exact absurd (hstopped.symm.trans (hsound.activated hconsuming)) nofun
  refine ⟨hdone, hpending, hcount, batches, hkeeps.sent, hkeeps.counts, ?_⟩
  rw [hkeeps.forwarded_eq, hpending, hbuffered, List.append_nil, List.append_nil]

/-! ### Two runs -/

def some_bytes : MessageBytes := ⟨[1, 2], [3]⟩

/-- A message before the connection, two in a consumption, one through ZMQ. -/
def stopping_run : List SenderStep :=
  [.receive (.forward_message some_bytes), .receive (.data_conn_req loopback 10002),
   .start_consumption, .receive (.forward_message some_bytes),
   .receive (.forward_message some_bytes), .end_consumption, .receive .termination,
   .receive (.forward_message some_bytes), .flush_delayed, .receive_own, .receive_own,
   .receive_own, .flush_delayed, .receive_own]

theorem stopping_run_stops :
    ∃ s, LTS.ReachableVia (sender_system fun _ => true) CountFits s ∧
      (s.sender.activated, s.forwarded.length) = (false, 4) :=
  (sender_system fun _ => true).reachable_of_exec CountFits stopping_run
    (fun s => (s.sender.activated, s.forwarded.length)) rfl (by decide +kernel)

theorem stopping_run_holds_nothing :
    ∃ s, LTS.ReachableVia (sender_system fun _ => true) CountFits s ∧ s.forwarded.length = 4 ∧
      s.consuming = false ∧ s.HoldsNothing := by
  obtain ⟨s, hs, hobs⟩ := stopping_run_stops
  obtain ⟨hstopped, hlength⟩ := Prod.mk.inj hobs
  exact ⟨s, hs, hlength, holds_nothing_of_stopped hs hstopped⟩

/-- A connected sender that has been asked to forward messages and has sent nothing. -/
def holding (byte_buffer : List UInt8) (num_buffered_messages : UInt32)
    (self_messages : List OwnMessage) (forwarded : List MessageBytes) : SenderRun where
  sender := { initial with
    byte_buffer, num_buffered_messages, self_messages
    connected_url := tcp_url loopback 10002 }
  consuming := false
  told := false
  forwarded := forwarded

/-- `n` messages through ZMQ. -/
def flooded (n : Nat) : SenderRun :=
  holding ((List.replicate n some_bytes).flatMap MessageBytes.bytes) (UInt32.ofNat n)
    [.flush_buffer] (List.replicate n some_bytes)

theorem next_flooded {n : Nat} (hpos : 0 < n) (hlt : n < 2 ^ 32) :
    (flooded n).next (fun _ => true) (.receive (.forward_message some_bytes)) =
      some (flooded (n + 1)) := by
  have hne : UInt32.ofNat n ≠ 0 := by
    intro hzero
    have := congrArg UInt32.toNat hzero
    rw [UInt32.toNat_ofNat_of_lt' hlt, UInt32.toNat_zero] at this
    omega
  have hbytes : (List.replicate (n + 1) some_bytes).flatMap MessageBytes.bytes =
      (List.replicate n some_bytes).flatMap MessageBytes.bytes ++ some_bytes.header ++
        some_bytes.content := by
    rw [List.replicate_succ', List.flatMap_append, List.flatMap_singleton, MessageBytes.bytes,
      List.append_assoc]
  have hpush : (flooded n).sender.forward_message some_bytes = (flooded (n + 1)).sender := by
    rw [forward_message_connected some_bytes (tcp_url_ne_nil loopback 10002)]
    unfold push_to_buffer flooded holding
    simp only [if_neg hne, hbytes, UInt32.ofNat_add]
    rfl
  show some (SenderRun.mk ((flooded n).sender.forward_message some_bytes) false false _) = _
  rw [hpush]
  unfold flooded holding
  rw [List.replicate_succ' (n := n)]

theorem reachable_flooded {n : Nat} (hpos : 0 < n) (hle : n ≤ 2 ^ 32) :
    LTS.Reachable (sender_system fun _ => true) (flooded n) := by
  induction n with
  | zero => cases hpos
  | succ n ih =>
    rcases Nat.eq_zero_or_pos n with rfl | hn
    -- the first message asks for the flush
    · exact (LTS.ReachableVia.init rfl).exec
        [.receive (.data_conn_req loopback 10002), .receive (.forward_message some_bytes)] rfl
    · exact .step (.receive (.forward_message some_bytes)) (ih hn (by omega)) trivial
        (next_flooded hn (by omega))

/-- A sender that has counted nothing stops, whatever it holds. -/
theorem stops_holding {byte_buffer : List UInt8} {forwarded : List MessageBytes}
    (h : LTS.Reachable (sender_system fun _ => true)
      (holding byte_buffer 0 [.flush_buffer] forwarded)) :
    ∃ s, LTS.Reachable (sender_system fun _ => true) s ∧ s.sender.activated = false ∧
      s.consuming = false ∧ s.sender.net_send_socket = [] ∧ s.forwarded = forwarded :=
  ⟨_, h.exec [.receive_own, .receive .termination, .flush_delayed, .receive_own] rfl,
    rfl, rfl, rfl, rfl⟩

/-- After `2 ^ 32` messages the count is 0: the sender stops and loses them. -/
theorem not_holds_nothing_of_stopped :
    ∃ s, LTS.Reachable (sender_system fun _ => true) s ∧ s.sender.activated = false ∧
      s.consuming = false ∧ ¬ s.HoldsNothing := by
  have hflooded := reachable_flooded (n := 2 ^ 32) (by decide) (le_refl _)
  obtain ⟨s, hs, hstopped, hdone, hsocket, hforwarded⟩ := stops_holding hflooded
  refine ⟨s, hs, hstopped, hdone, ?_⟩
  intro hholds
  obtain ⟨batches, hsent, -, hwritten⟩ := hholds.written
  rw [hsocket, eq_comm, List.map_eq_nil_iff] at hsent
  rw [hsent, hforwarded, List.flatten_nil] at hwritten
  -- nothing has been written, but `2 ^ 32` messages have been forwarded
  have hlength := congrArg List.length hwritten
  rw [List.length_replicate] at hlength
  exact absurd hlength (by decide)

end SenderRun
end ZAF
