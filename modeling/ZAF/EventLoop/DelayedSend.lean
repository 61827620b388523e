import ZAF.Framework.Multimap
import ZAF.Framework.System
import ZAF.Message.Dispatch
import ZAF.NetGate.Framing

/-! # Sending with a delay

    `delayed_send` makes a message at once and keeps it in `delayed_messages`, a multimap
    ordered by the times when the messages are to be sent. `flush_delayed_messages` hands
    those that are due to `send`.

    A message to a remote actor is bytes. They are forwarded by the sender of the net gate,
    whose handler compares the types of what it gets with those of its arguments.
    `send` passes the bytes as one `MessageBytes`; the flush passes two vectors.
-/

namespace ZAF.Delaying

/-! ### Messages -/

/-- The types that a net sender may be given, as the compiler knows them. -/
structure ForwardTypes where
  message_bytes : ElementType
  /-- `std::vector<char>` -/
  vector_char : ElementType

section messages

variable (codecs : Codecs) (β : Type)

/-- A call of `send`, or of `delayed_send` apart from the delay. -/
structure SendRequest where
  receiver : Actor
  code : UInt64
  args : List (Bool × TypedElement codecs β)

/-- What a message contains. -/
inductive Content where
  | elements (content : List (TypedElement codecs β))
  | message_bytes (bytes : MessageBytes)
  /-- The two vectors of a `MessageBytes`. -/
  | vectors (header content : List UInt8)

/-- A message of a local actor. -/
structure TypedMessage where
  sender : Actor
  code : UInt64
  content : Content codecs β

/-- `send(receiver, message)` of a local actor. -/
structure Sent where
  receiver : LocalActorHandle
  message : TypedMessage codecs β

/-- The variant of a `DelayedMessage` is the one of its receiver. -/
inductive DelayedMessage where
  | local_message (receiver : LocalActorHandle) (message : TypedMessage codecs β)
  | remote_message (receiver : RemoteActorHandle) (bytes : MessageBytes)

end messages

/-- Is it the null actor? -/
def is_null : Actor → Bool
  | .local_actor handle => handle.local_actor_id == 0
  | .remote_actor _ => false

def is_local : Actor → Bool
  | .local_actor _ => true
  | .remote_actor _ => false

section paths

variable {codecs : Codecs} {β β' : Type} (bodies : BodyCodec β β') (self : LocalActorHandle)

/-- `new_message(self, code, args...)` -/
def SendRequest.message (r : SendRequest codecs β) : TypedMessage codecs β :=
  ⟨.local_actor self, r.code, .elements (r.args.map Prod.snd)⟩

/-- `MessageBytes::make(self, receiver, code, args...)` -/
def SendRequest.bytes (r : SendRequest codecs β) (remote_actor : LocalActorHandle) :
    Option MessageBytes :=
  MessageBytes.make bodies ⟨self, remote_actor, r.code, r.args⟩

/-- `ActorBehavior::send`; the null actor gets nothing. -/
def SendRequest.send (r : SendRequest codecs β) : Option (Sent codecs β) :=
  if is_null r.receiver then none
  else
    match r.receiver with
    | .local_actor handle => some ⟨handle, r.message self⟩
    | .remote_actor handle => (r.bytes bodies self handle.remote_actor).map fun bytes =>
      ⟨handle.net_sender_info.net_sender,
        ⟨.local_actor self, DefaultCodes.ForwardMessage, .message_bytes bytes⟩⟩

/-- What `delayed_send` keeps. -/
def SendRequest.delayed (r : SendRequest codecs β) : Option (DelayedMessage codecs β) :=
  if is_null r.receiver then none
  else
    match r.receiver with
    | .local_actor handle => some (.local_message handle (r.message self))
    | .remote_actor handle => (r.bytes bodies self handle.remote_actor).map (.remote_message handle)

/-- What `flush_delayed_messages` sends. -/
def DelayedMessage.flush : DelayedMessage codecs β → Sent codecs β
  | .local_message receiver message => ⟨receiver, message⟩
  | .remote_message receiver bytes => ⟨receiver.net_sender_info.net_sender,
      ⟨.local_actor self, DefaultCodes.ForwardMessage, .vectors bytes.header bytes.content⟩⟩

end paths

/-! ### What becomes of a message -/

section arrival

variable {codecs : Codecs} {β : Type} (types : ForwardTypes) (info : NetSenderInfo)

def Content.element_types : Content codecs β → List ElementType
  | .elements content => content.map TypedElement.type
  | .message_bytes _ => [types.message_bytes]
  | .vectors _ _ => [types.vector_char, types.vector_char]

/-- What the handler of `ForwardMessage` makes of a message: it forwards bytes, or throws,
    or takes other elements for a `MessageBytes`. -/
inductive Forwarded where
  | forwarded (bytes : MessageBytes)
  | threw (e : ZAFException)
  | undefined

/-- `ForwardMessage - [&](MessageBytes& bytes)` in `Sender::behavior`. -/
def forward_message (content : Content codecs β) : Forwarded :=
  let expected := codecs.types_hash_code [types.message_bytes]
  let actual := codecs.types_hash_code (content.element_types types)
  if actual ≠ expected then .threw (.hash_mismatch expected actual)
  else
    match content with
    | .message_bytes bytes => .forwarded bytes
    | _ => .undefined

/-- What a message comes to: code, arguments and sender for a handler of a local actor; or
    what the receiver at the other end of the connection reads from the forwarded bytes. -/
inductive Arrival (codecs : Codecs) (β : Type) where
  | message (sent : Sent codecs β)
  | network (delivery : Option Delivery)
  | threw (e : ZAFException)
  | undefined

def arrives : Actor → Sent codecs β → Arrival codecs β
  | .local_actor _, sent => .message sent
  | .remote_actor _, sent =>
    match forward_message types sent.message.content with
    | .forwarded bytes => .network ((Receiver.receive_message info bytes.bytes).map Prod.fst)
    | .threw e => .threw e
    | .undefined => .undefined

end arrival

/-! ### The actor -/

section actor

variable (codecs : Codecs) (β : Type)

/-- An entry of `delayed_messages`. -/
structure Entry where
  /-- The number of calls before the call that made it, and what was asked for in it. No
      step looks at them. -/
  call : Nat
  request : SendRequest codecs β
  due : Int
  message : DelayedMessage codecs β

/-- A message that has been handed to `send`, at which time and after how many calls of
    `delayed_send`. -/
structure Handed where
  entry : Entry codecs β
  now : Int
  calls : Nat
  sent : Sent codecs β

structure DelayingActor where
  self : LocalActorHandle
  /-- The last reading of the clock. -/
  now : Int
  delayed_messages : List (Entry codecs β)
  /-- The entries that have been made so far, and the messages handed to `send`. -/
  called : List (Entry codecs β)
  handed : List (Handed codecs β)

inductive DelayingStep where
  | delayed_send (request : SendRequest codecs β) (delay now : Int)
  /-- One turn of the loop in `flush_delayed_messages`, which a `receive_once` calls. -/
  | flush (now : Int)

end actor

section steps

variable {codecs : Codecs} {β β' : Type} (bodies : BodyCodec β β')

namespace DelayingActor

def empty (self : LocalActorHandle) (now : Int) : DelayingActor codecs β :=
  ⟨self, now, [], [], []⟩

/-- The entry that a call makes. -/
def entry (s : DelayingActor codecs β) (request : SendRequest codecs β) (send_time : Int)
    (message : DelayedMessage codecs β) : Entry codecs β :=
  ⟨s.called.length, request, send_time, message⟩

def next (s : DelayingActor codecs β) : DelayingStep codecs β → Option (DelayingActor codecs β)
  | .delayed_send request delay now =>
    match request.delayed bodies s.self with
    | none => some s
    | some message =>
      if now < s.now then none
      else
        let e := s.entry request (now + delay) message
        some { s with
          now
          delayed_messages := Multimap.emplace Entry.due e s.delayed_messages
          called := s.called ++ [e] }
  | .flush now =>
    match s.delayed_messages with
    | [] => none
    | e :: rest =>
      if now < s.now then none
      else if e.due ≤ now then
        some { s with
          now
          delayed_messages := rest
          handed := s.handed ++ [⟨e, now, s.called.length, e.message.flush s.self⟩] }
      else some { s with now }

def system : LTS.System (DelayingActor codecs β) (DelayingStep codecs β) where
  init s := ∃ self now, s = empty self now
  next := next bodies

end DelayingActor

end steps

/-! ### What is expected of it -/

section spec

variable {codecs : Codecs} {β β' : Type} (bodies : BodyCodec β β') (types : ForwardTypes)
  (info : NetSenderInfo)

/-- The order of due times, and of calls when the times are the same. -/
def Entry.Before (a b : Entry codecs β) : Prop :=
  a.due < b.due ∨ a.due = b.due ∧ a.call < b.call

/-- The message comes to what it would have come to had it been sent without a delay. -/
def Handed.Same (self : LocalActorHandle) (h : Handed codecs β) : Prop :=
  (h.entry.request.send bodies self).map (arrives types info h.entry.request.receiver) =
    some (arrives types info h.entry.request.receiver h.sent)

/-- Delayed sending is sending, later. -/
structure SendsLater (s : DelayingActor codecs β) : Prop where
  /-- Every call has its own number, ... -/
  numbered : s.called.map Entry.call = List.range s.called.length
  /-- ... and its message is delayed or has been handed to `send`, once. -/
  once : (s.handed.map Handed.entry ++ s.delayed_messages).Perm s.called
  not_early : ∀ h ∈ s.handed, h.entry.due ≤ h.now
  /-- When a message is handed to `send`, it comes before all others that are delayed. -/
  in_order : s.handed.Pairwise fun a b => b.entry.call < a.calls → a.entry.Before b.entry
  pending_in_order : ∀ h ∈ s.handed, ∀ e ∈ s.delayed_messages, e.call < h.calls → h.entry.Before e
  same : ∀ h ∈ s.handed, h.Same bodies types info s.self

/-- A message that is flushed is for a local actor. -/
def FlushesLocal (s : DelayingActor codecs β) : DelayingStep codecs β → Prop
  | .delayed_send _ _ _ => True
  | .flush now =>
    match s.delayed_messages with
    | [] => True
    | e :: _ => e.due ≤ now → is_local e.request.receiver = true

instance (s : DelayingActor codecs β) (label : DelayingStep codecs β) :
    Decidable (FlushesLocal s label) := by
  unfold FlushesLocal
  split
  · infer_instance
  · split <;> infer_instance

end spec

/-! ### The two paths -/

section compare

variable {codecs : Codecs} {β β' : Type} {bodies : BodyCodec β β'} (types : ForwardTypes)
  (info : NetSenderInfo) {self : LocalActorHandle}

/-- One `MessageBytes` is what the handler expects. -/
theorem forward_message_bytes (bytes : MessageBytes) :
    forward_message types (.message_bytes bytes : Content codecs β) = .forwarded bytes := by
  simp [forward_message, Content.element_types]

/-- Two vectors are never forwarded: if the hash codes agree, they are taken for what they
    are not. -/
theorem forward_vectors (header content : List UInt8) (bytes : MessageBytes) :
    forward_message types (.vectors header content : Content codecs β) ≠ .forwarded bytes := by
  simp only [forward_message]
  split <;> exact nofun

theorem arrives_bytes {handle : RemoteActorHandle} {sent : Sent codecs β} {bytes : MessageBytes}
    (h : sent.message.content = .message_bytes bytes) :
    arrives types info (.remote_actor handle) sent =
      .network ((Receiver.receive_message info bytes.bytes).map Prod.fst) := by
  simp only [arrives, h, forward_message_bytes]

theorem arrives_vectors {handle : RemoteActorHandle} {sent : Sent codecs β}
    {header content : List UInt8} (h : sent.message.content = .vectors header content)
    (delivery : Option Delivery) :
    arrives types info (.remote_actor handle) sent ≠ .network delivery := by
  simp only [arrives, h]
  split
  · next heq => exact absurd heq (forward_vectors types _ _ _)
  · exact nofun
  · exact nofun

/-- A message to a local actor is the same; one to a remote actor is not forwarded. -/
theorem same_iff_is_local {r : SendRequest codecs β} {message : DelayedMessage codecs β}
    (h : r.delayed bodies self = some message) :
    (r.send bodies self).map (arrives types info r.receiver) =
        some (arrives types info r.receiver (message.flush self)) ↔ is_local r.receiver = true := by
  obtain ⟨receiver, code, args⟩ := r
  unfold SendRequest.delayed at h
  unfold SendRequest.send
  split at h
  · cases h
  next hnull =>
  rw [if_neg hnull]
  cases receiver with
  | local_actor handle =>
    cases h
    simp [is_local, DelayedMessage.flush]
  | remote_actor handle =>
    obtain ⟨bytes, hbytes, rfl⟩ := Option.map_eq_some_iff.mp h
    simp only [hbytes, Option.map_some, Option.some.injEq, is_local, Bool.false_eq_true, iff_false]
    rw [arrives_bytes types info rfl]
    exact (arrives_vectors types info rfl _).symm

end compare

/-! ### The multimap -/

section invariant

variable {codecs : Codecs} {β β' : Type} {bodies : BodyCodec β β'}

/-- What holds in every run. -/
structure Sound (bodies : BodyCodec β β') (s : DelayingActor codecs β) : Prop where
  numbered : s.called.map Entry.call = List.range s.called.length
  once : (s.handed.map Handed.entry ++ s.delayed_messages).Perm s.called
  made : ∀ e ∈ s.called, e.request.delayed bodies s.self = some e.message
  sorted : s.delayed_messages.Pairwise Entry.Before
  not_early : ∀ h ∈ s.handed, h.entry.due ≤ h.now
  /-- No more calls had been made when a message was handed to `send`. -/
  earlier : ∀ h ∈ s.handed, h.calls ≤ s.called.length
  in_order : s.handed.Pairwise fun a b => b.entry.call < a.calls → a.entry.Before b.entry
  pending_in_order : ∀ h ∈ s.handed, ∀ e ∈ s.delayed_messages, e.call < h.calls → h.entry.Before e
  flushed : ∀ h ∈ s.handed, h.sent = h.entry.message.flush s.self

theorem sound_empty (self : LocalActorHandle) (now : Int) :
    Sound bodies (DelayingActor.empty self now : DelayingActor codecs β) := by
  constructor <;> simp [DelayingActor.empty]

variable {s s' : DelayingActor codecs β}

theorem Sound.call_lt (h : Sound bodies s) {e : Entry codecs β} (he : e ∈ s.called) :
    e.call < s.called.length := by
  have hmem : e.call ∈ s.called.map Entry.call := List.mem_map_of_mem he
  rw [h.numbered] at hmem
  exact List.mem_range.mp hmem

theorem Sound.mem_called (h : Sound bodies s) {e : Entry codecs β}
    (he : e ∈ s.delayed_messages) : e ∈ s.called :=
  h.once.mem_iff.mp (List.mem_append_right _ he)

/-- A call comes after all others. -/
theorem Sound.delayed_send (h : Sound bodies s) {request : SendRequest codecs β}
    {message : DelayedMessage codecs β} (hmade : request.delayed bodies s.self = some message)
    (send_time now : Int) :
    Sound bodies { s with
      now
      delayed_messages :=
        Multimap.emplace Entry.due (s.entry request send_time message) s.delayed_messages
      called := s.called ++ [s.entry request send_time message] } := by
  have hcall {e : Entry codecs β} (he : e ∈ s.delayed_messages) : e.call < s.called.length :=
    h.call_lt (h.mem_called he)
  constructor
  · simp [h.numbered, DelayingActor.entry, List.range_succ]
  · have hfront := (Multimap.emplace_perm Entry.due (s.entry request send_time message)
      s.delayed_messages).append_left (s.handed.map Handed.entry)
    have hcalled := (h.once.cons (s.entry request send_time message)).trans
      (List.perm_append_singleton _ _).symm
    exact hfront.trans (List.perm_middle.trans hcalled)
  · simp only [List.forall_mem_append, List.forall_mem_singleton]
    exact ⟨h.made, hmade⟩
  · apply Multimap.pairwise_emplace _ h.sorted
    · rintro a b (hlt | ⟨heq, -⟩)
      · exact le_of_lt hlt
      · exact le_of_eq heq
    · intro e he hle
      rcases lt_or_eq_of_le hle with hlt | heq
      · exact .inl hlt
      · exact .inr ⟨heq, hcall he⟩
    · intro e _ hlt
      exact .inl hlt
  · exact h.not_early
  · intro x hx
    have := h.earlier x hx
    rw [List.length_append]
    omega
  · exact h.in_order
  · intro x hx e he hlt
    rcases (Multimap.mem_emplace _).mp he with rfl | he
    · -- the message was not delayed at that time
      exact absurd hlt (not_lt.mpr (h.earlier x hx))
    · exact h.pending_in_order x hx e he hlt
  · exact h.flushed

/-- The first message goes. -/
theorem Sound.flush (h : Sound bodies s) {e : Entry codecs β} {rest : List (Entry codecs β)}
    (hfirst : s.delayed_messages = e :: rest) {now : Int} (hdue : e.due ≤ now) :
    Sound bodies { s with
      now
      delayed_messages := rest
      handed := s.handed ++ [⟨e, now, s.called.length, e.message.flush s.self⟩] } := by
  have hsorted := h.sorted
  rw [hfirst, List.pairwise_cons] at hsorted
  constructor
  · exact h.numbered
  · simpa [hfirst] using h.once
  · exact h.made
  · exact hsorted.2
  · simp only [List.forall_mem_append, List.forall_mem_singleton]
    exact ⟨h.not_early, hdue⟩
  · simp only [List.forall_mem_append, List.forall_mem_singleton]
    exact ⟨h.earlier, le_refl _⟩
  · refine List.pairwise_append.mpr ⟨h.in_order, List.pairwise_singleton _ _, ?_⟩
    intro x hx y hy hlt
    rw [List.mem_singleton.mp hy] at hlt ⊢
    exact h.pending_in_order x hx e (hfirst ▸ List.mem_cons_self) hlt
  · simp only [List.forall_mem_append, List.forall_mem_singleton]
    refine ⟨?_, fun y hy _ => hsorted.1 y hy⟩
    intro x hx y hy hlt
    exact h.pending_in_order x hx y (hfirst ▸ List.mem_cons_of_mem _ hy) hlt
  · simp only [List.forall_mem_append, List.forall_mem_singleton]
    exact ⟨h.flushed, trivial⟩

theorem Sound.next (h : Sound bodies s) {label : DelayingStep codecs β}
    (hnext : s.next bodies label = some s') : Sound bodies s' := by
  cases label with
  | delayed_send request delay now =>
    simp only [DelayingActor.next] at hnext
    split at hnext
    · cases hnext
      exact h
    · next message hmade =>
      split at hnext <;> cases hnext
      exact h.delayed_send hmade (now + delay) now
  | flush now =>
    simp only [DelayingActor.next] at hnext
    split at hnext
    · cases hnext
    · next e rest hfirst =>
      split at hnext
      · cases hnext
      split at hnext <;> cases hnext
      · next hdue => exact h.flush hfirst hdue
      · exact ⟨h.numbered, h.once, h.made, h.sorted, h.not_early, h.earlier, h.in_order,
          h.pending_in_order, h.flushed⟩

theorem sound_of_reachable {guard : DelayingActor codecs β → DelayingStep codecs β → Prop}
    (h : LTS.ReachableVia (DelayingActor.system bodies) guard s) : Sound bodies s := by
  apply h.invariant (Sound bodies)
  · rintro s ⟨self, now, rfl⟩
    exact sound_empty self now
  · intro s label s' hs _ hnext
    exact hs.next hnext

/-! ### Delayed messages are sent later -/

section sends_later

variable (types : ForwardTypes) (info : NetSenderInfo)

/-- All that can go wrong is on the way of a message. -/
theorem Sound.sendsLater_iff (h : Sound bodies s) :
    SendsLater bodies types info s ↔ ∀ x ∈ s.handed, x.Same bodies types info s.self := by
  constructor
  · intro hlater
    exact hlater.same
  · intro hsame
    exact ⟨h.numbered, h.once, h.not_early, h.in_order, h.pending_in_order, hsame⟩

theorem Sound.same_iff (h : Sound bodies s) {e : Entry codecs β} (he : e ∈ s.called)
    (now : Int) (calls : Nat) :
    Handed.Same bodies types info s.self ⟨e, now, calls, e.message.flush s.self⟩ ↔
      is_local e.request.receiver = true :=
  same_iff_is_local types info (h.made e he)

theorem sendsLater_next_iff (h : Sound bodies s) (hlater : SendsLater bodies types info s)
    {label : DelayingStep codecs β} (hnext : s.next bodies label = some s') :
    SendsLater bodies types info s' ↔ FlushesLocal s label := by
  rw [(h.next hnext).sendsLater_iff]
  cases label with
  | delayed_send request delay now =>
    simp only [DelayingActor.next] at hnext
    split at hnext
    · cases hnext
      exact iff_of_true hlater.same trivial
    · split at hnext <;> cases hnext
      exact iff_of_true hlater.same trivial
  | flush now =>
    simp only [DelayingActor.next] at hnext
    split at hnext
    · cases hnext
    · next e rest hfirst =>
      have hcalled := h.mem_called (hfirst ▸ List.mem_cons_self)
      simp only [FlushesLocal, hfirst]
      split at hnext
      · cases hnext
      split at hnext <;> cases hnext
      · next hdue =>
        simp only [List.forall_mem_append, List.forall_mem_singleton]
        rw [h.same_iff types info hcalled, forall_prop_of_true hdue]
        exact and_iff_right hlater.same
      · next hearly => exact iff_of_true hlater.same fun hdue => absurd hdue hearly

/-- **Delayed sending is sending, later, all along a run exactly when no message to a remote
    actor is flushed in it.** -/
theorem sends_later_iff {self : LocalActorHandle} {now : Int}
    {steps : List (DelayingActor codecs β × DelayingStep codecs β)}
    (hrun : LTS.Run (DelayingActor.system bodies) (.empty self now) steps s) :
    (∀ t ∈ LTS.passes steps s, SendsLater bodies types info t) ↔
      ∀ step ∈ steps, FlushesLocal step.1 step.2 := by
  apply hrun.forall_iff ⟨self, now, rfl⟩
  · apply (sound_empty self now).sendsLater_iff types info |>.mpr
    simp [DelayingActor.empty]
  · intro s label s' hs hlater hnext
    exact sendsLater_next_iff types info (sound_of_reachable hs) hlater hnext

end sends_later

/-! ### Delays that are not negative -/

def NotNegative (_ : DelayingActor codecs β) : DelayingStep codecs β → Prop
  | .delayed_send _ delay _ => 0 ≤ delay
  | .flush _ => True

/-- Calls that are made after a message has been handed to `send` are due no earlier. -/
def LaterCalls (s : DelayingActor codecs β) : Prop :=
  ∀ h ∈ s.handed, h.now ≤ s.now ∧ h.entry.call < h.calls ∧
    ∀ e ∈ s.called, h.calls ≤ e.call → h.entry.due ≤ e.due

theorem laterCalls_of_notNegative
    (h : LTS.ReachableVia (DelayingActor.system bodies) NotNegative s) : LaterCalls s := by
  have hsound : ∀ s : DelayingActor codecs β,
      LTS.ReachableVia (DelayingActor.system bodies) NotNegative s → Sound bodies s :=
    fun s hs => sound_of_reachable hs
  apply h.invariant_of LaterCalls hsound
  · rintro s ⟨self, now, rfl⟩ x hx
    cases hx
  · intro s label s' hs hlater hguard hnext
    cases label with
    | delayed_send request delay now =>
      simp only [DelayingActor.system, DelayingActor.next] at hnext
      split at hnext
      · cases hnext
        exact hlater
      · split at hnext <;> cases hnext
        next hnow =>
        have hdelay : 0 ≤ delay := hguard
        intro x hx
        obtain ⟨hle, hcall, hdue⟩ := hlater x hx
        refine ⟨hle.trans (not_lt.mp hnow), hcall, ?_⟩
        simp only [List.forall_mem_append, List.forall_mem_singleton]
        refine ⟨hdue, fun _ => ?_⟩
        -- the clock has not gone back since the message was due
        have hx := hs.not_early x hx
        show x.entry.due ≤ now + delay
        omega
    | flush now =>
      simp only [DelayingActor.system, DelayingActor.next] at hnext
      split at hnext
      · cases hnext
      next e rest hfirst =>
      split at hnext
      · cases hnext
      next hnow =>
      have hold : ∀ x ∈ s.handed, x.now ≤ now ∧ x.entry.call < x.calls ∧
          ∀ e ∈ s.called, x.calls ≤ e.call → x.entry.due ≤ e.due := by
        intro x hx
        obtain ⟨hle, hrest⟩ := hlater x hx
        exact ⟨hle.trans (not_lt.mp hnow), hrest⟩
      split at hnext <;> cases hnext
      · have hcalled := hs.mem_called (hfirst ▸ List.mem_cons_self)
        unfold LaterCalls
        simp only [List.forall_mem_append, List.forall_mem_singleton]
        refine ⟨hold, le_refl _, hs.call_lt hcalled, ?_⟩
        intro e' he' hle
        exact absurd (hs.call_lt he') (not_lt.mpr hle)
      · exact hold

/-- With delays that are not negative, all messages are handed to `send` in the order of
    their due times, and those with the same due time in the order of the calls. -/
theorem in_order_of_notNegative
    (h : LTS.ReachableVia (DelayingActor.system bodies) NotNegative s) :
    s.handed.Pairwise fun a b => a.entry.Before b.entry := by
  have hs := sound_of_reachable h
  have hlater := laterCalls_of_notNegative h
  apply hs.in_order.imp_of_mem
  intro a b ha hb horder
  rcases Nat.lt_or_ge b.entry.call a.calls with hlt | hge
  · exact horder hlt
  · obtain ⟨-, hcall, hdue⟩ := hlater a ha
    have hb : b.entry ∈ s.called :=
      hs.once.mem_iff.mp (List.mem_append_left _ (List.mem_map_of_mem hb))
    rcases lt_or_eq_of_le (hdue b.entry hb hge) with hlt | heq
    · exact .inl hlt
    · exact .inr ⟨heq, Nat.lt_of_lt_of_le hcall hge⟩

end invariant

/-! ### Two runs -/

abbrev PlainActor := DelayingActor plain_codecs (NestedBody plain_codecs 0)

abbrev PlainStep := DelayingStep plain_codecs (NestedBody plain_codecs 0)

/-- A message without arguments. -/
def plain_request (receiver : Actor) : SendRequest plain_codecs (NestedBody plain_codecs 0) :=
  ⟨receiver, 7, []⟩

def plain_types : ForwardTypes := ⟨.user 0, .user 1⟩

def plain_bodies : BodyCodec (NestedBody plain_codecs 0) DecodedBody := nested_codec plain_codecs 0

/-- The message of the second call is due before that of the first. -/
theorem sends_later_iff_local :
    ∃ (steps : List (PlainActor × PlainStep)) (s : PlainActor),
      LTS.Run (DelayingActor.system plain_bodies) (.empty ⟨3, false⟩ 0) steps s ∧
      s.handed.map (fun h => h.entry.call) = [1, 0] ∧
        ∀ t ∈ LTS.passes steps s, SendsLater plain_bodies plain_types loopback_info t := by
  obtain ⟨steps, s, hrun, hlocal, hobs⟩ :=
    (DelayingActor.system plain_bodies).run_of_exec FlushesLocal
      [.delayed_send (plain_request (.local_actor ⟨4, false⟩)) 20 0,
        .delayed_send (plain_request (.local_actor ⟨5, false⟩)) 10 0, .flush 10, .flush 10,
        .flush 25]
      (fun s => s.handed.map fun h => h.entry.call) (s := .empty ⟨3, false⟩ 0) (b := [1, 0])
      (by decide +kernel)
  exact ⟨steps, s, hrun, hobs, (sends_later_iff plain_types loopback_info hrun).mpr hlocal⟩

/-- A message to a remote actor does not pass the handler of the net sender. -/
theorem not_sends_later :
    ¬ ∀ (types : ForwardTypes) (info : NetSenderInfo) (self : LocalActorHandle) (now : Int)
      (steps : List (PlainActor × PlainStep)) (s : PlainActor),
      LTS.Run (DelayingActor.system plain_bodies) (.empty self now) steps s →
        ∀ t ∈ LTS.passes steps s, SendsLater plain_bodies types info t := by
  intro hall
  obtain ⟨steps, s, hrun, -, hobs⟩ :=
    (DelayingActor.system plain_bodies).run_of_exec (fun _ _ => True)
      [.delayed_send (plain_request (.remote_actor ⟨loopback_info, ⟨4, false⟩⟩)) 5 0, .flush 5]
      (fun s => s.handed.map fun h => is_local h.entry.request.receiver)
      (s := .empty ⟨3, false⟩ 0) (b := [false]) (by decide +kernel)
  have hlater := hall plain_types loopback_info _ _ _ _ hrun s (by simp [LTS.passes])
  have hs := sound_of_reachable (hrun.reachable ⟨_, _, rfl⟩)
  obtain ⟨x, hx, hremote⟩ : ∃ x ∈ s.handed, is_local x.entry.request.receiver = false := by
    rw [← List.mem_map, hobs]
    exact List.mem_singleton_self _
  have hsame := hlater.same x hx
  have hcalled : x.entry ∈ s.called :=
    hs.once.mem_iff.mp (List.mem_append_left _ (List.mem_map_of_mem hx))
  unfold Handed.Same at hsame
  rw [hs.flushed x hx, same_iff_is_local _ _ (hs.made x.entry hcalled), hremote] at hsame
  cases hsame

end ZAF.Delaying
