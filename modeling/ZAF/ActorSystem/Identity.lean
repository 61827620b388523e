import Mathlib.Data.List.Pairwise
import Mathlib.Data.Nat.ModEq
import ZAF.Framework.System

/-! # Ids and endpoints of actors

    An `ActorSystem` gives every actor that is initialized the next value of a counter of
    32 bits, reduced below `MaxActorId`. The digits of the id are the first part of the
    endpoint at which the actor receives; id 0 stands for no actor.

    An actor is alive from `inc_num_alive_actors` in `initialize_actor` to
    `dec_num_alive_actors` in `terminate_actor`. If the endpoint is in use, `zmq_bind` fails
    and `initialize_actor` throws: the actor has its id and is counted, but has no socket.
-/

namespace ZAF.ActorIds

/-! ### Ids and routing ids -/

abbrev ActorIdMaxLen : Nat := 5

abbrev MaxActorId : Nat := 10 ^ ActorIdMaxLen

/-- The loop of `get_routing_id`: the digits of an id, the last one first. -/
def digits : Nat → Nat → List UInt8
  | 0, _ => []
  | n + 1, id => UInt8.ofNat (id % 10 + 48) :: digits n (id / 10)

/-- `get_routing_id`, with the identifier of the system: `'s'` or `'r'` comes last. -/
def get_routing_id (identifier : List UInt8) (id : UInt32) (send_or_recv : Bool) : List UInt8 :=
  digits ActorIdMaxLen id.toNat ++ identifier ++ [if send_or_recv then 115 else 114]

/-- `next_available_actor_id.fetch_add(1) % MaxActorId` -/
def available_actor_id (counter : UInt32) : UInt32 := UInt32.ofNat (counter.toNat % MaxActorId)

theorem digits_injective {n a b : Nat} (ha : a < 10 ^ n) (hb : b < 10 ^ n)
    (h : digits n a = digits n b) : a = b := by
  induction n generalizing a b with
  | zero =>
    simp only [Nat.pow_zero] at ha hb
    omega
  | succ n ih =>
    simp only [digits, List.cons.injEq] at h
    rw [Nat.pow_succ] at ha hb
    have hrest : a / 10 = b / 10 := by
      apply ih _ _ h.2
      · omega
      · omega
    -- a digit is printed as one byte
    have hlast := congrArg UInt8.toNat h.1
    rw [UInt8.toNat_ofNat_of_lt' (by change _ < 2 ^ 8; omega),
      UInt8.toNat_ofNat_of_lt' (by change _ < 2 ^ 8; omega)] at hlast
    omega

theorem get_routing_id_injective {identifier : List UInt8} {a b : UInt32} {send_or_recv : Bool}
    (ha : a.toNat < MaxActorId) (hb : b.toNat < MaxActorId)
    (h : get_routing_id identifier a send_or_recv = get_routing_id identifier b send_or_recv) :
    a = b := by
  unfold get_routing_id at h
  have hdigits := List.append_cancel_right (List.append_cancel_right h)
  exact UInt32.toNat_inj.mp (digits_injective ha hb hdigits)

theorem toNat_available_actor_id (counter : UInt32) :
    (available_actor_id counter).toNat = counter.toNat % MaxActorId :=
  UInt32.toNat_ofNat_of_lt' (Nat.lt_trans (Nat.mod_lt _ (by decide)) (by decide))

/-! ### The system -/

/-- An actor that is alive. -/
structure LiveActor where
  /-- The number of calls of `initialize_actor` before its own. -/
  call : Nat
  actor_id : UInt32
  /-- Has its receive socket been bound? -/
  bound : Bool
  deriving DecidableEq

structure ActorSystem where
  identifier : List UInt8
  next_available_actor_id : UInt32
  alive : List LiveActor
  /-- The calls of `initialize_actor` so far; no step looks at it but to name an actor. -/
  calls : Nat

inductive ActorSystemStep where
  | initialize_actor
  /-- `terminate_actor` of the actor that was initialized by this call. -/
  | terminate_actor (call : Nat)

namespace ActorSystem

def empty (identifier : List UInt8) : ActorSystem := ⟨identifier, 1, [], 0⟩

def recv_endpoint (s : ActorSystem) (id : UInt32) : List UInt8 :=
  get_routing_id s.identifier id false

/-- Is the endpoint of `bind` in use? -/
def in_use (s : ActorSystem) (id : UInt32) : Bool :=
  s.alive.any fun a => a.bound && s.recv_endpoint a.actor_id == s.recv_endpoint id

def initialize_actor (s : ActorSystem) : ActorSystem :=
  let id := available_actor_id s.next_available_actor_id
  { s with
    next_available_actor_id := s.next_available_actor_id + 1
    alive := ⟨s.calls, id, !s.in_use id⟩ :: s.alive
    calls := s.calls + 1 }

/-- An actor without a socket is not terminated: `unbind` throws before the count is
    decremented. -/
def next (s : ActorSystem) : ActorSystemStep → Option ActorSystem
  | .initialize_actor => some s.initialize_actor
  | .terminate_actor call =>
    if s.alive.any fun a => a.call == call && a.bound then
      some { s with alive := s.alive.filter fun a => a.call != call }
    else none

def system : LTS.System ActorSystem ActorSystemStep where
  init s := ∃ identifier, s = empty identifier
  next := next

/-- What becomes of a message that is sent to a local handle with this id. -/
inductive Sent where
  /-- `if (!receiver) return`: the handle stands for no actor. -/
  | ignored
  | delivered (receiver : LiveActor)
  /-- No socket is bound to the endpoint. -/
  | unroutable

def send (s : ActorSystem) (id : UInt32) : Sent :=
  if id = 0 then .ignored
  else
    match s.alive.find? fun a => a.bound && s.recv_endpoint a.actor_id == s.recv_endpoint id with
    | some a => .delivered a
    | none => .unroutable

/-! ### What ids and endpoints are for -/

/-- Ids and endpoints identify the actors that are alive. -/
structure Identify (s : ActorSystem) : Prop where
  not_null : ∀ a ∈ s.alive, a.actor_id ≠ 0
  ids : s.alive.Pairwise fun a b => a.actor_id ≠ b.actor_id
  endpoints : s.alive.Pairwise fun a b => s.recv_endpoint a.actor_id ≠ s.recv_endpoint b.actor_id
  /-- A message to the handle of an actor is not taken as sent to nobody. -/
  not_ignored : ∀ a ∈ s.alive, s.send a.actor_id ≠ .ignored
  /-- ... nor delivered to another actor. -/
  delivered : ∀ a ∈ s.alive, ∀ b, s.send a.actor_id = .delivered b → b = a

/-- The value of the counter after `calls` calls of `initialize_actor`. -/
def counter (calls : Nat) : Nat := (calls + 1) % 2 ^ 32

/-- A call of `initialize_actor` is not made while the counter is at a multiple of
    `MaxActorId`, nor while it has the remainder that it had when an actor was initialized
    that is still alive. -/
def Fresh (s : ActorSystem) : ActorSystemStep → Prop
  | .initialize_actor =>
    ¬ counter s.calls ≡ 0 [MOD MaxActorId] ∧
      ∀ a ∈ s.alive, ¬ counter a.call ≡ counter s.calls [MOD MaxActorId]
  | .terminate_actor _ => True

instance (s : ActorSystem) (label : ActorSystemStep) : Decidable (s.Fresh label) := by
  unfold Fresh
  split <;> infer_instance

/-! ### The counter -/

/-- The counter counts the calls, and an id is what is left of it. -/
structure Sound (s : ActorSystem) : Prop where
  counted : s.next_available_actor_id.toNat = counter s.calls
  assigned : ∀ a ∈ s.alive, a.actor_id.toNat = counter a.call % MaxActorId

variable {s s' : ActorSystem}

theorem sound_empty (identifier : List UInt8) : (empty identifier).Sound :=
  ⟨rfl, fun _ ha => nomatch ha⟩

theorem Sound.initialize_actor (h : s.Sound) : s.initialize_actor.Sound := by
  constructor
  · show (s.next_available_actor_id + 1).toNat = counter (s.calls + 1)
    rw [UInt32.toNat_add, h.counted]
    unfold counter
    rw [show (1 : UInt32).toNat = 1 from rfl, Nat.mod_add_mod]
  · intro a ha
    rcases List.mem_cons.mp ha with rfl | ha
    · show (available_actor_id s.next_available_actor_id).toNat = counter s.calls % MaxActorId
      rw [toNat_available_actor_id, h.counted]
    · exact h.assigned a ha

theorem Sound.next (h : s.Sound) {label : ActorSystemStep} (hnext : s.next label = some s') :
    s'.Sound := by
  cases label with
  | initialize_actor =>
    cases hnext
    exact h.initialize_actor
  | terminate_actor call =>
    simp only [ActorSystem.next] at hnext
    split at hnext <;> cases hnext
    exact ⟨h.counted, fun a ha => h.assigned a (List.mem_filter.mp ha).1⟩

theorem sound_of_reachable (h : LTS.Reachable system s) : s.Sound := by
  apply h.invariant Sound
  · rintro s ⟨identifier, rfl⟩
    exact sound_empty identifier
  · intro s label s' hs _ hnext
    exact hs.next hnext

theorem Sound.lt (h : s.Sound) {a : LiveActor} (ha : a ∈ s.alive) :
    a.actor_id.toNat < MaxActorId := by
  rw [h.assigned a ha]
  exact Nat.mod_lt _ (by decide)

/-- Endpoints are as different as ids. -/
theorem Sound.recv_endpoint_inj (h : s.Sound) {a b : LiveActor} (ha : a ∈ s.alive)
    (hb : b ∈ s.alive) (heq : s.recv_endpoint a.actor_id = s.recv_endpoint b.actor_id) :
    a.actor_id = b.actor_id :=
  get_routing_id_injective (h.lt ha) (h.lt hb) heq

/-! ### Ids identify actors -/

theorem send_ne_ignored {id : UInt32} (h : id ≠ 0) : s.send id ≠ .ignored := by
  unfold send
  rw [if_neg h]
  split <;> exact nofun

/-- A message is delivered to an actor that is alive and has the endpoint. -/
theorem of_send_delivered {id : UInt32} {b : LiveActor} (h : s.send id = .delivered b) :
    b ∈ s.alive ∧ s.recv_endpoint b.actor_id = s.recv_endpoint id := by
  unfold send at h
  split at h
  · cases h
  · split at h
    · next a hfind =>
      cases h
      have hsome := List.find?_some hfind
      rw [Bool.and_eq_true, beq_iff_eq] at hsome
      exact ⟨List.mem_of_find?_eq_some hfind, hsome.2⟩
    · cases h

/-- All that matters is that the ids are different, and none of them is 0. -/
theorem Sound.identify_iff (h : s.Sound) :
    s.Identify ↔ (∀ a ∈ s.alive, a.actor_id ≠ 0) ∧
      s.alive.Pairwise fun a b => a.actor_id ≠ b.actor_id := by
  constructor
  · intro hid
    exact ⟨hid.not_null, hid.ids⟩
  · rintro ⟨hnull, hids⟩
    refine ⟨hnull, hids, ?_, fun a ha => send_ne_ignored (hnull a ha), ?_⟩
    · apply hids.imp_of_mem
      intro a b ha hb hne heq
      exact hne (h.recv_endpoint_inj ha hb heq)
    · intro a ha b hsend
      obtain ⟨hb, heq⟩ := of_send_delivered hsend
      have hid := h.recv_endpoint_inj hb ha heq
      have hsymm : Std.Symm fun a b : LiveActor => a.actor_id ≠ b.actor_id :=
        ⟨fun _ _ => Ne.symm⟩
      by_contra hne
      exact hids.forall hb ha hne hid

/-- The next id, in terms of the calls. -/
theorem Sound.available_actor_id_eq_zero_iff (h : s.Sound) :
    available_actor_id s.next_available_actor_id = 0 ↔ counter s.calls ≡ 0 [MOD MaxActorId] := by
  rw [← UInt32.toNat_inj, toNat_available_actor_id, h.counted]
  rfl

theorem Sound.available_actor_id_eq_iff (h : s.Sound) {a : LiveActor} (ha : a ∈ s.alive) :
    available_actor_id s.next_available_actor_id = a.actor_id ↔
      counter a.call ≡ counter s.calls [MOD MaxActorId] := by
  rw [← UInt32.toNat_inj, toNat_available_actor_id, h.counted, h.assigned a ha]
  exact eq_comm

theorem identify_next_iff (h : s.Sound) (hid : s.Identify) {label : ActorSystemStep}
    (hnext : s.next label = some s') : s'.Identify ↔ s.Fresh label := by
  have hs' := h.next hnext
  obtain ⟨hnull, hids⟩ := h.identify_iff.mp hid
  rw [hs'.identify_iff]
  cases label with
  | initialize_actor =>
    cases hnext
    simp only [initialize_actor, List.forall_mem_cons, List.pairwise_cons, Fresh]
    rw [← h.available_actor_id_eq_zero_iff]
    have hfresh : (∀ a ∈ s.alive, available_actor_id s.next_available_actor_id ≠ a.actor_id) ↔
        ∀ a ∈ s.alive, ¬ counter a.call ≡ counter s.calls [MOD MaxActorId] :=
      forall₂_congr fun a ha => not_congr (h.available_actor_id_eq_iff ha)
    rw [← hfresh]
    constructor
    · rintro ⟨⟨hzero, -⟩, hne, -⟩
      exact ⟨hzero, hne⟩
    · rintro ⟨hzero, hne⟩
      exact ⟨⟨hzero, hnull⟩, hne, hids⟩
  | terminate_actor call =>
    simp only [ActorSystem.next] at hnext
    split at hnext <;> cases hnext
    refine iff_of_true ⟨fun a ha => hnull a (List.mem_filter.mp ha).1, ?_⟩ trivial
    exact hids.sublist List.filter_sublist

/-- **Ids and endpoints identify the actors that are alive all along a run exactly when all
    ids that are given in it are fresh.** -/
theorem identify_iff_fresh {identifier : List UInt8} {steps : List (ActorSystem × ActorSystemStep)}
    (hrun : LTS.Run system (empty identifier) steps s) :
    (∀ t ∈ LTS.passes steps s, t.Identify) ↔ ∀ step ∈ steps, step.1.Fresh step.2 := by
  apply hrun.forall_iff ⟨identifier, rfl⟩
  · exact (sound_empty identifier).identify_iff.mpr ⟨by simp [empty], List.Pairwise.nil⟩
  · intro s label s' hs hid hnext
    exact identify_next_iff (sound_of_reachable hs) hid hnext

/-! ### Runs -/

/-- `"zaf"` -/
def zaf : List UInt8 := [122, 97, 102]

/-- The second actor is still alive when the first one is terminated. -/
theorem identify_iff_fresh_two :
    ∃ (steps : List (ActorSystem × ActorSystemStep)) (s : ActorSystem),
      LTS.Run system (empty zaf) steps s ∧ s.alive.map LiveActor.actor_id = [3, 2] ∧
        ∀ t ∈ LTS.passes steps s, t.Identify := by
  obtain ⟨steps, s, hrun, hfresh, hobs⟩ := system.run_of_exec Fresh
    [.initialize_actor, .initialize_actor, .terminate_actor 0, .initialize_actor]
    (fun s => s.alive.map LiveActor.actor_id) (s := empty zaf) (b := [3, 2]) (by decide +kernel)
  exact ⟨steps, s, hrun, hobs, (identify_iff_fresh hrun).mpr hfresh⟩

/-- Actors that live one after the other. -/
theorem run_turnover (identifier : List UInt8) (n : Nat) :
    ∃ steps, LTS.Run system (empty identifier) steps
        ⟨identifier, UInt32.ofNat (n + 1), [], n⟩ ∧
      ∀ step ∈ steps, step.1.alive.length ≤ 1 := by
  induction n with
  | zero => exact ⟨[], .nil, by simp⟩
  | succ n ih =>
    obtain ⟨steps, hrun, hfew⟩ := ih
    have hcounter : UInt32.ofNat (n + 1 + 1) = UInt32.ofNat (n + 1) + 1 := UInt32.ofNat_add _ _
    rw [hcounter]
    -- nothing else is bound, so that the actor has a socket and can be terminated
    have hterminate : system.next (initialize_actor ⟨identifier, UInt32.ofNat (n + 1), [], n⟩)
        (.terminate_actor n) = some ⟨identifier, UInt32.ofNat (n + 1) + 1, [], n + 1⟩ := by
      simp [system, next, initialize_actor, in_use]
    have hinitialized := hrun.snoc .initialize_actor rfl
    refine ⟨_, hinitialized.snoc (.terminate_actor n) hterminate, ?_⟩
    simp only [List.forall_mem_append, List.forall_mem_singleton]
    exact ⟨⟨hfew, by simp⟩, by simp [initialize_actor]⟩

/-- The actor after 99 999 others has id 0. -/
theorem not_identify :
    ¬ ∀ (identifier : List UInt8) (steps : List (ActorSystem × ActorSystemStep))
      (s : ActorSystem), LTS.Run system (empty identifier) steps s →
        (∀ t ∈ LTS.passes steps s, t.alive.length < MaxActorId - 1) →
          ∀ t ∈ LTS.passes steps s, t.Identify := by
  intro hall
  obtain ⟨steps, hrun, hfew⟩ := run_turnover zaf 99999
  have hrun := hrun.snoc .initialize_actor rfl
  have hidentify := hall _ _ _ hrun
    (by
      intro t ht
      simp only [LTS.passes, List.map_append, List.mem_append, List.mem_map,
        List.mem_singleton] at ht
      rcases ht with (⟨step, hstep, rfl⟩ | ⟨step, rfl, rfl⟩) | rfl
      · exact Nat.lt_of_le_of_lt (hfew step hstep) (by decide)
      · decide
      · show 1 < _
        decide)
    (initialize_actor ⟨zaf, UInt32.ofNat (99999 + 1), [], 99999⟩) (by simp [LTS.passes])
  exact hidentify.not_null _ List.mem_cons_self (by decide)

end ActorSystem

end ZAF.ActorIds
