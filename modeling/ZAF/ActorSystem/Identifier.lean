import ZAF.ActorSystem.Identity

/-! # The identifier of an actor system

    Every endpoint contains the identifier of the actor system. An actor copies it when it
    is initialized, into a buffer in which it writes the digits of an id later. So the
    identifier is not to change while there are actors.

    `set_identifier` looks at a counter of actors for this. There are two of the same name:
    one in `ActorGroup`, which the actors change, and one in `ActorSystem`, which hides it
    there and which nobody changes.
-/

namespace ZAF.Identifiers

open ActorIds

/-! ### Routing ids in a buffer -/

/-- `get_routing_id`: the digits are written at the front, `'s'` or `'r'` at the back. -/
def get_routing_id (routing_id_buffer : List UInt8) (id : UInt32) (send_or_recv : Bool) :
    List UInt8 :=
  (digits ActorIdMaxLen id.toNat ++ routing_id_buffer.drop ActorIdMaxLen).dropLast ++
    [if send_or_recv then 115 else 114]

/-- `initialize_routing_id_buffer` -/
def initialize_routing_id_buffer (identifier : List UInt8) : List UInt8 :=
  List.replicate ActorIdMaxLen 48 ++ identifier ++ [32]

/-- `"inproc://"` -/
def inproc : List UInt8 := [105, 110, 112, 114, 111, 99, 58, 47, 47]

/-! ### The system -/

structure LiveActor where
  /-- The number of calls of `initialize_actor` before its own. -/
  call : Nat
  actor_id : UInt32
  routing_id_buffer : List UInt8
  /-- The endpoint that its receive socket is bound to. -/
  endpoint : Option (List UInt8)
  deriving DecidableEq

/-- The endpoint at which an actor expects another one. -/
def LiveActor.recv_endpoint (a : LiveActor) (id : UInt32) : List UInt8 :=
  inproc ++ get_routing_id a.routing_id_buffer id false

structure ActorSystem where
  identifier : List UInt8
  next_available_actor_id : UInt32
  /-- `ActorGroup::num_alive_actors` -/
  group_num_alive_actors : UInt64
  /-- `ActorSystem::num_alive_actors` -/
  num_alive_actors : UInt64
  alive : List LiveActor
  calls : Nat
  deriving DecidableEq

inductive ActorSystemStep where
  | initialize_actor
  | terminate_actor (call : Nat)
  /-- An actor makes the routing id of another one, or of itself. -/
  | get_routing_id (call : Nat) (id : UInt32) (send_or_recv : Bool)
  | set_identifier (identifier : List UInt8)

namespace ActorSystem

/-- `"zaf"` is the identifier of a new system. -/
def created : ActorSystem := ⟨ActorIds.ActorSystem.zaf, 1, 0, 0, [], 0⟩

def inc_num_alive_actors (s : ActorSystem) : ActorSystem :=
  { s with group_num_alive_actors := s.group_num_alive_actors + 1 }

def dec_num_alive_actors (s : ActorSystem) : ActorSystem :=
  { s with group_num_alive_actors := s.group_num_alive_actors - 1 }

/-- An actor whose endpoint is in use by another one is initialized without a socket. -/
def initialize_actor (s : ActorSystem) : ActorSystem :=
  let id := available_actor_id s.next_available_actor_id
  let buffer := Identifiers.get_routing_id (initialize_routing_id_buffer s.identifier) id false
  let endpoint := inproc ++ buffer
  let in_use := s.alive.any fun a => a.endpoint == some endpoint
  { s.inc_num_alive_actors with
    next_available_actor_id := s.next_available_actor_id + 1
    alive := ⟨s.calls, id, buffer, if in_use then none else some endpoint⟩ :: s.alive
    calls := s.calls + 1 }

def set_identifier (s : ActorSystem) (identifier : List UInt8) : Except String ActorSystem :=
  if s.num_alive_actors = 0 then
    .error "Actor system's identifier cannot be updated if there is any alive actor."
  else .ok { s with identifier }

def next (s : ActorSystem) : ActorSystemStep → Option ActorSystem
  | .initialize_actor => some s.initialize_actor
  | .terminate_actor call =>
    if s.alive.any fun a => a.call == call && a.endpoint.isSome then
      some { s.dec_num_alive_actors with alive := s.alive.filter fun a => a.call != call }
    else none
  | .get_routing_id call id send_or_recv =>
    some { s with alive := s.alive.map fun a =>
      if a.call = call then
        { a with
          routing_id_buffer := Identifiers.get_routing_id a.routing_id_buffer id send_or_recv }
      else a }
  | .set_identifier identifier =>
    match s.set_identifier identifier with
    | .ok s => some s
    | .error _ => some s

def system : LTS.System ActorSystem ActorSystemStep where
  init s := s = created
  next := next

/-! ### What is expected -/

/-- `set_identifier` takes effect if there is no actor, and throws otherwise. -/
def Guarded (s : ActorSystem) (identifier : List UInt8) : Prop :=
  if s.alive = [] then s.set_identifier identifier = .ok { s with identifier }
  else ∃ what, s.set_identifier identifier = .error what

/-- The actors agree on the endpoints of all ids. -/
structure Agree (s : ActorSystem) : Prop where
  same : ∀ a ∈ s.alive, ∀ b ∈ s.alive, ∀ id, a.recv_endpoint id = b.recv_endpoint id
  bound : ∀ a ∈ s.alive, ∀ b ∈ s.alive, ∀ endpoint, b.endpoint = some endpoint →
    a.recv_endpoint b.actor_id = endpoint
  different : ∀ a ∈ s.alive, ∀ id id' : UInt32, id.toNat < MaxActorId → id'.toNat < MaxActorId →
    a.recv_endpoint id = a.recv_endpoint id' → id = id'

/-! ### Buffers -/

/-- A buffer for an identifier: digits of some id in front, one character at the end. -/
def BufferOf (identifier buffer : List UInt8) : Prop :=
  ∃ front last, front.length = ActorIdMaxLen ∧ buffer = front ++ identifier ++ [last]

theorem length_digits (n id : Nat) : (digits n id).length = n := by
  induction n generalizing id with
  | zero => rfl
  | succ n ih => rw [digits, List.length_cons, ih]

theorem bufferOf_initialize (identifier : List UInt8) :
    BufferOf identifier (initialize_routing_id_buffer identifier) :=
  ⟨_, _, List.length_replicate, rfl⟩

/-- What is in the buffer otherwise does not show. -/
theorem BufferOf.get_routing_id_eq {identifier buffer : List UInt8}
    (h : BufferOf identifier buffer) (id : UInt32) (send_or_recv : Bool) :
    Identifiers.get_routing_id buffer id send_or_recv =
      ActorIds.get_routing_id identifier id send_or_recv := by
  obtain ⟨front, last, hlength, rfl⟩ := h
  have hdrop : (front ++ identifier ++ [last]).drop ActorIdMaxLen = identifier ++ [last] := by
    rw [List.append_assoc, ← hlength, List.drop_left]
  rw [Identifiers.get_routing_id, ActorIds.get_routing_id, hdrop, ← List.append_assoc,
    List.dropLast_concat]

theorem BufferOf.get_routing_id {identifier buffer : List UInt8} (h : BufferOf identifier buffer)
    (id : UInt32) (send_or_recv : Bool) :
    BufferOf identifier (Identifiers.get_routing_id buffer id send_or_recv) := by
  rw [h.get_routing_id_eq]
  exact ⟨_, _, length_digits _ _, rfl⟩

/-! ### Reachable states -/

/-- The counter of the system is 0, and all actors have its identifier. -/
structure Sound (s : ActorSystem) : Prop where
  uncounted : s.num_alive_actors = 0
  buffer : ∀ a ∈ s.alive, BufferOf s.identifier a.routing_id_buffer
  endpoint : ∀ a ∈ s.alive, ∀ endpoint, a.endpoint = some endpoint →
    endpoint = inproc ++ ActorIds.get_routing_id s.identifier a.actor_id false

variable {s s' : ActorSystem}

theorem sound_created : created.Sound :=
  ⟨rfl, (fun _ ha => nomatch ha), fun _ ha => nomatch ha⟩

theorem Sound.set_identifier_throws (h : s.Sound) (identifier : List UInt8) :
    ∃ what, s.set_identifier identifier = .error what := by
  unfold set_identifier
  rw [if_pos h.uncounted]
  exact ⟨_, rfl⟩

theorem Sound.initialize_actor (h : s.Sound) : s.initialize_actor.Sound := by
  have hbuffer := bufferOf_initialize s.identifier
  refine ⟨h.uncounted, ?_, ?_⟩
  · intro a ha
    rcases List.mem_cons.mp ha with rfl | ha
    · exact hbuffer.get_routing_id _ _
    · exact h.buffer a ha
  · intro a ha endpoint hendpoint
    rcases List.mem_cons.mp ha with rfl | ha
    · dsimp only at hendpoint
      split at hendpoint <;> cases hendpoint
      rw [hbuffer.get_routing_id_eq]
      rfl
    · exact h.endpoint a ha endpoint hendpoint

theorem Sound.next (h : s.Sound) {label : ActorSystemStep} (hnext : s.next label = some s') :
    s'.Sound := by
  cases label with
  | initialize_actor =>
    cases hnext
    exact h.initialize_actor
  | terminate_actor call =>
    simp only [ActorSystem.next] at hnext
    split at hnext <;> cases hnext
    exact ⟨h.uncounted, fun a ha => h.buffer a (List.mem_filter.mp ha).1,
      fun a ha => h.endpoint a (List.mem_filter.mp ha).1⟩
  | get_routing_id call id send_or_recv =>
    cases hnext
    refine ⟨h.uncounted, ?_, ?_⟩
    · intro a ha
      obtain ⟨b, hb, rfl⟩ := List.mem_map.mp ha
      split
      · exact (h.buffer b hb).get_routing_id id send_or_recv
      · exact h.buffer b hb
    · intro a ha
      obtain ⟨b, hb, rfl⟩ := List.mem_map.mp ha
      split <;> exact h.endpoint b hb
  | set_identifier identifier =>
    obtain ⟨what, hthrows⟩ := h.set_identifier_throws identifier
    simp only [ActorSystem.next, hthrows] at hnext
    cases hnext
    exact h

theorem sound_of_reachable (h : LTS.Reachable system s) : s.Sound := by
  apply h.invariant Sound
  · rintro s rfl
    exact sound_created
  · intro s label s' hs _ hnext
    exact hs.next hnext

theorem Sound.recv_endpoint_eq (h : s.Sound) {a : LiveActor} (ha : a ∈ s.alive) (id : UInt32) :
    a.recv_endpoint id = inproc ++ ActorIds.get_routing_id s.identifier id false := by
  rw [LiveActor.recv_endpoint, (h.buffer a ha).get_routing_id_eq]

theorem Sound.agree (h : s.Sound) : s.Agree where
  same a ha b hb id := by rw [h.recv_endpoint_eq ha, h.recv_endpoint_eq hb]
  bound a ha b hb endpoint hendpoint := by
    rw [h.recv_endpoint_eq ha, h.endpoint b hb endpoint hendpoint]
  different a ha id id' hid hid' heq := by
    rw [h.recv_endpoint_eq ha, h.recv_endpoint_eq ha] at heq
    exact get_routing_id_injective hid hid' (List.append_cancel_left heq)

theorem Sound.guarded_iff (h : s.Sound) (identifier : List UInt8) :
    s.Guarded identifier ↔ s.alive ≠ [] := by
  obtain ⟨what, hthrows⟩ := h.set_identifier_throws identifier
  unfold Guarded
  split
  · next hnone =>
    rw [hthrows]
    exact iff_of_false nofun (not_not.mpr hnone)
  · next hsome => exact iff_of_true ⟨what, hthrows⟩ hsome

/-- **The identifier is guarded as expected only while there are actors**: it can never be
    changed, so that all actors agree on all endpoints. -/
theorem guarded_iff_alive (h : LTS.Reachable system s) :
    (∀ identifier, s.Guarded identifier ↔ s.alive ≠ []) ∧ s.Agree :=
  ⟨(sound_of_reachable h).guarded_iff, (sound_of_reachable h).agree⟩

/-- Two actors, one of which has made the routing id of the other. -/
theorem guarded_iff_alive_two :
    ∃ s, LTS.Reachable system s ∧ s.alive.map LiveActor.actor_id = [2, 1] ∧
      s.Guarded [97] ∧ s.Agree := by
  obtain ⟨s, hs, hobs⟩ := system.reachable_of_exec (fun _ _ => True)
    [.initialize_actor, .initialize_actor, .get_routing_id 0 2 true, .set_identifier [98]]
    (fun s => s.alive.map LiveActor.actor_id) (s := created) (b := [2, 1]) rfl (by decide +kernel)
  have halive : s.alive ≠ [] := by
    rintro hnone
    rw [hnone] at hobs
    cases hobs
  obtain ⟨hguarded, hagree⟩ := guarded_iff_alive hs
  exact ⟨s, hs, hobs, (hguarded _).mpr halive, hagree⟩

/-- `set_identifier` throws in a system in which there has never been an actor. -/
theorem not_guarded :
    ¬ ∀ s, LTS.Reachable system s → ∀ identifier, s.Guarded identifier := by
  intro hall
  have hguarded := hall created (.init rfl) [97]
  exact (sound_created.guarded_iff [97]).mp hguarded rfl

end ActorSystem

end ZAF.Identifiers
