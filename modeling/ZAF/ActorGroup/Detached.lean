import ZAF.Framework.Counting
import ZAF.Framework.System
import ZAF.NetGate.Peers
import ZAF.NetGate.Sender

/-! # Alive and detached actors

    An `ActorSystem` counts its actors that are alive and, among them, those that are
    detached: the actors of net gates, which go on until they are told to terminate. When
    the two counts are equal, only detached actors are left, and they are told.

    The count of the actors that are alive goes with their construction and destruction. The
    other one is adjusted by hand: for a net gate actor when it is launched, for a sender
    and a receiver after they have been spawned, and for all of them when they handle
    `Termination`. An exception in a handler ends an actor without an adjustment.
-/

namespace ZAF.Detaching

/-! ### Actors -/

inductive Role where
  /-- Any actor that is not one of a net gate. -/
  | user
  /-- With the urls that it has connections with. -/
  | net_gate_actor (bind_url : Url) (net_gate_connections : List Url)
  | sender (sender : Sender)
  | receiver

/-- Where a net gate actor is in the second part of `establish_connection`. -/
inductive Connecting where
  | spawn_sender
  /-- Before `inc_num_detached_actors` for the sender. -/
  | count_sender (sender : Nat)
  | spawn_receiver
  | count_receiver (receiver : Nat)
  deriving DecidableEq

/-- Where the thread of an actor is. -/
inductive Point where
  | launching
  /-- In the loop of `launch`. -/
  | looping
  | connecting (connecting : Connecting)
  /-- The actor has been deleted. -/
  | ended
  deriving DecidableEq

structure GroupActor where
  role : Role
  point : Point
  activated : Bool
  /-- Has it been counted in `num_detached_actors`, and not been uncounted? No step looks
      at it. -/
  detached : Bool

/-- An actor that has just been initialized. -/
def GroupActor.spawned (role : Role) : GroupActor := ⟨role, .launching, false, false⟩

def GroupActor.alive (a : GroupActor) : Bool := a.point != .ended

/-- A call that changes the counts. -/
inductive Call where
  | spawn (role : Role)
  | inc_num_detached_actors (i : Nat)
  | dec_num_detached_actors
  /-- `delete`, which calls `dec_num_alive_actors`. -/
  | delete

/-- What an actor does. A handler goes on to its end, or up to a call that changes the
    counts. -/
inductive ActorStep where
  | launch
  /-- A user actor does this in `start` or in a handler. -/
  | inc_num_detached_actors
  | dec_num_detached_actors
  | deactivate
  /-- A net gate actor handles a message. -/
  | gate_message (m : GateMessage)
  /-- A net gate actor handles a `Ping`. -/
  | ping (peer : Url)
  /-- A net gate actor goes on in `establish_connection`. -/
  | connect
  | sender_message (m : SenderMessage)
  /-- A net gate actor or a receiver handles `Termination`. -/
  | termination
  /-- An exception leaves `launch`. -/
  | throw
  /-- `launch` returns. -/
  | finish

namespace GroupActor

/-- `"tcp://" + url` -/
def endpoint (url : Url) : List UInt8 := [116, 99, 112, 58, 47, 47] ++ url.1

/-- `delete new_actor`, after `launch` has returned or thrown. -/
def delete (a : GroupActor) : GroupActor × Option Call :=
  ({ a with point := .ended }, some .delete)

section

variable (connects : List UInt8 → Bool)

/-- `establish_connection`, up to where the sender is spawned. -/
def establish_connection (a : GroupActor) (bind_url : Url) (net_gate_connections : List Url)
    (url : Url) : GroupActor × Option Call :=
  if url ∈ net_gate_connections then (a, none)
  else if connects (endpoint url) then
    ({ a with
        role := .net_gate_actor bind_url (url :: net_gate_connections)
        point := .connecting .spawn_sender }, none)
  -- `net_send_socket.connect` throws
  else a.delete

/-- The handlers of a net gate actor. -/
def gate_message (a : GroupActor) (bind_url : Url) (net_gate_connections : List Url) :
    GateMessage → GroupActor × Option Call
  | .net_gate_conn_req host port =>
    a.establish_connection connects bind_url net_gate_connections (gate_url host port)
  | .actor_registration _ (.local_actor _) => (a, none)
  -- "because it is not a local actor"
  | .actor_registration _ (.remote_actor _) => a.delete
  | .actor_lookup_req lookup =>
    a.establish_connection connects bind_url net_gate_connections lookup.url
  | .retrieve_actor_req info =>
    if info.net_gate_url = bind_url then (a, none)
    else a.establish_connection connects bind_url net_gate_connections info.net_gate_url
  | .ping_retry url => if url ∈ net_gate_connections then (a, none) else a.delete

/-- The rest of `establish_connection`; `new` is the actor that is spawned next. -/
def connect (a : GroupActor) (new : Nat) : Connecting → GroupActor × Option Call
  | .spawn_sender =>
    ({ a with point := .connecting (.count_sender new) }, some (.spawn (.sender .initial)))
  | .count_sender sender =>
    ({ a with point := .connecting .spawn_receiver }, some (.inc_num_detached_actors sender))
  | .spawn_receiver =>
    ({ a with point := .connecting (.count_receiver new) }, some (.spawn .receiver))
  | .count_receiver receiver =>
    ({ a with point := .looping }, some (.inc_num_detached_actors receiver))

/-- The handlers of a sender. -/
def sender_message (a : GroupActor) (s : Sender) (m : SenderMessage) :
    GroupActor × Option Call :=
  match s.behavior connects m with
  | none => a.delete
  | some s' =>
    match m with
    | .termination =>
      -- it has forwarded a message and is told again later
      if s.forward_any_message then ({ a with role := .sender s' }, none)
      else ({ a with role := .sender s', activated := false }, some .dec_num_detached_actors)
    | _ => ({ a with role := .sender s' }, none)

/-- One step of actor `i`. In the loop, an actor that has been deactivated may still handle
    the messages that have been consumed with the one that deactivated it. -/
def step (i new : Nat) (a : GroupActor) : ActorStep → Option (GroupActor × Option Call)
  | .launch =>
    if a.point = .launching then
      let call := match a.role with
        | .net_gate_actor _ _ => some (.inc_num_detached_actors i)
        | _ => none
      some ({ a with point := .looping, activated := true }, call)
    else none
  | .inc_num_detached_actors =>
    match a.role with
    | .user => if a.point = .looping then some (a, some (.inc_num_detached_actors i)) else none
    | _ => none
  | .dec_num_detached_actors =>
    match a.role with
    | .user => if a.point = .looping then some (a, some .dec_num_detached_actors) else none
    | _ => none
  | .deactivate =>
    match a.role with
    | .user => if a.point = .looping then some ({ a with activated := false }, none) else none
    | _ => none
  | .gate_message m =>
    match a.role with
    | .net_gate_actor bind_url net_gate_connections =>
      if a.point = .looping then some (a.gate_message connects bind_url net_gate_connections m)
      else none
    | _ => none
  | .ping peer =>
    match a.role with
    | .net_gate_actor bind_url net_gate_connections =>
      if a.point = .looping then
        some (a.establish_connection connects bind_url net_gate_connections peer)
      else none
    | _ => none
  | .connect =>
    match a.point with
    | .connecting connecting => some (a.connect new connecting)
    | _ => none
  | .sender_message m =>
    match a.role with
    | .sender s => if a.point = .looping then some (a.sender_message connects s m) else none
    | _ => none
  | .termination =>
    match a.role with
    | .net_gate_actor _ _ | .receiver =>
      if a.point = .looping then
        some ({ a with activated := false }, some .dec_num_detached_actors)
      else none
    | _ => none
  | .throw => if a.point = .ended then none else some a.delete
  | .finish => if a.point = .looping ∧ a.activated = false then some a.delete else none

end

end GroupActor

/-! ### The group -/

structure Group where
  num_alive_actors : UInt64
  num_detached_actors : UInt64
  /-- All actors that have been spawned, also those that have ended. -/
  actors : List GroupActor

inductive GroupStep where
  | spawn_user
  | spawn_net_gate_actor (bind_url : Url)
  | actor (i : Nat) (step : ActorStep)

namespace Group

def empty : Group := ⟨0, 0, []⟩

/-- A call by actor `i`. -/
def call (s : Group) (i : Nat) : Call → Group
  | .spawn role => { s with
      num_alive_actors := s.num_alive_actors + 1
      actors := s.actors ++ [.spawned role] }
  | .inc_num_detached_actors j => { s with
      num_detached_actors := s.num_detached_actors + 1
      actors := s.actors.modify j fun a => { a with detached := true } }
  | .dec_num_detached_actors => { s with
      num_detached_actors := s.num_detached_actors - 1
      actors := s.actors.modify i fun a => { a with detached := false } }
  | .delete => { s with num_alive_actors := s.num_alive_actors - 1 }

def set (s : Group) (i : Nat) (a : GroupActor) : Group := { s with actors := s.actors.set i a }

variable (connects : List UInt8 → Bool)

def next (s : Group) : GroupStep → Option Group
  | .spawn_user => some (s.call 0 (.spawn .user))
  | .spawn_net_gate_actor bind_url => some (s.call 0 (.spawn (.net_gate_actor bind_url [])))
  | .actor i step => do
    let a ← s.actors[i]?
    let (a, call) ← a.step connects i s.actors.length step
    match call with
    | none => some (s.set i a)
    | some call => some ((s.set i a).call i call)

def system : LTS.System Group GroupStep where
  init s := s = empty
  next := next connects

/-! ### What the counts are for -/

/-- The test of `await_alive_actors_done`. -/
def alive_actors_done (s : Group) : Bool := s.num_alive_actors == s.num_detached_actors

/-- The actors that are alive and not detached. -/
def others (s : Group) : Nat := s.actors.countP fun a => a.alive && !a.detached

/-- The counts differ by the actors that are not detached. -/
structure Meets (s : Group) : Prop where
  /-- "must be not larger than `num_alive_actors`" -/
  le : s.num_detached_actors ≤ s.num_alive_actors
  alive : s.num_alive_actors.toNat = s.actors.countP GroupActor.alive
  others : s.num_alive_actors.toNat - s.num_detached_actors.toNat = s.others
  /-- When the others are gone, the counts meet. -/
  done : s.others = 0 → s.alive_actors_done = true

/-- A call by actor `i` is paired with the others: an actor is counted as detached while it
    is alive and has not been counted, it is uncounted once, and it is not deleted before. -/
def Paired (s : Group) (i : Nat) : Call → Prop
  | .spawn _ => s.num_alive_actors.toNat + 1 < 2 ^ 64
  | .inc_num_detached_actors j => (s.actors[j]?.any fun a => a.alive && !a.detached) = true
  | .dec_num_detached_actors => (s.actors[i]?.any fun a => a.detached) = true
  | .delete => (s.actors[i]?.any fun a => a.detached) = false

instance (s : Group) (i : Nat) (call : Call) : Decidable (s.Paired i call) := by
  unfold Paired
  split <;> infer_instance

/-- The call of a step, if it makes one, is paired with the others. -/
def Pairs (s : Group) : GroupStep → Prop
  | .spawn_user | .spawn_net_gate_actor _ => s.num_alive_actors.toNat + 1 < 2 ^ 64
  | .actor i step =>
    ∀ a ∈ s.actors[i]?, ∀ r ∈ a.step connects i s.actors.length step, ∀ call ∈ r.2,
      s.Paired i call

instance (s : Group) (step : GroupStep) : Decidable (s.Pairs connects step) := by
  unfold Pairs
  split <;> infer_instance

end Group

/-! ### Steps of an actor -/

namespace GroupActor

variable {connects : List UInt8 → Bool} {a a' : GroupActor} {call : Option Call}

/-- What a step does to the actor itself: it is deleted with the call that says so, and it is
    counted only by a call. -/
structure Keeps (a : GroupActor) (r : GroupActor × Option Call) : Prop where
  detached : r.1.detached = a.detached
  alive : r.1.alive = false ↔ r.2 = some .delete

theorem keeps_delete (a : GroupActor) : a.Keeps a.delete := ⟨rfl, by simp [delete, alive]⟩

theorem keeps_of_alive (hdetached : a'.detached = a.detached) (halive : a'.alive = true)
    (hcall : call ≠ some .delete) : a.Keeps (a', call) :=
  ⟨hdetached, by simp [halive, hcall]⟩

theorem alive_of_looping (h : a.point = .looping) : a.alive = true := by
  rw [alive, h]
  rfl

theorem keeps_establish_connection (halive : a.alive = true) (bind_url : Url)
    (net_gate_connections : List Url) (url : Url) :
    a.Keeps (a.establish_connection connects bind_url net_gate_connections url) := by
  unfold establish_connection
  split
  · exact keeps_of_alive rfl halive nofun
  · split
    · exact keeps_of_alive rfl rfl nofun
    · exact keeps_delete a

theorem keeps_gate_message (halive : a.alive = true) (bind_url : Url)
    (net_gate_connections : List Url) (m : GateMessage) :
    a.Keeps (a.gate_message connects bind_url net_gate_connections m) := by
  unfold gate_message
  split
  · exact keeps_establish_connection halive ..
  · exact keeps_of_alive rfl halive nofun
  · exact keeps_delete a
  · exact keeps_establish_connection halive ..
  · split
    · exact keeps_of_alive rfl halive nofun
    · exact keeps_establish_connection halive ..
  · split
    · exact keeps_of_alive rfl halive nofun
    · exact keeps_delete a

theorem keeps_connect (a : GroupActor) (new : Nat) (connecting : Connecting) :
    a.Keeps (a.connect new connecting) := by
  cases connecting <;> exact keeps_of_alive rfl rfl nofun

theorem keeps_sender_message (halive : a.alive = true) (s : Sender) (m : SenderMessage) :
    a.Keeps (a.sender_message connects s m) := by
  unfold sender_message
  split
  · exact keeps_delete a
  · split
    · split <;> exact keeps_of_alive rfl halive nofun
    · exact keeps_of_alive rfl halive nofun

/-- Only actors that are alive take steps. -/
theorem keeps_step {i new : Nat} {step : ActorStep} {r : GroupActor × Option Call}
    (h : a.step connects i new step = some r) : a.alive = true ∧ a.Keeps r := by
  cases step with
  | launch =>
    simp only [GroupActor.step] at h
    split at h <;> cases h
    next hpoint =>
    refine ⟨by rw [alive, hpoint]; rfl, keeps_of_alive rfl rfl ?_⟩
    split <;> exact nofun
  | connect =>
    simp only [GroupActor.step] at h
    split at h <;> cases h
    next connecting hpoint =>
    exact ⟨by rw [alive, hpoint]; rfl, keeps_connect a new connecting⟩
  | throw =>
    simp only [GroupActor.step] at h
    split at h <;> cases h
    next hpoint => exact ⟨bne_iff_ne.mpr hpoint, keeps_delete a⟩
  | finish =>
    simp only [GroupActor.step] at h
    split at h <;> cases h
    next hpoint => exact ⟨alive_of_looping hpoint.1, keeps_delete a⟩
  | gate_message m =>
    simp only [GroupActor.step] at h
    split at h
    · split at h <;> cases h
      next hpoint =>
      exact ⟨alive_of_looping hpoint, keeps_gate_message (alive_of_looping hpoint) ..⟩
    · cases h
  | ping peer =>
    simp only [GroupActor.step] at h
    split at h
    · split at h <;> cases h
      next hpoint =>
      exact ⟨alive_of_looping hpoint, keeps_establish_connection (alive_of_looping hpoint) ..⟩
    · cases h
  | sender_message m =>
    simp only [GroupActor.step] at h
    split at h
    · split at h <;> cases h
      next hpoint =>
      exact ⟨alive_of_looping hpoint, keeps_sender_message (alive_of_looping hpoint) ..⟩
    · cases h
  | inc_num_detached_actors | dec_num_detached_actors | deactivate | termination =>
    simp only [GroupActor.step] at h
    split at h
    all_goals first | cases h | skip
    all_goals
      split at h <;> cases h
      next hpoint =>
      have halive := alive_of_looping hpoint
      exact ⟨halive, keeps_of_alive rfl halive nofun⟩

end GroupActor

/-! ### The counts -/

namespace Group

variable {connects : List UInt8 → Bool} {s s' : Group} {i : Nat} {a a' : GroupActor}

def detached_count (s : Group) : Nat := s.actors.countP fun a => a.alive && a.detached

/-- Both counts are right. -/
structure Counted (s : Group) : Prop where
  alive : s.num_alive_actors.toNat = s.actors.countP GroupActor.alive
  detached : s.num_detached_actors.toNat = s.detached_count

theorem countP_alive_eq (s : Group) :
    s.actors.countP GroupActor.alive = s.detached_count + s.others := by
  rw [others, List.countP_eq_countP_filter_add _ GroupActor.alive GroupActor.detached]
  simp [detached_count, List.countP_filter]

theorem meets_iff_counted : s.Meets ↔ s.Counted := by
  have hsum := s.countP_alive_eq
  constructor
  · intro h
    have hle := UInt64.le_iff_toNat_le.mp h.le
    have halive := h.alive
    have hothers := h.others
    exact ⟨halive, by omega⟩
  · intro h
    have halive := h.alive
    have hdetached := h.detached
    refine ⟨UInt64.le_iff_toNat_le.mpr (by omega), halive, by omega, fun hnone => ?_⟩
    rw [alive_actors_done, beq_iff_eq]
    exact UInt64.toNat_inj.mp (by omega)

theorem counted_empty : empty.Counted := ⟨rfl, rfl⟩

/-! ### Calls -/

theorem countP_alive_set (hi : s.actors[i]? = some a) (a' : GroupActor) :
    (s.set i a').actors.countP GroupActor.alive + a.alive.toNat =
      s.actors.countP GroupActor.alive + a'.alive.toNat :=
  Counting.countP_set_add hi a' _

theorem detached_count_set (hi : s.actors[i]? = some a) (a' : GroupActor) :
    (s.set i a').detached_count + (a.alive && a.detached).toNat =
      s.detached_count + (a'.alive && a'.detached).toNat :=
  Counting.countP_set_add hi a' _

theorem Counted.set (h : s.Counted) (hi : s.actors[i]? = some a)
    (hdetached : a'.detached = a.detached) (halive : a'.alive = a.alive) :
    (s.set i a').Counted := by
  have hcount₁ := countP_alive_set hi a'
  have hcount₂ := detached_count_set hi a'
  rw [halive] at hcount₁
  rw [halive, hdetached] at hcount₂
  exact ⟨h.alive.trans (Nat.add_right_cancel hcount₁).symm,
    h.detached.trans (Nat.add_right_cancel hcount₂).symm⟩

theorem counted_spawn_iff (h : s.Counted) (role : Role) :
    (s.call i (.spawn role)).Counted ↔ s.Paired i (.spawn role) := by
  have hlt := s.num_alive_actors.toNat_lt
  have halive : (s.call i (.spawn role)).num_alive_actors.toNat =
      (s.num_alive_actors.toNat + 1) % 2 ^ 64 := UInt64.toNat_add ..
  have hcount : (s.call i (.spawn role)).actors.countP GroupActor.alive =
      s.actors.countP GroupActor.alive + 1 := List.countP_append ..
  have hdetached : (s.call i (.spawn role)).detached_count = s.detached_count :=
    List.countP_append ..
  have heq := h.alive
  simp only [Paired]
  constructor
  · intro h'
    have heq' := h'.alive
    omega
  · intro hfits
    exact ⟨by omega, h.detached.trans hdetached.symm⟩

/-- A call that leaves the actors alive. -/
theorem counted_iff (h : s.Counted) (hnum : s'.num_alive_actors = s.num_alive_actors)
    (hcount : s'.actors.countP GroupActor.alive = s.actors.countP GroupActor.alive) :
    s'.Counted ↔ s'.num_detached_actors.toNat = s'.detached_count := by
  constructor
  · exact Counted.detached
  · intro hdetached
    exact ⟨by rw [hnum, hcount, h.alive], hdetached⟩

theorem counted_inc_iff (h : s.Counted) (j : Nat) :
    (s.call i (.inc_num_detached_actors j)).Counted ↔
      s.Paired i (.inc_num_detached_actors j) := by
  have hlt := s.num_alive_actors.toNat_lt
  have hnum : (s.call i (.inc_num_detached_actors j)).num_detached_actors.toNat =
      (s.num_detached_actors.toNat + 1) % 2 ^ 64 := UInt64.toNat_add ..
  have hsum := (s.call i (.inc_num_detached_actors j)).countP_alive_eq
  have halive := h.alive
  have hdetached := h.detached
  simp only [Paired]
  cases hj : s.actors[j]? with
  | none =>
    -- nobody is counted
    have hsame : (s.call i (.inc_num_detached_actors j)).actors = s.actors :=
      Counting.modify_of_none hj _
    have hiff : (s.call i (.inc_num_detached_actors j)).Counted ↔ _ :=
      counted_iff h rfl (by rw [hsame])
    rw [hiff, hnum, detached_count, hsame, ← detached_count]
    exact iff_of_false (by omega) nofun
  | some b =>
    have hcount₁ : (s.call i (.inc_num_detached_actors j)).actors.countP GroupActor.alive +
        b.alive.toNat = s.actors.countP GroupActor.alive + b.alive.toNat :=
      Counting.countP_modify_add hj _ _
    have hcount₂ : (s.call i (.inc_num_detached_actors j)).detached_count +
        (b.alive && b.detached).toNat = s.detached_count + (b.alive && true).toNat :=
      Counting.countP_modify_add hj _ _
    have hiff : (s.call i (.inc_num_detached_actors j)).Counted ↔ _ :=
      counted_iff h rfl (Nat.add_right_cancel hcount₁)
    rw [hiff, hnum]
    simp only [Option.any_some]
    cases hba : b.alive <;> cases hbd : b.detached <;> rw [hba, hbd] at hcount₂ <;>
      simp only [Bool.and_false, Bool.and_true, Bool.toNat_false, Bool.toNat_true] at hcount₂
    · exact iff_of_false (by omega) nofun
    · exact iff_of_false (by omega) nofun
    · exact iff_of_true (by omega) rfl
    · exact iff_of_false (by omega) nofun

theorem counted_dec_iff (h : s.Counted) (hi : s.actors[i]? = some a) (halive : a.alive = true) :
    (s.call i .dec_num_detached_actors).Counted ↔ s.Paired i .dec_num_detached_actors := by
  have hlt := s.num_detached_actors.toNat_lt
  have hnum : (s.call i .dec_num_detached_actors).num_detached_actors.toNat =
      (2 ^ 64 - 1 + s.num_detached_actors.toNat) % 2 ^ 64 := UInt64.toNat_sub ..
  have hcount₁ : (s.call i .dec_num_detached_actors).actors.countP GroupActor.alive +
      a.alive.toNat = s.actors.countP GroupActor.alive + a.alive.toNat :=
    Counting.countP_modify_add hi _ _
  have hcount₂ : (s.call i .dec_num_detached_actors).detached_count +
      (a.alive && a.detached).toNat = s.detached_count + (a.alive && false).toNat :=
    Counting.countP_modify_add hi _ _
  have hiff : (s.call i .dec_num_detached_actors).Counted ↔ _ :=
    counted_iff h rfl (Nat.add_right_cancel hcount₁)
  have hdetached := h.detached
  rw [hiff, hnum]
  simp only [Paired, hi, Option.any_some]
  cases hd : a.detached <;> rw [halive, hd] at hcount₂ <;>
    simp only [Bool.and_false, Bool.and_true, Bool.toNat_false, Bool.toNat_true] at hcount₂
  · exact iff_of_false (by omega) nofun
  · exact iff_of_true (by omega) rfl

/-- The deletion of an actor. -/
theorem counted_delete_iff (h : s.Counted) (hi : s.actors[i]? = some a)
    (halive : a.alive = true) (halive' : a'.alive = false) :
    ((s.set i a').call i .delete).Counted ↔ s.Paired i .delete := by
  have hlt := s.num_alive_actors.toNat_lt
  have hnum : ((s.set i a').call i .delete).num_alive_actors.toNat =
      (2 ^ 64 - 1 + s.num_alive_actors.toNat) % 2 ^ 64 := UInt64.toNat_sub ..
  have hcount₁ := countP_alive_set hi a'
  have hcount₂ := detached_count_set hi a'
  have hsum := s.countP_alive_eq
  have hheq := h.alive
  have hdetached := h.detached
  rw [halive, halive'] at hcount₁ hcount₂
  simp only [Bool.toNat_false, Bool.toNat_true, Bool.true_and, Bool.false_and] at hcount₁ hcount₂
  simp only [Paired, hi, Option.any_some]
  constructor
  · intro h'
    have hdetached' : s.num_detached_actors.toNat = (s.set i a').detached_count := h'.detached
    cases hd : a.detached with
    | false => rfl
    | true => rw [hd, Bool.toNat_true] at hcount₂; omega
  · intro hd
    rw [hd, Bool.toNat_false] at hcount₂
    refine ⟨?_, ?_⟩
    · show _ = (s.set i a').actors.countP GroupActor.alive
      omega
    · exact hdetached.trans hcount₂.symm

/-! ### Runs -/

theorem getElem?_set (hi : s.actors[i]? = some a) (a' : GroupActor) :
    (s.set i a').actors[i]? = some a' :=
  List.getElem?_set_self (List.getElem?_eq_some_iff.mp hi).1

/-- The change of an actor does not matter to the calls but for `delete`. -/
theorem paired_set_iff (hi : s.actors[i]? = some a) (hdetached : a'.detached = a.detached)
    (halive : a'.alive = a.alive) (call : Call) :
    (s.set i a').Paired i call ↔ s.Paired i call := by
  have hany (j : Nat) (p : GroupActor → Bool) (hp : p a' = p a) :
      (s.set i a').actors[j]?.any p = s.actors[j]?.any p := by
    by_cases hij : i = j
    · subst hij
      rw [getElem?_set hi, hi, Option.any_some, Option.any_some, hp]
    · exact congrArg (Option.any p) (List.getElem?_set_ne hij)
  cases call with
  | spawn role => exact Iff.rfl
  | inc_num_detached_actors j =>
    simp only [Paired]
    rw [hany j _ (by rw [hdetached, halive])]
  | dec_num_detached_actors =>
    simp only [Paired]
    rw [hany i _ hdetached]
  | delete =>
    simp only [Paired]
    rw [hany i _ hdetached]

theorem counted_next_iff (h : s.Counted) {label : GroupStep}
    (hnext : s.next connects label = some s') : s'.Counted ↔ s.Pairs connects label := by
  cases label with
  | spawn_user =>
    cases hnext
    exact counted_spawn_iff h _
  | spawn_net_gate_actor bind_url =>
    cases hnext
    exact counted_spawn_iff h _
  | actor i step =>
    simp only [Group.next, Option.bind_eq_bind, Option.bind_eq_some_iff] at hnext
    obtain ⟨a, hi, ⟨a', call⟩, hstep, hnext⟩ := hnext
    obtain ⟨halive, hkeeps⟩ := GroupActor.keeps_step hstep
    have hpairs : s.Pairs connects (.actor i step) ↔ ∀ c ∈ call, s.Paired i c := by
      simp only [Pairs, hi, Option.mem_def, Option.some.injEq, forall_eq', hstep]
    rw [hpairs]
    cases call with
    | none =>
      cases hnext
      have halive' : a'.alive = true := by
        rw [← Bool.not_eq_false, hkeeps.alive]
        exact nofun
      exact iff_of_true (h.set hi hkeeps.detached (halive'.trans halive.symm)) nofun
    | some c =>
      cases hnext
      simp only [Option.mem_def, Option.some.injEq, forall_eq']
      by_cases hc : c = .delete
      · subst hc
        exact counted_delete_iff h hi halive (hkeeps.alive.mpr rfl)
      · have halive' : a'.alive = true := by
          rw [← Bool.not_eq_false, hkeeps.alive, Option.some.injEq]
          exact hc
        have hsame := halive'.trans halive.symm
        rw [← paired_set_iff hi hkeeps.detached hsame]
        have h := h.set hi hkeeps.detached hsame
        cases c with
        | spawn role => exact counted_spawn_iff h role
        | inc_num_detached_actors j => exact counted_inc_iff h j
        | dec_num_detached_actors => exact counted_dec_iff h (getElem?_set hi a') halive'
        | delete => exact absurd rfl hc

/-- **The counts differ by the actors that are not detached all along a run exactly when all
    calls in it are paired.** -/
theorem meets_iff_pairs {steps : List (Group × GroupStep)}
    (hrun : LTS.Run (system connects) empty steps s) :
    (∀ t ∈ LTS.passes steps s, t.Meets) ↔ ∀ step ∈ steps, step.1.Pairs connects step.2 := by
  apply hrun.forall_iff rfl
  · exact meets_iff_counted.mpr counted_empty
  · intro s label s' _ hs hnext
    rw [meets_iff_counted] at hs ⊢
    exact counted_next_iff hs hnext

/-! ### Net gates -/

/-- A net gate that has a connection when it is told to terminate; one more actor of a user. -/
theorem meets_iff_pairs_connection :
    ∃ (steps : List (Group × GroupStep)) (s : Group),
      LTS.Run (system fun _ => true) empty steps s ∧
        (s.num_alive_actors, s.num_detached_actors) = (0, 0) ∧
          ∀ t ∈ LTS.passes steps s, t.Meets := by
  obtain ⟨steps, s, hrun, hpairs, hobs⟩ := (system fun _ => true).run_of_exec
    (Pairs fun _ => true)
    [.spawn_net_gate_actor no_url, .spawn_user, .actor 0 .launch, .actor 1 .launch,
      .actor 0 (.ping (gate_url loopback 80)), .actor 0 .connect, .actor 2 .launch,
      .actor 0 .connect, .actor 0 .connect, .actor 0 .connect, .actor 3 .launch,
      .actor 1 .deactivate, .actor 1 .finish,
      .actor 0 .termination, .actor 0 .finish, .actor 2 (.sender_message .termination),
      .actor 2 (.sender_message .termination), .actor 3 .termination, .actor 3 .finish,
      .actor 2 .finish]
    (fun s => (s.num_alive_actors, s.num_detached_actors)) (s := empty) (b := (0, 0))
    (by decide +kernel)
  exact ⟨steps, s, hrun, hobs, (meets_iff_pairs hrun).mpr hpairs⟩

/-- A remote actor is registered at a net gate. -/
theorem not_detached_le :
    ¬ ∀ (connects : List UInt8 → Bool) (steps : List (Group × GroupStep)) (s : Group),
      LTS.Run (system connects) empty steps s →
        ∀ t ∈ LTS.passes steps s, t.num_detached_actors ≤ t.num_alive_actors := by
  intro hall
  obtain ⟨steps, s, hrun, -, hobs⟩ := (system fun _ => true).run_of_exec (fun _ _ => True)
    [.spawn_net_gate_actor no_url, .actor 0 .launch,
      .actor 0 (.gate_message (.actor_registration no_url
        (.remote_actor ⟨⟨⟨1, false⟩, no_url, no_url⟩, ⟨2, false⟩⟩)))]
    (fun s => (s.num_alive_actors, s.num_detached_actors)) (s := empty) (b := (0, 1))
    (by decide +kernel)
  have hle := hall _ _ _ hrun s (by simp [LTS.passes])
  simp only [Prod.mk.injEq] at hobs
  rw [hobs.1, hobs.2] at hle
  exact absurd hle (by decide)

end Group

end ZAF.Detaching
