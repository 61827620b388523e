import Mathlib.Algebra.Order.Group.Multiset
import Mathlib.Data.Multiset.Range
import Mathlib.Tactic.Abel
import ZAF.ActorEngine.Executors
import ZAF.Framework.Counting

/-! # Conservation of actors

    An actor of an engine is with one executor, in its vectors or in a message to it, until
    it has been stopped, counted out and deleted. It is lost if it is not activated when its
    `start` returns, because the executor does not listen to it then, and if the executor
    that a message carries it to has ended.
-/

namespace ZAF.Conserving

open SwapRemove

/-! ### Where actors are -/

/-- The actor in `start`. -/
def Point.actors : Point → Multiset Nat
  | .starting a => {a}
  | _ => 0

/-- The actors in the messages to an executor. -/
def Executor.carried (x : Executor) : Multiset Nat :=
  (x.inbox.filterMap fun m => m.2.actor? : List Nat)

/-- The actors in the vectors. -/
def listed (items : List PollItem) : Multiset Nat := (items.map PollItem.actor : List Nat)

/-- The actors that are with an executor. -/
def Executor.actors (x : Executor) : Multiset Nat := listed x.items + x.point.actors + x.carried

namespace ActorEngine

/-- The actors that are with the executors. -/
def hosted (s : ActorEngine) : Multiset Nat := (s.executors.map Executor.actors).sum

/-- Every actor is in exactly one place, and is stopped and deleted once. -/
structure Conserved (s : ActorEngine) : Prop where
  /-- It is with one executor, in one element of a vector or in one message, or it has been
      deleted. -/
  place : s.hosted + s.deleted = Multiset.range s.spawned
  stopped : ∀ a, a ∈ s.stopped ↔ a ∈ s.deleted
  stopped_once : s.stopped.Nodup
  deleted_once : s.deleted.Nodup
  /-- No actor is left with an executor that has ended. -/
  ended : ∀ x ∈ s.executors, x.point = .ended → x.actors = 0
  alive : s.num_alive_actors.toNat + s.deleted.length = s.spawned
  /-- `await_all_actors_done` may return when all actors have been deleted. -/
  done : s.num_alive_actors = 0 ↔ ∀ a < s.spawned, a ∈ s.deleted

/-- Is executor `e` there to receive a message? -/
def runs (s : ActorEngine) (e : Nat) : Bool := s.executors[e]?.any fun x => x.point != .ended

/-- The executor does not send an actor to one that has ended. -/
def accepts (s : ActorEngine) (x : Executor) : ExecutorMessage → Bool
  | .rebalance peer => x.items.isEmpty || s.runs peer
  | _ => true

/-- No actor is lost: it is activated when its `start` has returned, a message that carries
    it is sent to an executor that has not ended, and an executor does not end while there
    is such a message in its socket. -/
def Keeps (s : ActorEngine) : EngineStep → Prop
  | .spawn => s.num_alive_actors.toNat + 1 < 2 ^ 64 ∧ s.runs s.selected = true
  | .executor _ (.started r) => r = .activated
  | .executor e (.receive_own k _) =>
    (s.executors[e]?.all fun x => x.inbox[k]?.all fun m => s.accepts x m.2) = true
  | .executor e .stop =>
    (s.executors[e]?.all fun x =>
      !x.items.isEmpty || x.inbox.all fun m => m.2.actor?.isNone) = true
  | _ => True

instance (s : ActorEngine) (label : EngineStep) : Decidable (s.Keeps label) := by
  unfold Keeps
  split <;> infer_instance

end ActorEngine

/-! ### Steps of an executor -/

/-- The actors that leave an executor in a step. -/
def Effect.actors : Effect → Multiset Nat
  | .none => 0
  | .finish a => {a}
  | .transfer a _ => {a}

/-- The actors that get lost in a step. -/
def Executor.lost (x : Executor) : ExecutorStep → Multiset Nat
  | .started .activated => 0
  | .started _ => x.point.actors
  | .stop => if x.items = [] then x.carried else 0
  | _ => 0

namespace Executor

variable {x x' : Executor} {effect : Effect}

theorem listed_append (items : List PollItem) (item : PollItem) :
    listed (items ++ [item]) = listed items + {item.actor} := by
  rw [listed, List.map_append, ← Multiset.coe_add]
  rfl

theorem listed_cons (item : PollItem) (items : List PollItem) :
    listed (item :: items) = {item.actor} + listed items := rfl

theorem listed_swap_remove {items : List PollItem} {i : Nat} {item : PollItem}
    (h : items[i]? = some item) : {item.actor} + listed (swap_remove items i) = listed items :=
  Multiset.coe_eq_coe.mpr ((swap_remove_perm h).map PollItem.actor)

/-- The flags in the poll items do not matter. -/
theorem listed_zipWith {items : List PollItem} {revents : List Bool}
    (h : revents.length = items.length) :
    listed (items.zipWith (fun item revents => { item with revents }) revents) = listed items := by
  induction items generalizing revents with
  | nil => rfl
  | cons item items ih =>
    cases revents with
    | nil => cases h
    | cons r revents =>
      rw [List.zipWith_cons_cons, listed_cons, listed_cons, ih (Nat.succ.inj h)]

/-- What a handler does; the message has been taken out of the socket. -/
theorem actors_behavior {i : Nat} {m : ExecutorMessage} (hpoint : x.point = .own)
    (h : x.behavior i m = some (x', effect)) :
    x'.actors + effect.actors = x.actors + (m.actor?.toList : List Nat) := by
  obtain ⟨inbox, items, own_revents, activated, point⟩ := x
  cases hpoint
  cases m with
  | new_actor a =>
    cases h
    simp only [actors, Point.actors, carried, Effect.actors, ExecutorMessage.actor?,
      Option.toList_some, Multiset.coe_singleton]
    abel
  | rebalance peer =>
    simp only [behavior] at h
    split at h
    · cases h
      rfl
    · obtain ⟨item, hitem, heq⟩ := Option.map_eq_some_iff.mp h
      cases heq
      simp only [actors, Point.actors, carried, Effect.actors, ExecutorMessage.actor?,
        Option.toList_none, Multiset.coe_nil]
      rw [← listed_swap_remove hitem]
      abel
  | actor_transfer a =>
    cases h
    simp only [actors, listen_to_actor, Point.actors, carried, Effect.actors,
      ExecutorMessage.actor?, Option.toList_some, Multiset.coe_singleton, listed_append]
    abel
  | termination =>
    cases h
    rfl

theorem carried_eraseIdx {k : Nat} {m : Option Nat × ExecutorMessage}
    (h : x.inbox[k]? = some m) :
    Executor.carried { x with inbox := x.inbox.eraseIdx k } + (m.2.actor?.toList : List Nat) =
      x.carried := by
  obtain ⟨hk, rfl⟩ := List.getElem?_eq_some_iff.mp h
  have hperm := (List.getElem_cons_eraseIdx_perm hk).filterMap fun m => m.2.actor?
  rw [show x.carried = _ from (Multiset.coe_eq_coe.mpr hperm).symm, List.filterMap_cons]
  cases x.inbox[k].2.actor? with
  | none => exact add_zero _
  | some a => exact add_comm _ ({a} : Multiset Nat)

/-- A step, with what it needs. -/
inductive Stepped (x : Executor) : ExecutorStep → Executor → Effect → Prop where
  | poll (own : Bool) {revents : List Bool} (hpoint : x.point = .polling)
      (hlength : revents.length = x.items.length) :
      Stepped x (.poll own revents) { x with
        own_revents := own
        items := x.items.zipWith (fun item revents => { item with revents }) revents
        point := .own } .none
  | receive_own {k i : Nat} {m : Option Nat × ExecutorMessage} {x' : Executor} {effect : Effect}
      (hpoint : x.point = .own) (hm : x.inbox[k]? = some m)
      (hbehavior : { x with inbox := x.inbox.eraseIdx k }.behavior i m.2 = some (x', effect)) :
      Stepped x (.receive_own k i) x' effect
  | skip_own (hpoint : x.point = .own) : Stepped x .skip_own { x with point := .scanning 0 } .none
  | activated {a : Nat} (hpoint : x.point = .starting a) :
      Stepped x (.started .activated) (x.listen_to_actor a) .none
  /-- The actor in hand gets lost. -/
  | not_activated {a : Nat} {r : Started} (activated : Bool) (hpoint : x.point = .starting a)
      (hr : r ≠ .activated) :
      Stepped x (.started r) { x with activated, point := .scanning 0 } .none
  | visit {i : Nat} {point : Point} (hpoint : x.point = .scanning i)
      (hactors : point.actors = 0) (hended : point ≠ .ended) :
      Stepped x .visit { x with point } .none
  | kept {i : Nat} (hpoint : x.point = .handling i) :
      Stepped x (.handled true) { x with point := .scanning (i + 1) } .none
  | finished {i : Nat} {item : PollItem} (hpoint : x.point = .handling i)
      (hitem : x.items[i]? = some item) :
      Stepped x (.handled false)
        { x with items := swap_remove x.items i, point := .scanning i } (.finish item.actor)
  | stopped {item : PollItem} {items : List PollItem} (hpoint : x.point = .stopping)
      (hitems : x.items = item :: items) :
      Stepped x .stop { x with items } (.finish item.actor)
  | ended (hpoint : x.point = .stopping) (hitems : x.items = []) :
      Stepped x .stop { x with inbox := [], point := .ended } .none

theorem stepped_of_step {l : ExecutorStep} (h : x.step l = some (x', effect)) :
    Stepped x l x' effect := by
  cases l with
  | poll own revents =>
    simp only [step] at h
    split at h <;> cases h
    next hpoll => exact .poll own hpoll.1 hpoll.2.2.1
  | receive_own k i =>
    simp only [step] at h
    split at h
    · next hown =>
      obtain ⟨m, hm, hbehavior⟩ := Option.bind_eq_some_iff.mp h
      exact .receive_own hown.1 hm hbehavior
    · cases h
  | skip_own =>
    simp only [step] at h
    split at h <;> cases h
    next hown => exact .skip_own hown.1
  | started r =>
    simp only [step] at h
    split at h
    · next a hpoint =>
      cases r <;> cases h
      · exact .activated hpoint
      · exact .not_activated x.activated hpoint nofun
      · exact .not_activated false hpoint nofun
    · cases h
  | visit =>
    simp only [step] at h
    split at h
    · next i hpoint =>
      split at h <;> cases h
      · apply Stepped.visit hpoint <;> split <;> first | rfl | exact nofun
      · apply Stepped.visit hpoint <;> split <;> first | rfl | exact nofun
    · cases h
  | handled activated =>
    simp only [step] at h
    split at h
    · next i hpoint =>
      cases activated with
      | true =>
        cases h
        exact .kept hpoint
      | false =>
        obtain ⟨item, hitem, heq⟩ := Option.map_eq_some_iff.mp h
        cases heq
        exact .finished hpoint hitem
    · cases h
  | stop =>
    simp only [step] at h
    split at h
    · next hpoint =>
      split at h <;> cases h
      · next hitems => exact .stopped hpoint hitems
      · next hitems => exact .ended hpoint hitems
    · cases h

/-- **Where the actors of an executor are after a step.** -/
theorem actors_step {l : ExecutorStep} (h : x.step l = some (x', effect)) :
    x'.actors + effect.actors + x.lost l = x.actors := by
  cases stepped_of_step h with
  | poll own hpoint hlength =>
    simp only [actors, carried, Effect.actors, lost, Point.actors, hpoint, add_zero]
    rw [listed_zipWith hlength]
  | @receive_own k i m x' effect hpoint hm hbehavior =>
    have hpoint' : Executor.point { x with inbox := x.inbox.eraseIdx k } = .own := hpoint
    have hactors := actors_behavior hpoint' hbehavior
    rw [hactors]
    simp only [actors, lost]
    rw [← carried_eraseIdx hm]
    abel
  | skip_own hpoint =>
    simp only [actors, carried, Effect.actors, lost, Point.actors, hpoint, add_zero]
  | activated hpoint =>
    simp only [actors, listen_to_actor, carried, Effect.actors, lost, Point.actors, hpoint,
      listed_append]
    abel
  | @not_activated a r activated hpoint hr =>
    cases r with
    | activated => exact absurd rfl hr
    | deactivated | thrown =>
      simp only [actors, carried, Effect.actors, lost, Point.actors, hpoint]
      abel
  | @visit i point hpoint hactors =>
    have hscanning : (Point.scanning i).actors = 0 := rfl
    simp only [actors, carried, Effect.actors, lost, hpoint, hactors, hscanning, add_zero]
  | kept hpoint =>
    simp only [actors, carried, Effect.actors, lost, Point.actors, hpoint, add_zero]
  | finished hpoint hitem =>
    simp only [actors, carried, Effect.actors, lost, Point.actors, hpoint]
    rw [← listed_swap_remove hitem]
    abel
  | @stopped item items hpoint hitems =>
    simp only [actors, carried, Effect.actors, lost, Point.actors, hpoint, hitems,
      listed_cons, if_neg (List.cons_ne_nil item items)]
    abel
  | ended hpoint hitems =>
    simp only [actors, Effect.actors, lost, Point.actors, hpoint, hitems, if_true]
    rw [show Executor.carried ⟨[], [], x.own_revents, x.activated, .ended⟩ = 0 from rfl]
    abel

theorem point_behavior {i : Nat} {m : ExecutorMessage} (h : x.behavior i m = some (x', effect)) :
    x'.point ≠ .ended := by
  cases m with
  | rebalance peer =>
    simp only [behavior] at h
    split at h
    · cases h
      exact nofun
    · obtain ⟨item, -, heq⟩ := Option.map_eq_some_iff.mp h
      cases heq
      exact nofun
  | new_actor a | actor_transfer a | termination =>
    cases h
    exact nofun

/-- An executor that has ended has nothing. -/
def Empty (x : Executor) : Prop := x.point = .ended → x.inbox = [] ∧ x.items = []

theorem Empty.actors (h : x.Empty) (hended : x.point = .ended) : x.actors = 0 := by
  obtain ⟨hinbox, hitems⟩ := h hended
  rw [Executor.actors, carried, hinbox, hitems, hended]
  rfl

/-- Executors that have ended take no steps, and end with nothing. -/
theorem running_step {l : ExecutorStep} (h : x.step l = some (x', effect)) :
    x.point ≠ .ended ∧ x'.Empty := by
  cases stepped_of_step h with
  | poll own hpoint hlength => exact ⟨by rw [hpoint]; exact nofun, nofun⟩
  | receive_own hpoint hm hbehavior =>
    exact ⟨by rw [hpoint]; exact nofun, fun hended => absurd hended (point_behavior hbehavior)⟩
  | skip_own hpoint => exact ⟨by rw [hpoint]; exact nofun, nofun⟩
  | activated hpoint => exact ⟨by rw [hpoint]; exact nofun, nofun⟩
  | not_activated activated hpoint hr => exact ⟨by rw [hpoint]; exact nofun, nofun⟩
  | visit hpoint hactors hended =>
    exact ⟨by rw [hpoint]; exact nofun, fun hended' => absurd hended' hended⟩
  | kept hpoint => exact ⟨by rw [hpoint]; exact nofun, nofun⟩
  | finished hpoint hitem => exact ⟨by rw [hpoint]; exact nofun, nofun⟩
  | stopped hpoint hitems =>
    exact ⟨by rw [hpoint]; exact nofun, fun hended => absurd (hpoint.symm.trans hended) nofun⟩
  | ended hpoint hitems => exact ⟨by rw [hpoint]; exact nofun, fun _ => ⟨rfl, hitems⟩⟩

end Executor

/-! ### The engine -/

namespace ActorEngine

variable {s s' : ActorEngine}

theorem hosted_set {e : Nat} {x : Executor} (h : s.executors[e]? = some x) (x' : Executor) :
    (s.set e x').hosted + x.actors = s.hosted + x'.actors :=
  Counting.sum_map_set_add h x' _

/-- The actor in a message is with the executor, if it runs. -/
theorem hosted_post (s : ActorEngine) (sender : Option Nat) (e : Nat) (m : ExecutorMessage) :
    (s.post sender e m).hosted =
      s.hosted + if s.runs e = true then ((m.actor?.toList : List Nat) : Multiset Nat) else 0 := by
  cases he : s.executors[e]? with
  | none =>
    have hsame : (s.post sender e m).executors = s.executors := Counting.modify_of_none he _
    rw [hosted, hsame, runs, he, Option.any_none, if_neg nofun, add_zero, hosted]
  | some x =>
    have hcount : (s.post sender e m).hosted + x.actors = s.hosted + _ :=
      Counting.sum_map_modify_add he _ _
    rw [runs, he, Option.any_some]
    by_cases hended : x.point = .ended
    · rw [if_pos hended] at hcount
      rw [hended, if_neg nofun, add_zero]
      exact add_right_cancel hcount
    · rw [if_neg hended] at hcount
      rw [if_pos (bne_iff_ne.mpr hended)]
      apply add_right_cancel (b := x.actors)
      rw [hcount]
      simp only [Executor.actors, Executor.carried, List.filterMap_append, ← Multiset.coe_add]
      have hone : ([(sender, m)].filterMap fun m => m.2.actor? : List Nat) = m.actor?.toList := by
        cases hm : m.actor? <;> simp [hm]
      rw [hone]
      abel

/-- What holds in all runs. -/
structure Sound (s : ActorEngine) : Prop where
  stopped : s.stopped = s.deleted
  empty : ∀ x ∈ s.executors, x.Empty

/-- Every actor is in one place, and the count is right. -/
structure Counted (s : ActorEngine) : Prop where
  place : s.hosted + s.deleted = Multiset.range s.spawned
  alive : s.num_alive_actors.toNat + s.deleted.length = s.spawned

theorem Sound.conserved_iff (h : s.Sound) : s.Conserved ↔ s.Counted := by
  constructor
  · intro hconserved
    exact ⟨hconserved.place, hconserved.alive⟩
  · rintro ⟨hplace, halive⟩
    have hnodup : (s.deleted : Multiset Nat).Nodup := by
      apply Multiset.nodup_of_le _ (Multiset.nodup_range s.spawned)
      rw [← hplace]
      exact Multiset.le_add_left _ _
    have hnodup := Multiset.coe_nodup.mp hnodup
    refine ⟨hplace, fun a => by rw [h.stopped], h.stopped ▸ hnodup, hnodup,
      fun x hx hended => (h.empty x hx).actors hended, halive, ?_⟩
    have hcard := congrArg Multiset.card hplace
    rw [Multiset.card_add, Multiset.coe_card, Multiset.card_range] at hcard
    constructor
    · intro hzero
      rw [hzero, UInt64.toNat_zero, Nat.zero_add] at halive
      have hhosted : s.hosted = 0 := Multiset.card_eq_zero.mp (by omega)
      intro a ha
      rw [hhosted, zero_add] at hplace
      rw [← Multiset.mem_coe, hplace]
      exact Multiset.mem_range.mpr ha
    · intro hall
      have hle : Multiset.range s.spawned ≤ (s.deleted : Multiset Nat) := by
        rw [Multiset.le_iff_subset (Multiset.nodup_range _)]
        intro a ha
        exact Multiset.mem_coe.mpr (hall a (Multiset.mem_range.mp ha))
      have hcard := Multiset.card_le_card hle
      rw [Multiset.card_range, Multiset.coe_card] at hcard
      apply UInt64.toNat_inj.mp
      rw [UInt64.toNat_zero]
      omega

/-! ### What holds in all runs -/

theorem sound_initialized (num_executors : Nat) : (initialized num_executors).Sound := by
  refine ⟨rfl, fun x hx => ?_⟩
  rw [List.eq_of_mem_replicate hx]
  exact nofun

theorem Sound.post (h : s.Sound) (sender : Option Nat) (e : Nat) (m : ExecutorMessage) :
    (s.post sender e m).Sound := by
  refine ⟨h.stopped, fun x hx => ?_⟩
  change x ∈ s.executors.modify e _ at hx
  cases he : s.executors[e]? with
  | none =>
    rw [Counting.modify_of_none he] at hx
    exact h.empty x hx
  | some y =>
    rw [Counting.modify_of_some he] at hx
    rcases List.mem_or_eq_of_mem_set hx with hx | rfl
    · exact h.empty x hx
    · split
      · exact h.empty y (List.mem_of_getElem? he)
      · next hrunning => exact fun hended => absurd hended hrunning

theorem Sound.apply (h : s.Sound) (e : Nat) (effect : Effect) : (s.apply e effect).Sound := by
  cases effect with
  | none => exact h
  | finish a => exact ⟨congrArg (· ++ [a]) h.stopped, h.empty⟩
  | transfer a peer => exact h.post ..

theorem Sound.next (h : s.Sound) {label : EngineStep} (hnext : s.next label = some s') :
    s'.Sound := by
  cases label with
  | spawn =>
    simp only [ActorEngine.next] at hnext
    split at hnext <;> cases hnext
    apply Sound.post
    exact ⟨h.stopped, h.empty⟩
  | terminate =>
    simp only [ActorEngine.next] at hnext
    split at hnext <;> cases hnext
    apply Sound.post
    exact ⟨h.stopped, h.empty⟩
  | load_rebalance e peer =>
    simp only [ActorEngine.next] at hnext
    split at hnext <;> cases hnext
    exact h.post ..
  | executor e step =>
    simp only [ActorEngine.next, Option.bind_eq_bind, Option.bind_eq_some_iff] at hnext
    obtain ⟨x, -, ⟨x', effect⟩, hstep, hnext⟩ := hnext
    cases hnext
    apply Sound.apply
    refine ⟨h.stopped, fun y hy => ?_⟩
    rcases List.mem_or_eq_of_mem_set hy with hy | rfl
    · exact h.empty y hy
    · exact (Executor.running_step hstep).2

theorem sound_of_reachable (h : LTS.Reachable system s) : s.Sound := by
  apply h.invariant Sound
  · rintro s ⟨n, rfl⟩
    exact sound_initialized n
  · intro s label s' hs _ hnext
    exact hs.next hnext

/-! ### Steps that lose an actor -/

/-- The actors of an executor's step are all there, but for those that it loses. -/
theorem hosted_step {e : Nat} {x x' : Executor} {effect : Effect} {l : ExecutorStep}
    (hx : s.executors[e]? = some x) (hstep : x.step l = some (x', effect)) :
    (s.set e x').hosted + effect.actors + x.lost l = s.hosted := by
  have hset := hosted_set hx x'
  rw [← Executor.actors_step hstep] at hset
  apply add_right_cancel (b := x'.actors)
  rw [← hset]
  abel

/-- All actors are in one place if none is lost. -/
theorem place_iff {here lost : Multiset Nat} {n : Nat} (h : here + lost = Multiset.range n) :
    here = Multiset.range n ↔ lost = 0 := by
  rw [← h]
  exact left_eq_add

theorem counted_executor_iff (h : s.Counted) {e : Nat} {x x' : Executor} {effect : Effect}
    {l : ExecutorStep} (hx : s.executors[e]? = some x) (hstep : x.step l = some (x', effect)) :
    ((s.set e x').apply e effect).Counted ↔ x.lost l = 0 ∧
      ∀ a peer, effect = .transfer a peer → (s.set e x').runs peer = true := by
  have hhosted := hosted_step hx hstep
  have hplace := h.place
  have halive := h.alive
  rw [← hhosted] at hplace
  cases effect with
  | none =>
    have hiff : (s.set e x').hosted + s.deleted = Multiset.range s.spawned ↔ x.lost l = 0 := by
      apply place_iff
      rw [← hplace, Effect.actors]
      abel
    constructor
    · intro h'
      exact ⟨hiff.mp h'.place, nofun⟩
    · rintro ⟨hlost, -⟩
      exact ⟨hiff.mpr hlost, halive⟩
  | finish a =>
    have hiff : (s.set e x').hosted + (s.deleted ++ [a] : List Nat) = Multiset.range s.spawned ↔
        x.lost l = 0 := by
      apply place_iff
      rw [← hplace, Effect.actors, ← Multiset.coe_add, Multiset.coe_singleton]
      abel
    -- the actor has been counted
    have hpos : 0 < s.num_alive_actors.toNat := by
      have hcard := congrArg Multiset.card hplace
      rw [Effect.actors, Multiset.card_range] at hcard
      simp only [Multiset.card_add, Multiset.card_singleton, Multiset.coe_card] at hcard
      omega
    have hlt := s.num_alive_actors.toNat_lt
    have hone : (s.num_alive_actors - 1).toNat =
        (2 ^ 64 - 1 + s.num_alive_actors.toNat) % 2 ^ 64 := UInt64.toNat_sub ..
    constructor
    · intro h'
      exact ⟨hiff.mp h'.place, nofun⟩
    · rintro ⟨hlost, -⟩
      refine ⟨hiff.mpr hlost, ?_⟩
      show (s.num_alive_actors - 1).toNat + (s.deleted ++ [a]).length = s.spawned
      rw [hone, List.length_append, List.length_singleton]
      omega
  | transfer a peer =>
    have hpost := hosted_post (s.set e x') (some e) peer (.actor_transfer a)
    simp only [ExecutorMessage.actor?, Option.toList_some, Multiset.coe_singleton] at hpost
    have hthere : ((s.set e x').post (some e) peer (.actor_transfer a)).hosted + s.deleted =
        Multiset.range s.spawned ↔
          x.lost l = 0 ∧ (s.set e x').runs peer = true := by
      rw [hpost]
      cases hruns : (s.set e x').runs peer with
      | true =>
        rw [if_pos rfl, and_iff_left rfl]
        apply place_iff
        rw [← hplace, Effect.actors]
        abel
      | false =>
        rw [if_neg nofun, add_zero]
        have hiff : (s.set e x').hosted + s.deleted = Multiset.range s.spawned ↔
            ({a} : Multiset Nat) + x.lost l = 0 := by
          apply place_iff
          rw [← hplace, Effect.actors]
          abel
        rw [hiff]
        simp
    constructor
    · intro h'
      obtain ⟨hlost, hruns⟩ := hthere.mp h'.place
      refine ⟨hlost, ?_⟩
      rintro _ _ ⟨⟩
      exact hruns
    · rintro ⟨hlost, hruns⟩
      exact ⟨hthere.mpr ⟨hlost, hruns a peer rfl⟩, halive⟩

theorem runs_set {e : Nat} {x x' : Executor} (hx : s.executors[e]? = some x)
    (hpoint : x.point ≠ .ended) (hpoint' : x'.point ≠ .ended) (peer : Nat) :
    (s.set e x').runs peer = s.runs peer := by
  by_cases he : e = peer
  · subst he
    have hset : (s.set e x').executors[e]? = some x' :=
      List.getElem?_set_self (List.getElem?_eq_some_iff.mp hx).1
    rw [runs, runs, hset, hx, Option.any_some, Option.any_some, bne_iff_ne.mpr hpoint,
      bne_iff_ne.mpr hpoint']
  · exact congrArg (Option.any _) (List.getElem?_set_ne he)

/-- A handler keeps the actors if the executor accepts the message; it has taken the message
    out of the socket. -/
theorem accepts_iff {x y x' : Executor} {effect : Effect} {i : Nat} {m : ExecutorMessage}
    (hitems : x.items = y.items) (h : y.behavior i m = some (x', effect)) :
    s.accepts x m = true ↔ ∀ a peer, effect = .transfer a peer → s.runs peer = true := by
  cases m with
  | rebalance peer =>
    simp only [Executor.behavior] at h
    rw [← hitems] at h
    split at h
    · next hnil =>
      cases h
      exact iff_of_true (by rw [accepts, hnil]; rfl) nofun
    · next hnil =>
      obtain ⟨item, -, heq⟩ := Option.map_eq_some_iff.mp h
      cases heq
      rw [accepts, Bool.or_eq_true, List.isEmpty_iff, or_iff_right hnil]
      constructor
      · rintro hruns _ _ ⟨⟩
        exact hruns
      · intro hall
        exact hall _ _ rfl
  | new_actor a | actor_transfer a | termination =>
    cases h
    exact iff_of_true rfl nofun

/-- The condition says that a step of an executor loses no actor. -/
theorem keeps_executor_iff {e : Nat} {x x' : Executor} {effect : Effect} {l : ExecutorStep}
    (hx : s.executors[e]? = some x) (hstep : x.step l = some (x', effect)) :
    s.Keeps (.executor e l) ↔ x.lost l = 0 ∧
      ∀ a peer, effect = .transfer a peer → (s.set e x').runs peer = true := by
  cases Executor.stepped_of_step hstep with
  | @receive_own k i m x' effect hown hm hbehavior =>
    have hpoint : x.point ≠ .ended := by
      rw [hown]
      exact nofun
    have hruns (peer : Nat) : (s.set e x').runs peer = s.runs peer :=
      runs_set hx hpoint (Executor.point_behavior hbehavior) peer
    simp only [Keeps, hx, Option.all_some, hm, Executor.lost, true_and, hruns]
    have hitems : x.items = Executor.items { x with inbox := x.inbox.eraseIdx k } := rfl
    exact accepts_iff hitems hbehavior
  | activated hpoint => exact iff_of_true rfl ⟨rfl, nofun⟩
  | @not_activated a r activated hpoint hr =>
    cases r with
    | activated => exact absurd rfl hr
    | deactivated | thrown => simp [Keeps, Executor.lost, hpoint, Point.actors]
  | stopped hpoint hitems => simp [Keeps, Executor.lost, hx, hitems]
  | ended hpoint hitems => simp [Keeps, Executor.lost, hx, hitems, Executor.carried]
  | poll own hpoint hlength => exact iff_of_true trivial ⟨rfl, nofun⟩
  | skip_own hpoint => exact iff_of_true trivial ⟨rfl, nofun⟩
  | visit hpoint hactors hended => exact iff_of_true trivial ⟨rfl, nofun⟩
  | kept hpoint => exact iff_of_true trivial ⟨rfl, nofun⟩
  | finished hpoint hitem => exact iff_of_true trivial ⟨rfl, nofun⟩

theorem counted_spawn_iff (h : s.Counted) (hnext : s.next .spawn = some s') :
    s'.Counted ↔ s.Keeps .spawn := by
  simp only [next] at hnext
  split at hnext
  · cases hnext
  have hnext := Option.some.inj hnext
  have hhosted : s'.hosted = s.hosted + if s.runs s.selected = true then {s.spawned} else 0 := by
    rw [← hnext, hosted_post]
    rfl
  have hdeleted : s'.deleted = s.deleted := by
    rw [← hnext]
    rfl
  have hspawned : s'.spawned = s.spawned + 1 := by
    rw [← hnext]
    rfl
  have hcount : s'.num_alive_actors.toNat = (s.num_alive_actors.toNat + 1) % 2 ^ 64 := by
    rw [← hnext]
    exact UInt64.toNat_add ..
  have hrange : Multiset.range s'.spawned = s.hosted + s.deleted + {s.spawned} := by
    rw [hspawned, Multiset.range_succ, h.place, ← Multiset.singleton_add, add_comm]
  have halive := h.alive
  have hlt := s.num_alive_actors.toNat_lt
  constructor
  · intro h'
    have hplace' := h'.place
    have halive' := h'.alive
    rw [hcount, hdeleted, hspawned] at halive'
    refine ⟨by omega, ?_⟩
    rw [hhosted, hdeleted, hrange] at hplace'
    cases hruns : s.runs s.selected with
    | true => rfl
    | false =>
      -- the actor is nowhere
      rw [hruns, if_neg nofun, add_zero] at hplace'
      have hzero : ({s.spawned} : Multiset Nat) = 0 := left_eq_add.mp hplace'
      exact absurd hzero (Multiset.singleton_ne_zero _)
  · rintro ⟨hfits, hruns⟩
    constructor
    · rw [hhosted, hdeleted, hrange, if_pos hruns]
      abel
    · rw [hcount, hdeleted, hspawned]
      omega

/-- A message without an actor. -/
theorem Counted.post (h : s.Counted) (sender : Option Nat) (e : Nat) {m : ExecutorMessage}
    (hm : m.actor? = none) : (s.post sender e m).Counted := by
  refine ⟨?_, h.alive⟩
  have hpost := hosted_post s sender e m
  rw [hm, Option.toList_none, Multiset.coe_nil, ite_self, add_zero] at hpost
  rw [hpost]
  exact h.place

theorem counted_next_iff (h : s.Counted) {label : EngineStep} (hnext : s.next label = some s') :
    s'.Counted ↔ s.Keeps label := by
  cases label with
  | spawn => exact counted_spawn_iff h hnext
  | terminate =>
    simp only [next] at hnext
    split at hnext <;> cases hnext
    refine iff_of_true ?_ trivial
    apply Counted.post _ none s.told rfl
    exact ⟨h.place, h.alive⟩
  | load_rebalance e peer =>
    simp only [next] at hnext
    split at hnext <;> cases hnext
    exact iff_of_true (h.post _ _ rfl) trivial
  | executor e l =>
    simp only [next, Option.bind_eq_bind, Option.bind_eq_some_iff] at hnext
    obtain ⟨x, hx, ⟨x', effect⟩, hstep, hnext⟩ := hnext
    cases hnext
    exact (counted_executor_iff h hx hstep).trans (keeps_executor_iff hx hstep).symm

theorem counted_initialized (num_executors : Nat) : (initialized num_executors).Counted := by
  have hzero : (initialized num_executors).hosted = 0 := by
    rw [hosted, initialized, List.map_replicate, List.sum_replicate]
    exact nsmul_zero num_executors
  refine ⟨?_, rfl⟩
  rw [hzero]
  rfl

/-- **An engine conserves its actors all along a run exactly when no step of it loses one.** -/
theorem conserved_iff_keeps {num_executors : Nat} {steps : List (ActorEngine × EngineStep)}
    (hrun : LTS.Run system (initialized num_executors) steps s) :
    (∀ t ∈ LTS.passes steps s, t.Conserved) ↔ ∀ step ∈ steps, step.1.Keeps step.2 := by
  apply hrun.forall_iff ⟨num_executors, rfl⟩
  · exact (sound_initialized num_executors).conserved_iff.mpr (counted_initialized num_executors)
  · intro s label s' hs hconserved hnext
    have hsound := sound_of_reachable hs
    rw [(hsound.next hnext).conserved_iff]
    exact counted_next_iff (hsound.conserved_iff.mp hconserved) hnext

/-! ### Runs -/

/-- An actor is transferred and ends with its executor, another one deactivates itself. -/
theorem conserved_iff_keeps_two :
    ∃ (steps : List (ActorEngine × EngineStep)) (s : ActorEngine),
      LTS.Run system (initialized 2) steps s ∧ (s.num_alive_actors, s.deleted) = (0, [1, 0]) ∧
        ∀ t ∈ LTS.passes steps s, t.Conserved := by
  obtain ⟨steps, s, hrun, hkeeps, hobs⟩ := system.run_of_exec Keeps
    (List.flatten [[.spawn, .spawn],
      [.poll true [], .receive_own 0 0, .started .activated, .visit, .visit].map (.executor 0),
      [.poll true [], .receive_own 0 0, .started .activated, .visit, .visit].map (.executor 1),
      [.load_rebalance 0 1],
      [.poll true [false], .receive_own 0 0, .visit].map (.executor 0),
      [.poll true [true], .receive_own 0 0, .visit, .handled false, .visit, .visit].map
        (.executor 1),
      [.terminate, .terminate],
      [.poll true [], .receive_own 0 0, .visit, .stop].map (.executor 0),
      [.poll true [false], .receive_own 0 0, .visit, .visit, .stop, .stop].map (.executor 1)])
    (fun s => (s.num_alive_actors, s.deleted)) (s := initialized 2) (b := (0, [1, 0]))
    (by decide +kernel)
  exact ⟨steps, s, hrun, hobs, (conserved_iff_keeps hrun).mpr hkeeps⟩

/-- An actor deactivates itself in `start`. -/
theorem not_conserved :
    ¬ ∀ (num_executors : Nat) (steps : List (ActorEngine × EngineStep)) (s : ActorEngine),
      LTS.Run system (initialized num_executors) steps s →
        ∀ t ∈ LTS.passes steps s, t.Conserved := by
  intro hall
  obtain ⟨steps, s, hrun, -, hobs⟩ := system.run_of_exec (fun _ _ => True)
    ([.spawn] ++ [.poll true [], .receive_own 0 0, .started .deactivated].map (.executor 0))
    (fun s => (s.executors, s.deleted, s.spawned)) (s := initialized 1)
    (b := ([⟨[], [], true, true, .scanning 0⟩], [], 1)) (by decide +kernel)
  have hplace := (hall 1 steps s hrun s (by simp [LTS.passes])).place
  simp only [Prod.mk.injEq] at hobs
  obtain ⟨hexecutors, hdeleted, hspawned⟩ := hobs
  rw [hosted, hexecutors, hdeleted, hspawned] at hplace
  have hcard := congrArg Multiset.card hplace
  exact absurd hcard (by decide)

end ActorEngine

end ZAF.Conserving
