import Mathlib.Algebra.BigOperators.Group.Multiset.Basic
import Mathlib.Algebra.Order.Group.Multiset
import Mathlib.Data.Multiset.Range
import ZAF.Framework.Counting
import ZAF.ActorEngine.Service

/-! # A round of the service loop

    The three vectors of an executor stay aligned, whatever is added to them and removed
    from them, and a round calls `receive_once` on the actors that polled readable: once on
    each of them, with its own handlers, but for those that have been given away before
    their turn.
-/

namespace ZAF.Servicing

open SwapRemove

/-! ### What is to hold -/

/-- The entries at one index belong to the same actor, with the executor in front. -/
structure Aligned (e : Nat) (x : Executor) : Prop where
  handlers_eq : x.handlers.map MessageHandlers.behavior_of = x.actors
  poll_items_eq : x.poll_items.map PollItem.socket_of = x.actors
  num_eq : x.num_poll_items = x.actors.length
  head_eq : x.actors.head? = some e

/-- The actors from index `i` on that polled readable. -/
def Executor.readable_from (x : Executor) (i : Nat) : List Nat :=
  ((x.poll_items.drop i).filter PollItem.revents).map PollItem.socket_of

/-- Those whose turn is still to come in this round. -/
def Executor.waiting (x : Executor) : List Nat :=
  match x.point with
  | .scanning i => x.readable_from i
  | .receiving i => x.readable_from (i + 1)
  | .starting _ => x.readable_from 1
  | .getting_behavior _ => x.readable_from 1
  | _ => []

/-- The bookkeeping of a round: every actor that polled readable has been served, or has
    been given away, or is still waiting. -/
structure Accounted (x : Executor) : Prop where
  perm : (x.served.map Prod.fst ++ x.sent ++ x.waiting).Perm x.readable
  own_handlers : ∀ call ∈ x.served, call.2.behavior_of = call.1
  current : ∀ i, x.point = .receiving i → ∃ call, x.served.getLast? = some call ∧
    x.actors[i]? = some call.1 ∧ x.handlers[i]? = some call.2
  nodup : x.readable.Nodup

/-- A round is fair: it serves actors that polled readable only, none of them twice and each
    with its own handlers, and in the end all but those that have been given away. -/
structure Fair (x : Executor) : Prop where
  readable : ∀ call ∈ x.served, call.1 ∈ x.readable ∧ call.2.behavior_of = call.1
  once : (x.served.map Prod.fst).Nodup
  /-- The call in progress. -/
  current : ∀ i, x.point = .receiving i → ∃ call, x.served.getLast? = some call ∧
    x.actors[i]? = some call.1 ∧ x.handlers[i]? = some call.2
  /-- The round is over. -/
  all_served : x.point = .polling ∨ (∃ i, x.point = .stopping i) →
    ∀ a ∈ x.readable, a ∈ x.served.map Prod.fst ↔ a ∉ x.sent

/-! ### Where the actors are -/

def Point.actors : Point → Multiset Nat
  | .starting a => {a}
  | .getting_behavior a => {a}
  | _ => 0

def Message.actors : Message → Multiset Nat
  | .NewActor a => {a}
  | .ActorTransfer a _ => {a}
  | .Rebalance _ => 0
  | .Termination => 0

def Executor.places (x : Executor) : Multiset Nat := (x.actors : Multiset Nat) + x.point.actors

/-- The actor in the message that a step receives. -/
def Executor.Step.actors : Executor.Step → Multiset Nat
  | .receive m _ => m.actors
  | _ => 0

/-- The actor in a message that a step sends. -/
def Effect.actors (effect : Effect) : Multiset Nat :=
  match effect.send with
  | some (_, m) => m.actors
  | none => 0

/-- A message that transfers an actor has the handlers of the actor. -/
def Message.Matched : Message → Prop
  | .ActorTransfer a h => h.behavior_of = a
  | _ => True

/-- What a step of an executor keeps. -/
structure Kept (e : Nat) (x : Executor) (m : Multiset Nat) (x' : Executor) (effect : Effect) :
    Prop where
  aligned : x'.point ≠ .ended → Aligned e x'
  accounted : Accounted x'
  matched : ∀ peer m, effect.send = some (peer, m) → m.Matched
  places : x'.places + effect.actors ≤ x.places + m

/-! ### The vectors -/

section vectors

variable {e : Nat} {x : Executor}

theorem Aligned.set_point (h : Aligned e x) (p : Point) : Aligned e { x with point := p } :=
  ⟨h.1, h.2, h.3, h.4⟩

theorem Aligned.pos (h : Aligned e x) : 0 < x.actors.length := by
  have hhead := h.head_eq
  cases hx : x.actors with
  | nil => simp [hx] at hhead
  | cons a as => simp

theorem Aligned.poll_items_length (h : Aligned e x) : x.poll_items.length = x.actors.length := by
  rw [← h.poll_items_eq, List.length_map]

theorem Aligned.handlers_length (h : Aligned e x) : x.handlers.length = x.actors.length := by
  rw [← h.handlers_eq, List.length_map]

/-- The three entries at an index. -/
theorem Aligned.entry (h : Aligned e x) {i : Nat} (hi : i < x.actors.length) :
    ∃ a item, x.actors[i]? = some a ∧ x.handlers[i]? = some ⟨a⟩ ∧ x.poll_items[i]? = some item ∧
      item.socket_of = a := by
  have hhandlers := h.handlers_length
  have hitems := h.poll_items_length
  have hh : x.handlers[i]? = some x.handlers[i] := List.getElem?_eq_getElem (by omega)
  have hp : x.poll_items[i]? = some x.poll_items[i] := List.getElem?_eq_getElem (by omega)
  refine ⟨x.actors[i], x.poll_items[i], List.getElem?_eq_getElem hi, ?_, hp, ?_⟩
  · have heq := congrArg (·[i]?) h.handlers_eq
    simp only [List.getElem?_map, hh, Option.map_some, List.getElem?_eq_getElem hi,
      Option.some.injEq] at heq
    rw [hh, ← heq]
  · have heq := congrArg (·[i]?) h.poll_items_eq
    simpa only [List.getElem?_map, hp, Option.map_some, List.getElem?_eq_getElem hi,
      Option.some.injEq] using heq

theorem Aligned.listen_to_actor (h : Aligned e x) (a : Nat) :
    Aligned e (x.listen_to_actor a ⟨a⟩) := by
  refine ⟨?_, ?_, ?_, ?_⟩
  · simp [Executor.listen_to_actor, h.handlers_eq]
  · simp [Executor.listen_to_actor, h.poll_items_eq]
  · simp [Executor.listen_to_actor, h.num_eq]
  · show (x.actors ++ [a]).head? = some e
    rw [List.head?_append, h.head_eq]
    rfl

theorem Aligned.remove (h : Aligned e x) {i : Nat} (h0 : i ≠ 0) (hi : i < x.actors.length) :
    Aligned e (x.remove i) := by
  obtain ⟨a, item, -, hh, -, -⟩ := h.entry hi
  refine ⟨?_, ?_, ?_, ?_⟩
  · show ((swap_with_back x.handlers i).dropLast).map _ = swap_remove x.actors i
    rw [dropLast_swap_with_back hh, map_swap_remove, h.handlers_eq]
  · show (swap_remove x.poll_items i).map _ = swap_remove x.actors i
    rw [map_swap_remove, h.poll_items_eq]
  · show x.num_poll_items - 1 = (swap_remove x.actors i).length
    rw [h.num_eq, ← length_swap_remove hi, Nat.add_sub_cancel]
  · show (swap_remove x.actors i).head? = some e
    rw [head_swap_remove h0 hi, h.head_eq]

/-- The handler of `Rebalance` removes an entry, and sends it to the peer. -/
theorem Aligned.rebalance_eq (h : Aligned e x) (peer r : Nat) (hn : x.num_poll_items ≠ 1) :
    ∃ i a item, i ≠ 0 ∧ x.actors[i]? = some a ∧ x.poll_items[i]? = some item ∧
      item.socket_of = a ∧
      x.rebalance peer r = some ({ x.remove i with
        sent := x.sent ++ ([item].filter PollItem.revents).map PollItem.socket_of },
        { send := some (peer, .ActorTransfer a ⟨a⟩) }) := by
  have hpos := h.pos
  have hnum := h.num_eq
  have hlt := Nat.mod_lt r (y := x.num_poll_items - 1) (by omega)
  obtain ⟨a, item, ha, hh, hp, hitem⟩ := h.entry (i := 1 + r % (x.num_poll_items - 1)) (by omega)
  refine ⟨_, a, item, by omega, ha, hp, hitem, ?_⟩
  rw [Executor.rebalance, if_neg hn]
  generalize 1 + r % (x.num_poll_items - 1) = i at ha hh hp ⊢
  simp only [Executor.swap]
  by_cases hlast : i = x.num_poll_items - 1
  · -- the last entry: nothing is swapped
    have hhandlers := h.handlers_length
    have hitems := h.poll_items_length
    rw [hnum] at hlast
    have hactors : x.actors.dropLast = swap_remove x.actors i := by
      rw [dropLast_eq_swap_remove, hlast]
    have hdrop : x.handlers.dropLast = (swap_with_back x.handlers i).dropLast := by
      rw [dropLast_swap_with_back hh, dropLast_eq_swap_remove, hhandlers, hlast]
    have hpolls : x.poll_items.dropLast = swap_remove x.poll_items i := by
      rw [dropLast_eq_swap_remove, hitems, hlast]
    rw [if_neg (by omega)]
    rw [hlast] at ha hh hp
    simp only [List.getLast?_eq_getElem?, hhandlers, hitems, ha, hh, hp, Executor.pop_back,
      Executor.remove, hactors, hdrop, hpolls, Option.toList_some]
  · rw [if_pos hlast]
    simp only [getLast?_swap_with_back ha, getLast?_swap_with_back hh, Executor.pop_back,
      getLast?_swap_with_back hp, dropLast_swap_with_back ha, dropLast_swap_with_back hp,
      Executor.remove, Option.toList_some]

end vectors

/-! ### The actors still to come -/

section waiting

variable {e : Nat} {x : Executor}

/-- The item at an index that is looked at. -/
theorem readable_from_eq {i : Nat} {item : PollItem} (h : x.poll_items[i]? = some item) :
    x.readable_from i =
      ([item].filter PollItem.revents).map PollItem.socket_of ++ x.readable_from (i + 1) := by
  obtain ⟨hi, rfl⟩ := List.getElem?_eq_some_iff.mp h
  rw [Executor.readable_from, Executor.readable_from, List.drop_eq_getElem_cons hi,
    ← List.map_append, ← List.filter_append]
  rfl

theorem readable_from_nil {i : Nat} (h : x.poll_items.length ≤ i) : x.readable_from i = [] := by
  rw [Executor.readable_from, List.drop_eq_nil_of_le h]
  rfl

/-- A new entry has no message in this round. -/
theorem readable_from_listen {i : Nat} (h : i ≤ x.poll_items.length) (a : Nat)
    (handler : MessageHandlers) :
    (x.listen_to_actor a handler).readable_from i = x.readable_from i := by
  show (((x.poll_items ++ [PollItem.mk a false]).drop i).filter _).map _ = _
  rw [List.drop_append_of_le_length h, List.filter_append]
  simp [Executor.readable_from]

/-- Where an entry has been removed, the last one waits for its turn. -/
theorem readable_from_remove {i : Nat} (h : i < x.poll_items.length) :
    ((x.remove i).readable_from i).Perm (x.readable_from (i + 1)) :=
  ((drop_swap_remove h).filter _).map _

/-- An entry that is given away does not wait any more. -/
theorem readable_from_give {i : Nat} {item : PollItem} (h0 : i ≠ 0)
    (h : x.poll_items[i]? = some item) :
    (([item].filter PollItem.revents).map PollItem.socket_of ++ (x.remove i).readable_from 1).Perm
      (x.readable_from 1) := by
  have hperm := ((drop_one_swap_remove h0 h).filter PollItem.revents).map PollItem.socket_of
  rwa [← List.singleton_append, List.filter_append, List.map_append] at hperm

/-- The removed actor and those that are left. -/
theorem actors_remove {i a : Nat} (h : x.actors[i]? = some a) :
    (a ::ₘ ((x.remove i).actors : Multiset Nat)) = x.actors := by
  rw [Multiset.cons_coe, Multiset.coe_eq_coe]
  exact swap_remove_perm h

end waiting

/-- `zmq::poll` sets the flags only. -/
theorem poll_sockets {items : List PollItem} {revents : List Bool}
    (h : revents.length = items.length) :
    (items.zipWith (fun item revents => { item with revents }) revents).map PollItem.socket_of =
      items.map PollItem.socket_of := by
  induction items generalizing revents with
  | nil => rfl
  | cons item items ih =>
    cases revents with
    | nil => cases h
    | cons b revents =>
      rw [List.zipWith_cons_cons, List.map_cons, List.map_cons, ih (Nat.succ.inj h)]

/-- Nothing is readable if no flag is set. -/
theorem poll_quiet (items : List PollItem) {revents : List Bool} (h : true ∉ revents) :
    (items.zipWith (fun item revents => { item with revents }) revents).filter PollItem.revents =
      [] := by
  induction items generalizing revents with
  | nil => rfl
  | cons item items ih =>
    cases revents with
    | nil => rfl
    | cons b revents =>
      rw [List.mem_cons, not_or] at h
      obtain rfl : b = false := by simpa using Ne.symm h.1
      rw [List.zipWith_cons_cons, List.filter_cons_of_neg (by simp)]
      exact ih h.2

/-! ### The steps -/

section steps

variable {e : Nat} {x : Executor}

/-- `launch` goes on without a change of the vectors, and nobody's turn has come. -/
theorem kept_goto (h : Aligned e x) (hr : Accounted x) (p : Point) {m : Multiset Nat}
    (hp : ∀ i, p ≠ .receiving i) (hwaiting : ({ x with point := p } : Executor).waiting = x.waiting)
    (hplaces : p.actors ≤ x.point.actors + m) (flag : Option (Nat × Bool)) :
    Kept e x m { x with point := p } { flag := flag } where
  aligned _ := h.set_point p
  accounted := by
    refine ⟨?_, hr.own_handlers, fun i hi => absurd hi (hp i), hr.nodup⟩
    rw [hwaiting]
    exact hr.perm
  matched := by simp
  places := by
    show (x.actors : Multiset Nat) + p.actors + 0 ≤ x.actors + x.point.actors + m
    rw [add_zero, add_assoc]
    gcongr

theorem kept_listen (h : Aligned e x) (hr : Accounted x) (hwaiting : x.waiting = x.readable_from 1)
    {a : Nat} {m : Multiset Nat} (hplaces : {a} ≤ x.point.actors + m) (flag : Option (Nat × Bool)) :
    Kept e x m (({ x with point := .scanning 1 } : Executor).listen_to_actor a ⟨a⟩)
      { flag := flag } where
  aligned _ := (h.set_point _).listen_to_actor a
  accounted := by
    refine ⟨?_, hr.own_handlers, (fun i hi => by cases hi), hr.nodup⟩
    have hlen : 1 ≤ x.poll_items.length := by
      rw [h.poll_items_length]
      exact h.pos
    show (x.served.map Prod.fst ++ x.sent ++
      (({ x with point := .scanning 1 } : Executor).listen_to_actor a ⟨a⟩).readable_from 1).Perm _
    rw [readable_from_listen (x := { x with point := .scanning 1 }) hlen]
    rw [show ({ x with point := .scanning 1 } : Executor).readable_from 1 = x.waiting from
      hwaiting.symm]
    exact hr.perm
  matched := by simp
  places := by
    show ((x.actors ++ [a] : List Nat) : Multiset Nat) + 0 + 0 ≤ x.actors + x.point.actors + m
    rw [add_zero, add_zero, ← Multiset.coe_add, add_assoc]
    exact add_le_add_right hplaces _

/-- An actor is stopped and deleted. -/
theorem kept_remove (h : Aligned e x) (hr : Accounted x) {i a : Nat} (h0 : i ≠ 0)
    (ha : x.actors[i]? = some a) (hwaiting : x.waiting = x.readable_from (i + 1))
    (flag : Option (Nat × Bool)) (m : Multiset Nat) :
    Kept e x m { x.remove i with point := .scanning i } { flag := flag, finish := some a } where
  aligned _ := (h.remove h0 (List.getElem?_eq_some_iff.mp ha).1).set_point _
  accounted := by
    refine ⟨?_, hr.own_handlers, (fun i hi => by cases hi), hr.nodup⟩
    have hlt : i < x.poll_items.length := by
      rw [h.poll_items_length]
      exact (List.getElem?_eq_some_iff.mp ha).1
    refine List.Perm.trans (List.Perm.append_left _ (readable_from_remove hlt)) ?_
    rw [← hwaiting]
    exact hr.perm
  matched := by simp
  places := by
    show ((x.remove i).actors : Multiset Nat) + 0 + 0 ≤ x.places + m
    rw [add_zero, add_zero, Executor.places, ← actors_remove ha, add_assoc]
    exact (Multiset.le_cons_self _ _).trans (Multiset.le_add_right _ _)

/-- An actor is given away. -/
theorem kept_give (h : Aligned e x) (hr : Accounted x) {i a peer : Nat} {item : PollItem}
    (h0 : i ≠ 0) (ha : x.actors[i]? = some a) (hitem : x.poll_items[i]? = some item)
    (hwaiting : x.waiting = x.readable_from 1) (m : Multiset Nat) :
    Kept e x m
      { x.remove i with
        point := .scanning 1
        sent := x.sent ++ ([item].filter PollItem.revents).map PollItem.socket_of }
      { send := some (peer, .ActorTransfer a ⟨a⟩) } where
  aligned _ := by
    have haligned := h.remove h0 (List.getElem?_eq_some_iff.mp ha).1
    exact ⟨haligned.1, haligned.2, haligned.3, haligned.4⟩
  accounted := by
    refine ⟨?_, hr.own_handlers, (fun i hi => by cases hi), hr.nodup⟩
    refine List.Perm.trans ?_ hr.perm
    rw [hwaiting, ← List.append_assoc, List.append_assoc]
    exact List.Perm.append_left _ (readable_from_give h0 hitem)
  matched := by
    rintro _ _ ⟨⟩
    rfl
  places := by
    show ((x.remove i).actors : Multiset Nat) + 0 + {a} ≤ x.places + m
    rw [add_zero, Executor.places, ← actors_remove ha, ← Multiset.singleton_add, add_comm,
      add_assoc]
    exact Multiset.le_add_right _ _

/-- A handler of the executor. -/
theorem kept_behavior (h : Aligned e x) (hr : Accounted x) {r : Nat} {m : Message}
    (hm : m.Matched) (hpoint : x.point = .receiving 0) {x' : Executor} {effect : Effect}
    (hstep : x.behavior r m = some (x', effect)) : Kept e x m.actors x' effect := by
  have hwaiting : x.waiting = x.readable_from 1 := by rw [Executor.waiting, hpoint]
  cases m with
  | NewActor a =>
    cases hstep
    exact kept_goto h hr (.starting a) (by simp) hwaiting.symm (Multiset.le_add_left _ _) _
  | ActorTransfer a handler =>
    obtain rfl : handler = ⟨a⟩ := by
      cases handler
      exact congrArg _ hm
    cases hstep
    exact kept_listen h hr hwaiting (Multiset.le_add_left _ _) none
  | Termination =>
    cases hstep
    exact kept_goto h hr (.scanning 1) (by simp) hwaiting.symm (Multiset.zero_le _) _
  | Rebalance peer =>
    by_cases hn : x.num_poll_items = 1
    · simp only [Executor.behavior, Executor.rebalance, if_pos hn, Option.some.injEq,
        Prod.mk.injEq] at hstep
      obtain ⟨rfl, rfl⟩ := hstep
      exact kept_goto h hr (.scanning 1) (by simp) hwaiting.symm (Multiset.zero_le _) none
    · obtain ⟨i, a, item, h0, ha, hitem, -, heq⟩ :=
        (h.set_point (.scanning 1)).rebalance_eq peer r hn
      rw [Executor.behavior, heq, Option.some.injEq, Prod.mk.injEq] at hstep
      obtain ⟨rfl, rfl⟩ := hstep
      exact kept_give h hr h0 ha hitem hwaiting _

/-- The end of a turn. -/
theorem kept_leave (h : Aligned e x) (hr : Accounted x) {i : Nat} {activated : Bool}
    (hwaiting : x.waiting = x.readable_from (i + 1)) {x' : Executor} {effect : Effect}
    (hstep : x.leave i activated = some (x', effect)) : Kept e x 0 x' effect := by
  rw [Executor.leave, Option.map_eq_some_iff] at hstep
  obtain ⟨a, ha, hstep⟩ := hstep
  split at hstep
  · next hdead =>
    cases hstep
    exact kept_remove h hr hdead.2 ha hwaiting _ 0
  · cases hstep
    exact kept_goto h hr (.scanning (i + 1)) (by simp) hwaiting.symm (Multiset.zero_le _) _

/-- `zmq::poll` returns. -/
theorem kept_poll (h : Aligned e x) (hnodup : x.actors.Nodup) {revents : List Bool}
    (hlen : revents.length = x.poll_items.length) :
    let items := x.poll_items.zipWith (fun item revents => { item with revents }) revents
    Kept e x 0
      { x with
        poll_items := items
        point := if true ∈ revents then .scanning 0 else .polling
        readable := (items.filter PollItem.revents).map PollItem.socket_of
        served := []
        sent := [] } {} := by
  intro items
  have hsockets : items.map PollItem.socket_of = x.actors := (poll_sockets hlen).trans h.2
  refine ⟨fun _ => ⟨h.1, hsockets, h.3, h.4⟩, ⟨?_, by simp, ?_, ?_⟩, by simp, ?_⟩
  · by_cases hany : true ∈ revents
    · simp only [Executor.waiting, if_pos hany]
      exact List.Perm.refl _
    · simp [Executor.waiting, if_neg hany, items, poll_quiet x.poll_items hany]
  · intro i hi
    simp only at hi
    split at hi <;> cases hi
  · rw [← hsockets] at hnodup
    exact hnodup.sublist (List.filter_sublist.map _)
  · have hnone : Point.actors (if true ∈ revents then .scanning 0 else .polling) = 0 := by
      split <;> rfl
    simp only [Executor.places, Effect.actors, hnone, add_zero]
    exact Multiset.le_add_right _ _

/-- An entry is looked at. -/
theorem kept_look (h : Aligned e x) (hr : Accounted x) {i : Nat} (hpoint : x.point = .scanning i)
    {activated : Bool} {x' : Executor} {effect : Effect}
    (hstep : x.step activated .look = some (x', effect)) : Kept e x 0 x' effect := by
  have hwaiting : x.waiting = x.readable_from i := by rw [Executor.waiting, hpoint]
  simp only [Executor.step, hpoint] at hstep
  by_cases hi : i < x.num_poll_items
  · obtain ⟨a, item, ha, hh, hp, hitem⟩ := h.entry (h.num_eq ▸ hi)
    have hsplit := readable_from_eq hp
    simp only [if_pos hi, ha, hh, hp] at hstep
    split at hstep
    · next hread =>
      -- its turn comes
      cases hstep
      refine ⟨fun _ => ⟨h.1, h.2, h.3, h.4⟩, ⟨?_, ?_, ?_, hr.nodup⟩, by simp, ?_⟩
      · have hperm := hr.perm
        rw [hwaiting, hsplit, List.filter_cons_of_pos hread, List.filter_nil, List.map_singleton,
          hitem] at hperm
        refine List.Perm.trans ?_ hperm
        simp only [List.map_append, List.map_singleton, List.append_assoc]
        exact List.Perm.append_left _ (List.perm_append_comm_assoc [a] _ _)
      · intro call hcall
        rw [List.mem_append, List.mem_singleton] at hcall
        rcases hcall with hcall | rfl
        · exact hr.own_handlers call hcall
        · rfl
      · rintro _ ⟨⟩
        exact ⟨_, List.getLast?_concat, ha, hh⟩
      · simp [Executor.places, Effect.actors, Point.actors, hpoint]
    · next hread =>
      cases hstep
      refine kept_goto h hr (.scanning (i + 1)) (by simp) ?_ (Multiset.zero_le _) none
      rw [hwaiting, hsplit, List.filter_cons_of_neg hread]
      rfl
  · rw [if_neg hi] at hstep
    cases hstep
    have hnone : x.waiting = [] := by
      rw [hwaiting, readable_from_nil]
      rw [h.poll_items_length, ← h.num_eq]
      omega
    cases activated with
    | true => exact kept_goto h hr .polling (by simp) hnone.symm (Multiset.zero_le _) none
    | false => exact kept_goto h hr (.stopping 1) (by simp) hnone.symm (Multiset.zero_le _) none

/-- Hosted code returns. -/
theorem kept_returns (h : Aligned e x) (hr : Accounted x) {activated activated' : Bool}
    {x' : Executor} {effect : Effect}
    (hstep : x.step activated (.returns activated') = some (x', effect)) :
    Kept e x 0 x' effect := by
  cases hpoint : x.point with
  | starting a =>
    have hwaiting : x.waiting = x.readable_from 1 := by rw [Executor.waiting, hpoint]
    simp only [Executor.step, hpoint, Option.some.injEq, Prod.mk.injEq] at hstep
    obtain ⟨rfl, rfl⟩ := hstep
    cases activated' with
    | true =>
      refine kept_goto h hr (.getting_behavior a) (by simp) hwaiting.symm ?_ _
      rw [hpoint, add_zero]
      exact le_refl _
    | false => exact kept_goto h hr (.scanning 1) (by simp) hwaiting.symm (Multiset.zero_le _) _
  | getting_behavior a =>
    have hwaiting : x.waiting = x.readable_from 1 := by rw [Executor.waiting, hpoint]
    simp only [Executor.step, hpoint, Option.some.injEq, Prod.mk.injEq] at hstep
    obtain ⟨rfl, rfl⟩ := hstep
    refine kept_listen h hr hwaiting ?_ _
    rw [hpoint, add_zero]
    exact le_refl _
  | receiving i =>
    simp only [Executor.step, hpoint] at hstep
    split at hstep
    · cases hstep
    · exact kept_leave h hr (by rw [Executor.waiting, hpoint]) hstep
  | _ => simp [Executor.step, hpoint] at hstep

/-- Hosted code throws. -/
theorem kept_throws (h : Aligned e x) (hr : Accounted x) {activated : Bool} {x' : Executor}
    {effect : Effect} (hstep : x.step activated .throws = some (x', effect)) :
    Kept e x 0 x' effect := by
  cases hpoint : x.point with
  | starting a =>
    simp only [Executor.step, hpoint] at hstep
    exact kept_leave h hr (by rw [Executor.waiting, hpoint]) hstep
  | getting_behavior a =>
    simp only [Executor.step, hpoint] at hstep
    exact kept_leave h hr (by rw [Executor.waiting, hpoint]) hstep
  | receiving i =>
    simp only [Executor.step, hpoint] at hstep
    split at hstep
    · cases hstep
    · exact kept_leave h hr (by rw [Executor.waiting, hpoint]) hstep
  | _ => simp [Executor.step, hpoint] at hstep

/-- The vectors are cleared in the end. -/
theorem kept_stop (h : Aligned e x) (hr : Accounted x) {activated : Bool} {x' : Executor}
    {effect : Effect} (hstep : x.step activated .stop = some (x', effect)) :
    Kept e x 0 x' effect := by
  cases hpoint : x.point with
  | stopping i =>
    have hwaiting : x.waiting = [] := by rw [Executor.waiting, hpoint]
    have hperm := hr.perm
    simp only [Executor.step, hpoint] at hstep
    rw [hwaiting] at hperm
    cases ha : x.actors[i]? with
    | some a =>
      simp only [ha, Option.some.injEq, Prod.mk.injEq] at hstep
      obtain ⟨rfl, rfl⟩ := hstep
      refine ⟨fun _ => h.set_point _,
        ⟨hperm, hr.own_handlers, (fun i hi => by cases hi), hr.nodup⟩, by simp, ?_⟩
      show (x.actors : Multiset Nat) + 0 + 0 ≤ x.places + 0
      rw [add_zero, add_zero, add_zero]
      exact Multiset.le_add_right _ _
    | none =>
      simp only [ha, Option.some.injEq, Prod.mk.injEq] at hstep
      obtain ⟨rfl, rfl⟩ := hstep
      exact ⟨fun hne => absurd rfl hne,
        ⟨hperm, hr.own_handlers, (fun i hi => by cases hi), hr.nodup⟩, by simp,
        Multiset.zero_le _⟩
  | _ => simp [Executor.step, hpoint] at hstep

/-- **What a step of an executor keeps.** -/
theorem kept_step (h : Aligned e x) (hr : Accounted x) (hnodup : x.actors.Nodup)
    {activated : Bool} {l : Executor.Step} (hm : ∀ m r, l = .receive m r → m.Matched)
    {x' : Executor} {effect : Effect}
    (hstep : x.step activated l = some (x', effect)) : Kept e x l.actors x' effect := by
  cases l with
  | poll revents =>
    simp only [Executor.step] at hstep
    split at hstep
    · next hpoll =>
      cases hstep
      exact kept_poll h hnodup hpoll.2
    · cases hstep
  | look =>
    cases hpoint : x.point with
    | scanning i => exact kept_look h hr hpoint hstep
    | _ => simp [Executor.step, hpoint] at hstep
  | receive m r =>
    simp only [Executor.step] at hstep
    split at hstep
    · next hpoint => exact kept_behavior h hr (hm m r rfl) hpoint hstep
    · cases hstep
  | returns activated' => exact kept_returns h hr hstep
  | throws => exact kept_throws h hr hstep
  | stop => exact kept_stop h hr hstep

end steps

/-! ### The engine -/

/-- What holds of an executor in all runs. -/
structure Executor.Sound (e : Nat) (x : Executor) : Prop where
  aligned : x.point ≠ .ended → Aligned e x
  accounted : Accounted x

namespace Engine

variable {s s' : Engine}

/-- The actors that are with the executors. -/
def hosted (s : Engine) : Multiset Nat := (s.executors.map Executor.places).sum

/-- The actors in the messages. -/
def carried (flight : List (Nat × Message)) : Multiset Nat :=
  (flight.map fun m => m.2.actors).sum

/-- What holds in all runs. No actor is in two places. -/
structure Sound (s : Engine) : Prop where
  executors : ∀ e (x : Executor), s.executors[e]? = some x → x.Sound e
  matched : ∀ m ∈ s.flight, m.2.Matched
  places : s.hosted + carried s.flight ≤ Multiset.range s.spawned

theorem carried_append (flight : List (Nat × Message)) (m : Nat × Message) :
    carried (flight ++ [m]) = carried flight + m.2.actors := by
  simp [carried]

theorem carried_eraseIdx {flight : List (Nat × Message)} {k : Nat} {m : Nat × Message}
    (h : flight[k]? = some m) : carried (flight.eraseIdx k) + m.2.actors = carried flight := by
  obtain ⟨hk, rfl⟩ := List.getElem?_eq_some_iff.mp h
  have hperm := (List.getElem_cons_eraseIdx_perm hk).map fun m => m.2.actors
  rw [carried, carried, ← hperm.sum_eq, List.map_cons, List.sum_cons, add_comm]

theorem sound_initialized (num_executors : Nat) : (initialized num_executors).Sound := by
  refine ⟨?_, by simp [initialized], ?_⟩
  · intro e x hx
    have hx : Executor.launched e = x := by
      simp only [initialized, List.getElem?_map, Option.map_eq_some_iff] at hx
      obtain ⟨e', he', rfl⟩ := hx
      rw [(List.getElem?_eq_some_iff.mp he').2.symm, List.getElem_range]
    subst hx
    exact ⟨fun _ => ⟨rfl, rfl, rfl, rfl⟩, ⟨.refl _, by simp [Executor.launched,
      Executor.listen_to_actor], (fun i hi => by cases hi), List.nodup_nil⟩⟩
  · have hplaces : (Executor.places ∘ Executor.launched) = fun e => ({e} : Multiset Nat) := rfl
    rw [hosted, initialized, List.map_map, hplaces, carried, List.map_nil, List.sum_nil, add_zero,
      ← Multiset.sum_coe, ← Multiset.map_coe, Multiset.sum_map_singleton]
    exact le_refl _

/-- The step of an executor, which may have received a message. -/
theorem Sound.apply (h : s.Sound) {e : Nat} {x x' : Executor} {effect : Effect}
    {flight : List (Nat × Message)} {m : Multiset Nat} (hx : s.executors[e]? = some x)
    (hflight : ∀ p ∈ flight, p ∈ s.flight) (hm : carried flight + m = carried s.flight)
    (hkept : Kept e x m x' effect) : ({ s with flight }.apply e x' effect).Sound := by
  refine ⟨?_, ?_, ?_⟩
  · intro e' y hy
    rcases eq_or_ne e' e with rfl | hne
    · have hlt := (List.getElem?_eq_some_iff.mp hx).1
      simp only [Engine.apply, List.getElem?_set_self hlt, Option.some.injEq] at hy
      subst hy
      exact ⟨hkept.aligned, hkept.accounted⟩
    · simp only [Engine.apply, List.getElem?_set_ne hne.symm] at hy
      exact h.executors e' y hy
  · intro p hp
    rw [Engine.apply, List.mem_append, Option.mem_toList] at hp
    rcases hp with hp | hp
    · exact h.matched p (hflight p hp)
    · exact hkept.matched p.1 p.2 hp
  · have hset : ({ s with flight }.apply e x' effect).hosted + x.places = s.hosted + x'.places :=
      Counting.sum_map_set_add hx x' Executor.places
    have hsend : carried ({ s with flight }.apply e x' effect).flight =
        carried flight + effect.actors := by
      rw [Engine.apply, Effect.actors]
      cases effect.send with
      | none => simp
      | some m => exact carried_append flight m
    refine le_trans ?_ h.places
    refine le_of_add_le_add_right (a := x.places) ?_
    calc ({ s with flight }.apply e x' effect).hosted + _ + x.places
        = s.hosted + carried flight + (x'.places + effect.actors) := by
          rw [hsend, add_right_comm, hset]
          abel
      _ ≤ s.hosted + carried flight + (x.places + m) := by
          exact add_le_add_right hkept.places _
      _ = s.hosted + carried s.flight + x.places := by
          rw [← hm]
          abel

/-- An executor that has ended takes no steps. -/
theorem running_step {x x' : Executor} {effect : Effect} {activated : Bool} {l : Executor.Step}
    (h : x.step activated l = some (x', effect)) : x.point ≠ .ended := by
  intro hended
  cases l <;> simp [Executor.step, hended] at h

/-- A message that carries no hosted actor, or a new one. -/
theorem Sound.send (h : s.Sound) (e : Nat) {m : Message} (hm : m.Matched) {n : Nat}
    (hplaces : m.actors + Multiset.range s.spawned ≤ Multiset.range n) (next_executor : Nat)
    (num_alive_actors : UInt64) :
    Engine.Sound { s with
      next_executor := next_executor
      flight := s.flight ++ [(e, m)]
      spawned := n
      num_alive_actors := num_alive_actors } := by
  refine ⟨h.executors, ?_, ?_⟩
  · intro p hp
    rw [List.mem_append, List.mem_singleton] at hp
    rcases hp with hp | rfl
    · exact h.matched p hp
    · exact hm
  · show s.hosted + carried (s.flight ++ [(e, m)]) ≤ Multiset.range n
    rw [carried_append, ← add_assoc, add_comm]
    exact (add_le_add_right h.places _).trans hplaces

/-- The actors of an executor are different from each other. -/
theorem Sound.nodup (h : s.Sound) {e : Nat} {x : Executor} (hx : s.executors[e]? = some x) :
    x.actors.Nodup := by
  obtain ⟨he, rfl⟩ := List.getElem?_eq_some_iff.mp hx
  have hperm := (List.getElem_cons_eraseIdx_perm he).map Executor.places
  have hhosted : s.hosted = _ + _ := hperm.sum_eq.symm.trans List.sum_cons
  have hle : (s.executors[e].actors : Multiset Nat) ≤ Multiset.range s.spawned :=
    calc (s.executors[e].actors : Multiset Nat) ≤ s.executors[e].places :=
          Multiset.le_add_right _ _
      _ ≤ s.hosted := hhosted ▸ Multiset.le_add_right _ _
      _ ≤ s.hosted + carried s.flight := Multiset.le_add_right _ _
      _ ≤ Multiset.range s.spawned := h.places
  exact Multiset.coe_nodup.mp (Multiset.nodup_of_le hle (Multiset.nodup_range _))

theorem Sound.next (h : s.Sound) {l : EngineStep} (hnext : s.next l = some s') : s'.Sound := by
  cases l with
  | spawn =>
    simp only [Engine.next] at hnext
    split at hnext
    · cases hnext
    · cases hnext
      refine h.send _ (m := .NewActor s.spawned) trivial ?_ _ _
      rw [Multiset.range_succ, ← Multiset.singleton_add]
      exact le_refl _
  | terminate e =>
    cases hnext
    exact h.send e (m := .Termination) trivial (by simp [Message.actors]) _ _
  | load_rebalance e peer =>
    cases hnext
    exact h.send e (m := .Rebalance peer) trivial (by simp [Message.actors]) _ _
  | receive e k r =>
    simp only [Engine.next] at hnext
    split at hnext
    · next x e' m hx hm =>
      split at hnext
      · obtain ⟨⟨x', effect⟩, hstep, rfl⟩ := Option.map_eq_some_iff.mp hnext
        have hsound := h.executors e x hx
        have hmatched : ∀ m' r', Executor.Step.receive m r = .receive m' r' → m'.Matched := by
          rintro _ _ ⟨⟩
          exact h.matched _ (List.mem_of_getElem? hm)
        refine h.apply hx (fun p hp => List.mem_of_mem_eraseIdx hp) (carried_eraseIdx hm) ?_
        exact kept_step (hsound.aligned (running_step hstep)) hsound.accounted (h.nodup hx)
          hmatched hstep
      · cases hnext
    · cases hnext
  | executor e step =>
    simp only [Engine.next] at hnext
    split at hnext
    · next x hx =>
      split at hnext
      · cases hnext
      · next hreceives =>
        obtain ⟨⟨x', effect⟩, hstep, rfl⟩ := Option.map_eq_some_iff.mp hnext
        have hsound := h.executors e x hx
        have hmatched : ∀ m r, step = .receive m r → m.Matched := by
          rintro m r rfl
          exact absurd rfl hreceives
        have hnone : step.actors = 0 := by
          cases step with
          | receive m r => exact absurd rfl hreceives
          | _ => rfl
        have hkept := kept_step (hsound.aligned (running_step hstep)) hsound.accounted
          (h.nodup hx) hmatched hstep
        exact h.apply hx (fun p hp => hp) (by rw [hnone, add_zero]) hkept
    · cases hnext

theorem sound_of_reachable (h : LTS.Reachable system s) : s.Sound :=
  h.invariant Sound (by rintro _ ⟨n, rfl⟩; exact sound_initialized n)
    fun _ _ _ h _ hnext => h.next hnext

/-- **The service round is aligned and fair.** In all runs of an engine, the three vectors of
    an executor stay aligned behind its own entry, and a round calls `receive_once` once on
    each actor that polled readable, with its own handlers, but for those that have been
    given away before their turn, and on no other. -/
theorem round_fair (h : LTS.Reachable system s) {e : Nat} {x : Executor}
    (hx : s.executors[e]? = some x) (hrun : x.point ≠ .ended) : Aligned e x ∧ Fair x := by
  have hsound := (sound_of_reachable h).executors e x hx
  have hr := hsound.accounted
  have hnodup := hr.perm.nodup_iff.mpr hr.nodup
  rw [List.nodup_append', List.nodup_append'] at hnodup
  refine ⟨hsound.aligned hrun, ⟨?_, hnodup.1.1, hr.current, ?_⟩⟩
  · intro call hcall
    refine ⟨hr.perm.subset ?_, hr.own_handlers call hcall⟩
    rw [List.append_assoc]
    exact List.mem_append_left _ (List.mem_map_of_mem hcall)
  · intro hover a ha
    have hnone : x.waiting = [] := by
      rcases hover with hpoint | ⟨i, hpoint⟩ <;> rw [Executor.waiting, hpoint]
    have hmem := hr.perm.symm.subset ha
    rw [hnone, List.append_nil, List.mem_append] at hmem
    constructor
    · exact fun hserved hsent => hnodup.1.2.2 hserved hsent
    · exact fun hsent => hmem.resolve_right hsent

/-- One executor hosts an actor, which is served in the second round. -/
theorem round_fair_hosted : ∃ s x, LTS.Reachable system s ∧ s.executors[0]? = some x ∧
    x.served = [(1, ⟨1⟩)] ∧ Aligned 0 x ∧ Fair x := by
  obtain ⟨s, hs, hx⟩ := system.reachable_of_exec (fun _ _ => True)
    [.spawn, .executor 0 (.poll [true]), .executor 0 .look, .receive 0 0 0,
      .executor 0 (.returns true), .executor 0 (.returns true), .executor 0 .look,
      .executor 0 .look, .executor 0 (.poll [false, true]), .executor 0 .look, .executor 0 .look]
    (fun s => s.executors[0]?) (b := some {
      actors := [0, 1], handlers := [⟨0⟩, ⟨1⟩], poll_items := [⟨0, false⟩, ⟨1, true⟩],
      num_poll_items := 2, point := .receiving 1, readable := [1], served := [(1, ⟨1⟩)],
      sent := [] }) ⟨1, rfl⟩ (by decide)
  exact ⟨s, _, hs, hx, rfl, round_fair hs hx (by decide)⟩

end Engine

end ZAF.Servicing
