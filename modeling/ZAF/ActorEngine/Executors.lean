import ZAF.Framework.SwapRemove
import ZAF.Framework.System

/-! # The executors of an engine

    An `ActorEngine` hands every new actor to one of its executors in a message. An executor
    hosts actors in vectors, removes an actor that has been deactivated, and may be told to
    send one to another executor. It ends when it has been told to terminate, and stops the
    actors that it hosts then.

    Which actors have messages and what their handlers do is up to the environment.
-/

namespace ZAF.Conserving

open SwapRemove

/-! ### Executors -/

/-- The messages of an executor. Actors are named in the order in which they are spawned. -/
inductive ExecutorMessage where
  | new_actor (a : Nat)
  | rebalance (peer : Nat)
  | actor_transfer (a : Nat)
  | termination
  deriving DecidableEq

/-- The actor that a message carries. -/
def ExecutorMessage.actor? : ExecutorMessage → Option Nat
  | .new_actor a => some a
  | .actor_transfer a => some a
  | .rebalance _ => none
  | .termination => none

/-- An element of `actors` and the element of `poll_items` at the same index. -/
structure PollItem where
  actor : Nat
  /-- `revents & ZMQ_POLLIN` -/
  revents : Bool
  deriving DecidableEq

inductive Point where
  | polling
  /-- The executor's own item is looked at next. -/
  | own
  /-- In `start` of a new actor, in the handler of `NewActor`. -/
  | starting (a : Nat)
  /-- `actors[i + 1]` is looked at next. -/
  | scanning (i : Nat)
  /-- In `receive_once` of `actors[i + 1]`. -/
  | handling (i : Nat)
  /-- In the loop after the main loop. -/
  | stopping
  /-- The executor has been deleted. -/
  | ended
  deriving DecidableEq

/-- An executor. Its own items, at index 0 of the vectors, are left out. -/
structure Executor where
  /-- The messages in its socket with their senders; the forwarder is `none`. -/
  inbox : List (Option Nat × ExecutorMessage)
  items : List PollItem
  own_revents : Bool
  activated : Bool
  point : Point
  deriving DecidableEq

/-- How the handler of `NewActor` comes to its end: the actor is activated, has deactivated
    itself in `start`, or an exception has left `start` or `behavior`. -/
inductive Started where
  | activated
  | deactivated
  | thrown
  deriving DecidableEq

inductive ExecutorStep where
  /-- `zmq::poll` returns. -/
  | poll (own : Bool) (revents : List Bool)
  /-- The executor's own item: message `k` in its socket, where `rand()` selects actor `i`. -/
  | receive_own (k i : Nat)
  | skip_own
  | started (started : Started)
  /-- The item of an actor, or the end of the loop over the items. -/
  | visit
  /-- `receive_once` has returned or thrown. -/
  | handled (activated : Bool)
  /-- The next actor in the loop after the main loop, or its end. -/
  | stop
  deriving DecidableEq

/-- What a step of an executor does to the rest of the engine. -/
inductive Effect where
  | none
  /-- `stop`, `dec_num_alive_actors` and `delete`. -/
  | finish (a : Nat)
  | transfer (a peer : Nat)
  deriving DecidableEq

namespace Executor

def launched : Executor := ⟨[], [], false, true, .polling⟩

def listen_to_actor (x : Executor) (a : Nat) : Executor :=
  { x with items := x.items ++ [⟨a, false⟩], point := .scanning 0 }

/-- The handlers of `Executor::behavior`. -/
def behavior (x : Executor) (i : Nat) : ExecutorMessage → Option (Executor × Effect)
  | .new_actor a => some ({ x with point := .starting a }, .none)
  | .rebalance peer =>
    if x.items = [] then some ({ x with point := .scanning 0 }, .none)
    else (x.items[i]?).map fun item =>
      ({ x with items := swap_remove x.items i, point := .scanning 0 },
        .transfer item.actor peer)
  | .actor_transfer a => some (x.listen_to_actor a, .none)
  | .termination => some ({ x with activated := false, point := .scanning 0 }, .none)

/-- Message `k` comes next among those of its sender. -/
def comes_next (x : Executor) (k : Nat) : Bool :=
  x.inbox[k]?.any fun m => (x.inbox.take k).all fun m' => m'.1 != m.1

def step (x : Executor) : ExecutorStep → Option (Executor × Effect)
  | .poll own revents =>
    if x.point = .polling ∧ (own = true → x.inbox ≠ []) ∧ revents.length = x.items.length ∧
        true ∈ own :: revents then
      some ({ x with
        own_revents := own
        items := x.items.zipWith (fun item revents => { item with revents }) revents
        point := .own }, .none)
    else none
  | .receive_own k i =>
    if x.point = .own ∧ x.own_revents = true ∧ x.comes_next k = true then
      (x.inbox[k]?).bind fun m => { x with inbox := x.inbox.eraseIdx k }.behavior i m.2
    else none
  | .skip_own =>
    if x.point = .own ∧ x.own_revents = false then some ({ x with point := .scanning 0 }, .none)
    else none
  | .started r =>
    match x.point with
    | .starting a =>
      match r with
      | .activated => some (x.listen_to_actor a, .none)
      | .deactivated => some ({ x with point := .scanning 0 }, .none)
      -- `actors[0]->deactivate()`
      | .thrown => some ({ x with activated := false, point := .scanning 0 }, .none)
    | _ => none
  | .visit =>
    match x.point with
    | .scanning i =>
      match x.items[i]? with
      | some item =>
        some ({ x with point := if item.revents then .handling i else .scanning (i + 1) }, .none)
      | none => some ({ x with point := if x.activated then .polling else .stopping }, .none)
    | _ => none
  | .handled activated =>
    match x.point with
    | .handling i =>
      if activated then some ({ x with point := .scanning (i + 1) }, .none)
      else (x.items[i]?).map fun item =>
        ({ x with items := swap_remove x.items i, point := .scanning i }, .finish item.actor)
    | _ => none
  | .stop =>
    if x.point = .stopping then
      match x.items with
      | item :: items => some ({ x with items }, .finish item.actor)
      -- the messages in its socket are deleted with the executor
      | [] => some ({ x with inbox := [], point := .ended }, .none)
    else none

end Executor

/-! ### The engine -/

structure ActorEngine where
  executors : List Executor
  next_executor : UInt64
  num_alive_actors : UInt64
  /-- The number of executors that have been told to terminate. -/
  told : Nat
  /-- The number of actors that have been spawned. -/
  spawned : Nat
  /-- The actors that have been stopped and those that have been deleted, in order. -/
  stopped : List Nat
  deleted : List Nat

inductive EngineStep where
  | spawn
  /-- `terminate` or the destructor tells the next executor to terminate. -/
  | terminate
  /-- The first executor tells another one to send an actor to a peer. -/
  | load_rebalance (e peer : Nat)
  | executor (e : Nat) (step : ExecutorStep)
  deriving DecidableEq

namespace ActorEngine

/-- An engine with its executors, before the first actor is spawned. -/
def initialized (num_executors : Nat) : ActorEngine :=
  ⟨List.replicate num_executors .launched, 0, 0, 0, 0, [], []⟩

/-- `send`: nobody has the message if the executor has ended. -/
def post (s : ActorEngine) (sender : Option Nat) (e : Nat) (m : ExecutorMessage) : ActorEngine :=
  { s with executors := s.executors.modify e fun x =>
      if x.point = .ended then x else { x with inbox := x.inbox ++ [(sender, m)] } }

def finish (s : ActorEngine) (a : Nat) : ActorEngine :=
  { s with
    stopped := s.stopped ++ [a]
    num_alive_actors := s.num_alive_actors - 1
    deleted := s.deleted ++ [a] }

/-- The executor of the next actor. -/
def selected (s : ActorEngine) : Nat := s.next_executor.toNat % s.executors.length

def apply (s : ActorEngine) (e : Nat) : Effect → ActorEngine
  | .none => s
  | .finish a => s.finish a
  | .transfer a peer => s.post (some e) peer (.actor_transfer a)

def set (s : ActorEngine) (e : Nat) (x : Executor) : ActorEngine :=
  { s with executors := s.executors.set e x }

def next (s : ActorEngine) : EngineStep → Option ActorEngine
  | .spawn =>
    -- a remainder of 0 executors is not defined
    if s.executors = [] then none
    else
      some ({ s with
        num_alive_actors := s.num_alive_actors + 1
        next_executor := s.next_executor + 1
        spawned := s.spawned + 1 }.post none s.selected (.new_actor s.spawned))
  | .terminate =>
    if s.told < s.executors.length then
      some ({ s with told := s.told + 1 }.post none s.told .termination)
    else none
  | .load_rebalance e peer =>
    if (s.executors[0]?.any fun x => x.point = .polling) ∧ e < s.executors.length ∧
        peer < s.executors.length then
      some (s.post (some 0) e (.rebalance peer))
    else none
  | .executor e step => do
    let x ← s.executors[e]?
    let (x, effect) ← x.step step
    return (s.set e x).apply e effect

def system : LTS.System ActorEngine EngineStep where
  init s := ∃ num_executors, s = initialized num_executors
  next := next

end ActorEngine

end ZAF.Conserving
