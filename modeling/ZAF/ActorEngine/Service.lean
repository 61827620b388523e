import ZAF.Framework.SwapRemove
import ZAF.Framework.System

/-! # The service loop of an executor

    An executor keeps what it hosts in three vectors: the actors, their handlers and
    the items that it polls. It has an entry of its own in front. In a round it polls all
    items and calls `receive_once` on every actor that has a message, while the vectors
    grow and shrink: its own handlers add a new actor, or one that another executor
    transfers, or give one away, and actors that have been deactivated are removed.

    The executors of an engine run on their own and tell each other by messages. What
    hosted code does, and which sockets are readable, is up to the environment.
-/

namespace ZAF.Servicing

open SwapRemove

/-! ### Executors -/

/-- What `behavior()` of an actor has returned. -/
structure MessageHandlers where
  behavior_of : Nat
  deriving DecidableEq, Repr

structure PollItem where
  /-- The actor whose receive socket it is. -/
  socket_of : Nat
  /-- `revents & ZMQ_POLLIN` -/
  revents : Bool
  deriving DecidableEq, Repr

/-- The messages of an executor. -/
inductive Message where
  | NewActor (new_actor : Nat)
  | Rebalance (peer : Nat)
  | ActorTransfer (new_actor : Nat) (handler : MessageHandlers)
  | Termination
  deriving DecidableEq

/-- Where `launch` is. -/
inductive Point where
  /-- In `zmq::poll`, at the head of the main loop. -/
  | polling
  /-- At the head of the inner loop. -/
  | scanning (i : Nat)
  /-- In `actors[i]->receive_once(handlers[i])`. -/
  | receiving (i : Nat)
  /-- In `start()` of a new actor, in the handler of `NewActor`. -/
  | starting (new_actor : Nat)
  /-- In its `behavior()`. -/
  | getting_behavior (new_actor : Nat)
  /-- In the loop after the main loop. -/
  | stopping (i : Nat)
  | ended
  deriving DecidableEq

structure Executor where
  actors : List Nat
  handlers : List MessageHandlers
  poll_items : List PollItem
  num_poll_items : Nat
  point : Point
  /-- The actors that polled readable in this round. -/
  readable : List Nat
  /-- The calls of `receive_once` in this round: the actor and the handlers. -/
  served : List (Nat × MessageHandlers)
  /-- The actors that have been given away in this round, if they polled readable. -/
  sent : List Nat
  deriving DecidableEq

/-- What a step of an executor does outside of its vectors. -/
structure Effect where
  /-- An actor that is activated or deactivated. -/
  flag : Option (Nat × Bool) := none
  /-- `stop`, `dec_num_alive_actors` and `delete`. -/
  finish : Option Nat := none
  /-- `send(executors[peer], m)` -/
  send : Option (Nat × Message) := none
  deriving DecidableEq

namespace Executor

def listen_to_actor (x : Executor) (new_actor : Nat) (handler : MessageHandlers) : Executor :=
  { x with
    actors := x.actors ++ [new_actor]
    handlers := x.handlers ++ [handler]
    poll_items := x.poll_items ++ [⟨new_actor, false⟩]
    num_poll_items := x.num_poll_items + 1 }

/-- The removal of a deactivated actor in the service loop. -/
def remove (x : Executor) (i : Nat) : Executor :=
  { x with
    actors := swap_remove x.actors i
    -- the handlers are swapped where the others are assigned
    handlers := (swap_with_back x.handlers i).dropLast
    poll_items := swap_remove x.poll_items i
    num_poll_items := x.num_poll_items - 1 }

/-- What the handler of `Rebalance` swaps. -/
def swap (x : Executor) (i : Nat) : Executor :=
  if i ≠ x.num_poll_items - 1 then
    { x with
      actors := swap_with_back x.actors i
      handlers := swap_with_back x.handlers i
      poll_items := swap_with_back x.poll_items i }
  else x

def pop_back (x : Executor) : Executor :=
  { x with
    actors := x.actors.dropLast
    handlers := x.handlers.dropLast
    poll_items := x.poll_items.dropLast
    num_poll_items := x.num_poll_items - 1
    sent := x.sent ++ ((x.poll_items.getLast?.toList.filter PollItem.revents).map
      PollItem.socket_of) }

/-- The handler of `Rebalance`, where `rand()` returns `r`. -/
def rebalance (x : Executor) (peer r : Nat) : Option (Executor × Effect) :=
  if x.num_poll_items = 1 then some (x, {})
  else
    let i := 1 + r % (x.num_poll_items - 1)
    let x := x.swap i
    match x.actors.getLast?, x.handlers.getLast? with
    | some a, some h => some (x.pop_back, { send := some (peer, .ActorTransfer a h) })
    -- `back()` of an empty vector is not defined
    | _, _ => none

/-- The handlers of `Executor::behavior`. -/
def behavior (x : Executor) (r : Nat) : Message → Option (Executor × Effect)
  | .NewActor a => some ({ x with point := .starting a }, { flag := some (a, true) })
  | .Rebalance peer => ({ x with point := .scanning 1 }).rebalance peer r
  | .ActorTransfer a h => some (({ x with point := .scanning 1 }).listen_to_actor a h, {})
  | .Termination =>
    some ({ x with point := .scanning 1 }, { flag := x.actors.head?.map (·, false) })

/-- What `launch` does next. -/
inductive Step where
  /-- `zmq::poll` returns. -/
  | poll (revents : List Bool)
  /-- The head of the inner loop and the test of `revents`. -/
  | look
  /-- The executor has received a message; `rand()` would return `r`. -/
  | receive (m : Message) (r : Nat)
  /-- Hosted code returns, and leaves the actor activated or deactivated. -/
  | returns (activated : Bool)
  /-- Hosted code throws. -/
  | throws
  /-- The head of the loop after the main loop. -/
  | stop
  deriving DecidableEq

/-- Whether the step takes a message. -/
def Step.receives : Step → Bool
  | .receive _ _ => true
  | _ => false

/-- What comes after `receive_once` of `actors[i]`, which is deactivated by now or not. -/
def leave (x : Executor) (i : Nat) (activated : Bool) : Option (Executor × Effect) :=
  (x.actors[i]?).map fun a =>
    if activated = false ∧ i ≠ 0 then
      -- `i--` is made up for by the `i++` of the loop
      ({ x.remove i with point := .scanning i },
        { flag := some (a, activated), finish := some a })
    else ({ x with point := .scanning (i + 1) }, { flag := some (a, activated) })

def step (x : Executor) (activated : Bool) : Step → Option (Executor × Effect)
  | .poll revents =>
    if x.point = .polling ∧ revents.length = x.poll_items.length then
      let items := x.poll_items.zipWith (fun item revents => { item with revents }) revents
      some ({ x with
        poll_items := items
        point := if true ∈ revents then .scanning 0 else .polling
        readable := (items.filter PollItem.revents).map PollItem.socket_of
        served := []
        sent := [] }, {})
    else none
  | .look =>
    match x.point with
    | .scanning i =>
      if i < x.num_poll_items then
        match x.poll_items[i]?, x.actors[i]?, x.handlers[i]? with
        | some item, some a, some h =>
          if item.revents then
            some ({ x with point := .receiving i, served := x.served ++ [(a, h)] }, {})
          else some ({ x with point := .scanning (i + 1) }, {})
        -- an index out of bounds
        | _, _, _ => none
      else some ({ x with point := if activated then .polling else .stopping 1 }, {})
    | _ => none
  | .receive m r => if x.point = .receiving 0 then x.behavior r m else none
  | .returns activated =>
    match x.point with
    | .starting a =>
      some ({ x with point := if activated then .getting_behavior a else .scanning 1 },
        { flag := some (a, activated) })
    | .getting_behavior a =>
      some (({ x with point := .scanning 1 }).listen_to_actor a ⟨a⟩,
        { flag := some (a, activated) })
    | .receiving i => if i = 0 then none else x.leave i activated
    | _ => none
  | .throws =>
    match x.point with
    -- the exception leaves `receive_once` of the executor itself
    | .starting _ => x.leave 0 false
    | .getting_behavior _ => x.leave 0 false
    | .receiving i => if i = 0 then none else x.leave i false
    | _ => none
  | .stop =>
    match x.point with
    | .stopping i =>
      match x.actors[i]? with
      | some a => some ({ x with point := .stopping (i + 1) }, { finish := some a })
      | none =>
        some ({ x with
          actors := []
          handlers := []
          poll_items := []
          num_poll_items := 0
          point := .ended }, {})
    | _ => none

/-- An executor at its first `zmq::poll`; `e` names it as an actor. -/
def launched (e : Nat) : Executor :=
  ({ actors := [], handlers := [], poll_items := [], num_poll_items := 0, point := .polling,
     readable := [], served := [], sent := [] } : Executor).listen_to_actor e ⟨e⟩

end Executor

/-! ### The engine -/

/-- An engine. Its executors are the actors that are named first. -/
structure Engine where
  executors : List Executor
  next_executor : Nat
  /-- Whether an actor is activated. -/
  activated : Nat → Bool
  /-- The messages on their way, with the executors that they are for. -/
  flight : List (Nat × Message)
  /-- The number of actors so far, executors included. -/
  spawned : Nat
  num_alive_actors : UInt64
  stopped : List Nat
  deleted : List Nat

/-- What happens next. -/
inductive EngineStep where
  | spawn
  /-- An executor is told to terminate. -/
  | terminate (e : Nat)
  /-- An executor is told to send an actor to a peer. -/
  | load_rebalance (e peer : Nat)
  /-- Executor `e` receives the message at index `k` of those on their way. -/
  | receive (e k r : Nat)
  | executor (e : Nat) (step : Executor.Step)
  deriving DecidableEq

namespace Engine

def initialized (num_executors : Nat) : Engine where
  executors := (List.range num_executors).map .launched
  next_executor := 0
  activated := fun a => decide (a < num_executors)
  flight := []
  spawned := num_executors
  num_alive_actors := 0
  stopped := []
  deleted := []

/-- The engine after a step of an executor. -/
def apply (s : Engine) (e : Nat) (x : Executor) (effect : Effect) : Engine :=
  { s with
    executors := s.executors.set e x
    activated := match effect.flag with
      | some (a, b) => Function.update s.activated a b
      | none => s.activated
    flight := s.flight ++ effect.send.toList
    num_alive_actors := match effect.finish with
      | some _ => s.num_alive_actors - 1
      | none => s.num_alive_actors
    stopped := s.stopped ++ effect.finish.toList
    deleted := s.deleted ++ effect.finish.toList }

def next (s : Engine) : EngineStep → Option Engine
  | .spawn =>
    -- a remainder of 0 executors is not defined
    if s.executors.length = 0 then none
    else some { s with
      next_executor := s.next_executor + 1
      flight := s.flight ++ [(s.next_executor % s.executors.length, .NewActor s.spawned)]
      spawned := s.spawned + 1
      num_alive_actors := s.num_alive_actors + 1 }
  | .terminate e => some { s with flight := s.flight ++ [(e, .Termination)] }
  | .load_rebalance e peer => some { s with flight := s.flight ++ [(e, .Rebalance peer)] }
  | .receive e k r =>
    match s.executors[e]?, s.flight[k]? with
    | some x, some (e', m) =>
      if e' = e then
        (x.step (s.activated e) (.receive m r)).map fun (x, effect) =>
          { s with flight := s.flight.eraseIdx k }.apply e x effect
      else none
    | _, _ => none
  | .executor e step =>
    match s.executors[e]? with
    | some x =>
      if step.receives then none
      else (x.step (s.activated e) step).map fun (x, effect) => s.apply e x effect
    | none => none

def system : LTS.System Engine EngineStep where
  init s := ∃ num_executors, s = initialized num_executors
  next := next

end Engine
end ZAF.Servicing
