import Mathlib.Logic.Function.Basic
import ZAF.Framework.System
import ZAF.NetGate.Handle

/-! # Net gates that address each other

    A net gate connects to another one by its url and sends `Ping` until a `Pong` comes
    back. Only then other frames are sent; before, they wait in the entry of the
    connection. Over a connection, a net gate looks up actors that have been registered at
    the other end.

    A net gate is an actor: it handles one message or frame after the other, but a new
    connection makes it wait in the middle of a handler until the receiver that it has
    spawned tells its port. Other messages are put off meanwhile. In each round of its loop,
    `NetGateActor::launch` handles a frame if one has come, and then a message if there was
    one in the socket at the beginning of the round; a message that has been put off is
    not looked for.

    All net gates are bound to the port that they were given, so that `bind_url` is the url
    by which others know them. Frames between two net gates arrive in order; `Ping` and
    `Pong` may be lost.
-/

namespace ZAF

open LTS

abbrev Url := Sized UInt8

abbrev Name := Sized UInt8

/-! ### Frames and messages -/

/-- What is sent when the connection is stable. -/
inductive Data where
  | data_conn_req (connect_host : Host) (connect_port : UInt16)
  | remote_actor_lookup_req (name : Name)
  | remote_actor_lookup_rep (name : Name) (remote_actor : LocalActorHandle)
  deriving DecidableEq

inductive NetFrame where
  | ping
  | pong
  | data (d : Data)
  deriving DecidableEq

/-- The data among some frames. -/
def NetFrame.data? : NetFrame → Option Data
  | .ping => none
  | .pong => none
  | .data d => some d

/-- An `ActorLookupReq`, plain or as a request. -/
structure Lookup where
  serial : Nat
  url : Url
  name : Name
  deriving DecidableEq

/-- An `ActorLookupRep`, with the message that it answers. -/
structure LookupRep where
  lookup : Lookup
  peer : Url
  name : Name
  actor : Actor
  deriving DecidableEq

/-- A message for a net gate. -/
inductive GateMessage where
  | net_gate_conn_req (host : Host) (port : UInt16)
  | actor_registration (name : Name) (actor : Actor)
  | actor_lookup_req (lookup : Lookup)
  | retrieve_actor_req (info : ActorInfo)
  | ping_retry (url : Url)
  deriving DecidableEq

/-! ### The state of a net gate -/

/-- The code of a handler after `establish_connection`. -/
inductive Continuation where
  | net_gate_conn_req
  | actor_lookup_req (lookup : Lookup)
  | retrieve_actor_req (info : ActorInfo)
  | ping
  deriving DecidableEq

inductive Control where
  | idle
  /-- In `establish_connection`, before the sender and the receiver are spawned. -/
  | spawning (url : Url) (k : Continuation)
  /-- In the `on_reply` of `establish_connection`. -/
  | waiting (url : Url) (k : Continuation)
  /-- An exception has ended the net gate. -/
  | stopped
  /-- An `at` has not found a connection with a sender, or a name has not been found. -/
  | failed
  deriving DecidableEq

structure NetGateConn where
  /-- `sender` and `net_sender_info`; there is none before it is spawned. -/
  net_sender_info : Option NetSenderInfo
  is_ponged : Bool
  actor_lookup_requesters : Name → Option (List Lookup)
  pending_messages : List Data
  /-- Every `DataConnReq` sent to the sender. -/
  data_conn_reqs : List (Host × UInt16)

/-- `NetGateConn{}` -/
def NetGateConn.new : NetGateConn := ⟨none, false, fun _ => none, [], []⟩

def NetGateConn.set_requesters (conn : NetGateConn) (name : Name)
    (requesters : Option (List Lookup)) : NetGateConn :=
  { conn with
    actor_lookup_requesters := Function.update conn.actor_lookup_requesters name requesters }

namespace NetGateConn

@[simp] theorem set_requesters_self (conn : NetGateConn) (name : Name)
    (requesters : Option (List Lookup)) :
    (conn.set_requesters name requesters).actor_lookup_requesters name = requesters :=
  Function.update_self ..

theorem set_requesters_of_ne (conn : NetGateConn) {name name' : Name} (h : name' ≠ name)
    (requesters : Option (List Lookup)) :
    (conn.set_requesters name requesters).actor_lookup_requesters name' =
      conn.actor_lookup_requesters name' :=
  Function.update_of_ne h ..

end NetGateConn

structure LocalActor where
  actor : Option LocalActorHandle
  requesters : List Url

structure NetGateActor where
  bind_host : Host
  bind_url : Url
  control : Control
  net_gate_connections : Url → Option NetGateConn
  local_registered_actors : Name → LocalActor
  recv_socket : List GateMessage
  /-- `poll_items[1].revents`, until `receive_once` is called. -/
  revents : Bool
  /-- The messages put off, without the one that is being handled. -/
  pending_messages : List GateMessage
  /-- The urls of the `PingRetry` messages that are delayed. -/
  delayed_messages : List Url
  /-- The frames for each peer that have not arrived. -/
  net_send_socket : Url → List NetFrame
  /-- All calls of `send_to_net_gate`. -/
  called : Url → List Data
  /-- All frames handed to `net_send_socket`. -/
  handed : Url → List NetFrame
  /-- All frames received. -/
  received : Url → List NetFrame
  /-- All lookups that have arrived. -/
  arrived : List Lookup
  replies : List LookupRep
  registered : List (Name × LocalActorHandle)
  retrieved : List (ActorInfo × Actor)

namespace NetGateActor

/-- A net gate that has been bound. -/
def bound (host : Host) (url : Url) : NetGateActor where
  bind_host := host
  bind_url := url
  control := .idle
  net_gate_connections := fun _ => none
  local_registered_actors := fun _ => ⟨none, []⟩
  recv_socket := []
  revents := false
  pending_messages := []
  delayed_messages := []
  net_send_socket := fun _ => []
  called := fun _ => []
  handed := fun _ => []
  received := fun _ => []
  arrived := []
  replies := []
  registered := []
  retrieved := []

/-! ### Sending -/

def set_conn (g : NetGateActor) (url : Url) (conn : NetGateConn) : NetGateActor :=
  { g with net_gate_connections := Function.update g.net_gate_connections url (some conn) }

/-- `net_gate_connections.at(url)`, whose sender must be there. -/
def conn_at (g : NetGateActor) (url : Url) : Option NetGateConn :=
  (g.net_gate_connections url).filter fun conn => conn.net_sender_info.isSome

/-- `net_send_socket.send` -/
def hand (g : NetGateActor) (url : Url) (frames : List NetFrame) : NetGateActor :=
  { g with
    net_send_socket := Function.update g.net_send_socket url (g.net_send_socket url ++ frames)
    handed := Function.update g.handed url (g.handed url ++ frames) }

def imme_send_to_net_gate (g : NetGateActor) (url : Url) (frame : NetFrame) : NetGateActor :=
  g.hand url [frame]

def send_to_net_gate (g : NetGateActor) (url : Url) (d : Data) : Option NetGateActor :=
  (g.conn_at url).map fun conn =>
    let g := { g with called := Function.update g.called url (g.called url ++ [d]) }
    if conn.is_ponged then g.hand url [.data d]
    else g.set_conn url { conn with pending_messages := conn.pending_messages ++ [d] }

def ping_net_gate (g : NetGateActor) (url : Url) : Option NetGateActor :=
  (g.net_gate_connections url).map fun conn =>
    if conn.is_ponged then g
    else { g.imme_send_to_net_gate url .ping with
      delayed_messages := g.delayed_messages ++ [url] }

def receive_pong (g : NetGateActor) (peer : Url) : Option NetGateActor :=
  (g.conn_at peer).map fun conn =>
    if conn.is_ponged then g
    else (g.hand peer (conn.pending_messages.map .data)).set_conn peer
      { conn with is_ponged := true, pending_messages := [] }

/-! ### Handlers -/

/-- The handler of `ActorLookupReq` after `establish_connection`. -/
def look_up (g : NetGateActor) (lookup : Lookup) : Option NetGateActor := do
  let conn ← g.net_gate_connections lookup.url
  let requesters := (conn.actor_lookup_requesters lookup.name).getD []
  let g ←
    if requesters.isEmpty then
      g.send_to_net_gate lookup.url (.remote_actor_lookup_req lookup.name)
    else some g
  -- `requesters` is a reference: the entry is looked at again
  let conn ← g.net_gate_connections lookup.url
  return g.set_conn lookup.url
    (conn.set_requesters lookup.name (some (requesters ++ [lookup])))

/-- The handlers after `establish_connection`. -/
def resume (g : NetGateActor) (url : Url) : Continuation → Option NetGateActor
  | .net_gate_conn_req => some g
  | .actor_lookup_req lookup => g.look_up lookup
  | .retrieve_actor_req info => do
    let conn ← g.conn_at url
    let net_sender_info ← conn.net_sender_info
    return { g with
      retrieved := g.retrieved ++ [(info, .remote_actor ⟨net_sender_info, info.actor⟩)] }
  | .ping => some (g.imme_send_to_net_gate url .pong)

/-- `establish_connection`, up to where the sender is spawned, or to its end if there is a
    connection. -/
def establish_connection (g : NetGateActor) (url : Url) (k : Continuation) :
    Option NetGateActor :=
  match g.net_gate_connections url with
  | some _ => g.resume url k
  | none =>
    ((g.set_conn url .new).ping_net_gate url).map fun g => { g with control := .spawning url k }

/-- The sender and the receiver are spawned; the receiver is asked for its port. -/
def spawn (g : NetGateActor) (url : Url) (k : Continuation) (sender : LocalActorHandle) :
    Option NetGateActor :=
  (g.net_gate_connections url).map fun conn =>
    { g.set_conn url { conn with net_sender_info := some ⟨sender, g.bind_url, url⟩ } with
      control := .waiting url k }

/-- The handler of `BindPortRep`, and what comes after `on_reply`. -/
def bind_port_rep (g : NetGateActor) (url : Url) (k : Continuation) (port : UInt16) :
    Option NetGateActor :=
  (g.send_to_net_gate url (.data_conn_req g.bind_host port)).bind fun g =>
    resume { g with control := .idle } url k

def actor_registration (g : NetGateActor) (name : Name) (l : LocalActorHandle) :
    Option NetGateActor :=
  let requesters := (g.local_registered_actors name).requesters
  let g := { g with
    local_registered_actors := Function.update g.local_registered_actors name ⟨some l, requesters⟩
    registered := g.registered ++ [(name, l)] }
  let rep := .remote_actor_lookup_rep name l
  (requesters.foldlM (fun (g : NetGateActor) i => g.send_to_net_gate i rep) g).map fun g =>
    { g with
      local_registered_actors := Function.update g.local_registered_actors name ⟨some l, []⟩ }

/-- The handlers of messages. -/
def process (g : NetGateActor) : GateMessage → Option NetGateActor
  | .net_gate_conn_req host port => g.establish_connection (gate_url host port) .net_gate_conn_req
  | .actor_registration name (.local_actor l) => g.actor_registration name l
  | .actor_registration _ (.remote_actor _) => some { g with control := .stopped }
  | .actor_lookup_req lookup => g.establish_connection lookup.url (.actor_lookup_req lookup)
  | .retrieve_actor_req info =>
    if info.net_gate_url = g.bind_url then
      some { g with retrieved := g.retrieved ++ [(info, .local_actor info.actor)] }
    else g.establish_connection info.net_gate_url (.retrieve_actor_req info)
  | .ping_retry url => g.ping_net_gate url

def remote_actor_lookup_req (g : NetGateActor) (peer : Url) (name : Name) : Option NetGateActor :=
  let local_actor := g.local_registered_actors name
  match local_actor.actor with
  | some l => g.send_to_net_gate peer (.remote_actor_lookup_rep name l)
  | none => some { g with
      local_registered_actors := Function.update g.local_registered_actors name
        { local_actor with requesters := local_actor.requesters ++ [peer] } }

def remote_actor_lookup_rep (g : NetGateActor) (peer : Url) (name : Name)
    (remote_actor : LocalActorHandle) : Option NetGateActor := do
  let conn ← g.conn_at peer
  let requesters ← conn.actor_lookup_requesters name
  let net_sender_info ← conn.net_sender_info
  return { g.set_conn peer (conn.set_requesters name none) with
    replies := g.replies ++ requesters.map fun lookup =>
      ⟨lookup, peer, name, .remote_actor ⟨net_sender_info, remote_actor⟩⟩ }

/-- The handlers of frames from `peer`. -/
def process_frame (g : NetGateActor) (peer : Url) : NetFrame → Option NetGateActor
  | .ping => g.establish_connection peer .ping
  | .pong => g.receive_pong peer
  | .data (.data_conn_req host port) =>
    (g.conn_at peer).map fun conn =>
      g.set_conn peer { conn with data_conn_reqs := conn.data_conn_reqs ++ [(host, port)] }
  | .data (.remote_actor_lookup_req name) => g.remote_actor_lookup_req peer name
  | .data (.remote_actor_lookup_rep name remote_actor) =>
    g.remote_actor_lookup_rep peer name remote_actor

/-! ### Receiving -/

/-- A message arrives. A lookup gets the next serial number. -/
def arrive (g : NetGateActor) : GateMessage → NetGateActor
  | .actor_lookup_req ⟨_, url, name⟩ =>
    let lookup := ⟨g.arrived.length, url, name⟩
    { g with
      recv_socket := g.recv_socket ++ [.actor_lookup_req lookup]
      arrived := g.arrived ++ [lookup] }
  | m => { g with recv_socket := g.recv_socket ++ [m] }

/-- `zmq::poll` reports what there is to read. -/
def poll (g : NetGateActor) : NetGateActor := { g with revents := !g.recv_socket.isEmpty }

/-- The message that `receive_once` takes, and what is left. -/
def take_message (g : NetGateActor) : Option (GateMessage × NetGateActor) :=
  match g.pending_messages, g.recv_socket with
  | m :: pending_messages, _ => some (m, { g with pending_messages, revents := false })
  | [], m :: recv_socket => some (m, { g with recv_socket, revents := false })
  | [], [] => none

/-- A message is put off by `on_reply`. -/
def defer_message (g : NetGateActor) : Option NetGateActor :=
  match g.recv_socket with
  | m :: recv_socket => some { g with recv_socket, pending_messages := g.pending_messages ++ [m] }
  | [] => none

/-- `flush_delayed_messages` sends a `PingRetry`. -/
def flush (g : NetGateActor) : Option NetGateActor :=
  match g.delayed_messages with
  | url :: delayed_messages =>
    some { g with delayed_messages, recv_socket := g.recv_socket ++ [.ping_retry url] }
  | [] => none

def set_frames (g : NetGateActor) (url : Url) (frames : List NetFrame) : NetGateActor :=
  { g with net_send_socket := Function.update g.net_send_socket url frames }

def log_frame (g : NetGateActor) (peer : Url) (frame : NetFrame) : NetGateActor :=
  { g with received := Function.update g.received peer (g.received peer ++ [frame]) }

/-- The result of a handler, which may have come to an error branch. -/
def checked (g : NetGateActor) (result : Option NetGateActor) : NetGateActor :=
  result.getD { g with control := .failed }

end NetGateActor

/-! ### Net gates together -/

/-- All net gates, by their urls. -/
abbrev NetGates := Url → NetGateActor

inductive NetGateStep where
  | arrive (x : Url) (m : GateMessage)
  /-- A round of the loop of `x` in which no frame has come. -/
  | poll (x : Url)
  | receive_once (x : Url)
  /-- A round of the loop of `x` in which a frame from `y` has come. -/
  | receive_frame (x y : Url)
  /-- A `Ping` or `Pong` from `y` to `x` is lost. -/
  | lose (x y : Url) (i : Nat)
  | spawn (x : Url) (sender : LocalActorHandle)
  | bind_port_rep (x : Url) (port : UInt16)
  | defer (x : Url)
  | flush (x : Url)

namespace NetGates

open NetGateActor

/-- The step of one net gate. -/
def set (s : NetGates) (x : Url) (g : NetGateActor) : NetGates := Function.update s x g

/-- `x` polls its sockets. -/
def polled (s : NetGates) (x : Url) : NetGates := s.set x (s x).poll

/-- A frame from `y` has reached `x`. -/
def arrived_frame (s : NetGates) (x y : Url) (frame : NetFrame) (rest : List NetFrame) : NetGates :=
  let s := s.set y ((s y).set_frames x rest)
  s.set x ((s x).log_frame y frame)

def next (s : NetGates) : NetGateStep → Option NetGates
  | .arrive x m =>
    match m with
    -- only a net gate itself sends this one
    | .ping_retry _ => none
    | m => some (s.set x ((s x).arrive m))
  | .poll x =>
    if (s x).control = .idle ∧ (s x).revents = false then some (s.polled x) else none
  | .receive_once x =>
    if (s x).control = .idle ∧ (s x).revents = true then
      (s x).take_message.map fun (m, g) => s.set x (g.checked (g.process m))
    else none
  | .receive_frame x y =>
    if (s x).control = .idle ∧ (s x).revents = false then
      match (s y).net_send_socket x with
      | frame :: rest =>
        let s := (s.polled x).arrived_frame x y frame rest
        some (s.set x ((s x).checked ((s x).process_frame y frame)))
      | [] => none
    else none
  | .lose x y i =>
    match ((s y).net_send_socket x)[i]? with
    | some .ping | some .pong =>
      some (s.set y ((s y).set_frames x (((s y).net_send_socket x).eraseIdx i)))
    | _ => none
  | .spawn x sender =>
    match (s x).control with
    | .spawning url k => some (s.set x ((s x).checked ((s x).spawn url k sender)))
    | _ => none
  | .bind_port_rep x port =>
    match (s x).control with
    | .waiting url k => some (s.set x ((s x).checked ((s x).bind_port_rep url k port)))
    | _ => none
  | .defer x =>
    match (s x).control with
    | .waiting _ _ => (s x).defer_message.map (s.set x)
    | _ => none
  | .flush x => (s x).flush.map (s.set x)

def system : System NetGates NetGateStep where
  init s := ∀ x, ∃ host, s x = bound host x
  next := next

end NetGates

end ZAF
