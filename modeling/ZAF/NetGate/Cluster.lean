import ZAF.NetGate.Framing
import ZAF.NetGate.Stopping
import ZAF.NetGate.Wiring

/-! # Net gates with their senders and receivers

    For each peer, a net gate spawns a sender and a receiver. The receiver binds a port of
    its own, which the peer is told, and the peer tells its sender, which connects. From
    then on, a message for an actor of the peer goes from the sender of one net gate to the
    receiver of the other, past the net gates themselves.

    A sender knows only where it has been told to connect, and an actor knows only the
    sender in a handle. That a message ends up at the machine of the actor it is for, and
    that a reply finds the way back, is a matter of all of them together.

    The ids of actors are unique in a process, a host is one machine, and no two sockets of
    a machine are bound to the same port.
-/

namespace ZAF

open LTS

/-! ### Senders and receivers -/

/-- The sender of a net gate for a peer, and its socket. -/
structure NetSender (codecs : Codecs) (β : Type) where
  run : SenderRun
  /-- Where `net_send_socket` is connected to. -/
  connections : List Endpoint
  /-- The messages that it has been asked to forward. -/
  accepted : List (RemoteSend codecs β)
  /-- How many batches have left `net_send_socket`. -/
  taken : Nat

/-- A sender that has just been spawned. -/
def NetSender.spawned {codecs : Codecs} {β : Type} : NetSender codecs β := ⟨.spawned, [], [], 0⟩

/-- The receiver of a net gate for a peer. -/
structure NetReceiver where
  net_sender_info : NetSenderInfo
  /-- The port of `net_recv_socket`. -/
  bind_port : UInt16
  delivered : List Delivery
  /-- Until its `Termination`. -/
  activated : Bool

/-- A receiver that has just been spawned. -/
def NetReceiver.spawned (net_sender_info : NetSenderInfo) (bind_port : UInt16) : NetReceiver :=
  ⟨net_sender_info, bind_port, [], true⟩

/-- All net gates, and the sender and the receiver of each for each of its peers. -/
structure Cluster (codecs : Codecs) (β : Type) where
  gates : NetGates
  senders : Url → Url → Option (NetSender codecs β)
  receivers : Url → Url → Option NetReceiver
  /-- The ids of the senders of each net gate. -/
  ids : List (Url × LocalActorHandle)
  /-- The endpoints that receivers are bound to. -/
  bound : List Endpoint

/-- What happens to the net gate `x`, or between `x` and its peer `y`. -/
inductive ClusterStep (codecs : Codecs) (β : Type) where
  /-- A step of the net gates in which nothing is spawned and no port is told. -/
  | gate (l : NetGateStep)
  /-- A sender is spawned, and a receiver that is bound to `port`. -/
  | spawn (x : Url) (sender : LocalActorHandle) (port : UInt16)
  /-- The receiver has told its port. -/
  | bind_port_rep (x : Url)
  /-- `m` has been sent with the handle `r`, and its sender forwards it. -/
  | forward (x y : Url) (r : RemoteActorHandle) (m : RemoteSend codecs β)
  /-- The sender gets the next `DataConnReq`. -/
  | data_conn_req (x y : Url)
  /-- Another step of the sender. -/
  | sender (x y : Url) (step : SenderStep)
  /-- The receiver of `x` for `y` takes the next batch of the sender of `a` for `b`. -/
  | receive (x y a b : Url)
  /-- The receiver of `x` for `y` gets the `Termination` from its net gate. -/
  | terminate (x y : Url)

namespace Cluster

variable {codecs : Codecs} {β β' : Type} (bodies : BodyCodec β β') (connects : List UInt8 → Bool)

/-- One sender is another one. -/
def set_sender (c : Cluster codecs β) (x y : Url) (q : NetSender codecs β) : Cluster codecs β :=
  { c with senders := Function.update c.senders x (Function.update (c.senders x) y (some q)) }

def set_receiver (c : Cluster codecs β) (x y : Url) (r : NetReceiver) : Cluster codecs β :=
  { c with receivers := Function.update c.receivers x (Function.update (c.receivers x) y (some r)) }

/-- The `net_sender_info` of `x` for `y`. -/
def info (c : Cluster codecs β) (x y : Url) : Option NetSenderInfo := ((c.gates x).link y).info

/-- The endpoint of a receiver of `x`. -/
def endpoint (c : Cluster codecs β) (x : Url) (r : NetReceiver) : Endpoint :=
  ((c.gates x).bind_host, r.bind_port)

/-- Steps that a sender makes by itself, and the `Termination` from its net gate. -/
def own_step : SenderStep → Bool
  | .receive .termination => true
  | .receive _ => false
  | _ => true

def next (c : Cluster codecs β) : ClusterStep codecs β → Option (Cluster codecs β)
  | .gate l =>
    if NetGates.Plain l then (c.gates.next l).map fun gates => { c with gates } else none
  | .spawn x sender port =>
    match (c.gates x).control with
    | .spawning url _ =>
      if (x, sender) ∉ c.ids ∧ ((c.gates x).bind_host, port) ∉ c.bound then
        -- `net_sender_info` is a reference to the one in the entry of the connection
        let r := NetReceiver.spawned ⟨sender, (c.gates x).bind_url, url⟩ port
        (c.gates.next (.spawn x sender)).map fun gates =>
          { (c.set_sender x url .spawned).set_receiver x url r with
            gates
            ids := (x, sender) :: c.ids
            bound := ((c.gates x).bind_host, port) :: c.bound }
      else none
    | _ => none
  | .bind_port_rep x =>
    match (c.gates x).control with
    | .waiting url _ => do
      let r ← c.receivers x url
      let gates ← c.gates.next (.bind_port_rep x r.bind_port)
      return { c with gates }
    | _ => none
  | .forward x y r m => do
    let q ← c.senders x y
    let net_sender_info ← c.info x y
    -- a message is sent to the actor in the handle
    if net_sender_info.net_sender = r.net_sender_info.net_sender ∧ m.recv = r.remote_actor then
      let bytes ← MessageBytes.make bodies m
      let run ← q.run.next connects (.receive (.forward_message bytes))
      return c.set_sender x y { q with run, accepted := q.accepted ++ [m] }
    else none
  | .data_conn_req x y => do
    let q ← c.senders x y
    let (host, port) ← ((c.gates x).link y).endpoints[q.connections.length]?
    let run ← q.run.next connects (.receive (.data_conn_req host port))
    return c.set_sender x y { q with run, connections := q.connections ++ [(host, port)] }
  | .sender x y step => do
    let q ← c.senders x y
    if own_step step then
      let run ← q.run.next connects step
      return c.set_sender x y { q with run }
    else none
  | .receive x y a b => do
    let r ← c.receivers x y
    let q ← c.senders a b
    if r.activated ∧ c.endpoint x r ∈ q.connections then
      let frames ← q.run.sender.net_send_socket[q.taken]?
      let (ds, _) ← Receiver.receive_once_from_net r.net_sender_info frames
      return (c.set_sender a b { q with taken := q.taken + 1 }).set_receiver x y
        { r with delivered := r.delivered ++ ds }
    else none
  | .terminate x y => do
    let r ← c.receivers x y
    -- the net gate puts its own `Termination` off while it is in a handler
    if r.activated ∧ (c.gates x).control = .idle then
      return c.set_receiver x y { r with activated := false }
    else none

def system : System (Cluster codecs β) (ClusterStep codecs β) where
  init c := NetGates.system.init c.gates ∧ (∀ x y, c.senders x y = none) ∧
    (∀ x y, c.receivers x y = none) ∧ c.ids = [] ∧ c.bound = []
  next := next bodies connects

variable {bodies connects} {c c' : Cluster codecs β}

variable (bodies connects) in
/-- What a step does. -/
inductive Stepped (c : Cluster codecs β) : ClusterStep codecs β → Cluster codecs β → Prop where
  | gate (l : NetGateStep) (gates : NetGates) (hplain : NetGates.Plain l)
      (hgates : c.gates.next l = some gates) : Stepped c (.gate l) { c with gates }
  | spawn (x url : Url) (k : Continuation) (sender : LocalActorHandle) (port : UInt16)
      (gates : NetGates) (hcontrol : (c.gates x).control = .spawning url k)
      (hid : (x, sender) ∉ c.ids) (hport : ((c.gates x).bind_host, port) ∉ c.bound)
      (hgates : c.gates.next (.spawn x sender) = some gates) :
      Stepped c (.spawn x sender port)
        { (c.set_sender x url .spawned).set_receiver x url
            (.spawned ⟨sender, (c.gates x).bind_url, url⟩ port) with
          gates
          ids := (x, sender) :: c.ids
          bound := ((c.gates x).bind_host, port) :: c.bound }
  | bind_port_rep (x url : Url) (k : Continuation) (r : NetReceiver) (gates : NetGates)
      (hcontrol : (c.gates x).control = .waiting url k) (hr : c.receivers x url = some r)
      (hgates : c.gates.next (.bind_port_rep x r.bind_port) = some gates) :
      Stepped c (.bind_port_rep x) { c with gates }
  | forward (x y : Url) (r : RemoteActorHandle) (m : RemoteSend codecs β) (q : NetSender codecs β)
      (info : NetSenderInfo) (run : SenderRun) (hq : c.senders x y = some q)
      (hinfo : c.info x y = some info) (hsender : info.net_sender = r.net_sender_info.net_sender)
      (hrecv : m.recv = r.remote_actor)
      (hrun : q.run.next connects (.receive (.forward_message (m.encoded bodies))) = some run) :
      Stepped c (.forward x y r m) (c.set_sender x y { q with run, accepted := q.accepted ++ [m] })
  | data_conn_req (x y : Url) (q : NetSender codecs β) (host : Host) (port : UInt16)
      (run : SenderRun) (hq : c.senders x y = some q)
      (hget : ((c.gates x).link y).endpoints[q.connections.length]? = some (host, port))
      (hrun : q.run.next connects (.receive (.data_conn_req host port)) = some run) :
      Stepped c (.data_conn_req x y)
        (c.set_sender x y { q with run, connections := q.connections ++ [(host, port)] })
  | sender (x y : Url) (step : SenderStep) (q : NetSender codecs β) (run : SenderRun)
      (hq : c.senders x y = some q) (hown : own_step step = true)
      (hrun : q.run.next connects step = some run) :
      Stepped c (.sender x y step) (c.set_sender x y { q with run })
  | receive (x y a b : Url) (r : NetReceiver) (q : NetSender codecs β)
      (frames : List UInt8 × List UInt8) (ds : List Delivery) (rest : List UInt8)
      (hr : c.receivers x y = some r) (hq : c.senders a b = some q)
      (hactivated : r.activated = true) (hmem : c.endpoint x r ∈ q.connections)
      (hframes : q.run.sender.net_send_socket[q.taken]? = some frames)
      (hread : Receiver.receive_once_from_net r.net_sender_info frames = some (ds, rest)) :
      Stepped c (.receive x y a b)
        ((c.set_sender a b { q with taken := q.taken + 1 }).set_receiver x y
          { r with delivered := r.delivered ++ ds })
  | terminate (x y : Url) (r : NetReceiver) (hr : c.receivers x y = some r)
      (hactivated : r.activated = true) (hidle : (c.gates x).control = .idle) :
      Stepped c (.terminate x y) (c.set_receiver x y { r with activated := false })

theorem stepped_of_next {l : ClusterStep codecs β} (hnext : c.next bodies connects l = some c') :
    c.Stepped bodies connects l c' := by
  cases l with
  | gate l =>
    simp only [Cluster.next] at hnext
    split at hnext
    · next hplain =>
      obtain ⟨gates, hgates, rfl⟩ := Option.map_eq_some_iff.mp hnext
      exact .gate l gates hplain hgates
    · cases hnext
  | spawn x sender port =>
    simp only [Cluster.next] at hnext
    split at hnext
    · next url k hcontrol =>
      split at hnext
      · next hfresh =>
        obtain ⟨gates, hgates, rfl⟩ := Option.map_eq_some_iff.mp hnext
        exact .spawn x url k sender port gates hcontrol hfresh.1 hfresh.2 hgates
      · cases hnext
    · cases hnext
  | bind_port_rep x =>
    simp only [Cluster.next] at hnext
    split at hnext
    · next url k hcontrol =>
      obtain ⟨r, hr, hrest⟩ := Option.bind_eq_some_iff.mp hnext
      obtain ⟨gates, hgates, heq⟩ := Option.bind_eq_some_iff.mp hrest
      cases heq
      exact .bind_port_rep x url k r gates hcontrol hr hgates
    · cases hnext
  | forward x y r m =>
    obtain ⟨q, hq, hrest⟩ := Option.bind_eq_some_iff.mp hnext
    obtain ⟨info, hinfo, hrest⟩ := Option.bind_eq_some_iff.mp hrest
    split at hrest
    · next hto =>
      obtain ⟨bytes, hbytes, hrest⟩ := Option.bind_eq_some_iff.mp hrest
      obtain ⟨run, hrun, heq⟩ := Option.bind_eq_some_iff.mp hrest
      cases heq
      cases (MessageBytes.make_eq bodies m).symm.trans hbytes
      exact .forward x y r m q info run hq hinfo hto.1 hto.2 hrun
    · cases hrest
  | data_conn_req x y =>
    obtain ⟨q, hq, hrest⟩ := Option.bind_eq_some_iff.mp hnext
    obtain ⟨⟨host, port⟩, hget, hrest⟩ := Option.bind_eq_some_iff.mp hrest
    obtain ⟨run, hrun, heq⟩ := Option.bind_eq_some_iff.mp hrest
    cases heq
    exact .data_conn_req x y q host port run hq hget hrun
  | sender x y step =>
    obtain ⟨q, hq, hrest⟩ := Option.bind_eq_some_iff.mp hnext
    split at hrest
    · next hown =>
      obtain ⟨run, hrun, heq⟩ := Option.bind_eq_some_iff.mp hrest
      cases heq
      exact .sender x y step q run hq hown hrun
    · cases hrest
  | receive x y a b =>
    obtain ⟨r, hr, hrest⟩ := Option.bind_eq_some_iff.mp hnext
    obtain ⟨q, hq, hrest⟩ := Option.bind_eq_some_iff.mp hrest
    split at hrest
    · next hopen =>
      obtain ⟨frames, hframes, hrest⟩ := Option.bind_eq_some_iff.mp hrest
      obtain ⟨⟨ds, rest⟩, hread, heq⟩ := Option.bind_eq_some_iff.mp hrest
      cases heq
      exact .receive x y a b r q frames ds rest hr hq hopen.1 hopen.2 hframes hread
    · cases hrest
  | terminate x y =>
    obtain ⟨r, hr, hrest⟩ := Option.bind_eq_some_iff.mp hnext
    split at hrest
    · next hends =>
      cases hrest
      exact .terminate x y r hr hends.1 hends.2
    · cases hrest

end Cluster
end ZAF
