import ZAF.Framework.Desk
import ZAF.NetGate.Agreement

/-! # Lookups of actors

    For its lookups, a net gate is a desk: the lookups of a name at a peer are merged, and
    one answer is for all of them. The answers are right because a net gate answers only
    with what has been registered there.
-/

namespace ZAF

open LTS

/-! ### The lookups in the data of a net gate -/

/-- Lookups are merged when they ask for the same name at the same peer. -/
abbrev LookupKey := Url × Name

def Lookup.key (lookup : Lookup) : LookupKey := (lookup.url, lookup.name)

/-- The lookup that a message carries. -/
def GateMessage.lookup? : GateMessage → Option Lookup
  | .actor_lookup_req lookup => some lookup
  | _ => none

/-- The lookup that the handler goes on with once the connection is there. -/
def Continuation.lookup? : Continuation → Option Lookup
  | .actor_lookup_req lookup => some lookup
  | _ => none

/-- The lookup whose handler waits for a connection. -/
def Control.lookup? (control : Control) : Option Lookup :=
  control.establishing.bind fun (_, k) => k.lookup?

/-- The lookups that wait at the entry of a peer. -/
def Link.requesters (l : Link) (name : Name) : List Lookup :=
  l.conn.elim [] fun conn => (conn.actor_lookup_requesters name).getD []

/-- How many requests have been made. -/
def Link.opened (l : Link) (name : Name) : Nat := l.called.count (.remote_actor_lookup_req name)

/-- How many answers have been received. -/
def Link.closed (l : Link) (name : Name) : Nat := l.received.countP (·.is_rep name)

/-- The desk of one net gate. -/
abbrev LookupDesk := Desk.State LookupKey Lookup Actor

def LookupDesk.system : System LookupDesk (Desk.Label LookupKey Lookup Actor) :=
  Desk.system Lookup.key

/-- A net gate, as a desk for lookups. -/
def NetGateActor.desk (g : NetGateActor) : LookupDesk where
  queued := (g.pending_messages ++ g.recv_socket).filterMap GateMessage.lookup?
  hand := g.control.lookup?
  waiting k := (g.link k.1).requesters k.2
  arrived := g.arrived
  answered := g.replies.map fun rep => (rep.lookup, (rep.peer, rep.name), rep.actor)
  opened k := (g.link k.1).opened k.2
  closed k := (g.link k.1).closed k.2

/-- The handles that some data carry. -/
def Data.answers : Data → List (Name × LocalActorHandle)
  | .remote_actor_lookup_rep name l => [(name, l)]
  | _ => []

namespace Link

/-! ### Changes that the desk does not see -/

/-- A link becomes another one when something is sent that is no request; the answers among
    it carry what is in `sent`. -/
structure Sends (l l' : Link) (sent : List (Name × LocalActorHandle)) : Prop where
  requesters : l'.requesters = l.requesters
  opened : l'.opened = l.opened
  closed : l'.closed = l.closed
  answers : ∀ p ∈ l'.called.flatMap Data.answers, p ∈ l.called.flatMap Data.answers ∨ p ∈ sent

variable {l : Link} {conn conn' : NetGateConn}

theorem requesters_eq (hconn : l.conn = some conn) (name : Name) :
    l.requesters name = (conn.actor_lookup_requesters name).getD [] := by
  rw [requesters, hconn]
  rfl

/-- An entry has its own requesters, whatever the rest of the link is. -/
theorem requesters_some (l : Link) (conn : NetGateConn) :
    Link.requesters { l with conn := some conn } =
      fun name => (conn.actor_lookup_requesters name).getD [] := rfl

theorem sends_hand (l : Link) (frames : List NetFrame) : l.Sends (l.hand frames) [] :=
  ⟨rfl, rfl, rfl, fun _ => .inl⟩

theorem sends_set_conn (hconn : l.conn = some conn)
    (hrequesters : conn'.actor_lookup_requesters = conn.actor_lookup_requesters) :
    l.Sends { l with conn := some conn' } [] := by
  refine ⟨funext fun name => ?_, rfl, rfl, fun _ => .inl⟩
  rw [requesters_some, requesters_eq hconn, hrequesters]

/-- A new entry has no requesters, as has no entry. -/
theorem sends_new (hnone : l.conn = none) :
    l.Sends (hand { l with conn := some .new } [.ping]) [] := by
  refine ⟨funext fun name => ?_, rfl, rfl, fun _ => .inl⟩
  rw [requesters, requesters, hnone]
  rfl

/-- The first `Pong` hands over what is pending: it has been counted when it was sent. -/
theorem sends_pong (hconn : l.conn = some conn) : l.Sends (l.pong conn) [] := by
  refine ⟨funext fun name => ?_, rfl, rfl, fun _ => .inl⟩
  rw [requesters_eq hconn]
  rfl

/-- `send_to_net_gate` keeps or queues the data, and no requester is touched. -/
theorem requesters_send (hconn : l.conn = some conn) (d : Data) :
    (l.send conn d).requesters = l.requesters := by
  obtain ⟨conn', hconn', -, -, hrequesters⟩ := conn_send hconn d
  funext name
  rw [requesters_eq hconn', hrequesters, requesters_eq hconn]

theorem called_send (l : Link) (conn : NetGateConn) (d : Data) :
    (l.send conn d).called = l.called ++ [d] := by
  unfold send
  split <;> rfl

theorem closed_send (l : Link) (conn : NetGateConn) (d : Data) :
    (l.send conn d).closed = l.closed := by
  unfold send
  split <;> rfl

/-- Only a request of the name opens one. -/
theorem opened_send (l : Link) (conn : NetGateConn) (d : Data) (name : Name) :
    (l.send conn d).opened name =
      l.opened name + if d = .remote_actor_lookup_req name then 1 else 0 := by
  rw [opened, called_send, List.count_append, List.count_singleton]
  simp only [beq_iff_eq]
  rfl

theorem answers_send (l : Link) (conn : NetGateConn) (d : Data) :
    (l.send conn d).called.flatMap Data.answers = l.called.flatMap Data.answers ++ d.answers := by
  rw [called_send, List.flatMap_append, List.flatMap_singleton]

/-- What is sent and is no request changes the answers only. -/
theorem sends_send (hconn : l.conn = some conn) {d : Data}
    (hd : ∀ name, d ≠ .remote_actor_lookup_req name) : l.Sends (l.send conn d) d.answers := by
  refine ⟨requesters_send hconn d, funext fun name => ?_, closed_send l conn d, fun p hp => ?_⟩
  · rw [opened_send, if_neg (hd name), Nat.add_zero]
  · rw [answers_send] at hp
    exact List.mem_append.mp hp

/-! ### Changes that the desk sees -/

/-- To set the requesters of one name is to update the function of them. -/
theorem requesters_set_requesters (l : Link) (conn : NetGateConn) (name : Name)
    (requesters : Option (List Lookup)) :
    Link.requesters { l with conn := some (conn.set_requesters name requesters) } =
      Function.update (Link.requesters { l with conn := some conn }) name
        (requesters.getD []) := by
  funext name'
  rw [requesters_some, requesters_some]
  dsimp only
  by_cases hname : name' = name
  · rw [hname, NetGateConn.set_requesters_self, Function.update_self]
  · rw [NetGateConn.set_requesters_of_ne conn hname, Function.update_of_ne hname]

/-- A lookup waits, and a request is made for the first one. -/
structure Asks (l l' : Link) (lookup : Lookup) : Prop where
  requesters : l'.requesters =
    Function.update l.requesters lookup.name (l.requesters lookup.name ++ [lookup])
  opened : l'.opened =
    if (l.requesters lookup.name).isEmpty then
      Function.update l.opened lookup.name (l.opened lookup.name + 1)
    else l.opened
  closed : l'.closed = l.closed
  answers : l'.called.flatMap Data.answers = l.called.flatMap Data.answers

/-- The `try_emplace` of `actor_lookup_requesters`: only the first lookup of a name makes a
    request. -/
theorem asks_ask (hconn : l.conn = some conn) (lookup : Lookup) :
    l.Asks (l.ask conn lookup) lookup := by
  have hreq := requesters_eq hconn lookup.name
  unfold ask
  dsimp only
  rw [← hreq]
  split
  · next hempty =>
    obtain ⟨conn', hconn', -, -, -⟩ := conn_send hconn (.remote_actor_lookup_req lookup.name)
    have hsame : Link.requesters { l.send conn (.remote_actor_lookup_req lookup.name) with
        conn := some conn' } = l.requesters := by
      rw [← hconn']
      exact requesters_send hconn _
    rw [hconn', Option.map_some]
    refine ⟨?_, ?_, closed_send l conn _, ?_⟩
    · rw [requesters_set_requesters, hsame]
      rfl
    · rw [if_pos hempty]
      funext name
      refine (opened_send l conn _ name).trans ?_
      by_cases hname : name = lookup.name
      · rw [hname, Function.update_self, if_pos rfl]
      · rw [Function.update_of_ne hname, if_neg fun heq => hname (by cases heq; rfl), Nat.add_zero]
    · exact (answers_send l conn _).trans (List.append_nil _)
  · next hnonempty =>
    rw [hconn, Option.map_some]
    refine ⟨?_, ?_, rfl, rfl⟩
    · rw [requesters_set_requesters, ← hconn]
      rfl
    · rw [if_neg hnonempty]
      rfl

/-- All that wait get an answer. -/
structure Concludes (l l' : Link) (name : Name) : Prop where
  requesters : l'.requesters = Function.update l.requesters name []
  opened : l'.opened = l.opened
  closed : l'.closed = Function.update l.closed name (l.closed name + 1)
  answers : l'.called.flatMap Data.answers = l.called.flatMap Data.answers

/-- The answer is received and the entry of its name erased. -/
theorem concludes_set_requesters (hconn : l.conn = some conn) (name : Name)
    (actor : LocalActorHandle) :
    l.Concludes { l with
      conn := some (conn.set_requesters name none)
      received := l.received ++ [.data (.remote_actor_lookup_rep name actor)] } name := by
  refine ⟨?_, rfl, ?_, rfl⟩
  -- the entry of the name is erased
  · have hsame : Link.requesters { l with conn := some conn } = l.requesters := by
      rw [← hconn]
    refine (requesters_set_requesters l conn name none).trans ?_
    rw [hsame]
    rfl
  · funext name'
    show (l.received ++ [_]).countP _ = _
    rw [List.countP_append, List.countP_singleton]
    by_cases hname : name' = name
    · subst hname
      simp [NetFrame.is_rep, Data.is_rep, closed]
    · simp [NetFrame.is_rep, Data.is_rep, closed, hname, Ne.symm hname]

/-- The entry of a name exists just when somebody waits at it. -/
theorem waits_eq_requesters (l : Link) (name : Name) :
    l.waits name = !(l.requesters name).isEmpty := by
  cases hconn : l.conn with
  | none =>
    rw [waits, requesters, hconn]
    rfl
  | some conn => rw [waits_eq hconn, requesters_eq hconn]

end Link

namespace NetGateActor

variable {g g' g'' : NetGateActor} {url : Url} {l' : Link}
  {sent : List (Name × LocalActorHandle)}

/-! ### What has been registered -/

/-- A net gate answers with what has been registered there. -/
structure Registry (g : NetGateActor) : Prop where
  actors : ∀ name l, (g.local_registered_actors name).actor = some l → (name, l) ∈ g.registered
  known : ∀ name l, (name, l) ∈ g.registered → (g.local_registered_actors name).actor ≠ none
  answers : ∀ z, ∀ p ∈ (g.called z).flatMap Data.answers, p ∈ g.registered

/-- Nothing is registered when the net gate starts. -/
theorem registry_bound (host : Host) (url : Url) : (bound host url).Registry where
  actors _ _ h := nomatch h
  known _ _ h := nomatch h
  answers _ _ h := nomatch h

/-- The answers that are in flight. -/
theorem Registry.of_mem (h : g.Registry) (hsound : g.Sound) {z : Url} {name : Name}
    {l : LocalActorHandle}
    (hmem : .data (.remote_actor_lookup_rep name l) ∈ (g.link z).in_flight) :
    (name, l) ∈ g.registered := by
  have hlink := hsound.links z
  have hdata : .remote_actor_lookup_rep name l ∈ (g.link z).handed.filterMap NetFrame.data? :=
    List.mem_filterMap.mpr ⟨_, hlink.in_flight.subset hmem, rfl⟩
  rw [hlink.stable (hlink.ponged_of_mem hmem)] at hdata
  exact h.answers z _ (List.mem_flatMap.mpr ⟨_, hdata, List.mem_singleton_self _⟩)

/-! ### What a handler does to the desk -/

/-- After a handler, which may have registered something. -/
structure Serves (g g' : NetGateActor) (desk : LookupDesk) : Prop where
  desk : g'.desk = desk
  registered : g.registered ⊆ g'.registered
  registry : g.Registry → g'.Registry

/-- One part of a handler after another. -/
theorem Serves.trans {desk desk' : LookupDesk} (h : Serves g g' desk) (h' : Serves g' g'' desk') :
    Serves g g'' desk' :=
  ⟨h'.desk, List.Subset.trans h.registered h'.registered, h'.registry ∘ h.registry⟩

/-- Nothing that matters changes, but for what is sent. -/
structure Sends (g g' : NetGateActor) (sent : List (Name × LocalActorHandle)) : Prop where
  desk : g'.desk = g.desk
  actors : ∀ name, (g'.local_registered_actors name).actor = (g.local_registered_actors name).actor
  registered : g'.registered = g.registered
  answers : ∀ z, ∀ p ∈ (g'.called z).flatMap Data.answers,
    p ∈ (g.called z).flatMap Data.answers ∨ p ∈ sent

/-- To do nothing sends nothing. -/
theorem sends_refl (g : NetGateActor) : g.Sends g sent := ⟨rfl, fun _ => rfl, rfl, fun _ _ => .inl⟩

theorem Sends.trans (h : g.Sends g' sent) (h' : g'.Sends g'' sent) : g.Sends g'' sent where
  desk := h'.desk.trans h.desk
  actors name := (h'.actors name).trans (h.actors name)
  registered := h'.registered.trans h.registered
  answers z p hp := (h'.answers z p hp).elim (h.answers z p) .inr

/-- A handler may send what has been registered. -/
theorem Sends.serves (h : g.Sends g' sent)
    (hsent : g.Registry → ∀ p ∈ sent, p ∈ g.registered) : g.Serves g' g.desk where
  desk := h.desk
  registered := h.registered ▸ List.Subset.refl _
  registry hreg := by
    refine ⟨fun name l hl => ?_, fun name l hl => ?_, fun z p hp => ?_⟩
    · rw [h.registered]
      exact hreg.actors name l (h.actors name ▸ hl)
    · rw [h.actors]
      exact hreg.known name l (h.registered ▸ hl)
    · rw [h.registered]
      exact (h.answers z p hp).elim (hreg.answers z p) (hsent hreg p)

theorem Sends.serves_nil (h : g.Sends g' []) : g.Serves g' g.desk :=
  h.serves fun _ _ hp => (nomatch hp)

/-- What the links have for their names, when a link is another one. -/
theorem names_set_link {α : Type} {f : Link → Name → α} (h : f l' = f (g.link url)) :
    (fun k : LookupKey => f ((g.set_link url l').link k.1) k.2) = fun k => f (g.link k.1) k.2 := by
  funext ⟨z, name⟩
  dsimp only
  by_cases hz : z = url
  · rw [hz, link_set_link_self, h]
  · rw [link_set_link_of_ne g url l' hz]

/-- The same for a link that differs at one name. -/
theorem names_set_link_update {α : Type} {f : Link → Name → α} {name : Name} {a : α}
    (h : f l' = Function.update (f (g.link url)) name a) :
    (fun k : LookupKey => f ((g.set_link url l').link k.1) k.2) =
      Function.update (fun k : LookupKey => f (g.link k.1) k.2) (url, name) a := by
  funext ⟨z, name'⟩
  dsimp only
  by_cases hz : z = url
  · subst hz
    rw [link_set_link_self, h]
    by_cases hname : name' = name
    · subst hname
      rw [Function.update_self, Function.update_self]
    · rw [Function.update_of_ne hname,
        Function.update_of_ne fun heq => hname (Prod.mk.inj heq).2]
  · rw [link_set_link_of_ne g url l' hz,
      Function.update_of_ne fun heq => hz (Prod.mk.inj heq).1]

/-- No answer is sent with another link. -/
theorem registry_set_link
    (h : l'.called.flatMap Data.answers = (g.link url).called.flatMap Data.answers)
    (hreg : g.Registry) : (g.set_link url l').Registry where
  actors := hreg.actors
  known := hreg.known
  answers z p hp := by
    change p ∈ ((g.set_link url l').link z).called.flatMap Data.answers at hp
    by_cases hz : z = url
    · subst hz
      rw [link_set_link_self, h] at hp
      exact hreg.answers _ p hp
    · rw [link_set_link_of_ne g url l' hz] at hp
      exact hreg.answers z p hp

theorem sends_set_link (h : (g.link url).Sends l' sent) : g.Sends (g.set_link url l') sent := by
  refine ⟨Desk.State.ext rfl rfl (names_set_link h.requesters) rfl rfl (names_set_link h.opened)
    (names_set_link h.closed), fun _ => rfl, rfl, fun z p hp => ?_⟩
  change p ∈ ((g.set_link url l').link z).called.flatMap Data.answers at hp
  by_cases hz : z = url
  · subst hz
    rw [link_set_link_self] at hp
    exact h.answers p hp
  · rw [link_set_link_of_ne g url l' hz] at hp
    exact .inl hp

/-- A lookup waits. -/
theorem serves_asks {lookup : Lookup} (h : (g.link lookup.url).Asks l' lookup) :
    g.Serves (g.set_link lookup.url l') (g.desk.wait Lookup.key lookup) := by
  refine ⟨Desk.State.ext rfl rfl (names_set_link_update h.requesters) rfl rfl ?_
    (names_set_link h.closed), List.Subset.refl _, registry_set_link h.answers⟩
  have hopened := h.opened
  show (fun k : LookupKey => ((g.set_link lookup.url l').link k.1).opened k.2) =
    if ((g.link lookup.url).requesters lookup.name).isEmpty then _ else _
  split at hopened
  · next hempty =>
    rw [if_pos hempty]
    exact names_set_link_update hopened
  · next hnonempty =>
    rw [if_neg hnonempty]
    exact names_set_link hopened

/-- All that wait get the answer. -/
theorem serves_concludes {name : Name} (h : (g.link url).Concludes l' name) (actor : Actor) :
    g.Serves { g.set_link url l' with
      replies := g.replies ++ ((g.link url).requesters name).map fun lookup =>
        ⟨lookup, url, name, actor⟩ }
      (g.desk.answer (url, name) actor) := by
  refine ⟨Desk.State.ext rfl rfl (names_set_link_update h.requesters) rfl ?_
    (names_set_link h.opened) (names_set_link_update h.closed), List.Subset.refl _,
    fun hreg => ?_⟩
  · show (g.replies ++ _).map _ = _
    rw [List.map_append, List.map_map]
    rfl
  · have hreg' := registry_set_link h.answers hreg
    exact ⟨hreg'.actors, hreg'.known, hreg'.answers⟩

/-! ### Handlers that only send -/

/-- Nothing but the data is sent; a request is what the desk counts and is left out here. -/
theorem send_to_net_gate_sends {d : Data} (hd : ∀ name, d ≠ .remote_actor_lookup_req name)
    (h : g.send_to_net_gate url d = some g') : g.Sends g' d.answers := by
  obtain ⟨conn, hat, -⟩ := Option.map_eq_some_iff.mp h
  rw [send_to_net_gate_eq hat] at h
  cases h
  exact sends_set_link (Link.sends_send (conn_of_conn_at hat) hd)

theorem hand_sends (g : NetGateActor) (url : Url) (frames : List NetFrame) :
    g.Sends (g.hand url frames) [] := by
  rw [hand_eq]
  exact sends_set_link (Link.sends_hand _ frames)

theorem ping_net_gate_sends (h : g.ping_net_gate url = some g') : g.Sends g' [] := by
  obtain ⟨conn, -, heq⟩ := Option.map_eq_some_iff.mp h
  split at heq
  · cases heq
    exact sends_refl g
  · cases heq
    have hsends := hand_sends g url [.ping]
    exact ⟨hsends.desk, hsends.actors, hsends.registered, hsends.answers⟩

theorem receive_pong_sends (h : g.receive_pong url = some g') : g.Sends g' [] := by
  obtain ⟨conn, hat, -⟩ := Option.map_eq_some_iff.mp h
  rw [receive_pong_eq hat] at h
  split at h
  · cases h
    exact sends_refl g
  · cases h
    exact sends_set_link (Link.sends_pong (conn_of_conn_at hat))

theorem set_conn_sends {conn conn' : NetGateConn} (hconn : (g.link url).conn = some conn)
    (hrequesters : conn'.actor_lookup_requesters = conn.actor_lookup_requesters) :
    g.Sends (g.set_conn url conn') [] := by
  rw [set_conn_eq]
  exact sends_set_link (Link.sends_set_conn hconn hrequesters)

theorem log_frame_sends {peer : Url} {frame : NetFrame}
    (hframe : ∀ name, frame.is_rep name = false) : g.Sends (g.log_frame peer frame) [] := by
  rw [log_frame_eq]
  refine sends_set_link ⟨rfl, rfl, funext fun name => ?_, fun _ => .inl⟩
  show ((g.link peer).received ++ [frame]).countP _ = _
  rw [List.countP_append, List.countP_singleton, hframe]
  rfl

/-- The answer goes to every requester: the induction is on the requesters that are left, and
    every one of them gets the same handle. -/
theorem foldlM_sends {d : Data} (hd : ∀ name, d ≠ .remote_actor_lookup_req name)
    (requesters : List Url) (g : NetGateActor)
    (h : requesters.foldlM (fun (g : NetGateActor) i => g.send_to_net_gate i d) g = some g') :
    g.Sends g' d.answers := by
  induction requesters generalizing g with
  | nil =>
    cases h
    exact sends_refl _
  | cons i requesters ih =>
    rw [List.foldlM_cons] at h
    obtain ⟨g₁, hsend, hrest⟩ := Option.bind_eq_some_iff.mp h
    exact (send_to_net_gate_sends hd hsend).trans (ih g₁ hrest)

/-! ### Handlers of messages -/

/-- A lookup, if there is one, joins those that wait. -/
def join (desk : LookupDesk) : Option Lookup → LookupDesk
  | some lookup => desk.wait Lookup.key lookup
  | none => desk

/-- The lookup joins those that wait at its entry. -/
theorem look_up_serves {lookup : Lookup} (h : g.look_up lookup = some g') :
    g.Serves g' (g.desk.wait Lookup.key lookup) := by
  obtain ⟨conn, hconn, hrest⟩ := Option.bind_eq_some_iff.mp h
  have hat (hempty : ((conn.actor_lookup_requesters lookup.name).getD []).isEmpty = true) :
      g.conn_at lookup.url = some conn := by
    rw [if_pos hempty] at hrest
    obtain ⟨g₁, hsend, -⟩ := Option.bind_eq_some_iff.mp hrest
    obtain ⟨conn', hat', -⟩ := Option.map_eq_some_iff.mp hsend
    rw [hat', ← conn_of_conn_at hat']
    exact hconn
  rw [look_up_eq hconn hat] at h
  cases h
  exact serves_asks (Link.asks_ask hconn lookup)

/-- Once there is a connection, the handler of a lookup lets it wait at the entry; the other
    handlers have no lookup. -/
theorem resume_serves {k : Continuation} (h : g.resume url k = some g') :
    g.Serves g' (join g.desk k.lookup?) := by
  cases k with
  | net_gate_conn_req =>
    cases h
    exact (sends_refl g).serves_nil
  | actor_lookup_req lookup => exact look_up_serves h
  | retrieve_actor_req info =>
    obtain ⟨conn, -, hrest⟩ := Option.bind_eq_some_iff.mp h
    obtain ⟨net_sender_info, -, heq⟩ := Option.bind_eq_some_iff.mp hrest
    cases heq
    exact ⟨rfl, List.Subset.refl _, fun hreg => ⟨hreg.actors, hreg.known, hreg.answers⟩⟩
  | ping =>
    cases h
    exact (hand_sends g url [.pong]).serves_nil

/-- The handler goes on, or it waits with its lookup in hand. -/
theorem establish_connection_serves {k : Continuation}
    (h : g.establish_connection url k = some g') :
    g.Serves g' (join g.desk k.lookup?) ∨ g.Serves g' { g.desk with hand := k.lookup? } := by
  cases hnone : (g.link url).conn with
  | some conn =>
    unfold establish_connection at h
    rw [show g.net_gate_connections url = some conn from hnone] at h
    exact .inl (resume_serves h)
  | none =>
    rw [establish_connection_eq hnone k] at h
    cases h
    have hserves := (sends_set_link (Link.sends_new hnone)).serves_nil
    refine .inr ⟨?_, hserves.registered, fun hreg => ?_⟩
    · rw [← hserves.desk]
      rfl
    · have hreg' := hserves.registry hreg
      exact ⟨hreg'.actors, hreg'.known, hreg'.answers⟩

/-- The request of the data port is no lookup, and the handler still has its own. -/
theorem spawn_serves {k : Continuation} (hcontrol : g.control = .spawning url k)
    {sender : LocalActorHandle} (h : g.spawn url k sender = some g') : g.Serves g' g.desk := by
  obtain ⟨conn, hconn, rfl⟩ := Option.map_eq_some_iff.mp h
  have hsends : g.Sends (g.set_conn url { conn with
      net_sender_info := some ⟨sender, g.bind_url, url⟩ }) [] := set_conn_sends hconn rfl
  have hserves := hsends.serves_nil
  refine ⟨?_, hserves.registered, fun hreg => ?_⟩
  · have hhand : g.desk.hand = k.lookup? := by
      show g.control.lookup? = _
      rw [hcontrol]
      rfl
    rw [← hserves.desk]
    exact Desk.State.ext rfl (hhand.symm.trans (congrArg _ hserves.desk.symm)) rfl rfl rfl rfl rfl
  · have hreg' := hserves.registry hreg
    exact ⟨hreg'.actors, hreg'.known, hreg'.answers⟩

/-- The connection is there: the handler lets go of its lookup, which then waits. -/
theorem bind_port_rep_serves {k : Continuation} (hcontrol : g.control = .waiting url k)
    {port : UInt16} (h : g.bind_port_rep url k port = some g') :
    g.Serves g' (join { g.desk with hand := none } g.desk.hand) := by
  obtain ⟨g₁, hsend, hresume⟩ := Option.bind_eq_some_iff.mp h
  have hsends : g.Sends g₁ [] :=
    send_to_net_gate_sends (d := .data_conn_req g.bind_host port) (fun _ => nofun) hsend
  have hsent := hsends.serves_nil
  have hidle : g.Serves { g₁ with control := .idle } { g.desk with hand := none } := by
    refine ⟨?_, hsent.registered, fun hreg => ?_⟩
    · rw [← hsent.desk]
      rfl
    · have hreg' := hsent.registry hreg
      exact ⟨hreg'.actors, hreg'.known, hreg'.answers⟩
  have hhand : g.desk.hand = k.lookup? := by
    show g.control.lookup? = _
    rw [hcontrol]
    rfl
  have hserves := resume_serves hresume
  rw [hidle.desk, ← hhand] at hserves
  exact hidle.trans hserves

/-- A registration answers those that are parked, with the handle that has just been
    registered. -/
theorem actor_registration_serves {name : Name} {l : LocalActorHandle}
    (h : g.actor_registration name l = some g') : g.Serves g' g.desk := by
  obtain ⟨g₁, hfold, rfl⟩ := Option.map_eq_some_iff.mp h
  have hsends := foldlM_sends (d := .remote_actor_lookup_rep name l) (fun _ => nofun) _ _ hfold
  have hregistered : g₁.registered = g.registered ++ [(name, l)] := hsends.registered
  have hself (name' : Name) : (Function.update g₁.local_registered_actors name ⟨some l, []⟩
      name').actor = if name' = name then some l else (g.local_registered_actors name').actor := by
    by_cases hname : name' = name
    · rw [hname, Function.update_self, if_pos rfl]
    · rw [Function.update_of_ne hname, if_neg hname, hsends.actors name']
      exact congrArg LocalActor.actor (Function.update_of_ne hname ..)
  refine ⟨hsends.desk, ?_, fun hreg => ⟨fun name' l' hl => ?_, fun name' l' hl => ?_,
    fun z p hp => ?_⟩⟩
  · exact hregistered ▸ List.subset_append_left ..
  · show _ ∈ g₁.registered
    rw [hregistered]
    change (Function.update g₁.local_registered_actors name ⟨some l, []⟩ name').actor = _ at hl
    rw [hself] at hl
    split at hl
    · next hname =>
      cases hl
      exact List.mem_append_right _ (hname ▸ List.mem_singleton_self _)
    · exact List.mem_append_left _ (hreg.actors name' l' hl)
  · show (Function.update g₁.local_registered_actors name ⟨some l, []⟩ name').actor ≠ none
    rw [hself]
    split
    · exact nofun
    · next hname =>
      change _ ∈ g₁.registered at hl
      rw [hregistered] at hl
      rcases List.mem_append.mp hl with hl | hl
      · exact hreg.known name' l' hl
      · exact absurd (Prod.mk.inj (List.mem_singleton.mp hl)).1 hname
  · show _ ∈ g₁.registered
    rw [hregistered]
    rcases hsends.answers z p hp with hp | hp
    · exact List.mem_append_left _ (hreg.answers z p hp)
    · exact List.mem_append_right _ hp

/-- The handlers of the messages: a lookup either waits at its entry or stays with its handler,
    when the handler must make a connection first. -/
theorem process_serves {m : GateMessage} (h : g.process m = some g')
    (hcontrol : g.control = .idle) :
    g.Serves g' (join g.desk m.lookup?) ∨ g.Serves g' { g.desk with hand := m.lookup? } := by
  have hhand : g.desk.hand = none := by
    show g.control.lookup? = none
    rw [hcontrol]
    rfl
  cases m with
  | net_gate_conn_req host port => exact establish_connection_serves h
  | actor_registration name actor =>
    cases actor with
    | local_actor l => exact .inl (actor_registration_serves h)
    | remote_actor r =>
      cases h
      refine .inl ⟨?_, List.Subset.refl _, fun hreg => ⟨hreg.actors, hreg.known, hreg.answers⟩⟩
      exact Desk.State.ext rfl hhand.symm rfl rfl rfl rfl rfl
  | actor_lookup_req lookup => exact establish_connection_serves h
  | retrieve_actor_req info =>
    simp only [process] at h
    split at h
    · cases h
      exact .inl ⟨rfl, List.Subset.refl _, fun hreg => ⟨hreg.actors, hreg.known, hreg.answers⟩⟩
    · exact establish_connection_serves h
  | ping_retry url => exact .inl (ping_net_gate_sends h).serves_nil

/-! ### Handlers of frames -/

/-- The request of a peer is answered with what is registered, or parked. -/
theorem remote_actor_lookup_req_serves {peer : Url} {name : Name}
    (h : g.remote_actor_lookup_req peer name = some g') : g.Serves g' g.desk := by
  unfold remote_actor_lookup_req at h
  dsimp only at h
  split at h
  · next l hactor =>
    have hsends := send_to_net_gate_sends (d := .remote_actor_lookup_rep name l) (fun _ => nofun) h
    refine hsends.serves fun hreg p hp => ?_
    cases List.mem_singleton.mp hp
    exact hreg.actors name l hactor
  · cases h
    have hactors (name' : Name) : (Function.update g.local_registered_actors name
        { g.local_registered_actors name with
          requesters := (g.local_registered_actors name).requesters ++ [peer] } name').actor =
        (g.local_registered_actors name').actor := by
      by_cases hname : name' = name
      · rw [hname, Function.update_self]
      · rw [Function.update_of_ne hname]
    exact Sends.serves_nil ⟨rfl, hactors, rfl, fun _ _ => .inl⟩

/-- All that wait get the answer. -/
theorem remote_actor_lookup_rep_serves {peer : Url} {name : Name} {l : LocalActorHandle}
    (h : (g.log_frame peer (.data (.remote_actor_lookup_rep name l))).remote_actor_lookup_rep
      peer name l = some g') :
    ∃ info, g.Serves g' (g.desk.answer (peer, name) (.remote_actor ⟨info, l⟩)) := by
  obtain ⟨conn, hat, hrest⟩ := Option.bind_eq_some_iff.mp h
  obtain ⟨requesters, hrequesters, hrest⟩ := Option.bind_eq_some_iff.mp hrest
  obtain ⟨info, -, heq⟩ := Option.bind_eq_some_iff.mp hrest
  cases heq
  have hconn : (g.link peer).conn = some conn := conn_of_conn_at hat
  have hreq : requesters = (g.link peer).requesters name := by
    rw [Link.requesters_eq hconn, hrequesters]
    rfl
  rw [set_conn_eq, link_log_frame, log_frame_eq, set_link_set_link, hreq]
  exact ⟨info, serves_concludes (Link.concludes_set_requesters hconn name l) _⟩

/-- No handler, no lookup in its hand. -/
theorem hand_of_idle (hcontrol : g.control = .idle) : g.desk.hand = none := by
  show g.control.lookup? = none
  rw [hcontrol]
  rfl

/-- Every frame but an answer leaves the desk as it is. -/
theorem process_frame_serves {peer : Url} {frame : NetFrame}
    (hframe : ∀ name, frame.is_rep name = false) (hcontrol : g.control = .idle)
    (h : (g.log_frame peer frame).process_frame peer frame = some g') : g.Serves g' g.desk := by
  have hlog : g.Sends (g.log_frame peer frame) [] := log_frame_sends hframe
  rw [← hlog.desk]
  refine hlog.serves_nil.trans ?_
  cases frame with
  | ping =>
    have hhand : (g.log_frame peer .ping).desk.hand = none := hand_of_idle hcontrol
    refine (establish_connection_serves h).elim id fun hserves => ?_
    exact ⟨hserves.desk.trans (Desk.State.ext rfl hhand.symm rfl rfl rfl rfl rfl),
      hserves.registered, hserves.registry⟩
  | pong => exact (receive_pong_sends h).serves_nil
  | data d =>
    cases d with
    | data_conn_req host port =>
      obtain ⟨conn, hat, rfl⟩ := Option.map_eq_some_iff.mp h
      apply Sends.serves_nil
      exact set_conn_sends (conn_of_conn_at hat) rfl
    | remote_actor_lookup_req name => exact remote_actor_lookup_req_serves h
    | remote_actor_lookup_rep name l =>
      have htrue := hframe name
      simp [NetFrame.is_rep, Data.is_rep] at htrue

end NetGateActor

namespace NetGates

open NetGateActor

variable {s s' : NetGates} {x : Url} {g g' : NetGateActor}

/-! ### Steps of the desks -/

/-- Why a desk may make a step: a new lookup has a new number, and an answer carries what has
    been registered at the peer. -/
def Justified (s : NetGates) (x : Url) : Desk.Label LookupKey Lookup Actor → Prop
  | .arrive lookup => lookup.serial = (s x).arrived.length
  | .answer k actor => ∃ info l, actor = .remote_actor ⟨info, l⟩ ∧ (k.2, l) ∈ (s k.1).registered
  | _ => True

/-- `x` becomes `g`, and its desk makes a step or none. -/
structure Moves (s : NetGates) (x : Url) (g : NetGateActor) : Prop where
  registered : (s x).registered ⊆ g.registered
  registry : (s x).Registry → g.Registry
  desk : g.desk = (s x).desk ∨
    ∃ l, Desk.next Lookup.key (s x).desk l = some g.desk ∧ s.Justified x l

theorem moves_refl (s : NetGates) (x : Url) : s.Moves x (s x) := ⟨List.Subset.refl _, id, .inl rfl⟩

theorem Moves.set (h : s.Moves x g) (z : Url) : s.Moves z (s.set x g z) :=
  forall_set (p := s.Moves) h (moves_refl s) z

/-- A handler that leaves the desk alone is no step of it. -/
theorem moves_of_serves (h : (s x).Serves g (s x).desk) : s.Moves x g :=
  ⟨h.registered, h.registry, .inl h.desk⟩

/-- Only what nobody looks at here is different. -/
theorem moves_of_eq (hdesk : g.desk = (s x).desk) (hregistered : g.registered = (s x).registered)
    (hregs : g.local_registered_actors = (s x).local_registered_actors)
    (hcalled : g.called = (s x).called) : s.Moves x g where
  registered := hregistered ▸ List.Subset.refl _
  registry hreg := by
    refine ⟨?_, ?_, ?_⟩ <;> simp only [hregistered, hregs, hcalled]
    · exact hreg.actors
    · exact hreg.known
    · exact hreg.answers
  desk := .inl hdesk

theorem arrive_moves (s : NetGates) (x : Url) {m : GateMessage} : s.Moves x ((s x).arrive m) := by
  have hqueued {m : GateMessage} (hm : m.lookup? = none) :
      ((s x).pending_messages ++ ((s x).recv_socket ++ [m])).filterMap GateMessage.lookup? =
        (s x).desk.queued := by
    rw [← List.append_assoc, List.filterMap_append, List.filterMap_cons_none hm,
      List.filterMap_nil, List.append_nil]
    rfl
  cases m with
  | actor_lookup_req lookup =>
    refine ⟨List.Subset.refl _, fun hreg => ⟨hreg.actors, hreg.known, hreg.answers⟩, .inr ?_⟩
    refine ⟨.arrive ⟨(s x).arrived.length, lookup.url, lookup.name⟩, congrArg some ?_, rfl⟩
    refine Desk.State.ext ?_ rfl rfl rfl rfl rfl rfl
    show _ = ((s x).pending_messages ++ ((s x).recv_socket ++ [_])).filterMap _
    rw [← List.append_assoc, List.filterMap_append]
    rfl
  | ping_retry url =>
    exact moves_of_eq (Desk.State.ext (hqueued rfl) rfl rfl rfl rfl rfl rfl) rfl rfl rfl
  | net_gate_conn_req host port =>
    exact moves_of_eq (Desk.State.ext (hqueued rfl) rfl rfl rfl rfl rfl rfl) rfl rfl rfl
  | actor_registration name actor =>
    exact moves_of_eq (Desk.State.ext (hqueued rfl) rfl rfl rfl rfl rfl rfl) rfl rfl rfl
  | retrieve_actor_req info =>
    exact moves_of_eq (Desk.State.ext (hqueued rfl) rfl rfl rfl rfl rfl rfl) rfl rfl rfl

/-- What `take_message` does to the desk. -/
theorem take_message_desk {g g' : NetGateActor} {m : GateMessage}
    (h : g.take_message = some (m, g')) :
    g.desk = { g'.desk with queued := m.lookup?.toList ++ g'.desk.queued } ∧
      g'.registered = g.registered ∧ (g.Registry → g'.Registry) := by
  have hcons (m : GateMessage) (ms : List GateMessage) :
      (m :: ms).filterMap GateMessage.lookup? = m.lookup?.toList ++
        ms.filterMap GateMessage.lookup? := by
    rw [List.filterMap_cons]
    cases m.lookup? <;> rfl
  unfold take_message at h
  split at h
  · next pending_messages _ hpending =>
    cases h
    refine ⟨Desk.State.ext ?_ rfl rfl rfl rfl rfl rfl, rfl,
      fun hreg => ⟨hreg.actors, hreg.known, hreg.answers⟩⟩
    show (g.pending_messages ++ _).filterMap _ = _
    rw [hpending]
    exact hcons m _
  · next recv_socket hpending hrecv =>
    cases h
    refine ⟨Desk.State.ext ?_ rfl rfl rfl rfl rfl rfl, rfl,
      fun hreg => ⟨hreg.actors, hreg.known, hreg.answers⟩⟩
    show (g.pending_messages ++ _).filterMap _ = _ ++ (g.pending_messages ++ _).filterMap _
    rw [hpending, hrecv]
    exact hcons m _
  · cases h

/-- A message is taken and handled: for a lookup this is the step of the desk that takes it,
    for all others none. -/
theorem process_moves {m : GateMessage} (hcontrol : (s x).control = .idle)
    (htake : (s x).take_message = some (m, g)) (h : g.process m = some g') : s.Moves x g' := by
  obtain ⟨hdesk, hregistered, hregistry⟩ := take_message_desk htake
  have hidle : g.control = .idle := (take_message_eq htake).control.trans hcontrol
  have hserves : ∃ desk, g.Serves g' desk ∧
      (desk = join g.desk m.lookup? ∨ desk = { g.desk with hand := m.lookup? }) :=
    (process_serves h hidle).elim (fun h => ⟨_, h, .inl rfl⟩) fun h => ⟨_, h, .inr rfl⟩
  obtain ⟨desk, hserves, hor⟩ := hserves
  refine ⟨hregistered ▸ hserves.registered, hserves.registry ∘ hregistry, ?_⟩
  rw [hserves.desk, hdesk]
  cases hlookup : m.lookup? with
  | none =>
    left
    rw [hlookup] at hor
    rcases hor with rfl | rfl
    · rfl
    · exact Desk.State.ext rfl (hand_of_idle hidle).symm rfl rfl rfl rfl rfl
  | some lookup =>
    right
    rw [hlookup] at hor
    rcases hor with rfl | rfl
    · exact ⟨.serve, rfl, trivial⟩
    · refine ⟨.take, ?_, trivial⟩
      have hhand := hand_of_idle hidle
      unfold Desk.next
      simp only [hhand, Option.toList_some, List.singleton_append]

theorem set_frames_sends (g : NetGateActor) (url : Url) (frames : List NetFrame) :
    g.Sends (g.set_frames url frames) [] := by
  rw [set_frames_eq]
  exact sends_set_link ⟨rfl, rfl, rfl, fun _ => .inl⟩

theorem flush_moves (h : (s x).flush = some g) : s.Moves x g := by
  unfold NetGateActor.flush at h
  split at h
  · next url delayed_messages hdelayed =>
    cases h
    refine moves_of_eq (Desk.State.ext ?_ rfl rfl rfl rfl rfl rfl) rfl rfl rfl
    show ((s x).pending_messages ++ ((s x).recv_socket ++ [_])).filterMap _ = _
    rw [← List.append_assoc, List.filterMap_append]
    exact List.append_nil _
  · cases h

/-- A message that is put off keeps its place among those that wait. -/
theorem defer_moves (h : (s x).defer_message = some g) : s.Moves x g := by
  unfold defer_message at h
  split at h
  · next m recv_socket hrecv =>
    cases h
    refine moves_of_eq (Desk.State.ext ?_ rfl rfl rfl rfl rfl rfl) rfl rfl rfl
    show ((s x).pending_messages ++ [m] ++ recv_socket).filterMap _ =
      ((s x).pending_messages ++ (s x).recv_socket).filterMap _
    rw [hrecv, List.append_assoc]
    rfl
  · cases h

/-- The lookup that the handler has waits now. -/
theorem bind_port_rep_moves {url : Url} {k : Continuation} {port : UInt16}
    (hcontrol : (s x).control = .waiting url k)
    (h : (s x).bind_port_rep url k port = some g) : s.Moves x g := by
  have hserves := bind_port_rep_serves hcontrol h
  refine ⟨hserves.registered, hserves.registry, ?_⟩
  rw [hserves.desk]
  cases hhand : (s x).desk.hand with
  | none => exact .inl (Desk.State.ext rfl hhand.symm rfl rfl rfl rfl rfl)
  | some lookup => exact .inr ⟨.file, congrArg (Option.map _) hhand, trivial⟩

/-- The handler of `x` has not failed. -/
theorem Sound.checked_eq {result : Option NetGateActor} (h : (s.set x (g.checked result)).Sound) :
    ∃ g', result = some g' ∧ g.checked result = g' := by
  have hnot := (h.gates x).not_failed
  rw [set_self] at hnot
  cases result with
  | none => exact absurd rfl hnot
  | some g' => exact ⟨g', rfl, rfl⟩

/-- An answer is the step of the desk that answers all who wait at the name. That somebody waits
    is the agreement of the two net gates: there is an answer only where there is a token. -/
theorem process_frame_moves (h : s.Sound) (hregs : ∀ z, (s z).Registry) {y : Url}
    {frame : NetFrame} (hmem : frame ∈ ((s y).link x).in_flight)
    (hcontrol : (s x).control = .idle) {g₁ : NetGateActor} (hg₁ : (s x).Sends g₁ [])
    (hsame : g₁.control = (s x).control)
    (hframe : (g₁.log_frame y frame).process_frame y frame = some g) : s.Moves x g := by
  have hidle := hsame.trans hcontrol
  have hg₁' := hg₁.serves_nil
  by_cases hrep : ∀ name, frame.is_rep name = false
  · have hserves := process_frame_serves hrep hidle hframe
    rw [hg₁.desk] at hserves
    exact moves_of_serves (hg₁'.trans hserves)
  · obtain ⟨name, hname⟩ := not_forall.mp hrep
    obtain ⟨l, rfl⟩ : ∃ l, frame = .data (.remote_actor_lookup_rep name l) := by
      revert hname
      cases frame with
      | ping => exact fun hname => absurd rfl hname
      | pong => exact fun hname => absurd rfl hname
      | data d =>
        cases d with
        | data_conn_req host port => exact fun hname => absurd rfl hname
        | remote_actor_lookup_req name' => exact fun hname => absurd rfl hname
        | remote_actor_lookup_rep name' l =>
          intro hname
          have heq : name' = name := by simpa [NetFrame.is_rep, Data.is_rep] using hname
          exact ⟨l, by rw [heq]⟩
    -- the answer has been sent by `y`, which has registered its handle
    obtain ⟨info, hserves⟩ := remote_actor_lookup_rep_serves hframe
    rw [hg₁.desk] at hserves
    have hall := hg₁'.trans hserves
    refine ⟨hall.registered, hall.registry, .inr ⟨.answer (y, name) (.remote_actor ⟨info, l⟩), ?_,
      info, l, rfl, (hregs y).of_mem (h.gates y) hmem⟩⟩
    -- somebody waits, as there is an answer
    have hwaits := h.waits_of_mem hmem
    have hnonempty : ((s x).desk.waiting (y, name)).isEmpty = false := by
      rwa [Link.waits_eq_requesters, Bool.not_eq_true'] at hwaits
    rw [hall.desk]
    unfold Desk.next
    dsimp only
    rw [hnonempty, if_neg Bool.false_ne_true]

/-- The frame leaves the socket of the peer first, which no desk sees. A net gate may be its own
    peer. -/
theorem receive_frame_moves (h : s.Sound) (hregs : ∀ z, (s z).Registry) {y : Url}
    {frame : NetFrame} {rest : List NetFrame}
    (hframes : (s y).net_send_socket x = frame :: rest) (hcontrol : (s x).control = .idle)
    (hframe : ((s.arrived_frame x y frame rest) x).process_frame y frame = some g) (z : Url) :
    s.Moves z ((s.arrived_frame x y frame rest).set x g z) := by
  -- the peer has one frame less in its socket
  have htaken (z : Url) : (s z).Sends (s.set y ((s y).set_frames x rest) z) [] := by
    by_cases hz : z = y
    · rw [hz, set_self]
      exact set_frames_sends ..
    · rw [set_of_ne s hz]
      exact sends_refl _
  have hmem : frame ∈ ((s y).link x).in_flight := by
    show frame ∈ (s y).net_send_socket x
    rw [hframes]
    exact List.mem_cons_self
  by_cases hz : z = x
  · subst hz
    rw [set_self]
    -- the handler that runs at `x` is not touched, also when `x` is the peer
    have hsame : (s.set y ((s y).set_frames z rest) z).control = (s z).control := by
      by_cases hy : z = y
      · subst hy
        rw [set_self]
        rfl
      · rw [set_of_ne s hy]
    unfold arrived_frame at hframe
    rw [set_self] at hframe
    exact process_frame_moves h hregs hmem hcontrol (htaken z) hsame hframe
  · rw [set_of_ne _ hz]
    unfold arrived_frame
    rw [set_of_ne _ hz]
    exact moves_of_serves (htaken z).serves_nil

theorem polled_registry (x : Url) {z : Url} (h : (s z).Registry) : (s.polled x z).Registry := by
  rw [polled_apply]
  exact ⟨h.actors, h.known, h.answers⟩

/-- A desk does not see that its net gate polls. -/
theorem Moves.of_polled {z : Url} (h : (s.polled x).Moves z g) : s.Moves z g := by
  have hregistered (z : Url) : (s.polled x z).registered = (s z).registered := by
    rw [polled_apply]
  have hdesk : (s.polled x z).desk = (s z).desk := by
    rw [polled_apply]
    rfl
  have harrived : (s.polled x z).arrived = (s z).arrived := by
    rw [polled_apply]
  refine ⟨hregistered z ▸ h.registered, fun hreg => h.registry (polled_registry x hreg), ?_⟩
  rw [← hdesk]
  refine h.desk.imp_right ?_
  rintro ⟨l, hl, hjust⟩
  refine ⟨l, hl, ?_⟩
  cases l with
  | arrive lookup => exact hjust.trans (congrArg List.length harrived)
  | answer k actor =>
    obtain ⟨info, l, hactor, hmem⟩ := hjust
    exact ⟨info, l, hactor, hregistered k.1 ▸ hmem⟩
  | _ => trivial

/-- Every step of the net gates is at most one step of a desk, and the desks of all others stay
    as they are. -/
theorem next_moves (h : s.Sound) (hregs : ∀ z, (s z).Registry) (l : NetGateStep)
    (hnext : s.next l = some s') (z : Url) : s.Moves z (s' z) := by
  have hs' := h.next l hnext
  cases stepped_of_next hnext with
  | arrive x m hm => exact (arrive_moves s x).set z
  | receive_once x m g hcontrol htake =>
    obtain ⟨g', hg', heq⟩ := hs'.checked_eq
    rw [heq]
    exact (process_moves hcontrol htake hg').set z
  | poll x => exact (moves_refl _ z).of_polled
  | receive_frame x y frame rest hcontrol hframes =>
    obtain ⟨g', hg', heq⟩ := hs'.checked_eq
    rw [heq]
    exact (receive_frame_moves (h.poll x) (fun z => polled_registry x (hregs z)) hframes hcontrol
      hg' z).of_polled
  | lose x y i frame hframe hdata =>
    exact (moves_of_serves (set_frames_sends ..).serves_nil).set z
  | spawn x url k sender hcontrol =>
    obtain ⟨g', hg', heq⟩ := hs'.checked_eq
    rw [heq]
    exact (moves_of_serves (spawn_serves hcontrol hg')).set z
  | bind_port_rep x url k port hcontrol =>
    obtain ⟨g', hg', heq⟩ := hs'.checked_eq
    rw [heq]
    exact (bind_port_rep_moves hcontrol hg').set z
  | defer x g hdefer => exact (defer_moves hdefer).set z
  | flush x g hflush => exact (flush_moves hflush).set z

/-! ### Runs -/

/-- What is known at every step of the desks. -/
structure Known (s : NetGates) : Prop where
  sound : s.Sound
  registry : ∀ z, (s z).Registry

/-- What is registered stays so. -/
theorem Known.next (h : s.Known) (l : NetGateStep) (hnext : s.next l = some s') : s'.Known :=
  ⟨h.sound.next l hnext, fun z => (next_moves h.sound h.registry l hnext z).registry (h.registry z)⟩

theorem known_of_reachable (h : Reachable system s) : s.Known := by
  refine h.invariant Known (fun s hs => ⟨sound_init hs, fun z => ?_⟩)
    fun _ l _ hs _ hnext => hs.next l hnext
  obtain ⟨host, hz⟩ : ∃ host, s z = bound host z := hs z
  rw [hz]
  exact registry_bound host z

/-- A net gate is a desk for its lookups. -/
def simulation (x : Url) :
    Simulation system (fun _ _ => True) LookupDesk.system Known where
  image s := (s x).desk
  image_init s hs := by
    obtain ⟨host, hx⟩ : ∃ host, s x = bound host x := hs x
    rw [hx]
    rfl
  image_step s l s' h _ hnext :=
    (next_moves h.sound h.registry l hnext x).desk.imp_right fun ⟨l', hl', _⟩ => ⟨l', hl'⟩

/-- What holds of every desk holds of a net gate. -/
theorem desk_sound (h : Reachable system s) (x : Url) : Desk.Sound Lookup.key (s x).desk :=
  Desk.sound_of_reachable ((simulation x).reachable (fun _ => known_of_reachable) h)

/-- The lookups are numbered, and the answers carry what has been registered at the peer. -/
structure Numbered (s : NetGates) : Prop where
  serials : ∀ x, (s x).arrived.map (·.serial) = List.range (s x).arrived.length
  handles : ∀ x, ∀ p ∈ (s x).desk.answered,
    ∃ info l, p.2.2 = .remote_actor ⟨info, l⟩ ∧ (p.2.1.2, l) ∈ (s p.2.1.1).registered

/-- A lookup that arrives takes the next number; one that is answered gets a handle that the
    peer had registered when it sent the answer, and still has. -/
theorem Numbered.next (h : s.Numbered) (hmoves : ∀ z, s.Moves z (s' z)) : s'.Numbered where
  serials x := by
    have hsame : (s' x).desk.arrived = (s x).desk.arrived → (s' x).arrived.map (·.serial) =
        List.range (s' x).arrived.length := fun heq => by
      rw [show (s' x).arrived = (s x).arrived from heq]
      exact h.serials x
    rcases (hmoves x).desk with heq | ⟨l, hl, hjust⟩
    · exact hsame (by rw [heq])
    · rcases Desk.records_next hl with ⟨heq, -⟩ | ⟨lookup, rfl, heq, -⟩ | ⟨k, actor, -, heq, -⟩
      · exact hsame heq
      · have hserial : lookup.serial = (s x).arrived.length := hjust
        rw [show (s' x).arrived = (s x).arrived ++ [lookup] from heq, List.map_append, h.serials x,
          List.length_append, List.length_singleton, List.range_succ, List.map_singleton, hserial]
      · exact hsame heq
  handles x p hp := by
    -- an answer that was there before keeps its handle
    have hold (hp : p ∈ (s x).desk.answered) :
        ∃ info l, p.2.2 = .remote_actor ⟨info, l⟩ ∧ (p.2.1.2, l) ∈ (s' p.2.1.1).registered := by
      obtain ⟨info, l, hactor, hmem⟩ := h.handles x p hp
      exact ⟨info, l, hactor, (hmoves p.2.1.1).registered hmem⟩
    rcases (hmoves x).desk with heq | ⟨l, hl, hjust⟩
    · exact hold (heq ▸ hp)
    · rcases Desk.records_next hl with ⟨-, heq⟩ | ⟨lookup, -, -, heq⟩ | ⟨k, actor, rfl, -, heq⟩
      · exact hold (heq ▸ hp)
      · exact hold (heq ▸ hp)
      · rw [heq] at hp
        rcases List.mem_append.mp hp with hp | hp
        · exact hold hp
        · obtain ⟨lookup, -, rfl⟩ := List.mem_map.mp hp
          obtain ⟨info, l, hactor, hmem⟩ := hjust
          exact ⟨info, l, hactor, (hmoves k.1).registered hmem⟩

theorem numbered_of_reachable (h : Reachable system s) : s.Numbered := by
  refine h.invariant_of Numbered (fun _ => known_of_reachable) (fun s hs => ?_)
    fun s l s' hknown hs _ hnext => hs.next (next_moves hknown.sound hknown.registry l hnext)
  have hbound (x : Url) : ∃ host, s x = bound host x := hs x
  refine ⟨fun x => ?_, fun x p hp => ?_⟩
  · obtain ⟨host, hx⟩ := hbound x
    rw [hx]
    rfl
  · obtain ⟨host, hx⟩ := hbound x
    rw [hx] at hp
    cases hp

/-! ### Every lookup is answered once -/

/-- Nothing is in flight between `x` and `y`, no message waits at `x`, and both have received
    a `Pong`. -/
structure Quiet (s : NetGates) (x y : Url) : Prop where
  no_frames : (s x).net_send_socket y = [] ∧ (s y).net_send_socket x = []
  no_messages : (s x).recv_socket = [] ∧ (s x).pending_messages = []
  no_handler : (s x).control.establishing = none
  ponged : ((s x).link y).ponged = true ∧ ((s y).link x).ponged = true

instance (s : NetGates) (x y : Url) : Decidable (s.Quiet x y) :=
  decidable_of_iff (((s x).net_send_socket y = [] ∧ (s y).net_send_socket x = []) ∧
      ((s x).recv_socket = [] ∧ (s x).pending_messages = []) ∧
      (s x).control.establishing = none ∧
      ((s x).link y).ponged = true ∧ ((s y).link x).ponged = true)
    ⟨fun h => ⟨h.1, h.2.1, h.2.2.1, h.2.2.2⟩,
      fun h => ⟨h.no_frames, h.no_messages, h.no_handler, h.ponged⟩⟩

/-- What becomes of the lookups of `x`, of those at `y` in particular. -/
structure Answered (s : NetGates) (x y : Url) : Prop where
  once : ((s x).replies.map (·.lookup)).Nodup
  asked : ∀ rep ∈ (s x).replies, rep.lookup ∈ (s x).arrived ∧
    rep.peer = rep.lookup.url ∧ rep.name = rep.lookup.name
  registered : ∀ rep ∈ (s x).replies, ∃ info l,
    rep.actor = .remote_actor ⟨info, l⟩ ∧ (rep.name, l) ∈ (s rep.peer).registered
  /-- At most one request has not been answered. -/
  outstanding : ∀ name, ((s x).called y).count (.remote_actor_lookup_req name) ≤
    ((s x).received y).countP (·.is_rep name) + 1
  /-- At most one request or answer is on its way, or entry of `x` at `y`. -/
  on_their_way : ∀ name, s.tokens x y name ≤ 1
  none_waits : s.Quiet x y → ∀ name l, (name, l) ∈ (s y).registered →
    ((s x).link y).requesters name = [] ∧ ∀ lookup ∈ (s x).arrived,
      lookup.url = y → lookup.name = name → ∃ rep ∈ (s x).replies, rep.lookup = lookup

/-- The lookups that have been answered. -/
theorem map_fst_answered (s : NetGates) (x : Url) :
    (s x).desk.answered.map Prod.fst = (s x).replies.map (·.lookup) := by
  show ((s x).replies.map _).map _ = _
  rw [List.map_map]
  rfl

/-- Numbers differ, so lookups do. -/
theorem Numbered.nodup (h : s.Numbered) (x : Url) : (s x).arrived.Nodup := by
  have hrange := List.nodup_range (n := (s x).arrived.length)
  rw [← h.serials x] at hrange
  exact hrange.of_map _

/-- There are no tokens left for a name that is registered. -/
theorem Known.no_requesters (h : s.Known) {y : Url} (hquiet : s.Quiet x y) {name : Name}
    {l : LocalActorHandle} (hl : (name, l) ∈ (s y).registered) :
    ((s x).link y).requesters name = [] := by
  -- nothing is on the way between the two, not even what waits for the `Pong`
  have hway {x y : Url} (hponged : ((s x).link y).ponged = true)
      (hframes : (s x).net_send_socket y = []) : ((s x).link y).on_the_way = [] := by
    obtain ⟨conn, hconn⟩ : ∃ conn, ((s x).link y).conn = some conn := by
      cases hconn : ((s x).link y).conn with
      | none =>
        rw [Link.ponged, hconn] at hponged
        cases hponged
      | some conn => exact ⟨conn, rfl⟩
    have hpending := ((h.sound.gates x).links y).pending conn hconn
    rw [Link.ponged_eq hconn] at hponged
    rw [hponged, if_pos rfl] at hpending
    rw [Link.on_the_way_eq hconn, hpending]
    show ((s x).net_send_socket y).filterMap _ = []
    rw [hframes]
    rfl
  -- who waits at `y` waits for a name that is not registered
  have hparked : ((s y).local_registered_actors name).requesters = [] := by
    refine List.eq_nil_iff_forall_not_mem.mpr fun z hz => ?_
    exact (h.registry y).known name l hl ((h.sound.gates y).parked name z hz).2
  -- no token is left in any of the three places
  have htokens := h.sound.tokens x y name
  unfold tokens Link.asks Link.reps parks at htokens
  rw [hway hquiet.ponged.1 hquiet.no_frames.1, hway hquiet.ponged.2 hquiet.no_frames.2,
    hparked] at htokens
  have hwaits : ((s x).link y).waits name = false := by
    cases hwaits : ((s x).link y).waits name with
    | false => rfl
    | true =>
      rw [hwaits] at htokens
      cases htokens
  rw [Link.waits_eq_requesters, Bool.not_eq_false'] at hwaits
  exact List.isEmpty_iff.mp hwaits

/-- **Lookups**: in every run, a lookup is answered at most once and with what has been
    registered under its name at the peer; and if a name is registered, no lookup is left
    without an answer once all is quiet. -/
theorem lookups_answered (h : Reachable system s) (x y : Url) : s.Answered x y := by
  have hknown := known_of_reachable h
  have hnumbered := numbered_of_reachable h
  have hdesk := desk_sound h x
  have hcount (lookup : Lookup) : ((s x).replies.map (·.lookup)).count lookup ≤
      (s x).arrived.count lookup := by
    rw [← map_fst_answered]
    exact hdesk.count_answered_le lookup
  refine ⟨?_, fun rep hrep => ⟨?_, ?_⟩, fun rep hrep => ?_, fun name => hdesk.opened_le (y, name),
    fun name => ?_, fun hquiet name l hl => ?_⟩
  -- a lookup arrives once, as the lookups are numbered
  · refine List.nodup_iff_count_le_one.mpr fun lookup => (hcount lookup).trans ?_
    exact List.nodup_iff_count_le_one.mp (hnumbered.nodup x) lookup
  · have hpos := List.count_pos_iff.mpr (List.mem_map_of_mem (f := (·.lookup)) hrep)
    exact List.count_pos_iff.mp (hpos.trans_le (hcount rep.lookup))
  · have hkey := hdesk.answered _ (List.mem_map_of_mem hrep)
    exact ⟨(Prod.mk.inj hkey).1.symm, (Prod.mk.inj hkey).2.symm⟩
  · exact hnumbered.handles x _ (List.mem_map_of_mem hrep)
  · rw [hknown.sound.tokens]
    exact Bool.toNat_le _
  · have hnone := hknown.no_requesters hquiet hl
    refine ⟨hnone, ?_⟩
    rintro lookup harrived rfl rfl
    -- nothing is left with the desk, so that what has arrived has been answered
    have hqueued : (s x).desk.queued = [] := by
      show ((s x).pending_messages ++ (s x).recv_socket).filterMap _ = []
      rw [hquiet.no_messages.1, hquiet.no_messages.2]
      rfl
    have hhand : (s x).desk.hand = none := by
      show (s x).control.lookup? = none
      unfold Control.lookup?
      rw [hquiet.no_handler]
      rfl
    have hmem := hdesk.mem_answered hqueued hhand hnone harrived
    rw [map_fst_answered] at hmem
    exact List.mem_map.mp hmem

/-- At the end of the run all is quiet, and the lookups have been answered. -/
theorem lookups_answered_lookups_run :
    ∃ s : NetGates, s.Quiet url_a url_b ∧
      (s url_a).replies.map (fun rep => (rep.lookup.serial, rep.actor)) =
        [(0, .remote_actor ⟨⟨⟨4, true⟩, url_a, url_b⟩, ⟨6, true⟩⟩),
          (1, .remote_actor ⟨⟨⟨4, true⟩, url_a, url_b⟩, ⟨6, true⟩⟩),
          (2, .remote_actor ⟨⟨⟨4, true⟩, url_a, url_b⟩, ⟨6, true⟩⟩)] ∧ s.Answered url_a url_b := by
  obtain ⟨s, hs, hobs⟩ := System.reachable_of_exec system (fun _ _ => True) lookups_run
    (fun s => (decide (s.Quiet url_a url_b),
      (s url_a).replies.map fun rep => (rep.lookup.serial, rep.actor)))
    (s := bound localhost)
    (b := (true, [(0, .remote_actor ⟨⟨⟨4, true⟩, url_a, url_b⟩, ⟨6, true⟩⟩),
      (1, .remote_actor ⟨⟨⟨4, true⟩, url_a, url_b⟩, ⟨6, true⟩⟩),
      (2, .remote_actor ⟨⟨⟨4, true⟩, url_a, url_b⟩, ⟨6, true⟩⟩)]))
    (fun x => ⟨localhost, rfl⟩) (by decide +kernel)
  obtain ⟨hquiet, hreplies⟩ := Prod.mk.inj hobs
  exact ⟨s, of_decide_eq_true hquiet, hreplies, lookups_answered hs url_a url_b⟩

end NetGates

end ZAF
