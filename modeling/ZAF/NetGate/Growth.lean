import ZAF.NetGate.Lookups

/-! # How a net gate grows

    What a net gate has told a peer, what it has told a sender, and the handles that it has
    given out are never taken back. This module goes through the handlers once more and says
    which of them adds what.
-/

namespace ZAF

open LTS

/-! ### Endpoints in data -/

/-- Where a receiver can be reached. -/
abbrev Endpoint := Host × UInt16

/-- The endpoint that is told in a `DataConnReq`, if the data is one. -/
def Data.endpoint? : Data → Option Endpoint
  | .data_conn_req host port => some (host, port)
  | .remote_actor_lookup_req _ => none
  | .remote_actor_lookup_rep _ _ => none

def NetFrame.endpoint? (frame : NetFrame) : Option Endpoint := frame.data?.bind Data.endpoint?

namespace Link

/-- The sender for the peer, from when it has been spawned. -/
def info (l : Link) : Option NetSenderInfo := l.conn.bind fun conn => conn.net_sender_info

/-- What the sender has been told. -/
def endpoints (l : Link) : List Endpoint := l.conn.elim [] fun conn => conn.data_conn_reqs

/-- What the peer is told. -/
def told (l : Link) : List Endpoint := l.called.filterMap Data.endpoint?

/-! ### Links that grow -/

/-- Frames may be handed over, and the sender may be spawned. -/
structure Grows (l l' : Link) : Prop where
  info : ∀ info, l.info = some info → l'.info = some info
  received : l'.received = l.received
  frames : ∃ frames, l'.handed = l.handed ++ frames ∧ l'.in_flight = l.in_flight ++ frames

/-- The peer is told nothing, the sender neither, and no sender is spawned. -/
structure Extends (l l' : Link) : Prop extends l.Grows l' where
  info_eq : l'.info = l.info
  told : l'.told = l.told
  endpoints : l'.endpoints = l.endpoints

variable {l l' l'' : Link} {conn conn' : NetGateConn}

theorem grows_refl (l : Link) : l.Grows l :=
  ⟨fun _ => id, rfl, [], (List.append_nil _).symm, (List.append_nil _).symm⟩

/-- What is handed over later goes behind what has been handed over before. -/
theorem Grows.trans (h : l.Grows l') (h' : l'.Grows l'') : l.Grows l'' where
  info info hinfo := h'.info info (h.info info hinfo)
  received := h'.received.trans h.received
  frames := by
    obtain ⟨frames, hhanded, hflight⟩ := h.frames
    obtain ⟨frames', hhanded', hflight'⟩ := h'.frames
    refine ⟨frames ++ frames', ?_, ?_⟩
    · rw [hhanded', hhanded, List.append_assoc]
    · rw [hflight', hflight, List.append_assoc]

theorem extends_refl (l : Link) : l.Extends l := ⟨grows_refl l, rfl, rfl, rfl⟩

theorem Extends.trans (h : l.Extends l') (h' : l'.Extends l'') : l.Extends l'' :=
  ⟨h.toGrows.trans h'.toGrows, h'.info_eq.trans h.info_eq, h'.told.trans h.told,
    h'.endpoints.trans h.endpoints⟩

/-- A frame that is sent at once, a `Ping` or a `Pong`. -/
theorem extends_hand (l : Link) (frames : List NetFrame) : l.Extends (l.hand frames) :=
  ⟨⟨fun _ => id, rfl, frames, rfl, rfl⟩, rfl, rfl, rfl⟩

/-- The entry says what there is of the sender. -/
theorem info_eq_of_conn (hconn : l.conn = some conn) : l.info = conn.net_sender_info := by
  rw [info, hconn]
  rfl

theorem endpoints_eq (hconn : l.conn = some conn) : l.endpoints = conn.data_conn_reqs := by
  rw [endpoints, hconn]
  rfl

/-- The entry changes, but not what is known of the ends. -/
theorem extends_set_conn (hconn : l.conn = some conn)
    (hinfo : conn'.net_sender_info = conn.net_sender_info)
    (hreqs : conn'.data_conn_reqs = conn.data_conn_reqs) :
    l.Extends { l with conn := some conn' } := by
  have hsame : Link.info { l with conn := some conn' } = l.info :=
    hinfo.trans (info_eq_of_conn hconn).symm
  exact ⟨⟨fun _ h => hsame.trans h, rfl, [], (List.append_nil _).symm, (List.append_nil _).symm⟩,
    hsame, rfl, hreqs.trans (endpoints_eq hconn).symm⟩

/-- What is sent to a peer, as the other end will see it. -/
theorem told_send (l : Link) (conn : NetGateConn) (d : Data) :
    (l.send conn d).told = l.told ++ d.endpoint?.toList := by
  rw [told, called_send, List.filterMap_append]
  cases d <;> rfl

theorem info_send (hconn : l.conn = some conn) (d : Data) : (l.send conn d).info = l.info := by
  obtain ⟨conn', hconn', hinfo, -⟩ := conn_send hconn d
  rw [info_eq_of_conn hconn', hinfo, info_eq_of_conn hconn]

/-- Data are handed over now, or stay pending until a `Pong`. -/
theorem grows_send (hconn : l.conn = some conn) (d : Data) : l.Grows (l.send conn d) := by
  have hinfo (info : NetSenderInfo) (h : l.info = some info) :
      (l.send conn d).info = some info := (info_send hconn d).trans h
  refine ⟨hinfo, ?_, ?_⟩ <;> unfold send <;> split
  · rfl
  · rfl
  · exact ⟨[.data d], rfl, rfl⟩
  · exact ⟨[], (List.append_nil _).symm, (List.append_nil _).symm⟩

/-- What is sent to the peer is not for the own sender. -/
theorem endpoints_send (hconn : l.conn = some conn) (d : Data) :
    (l.send conn d).endpoints = l.endpoints := by
  unfold send
  split
  · rfl
  · exact (endpoints_eq hconn).symm

/-- Other data than a `DataConnReq`. -/
theorem extends_send (hconn : l.conn = some conn) {d : Data} (hd : d.endpoint? = none) :
    l.Extends (l.send conn d) := by
  refine ⟨grows_send hconn d, info_send hconn d, ?_, endpoints_send hconn d⟩
  rw [told_send, hd]
  exact List.append_nil _

/-- The entry of a new peer has no sender. -/
theorem extends_new (hnone : l.conn = none) :
    l.Extends (hand { l with conn := some .new } [.ping]) := by
  have hinfo : l.info = none := by rw [info, hnone, Option.bind_none]
  have hendpoints : l.endpoints = [] := by rw [endpoints, hnone, Option.elim_none]
  exact ⟨⟨fun _ h => absurd (hinfo.symm.trans h) nofun, rfl, [.ping], rfl, rfl⟩, hinfo.symm, rfl,
    hendpoints.symm⟩

/-- What was pending has been told before: it was called for. -/
theorem extends_pong (hconn : l.conn = some conn) : l.Extends (l.pong conn) :=
  (extends_hand l _).trans (extends_set_conn (l := l.hand _) hconn rfl rfl)

/-- A lookup joins those that wait, and may send the request for its name. -/
theorem extends_ask (hconn : l.conn = some conn) (lookup : Lookup) :
    l.Extends (l.ask conn lookup) := by
  unfold ask
  dsimp only
  split
  · obtain ⟨conn', hconn', -⟩ := conn_send hconn (.remote_actor_lookup_req lookup.name)
    rw [hconn', Option.map_some]
    exact (extends_send hconn rfl).trans (extends_set_conn hconn' rfl rfl)
  · rw [hconn, Option.map_some]
    exact extends_set_conn hconn rfl rfl

/-- No peer becomes known or is forgotten by sending. -/
theorem known_send (hconn : l.conn = some conn) (d : Data) :
    (l.send conn d).conn = none ↔ l.conn = none := by
  obtain ⟨conn', hconn', -⟩ := conn_send hconn d
  rw [hconn', hconn]
  exact iff_of_false nofun nofun

theorem known_ask (hconn : l.conn = some conn) (lookup : Lookup) :
    (l.ask conn lookup).conn = none ↔ l.conn = none := by
  unfold ask
  dsimp only
  split
  · rw [Option.map_eq_none_iff]
    exact known_send hconn _
  · rw [Option.map_eq_none_iff]

end Link

/-! ### Net gates that grow -/

/-- A handler that retrieves an actor waits for the connection to its net gate. -/
def Continuation.At (k : Continuation) (url : Url) : Prop :=
  ∀ info, k = .retrieve_actor_req info → info.net_gate_url = url

namespace NetGateActor

/-- Is `url` connected, with no handler that waits for this? -/
def Established (g : NetGateActor) (url : Url) : Prop :=
  (g.link url).conn ≠ none ∧ ∀ k, g.control.establishing ≠ some (url, k)

/-- The actor is `l` of the peer `url`, behind the sender of its connection. -/
def Behind (g : NetGateActor) (url : Url) (l : LocalActorHandle) (actor : Actor) : Prop :=
  ∃ info, (g.link url).info = some info ∧ actor = .remote_actor ⟨info, l⟩

/-- The answer to a `RetrieveActorReq`. -/
def Retrieved (g : NetGateActor) (info : ActorInfo) (actor : Actor) : Prop :=
  (info.net_gate_url = g.bind_url ∧ actor = .local_actor info.actor) ∨
    g.Behind info.net_gate_url info.actor actor

/-- What a net gate does in a step, but for the frame that has arrived. The sender of a
    connection is told what has been told by the peer. -/
structure Grows (g g' : NetGateActor) (passed : Url → List Endpoint := fun _ => []) : Prop where
  bind_host : g'.bind_host = g.bind_host
  bind_url : g'.bind_url = g.bind_url
  links : ∀ z, (g.link z).Grows (g'.link z)
  endpoints : ∀ z, (g'.link z).endpoints = (g.link z).endpoints ++ passed z
  replies : ∀ rep ∈ g'.replies, rep ∈ g.replies ∨ ∃ l, g'.Behind rep.peer l rep.actor
  retrieved : ∀ p ∈ g'.retrieved, p ∈ g.retrieved ∨ g'.Retrieved p.1 p.2

/-- No peer is told anything, and no sender is spawned. -/
structure Extends (g g' : NetGateActor) (passed : Url → List Endpoint := fun _ => []) : Prop
    extends g.Grows g' passed where
  info_eq : ∀ z, (g'.link z).info = (g.link z).info
  told : ∀ z, (g'.link z).told = (g.link z).told
  established : ∀ z, g'.Established z ↔ g.Established z
  control : g'.control = g.control ∨ g'.control.establishing = none ∨
    ∃ z k, g'.control = .spawning z k ∧ (g.link z).info = none ∧ k.At z

variable {g g' g'' : NetGateActor} {url : Url} {l' : Link} {conn : NetGateConn}

/-- A handle that leads to a peer goes on doing so. -/
theorem Behind.grows {l : LocalActorHandle} {actor : Actor} (h : g.Behind url l actor)
    {passed : Url → List Endpoint} (hgrows : g.Grows g' passed) : g'.Behind url l actor := by
  obtain ⟨info, hinfo, hactor⟩ := h
  exact ⟨info, (hgrows.links url).info info hinfo, hactor⟩

theorem Retrieved.grows {info : ActorInfo} {actor : Actor} (h : g.Retrieved info actor)
    {passed : Url → List Endpoint} (hgrows : g.Grows g' passed) : g'.Retrieved info actor :=
  h.imp (fun hown => ⟨hown.1.trans hgrows.bind_url.symm, hown.2⟩) fun h => h.grows hgrows

/-- Step by step: handles that have been given out stay good in the next step. -/
theorem Grows.trans (h : g.Grows g') (h' : g'.Grows g'') : g.Grows g'' where
  bind_host := h'.bind_host.trans h.bind_host
  bind_url := h'.bind_url.trans h.bind_url
  links z := (h.links z).trans (h'.links z)
  endpoints z := by rw [h'.endpoints, h.endpoints, List.append_nil]
  replies rep hrep := (h'.replies rep hrep).elim
    (fun hrep => (h.replies rep hrep).imp_right fun ⟨l, hl⟩ => ⟨l, hl.grows h'⟩) .inr
  retrieved p hp := (h'.retrieved p hp).elim
    (fun hp => (h.retrieved p hp).imp_right fun hp => hp.grows h') .inr

theorem Extends.trans (h : g.Extends g') (h' : g'.Extends g'') : g.Extends g'' where
  toGrows := h.toGrows.trans h'.toGrows
  info_eq z := (h'.info_eq z).trans (h.info_eq z)
  told z := (h'.told z).trans (h.told z)
  established z := (h'.established z).trans (h.established z)
  control := by
    rcases h'.control with heq | hnone | ⟨z, k, hk, hnone, hat⟩
    · rw [heq]
      exact h.control
    · exact .inr (.inl hnone)
    · exact .inr (.inr ⟨z, k, hk, (h.info_eq z).symm.trans hnone, hat⟩)

/-- What the ends do not see. -/
theorem extends_of_eq (hbind_host : g'.bind_host = g.bind_host)
    (hbind_url : g'.bind_url = g.bind_url)
    (hlink : g'.link = g.link) (hcontrol : g'.control = g.control)
    (hreplies : g'.replies = g.replies) (hretrieved : g'.retrieved = g.retrieved) :
    g.Extends g' where
  bind_host := hbind_host
  bind_url := hbind_url
  links z := hlink ▸ Link.grows_refl _
  endpoints z := by rw [hlink, List.append_nil]
  replies _ hrep := .inl (hreplies ▸ hrep)
  retrieved _ hp := .inl (hretrieved ▸ hp)
  info_eq z := by rw [hlink]
  told z := by rw [hlink]
  established z := by rw [Established, Established, hlink, hcontrol]
  control := .inl hcontrol

theorem extends_refl (g : NetGateActor) : g.Extends g := extends_of_eq rfl rfl rfl rfl rfl rfl

/-- One link changes, and its sender is told something. -/
theorem extends_set_link_passed {new : List Endpoint} (hgrows : (g.link url).Grows l')
    (hinfo : l'.info = (g.link url).info) (htold : l'.told = (g.link url).told)
    (hendpoints : l'.endpoints = (g.link url).endpoints ++ new)
    (hknown : l'.conn = none ↔ (g.link url).conn = none) :
    g.Extends (g.set_link url l') fun z => if z = url then new else [] := by
  have hlink (z : Url) : (g.set_link url l').link z = if z = url then l' else g.link z := by
    split
    · next hz => rw [hz, link_set_link_self]
    · next hz => rw [link_set_link_of_ne g url l' hz]
  refine ⟨⟨rfl, rfl, fun z => ?_, fun z => ?_, fun _ => .inl, fun _ => .inl⟩, fun z => ?_,
    fun z => ?_, fun z => and_congr_left fun _ => not_congr ?_, .inl rfl⟩
  all_goals rw [hlink]
  · split
    · next hz => exact hz ▸ hgrows
    · exact Link.grows_refl _
  · split
    · next hz => exact hz ▸ hendpoints
    · exact (List.append_nil _).symm
  · split
    · next hz => exact hz ▸ hinfo
    · rfl
  · split
    · next hz => exact hz ▸ htold
    · rfl
  · split
    · next hz => exact hz ▸ hknown
    · exact Iff.rfl

/-- One link is extended. -/
theorem extends_set_link (h : (g.link url).Extends l')
    (hknown : l'.conn = none ↔ (g.link url).conn = none) : g.Extends (g.set_link url l') := by
  have hext := extends_set_link_passed h.toGrows h.info_eq h.told
    (h.endpoints.trans (List.append_nil _).symm) hknown
  simpa only [ite_self] using hext

/-! ### Handlers that extend -/

/-- By what each handler calls. -/
theorem hand_extends (g : NetGateActor) (url : Url) (frames : List NetFrame) :
    g.Extends (g.hand url frames) := by
  rw [hand_eq]
  exact extends_set_link (Link.extends_hand _ frames) Iff.rfl

theorem send_to_net_gate_extends {d : Data} (hd : d.endpoint? = none)
    (h : g.send_to_net_gate url d = some g') : g.Extends g' := by
  obtain ⟨conn, hat, -⟩ := Option.map_eq_some_iff.mp h
  rw [send_to_net_gate_eq hat] at h
  cases h
  have hconn := conn_of_conn_at hat
  exact extends_set_link (Link.extends_send hconn hd) (Link.known_send hconn d)

/-- A `Ping`, and its `PingRetry` is delayed again. -/
theorem ping_net_gate_extends (h : g.ping_net_gate url = some g') : g.Extends g' := by
  obtain ⟨conn, -, heq⟩ := Option.map_eq_some_iff.mp h
  split at heq
  · cases heq
    exact extends_refl g
  · cases heq
    exact (hand_extends g url [.ping]).trans (extends_of_eq rfl rfl rfl rfl rfl rfl)

/-- The entry changes in the requesters, or in what is pending. -/
theorem set_conn_extends {conn' : NetGateConn} (hconn : (g.link url).conn = some conn)
    (hinfo : conn'.net_sender_info = conn.net_sender_info)
    (hreqs : conn'.data_conn_reqs = conn.data_conn_reqs) : g.Extends (g.set_conn url conn') := by
  rw [set_conn_eq]
  refine extends_set_link (Link.extends_set_conn hconn hinfo hreqs) ?_
  rw [hconn]
  exact iff_of_false nofun nofun

theorem receive_pong_extends (h : g.receive_pong url = some g') : g.Extends g' := by
  obtain ⟨conn, hat, -⟩ := Option.map_eq_some_iff.mp h
  rw [receive_pong_eq hat] at h
  split at h
  · cases h
    exact extends_refl g
  · cases h
    have hconn := conn_of_conn_at hat
    refine extends_set_link (Link.extends_pong hconn) ?_
    rw [hconn]
    exact iff_of_false nofun nofun

/-- Data for several peers, by induction on them. -/
theorem foldlM_extends {d : Data} (hd : d.endpoint? = none) (requesters : List Url)
    (g : NetGateActor)
    (h : requesters.foldlM (fun (g : NetGateActor) i => g.send_to_net_gate i d) g = some g') :
    g.Extends g' := by
  induction requesters generalizing g with
  | nil =>
    cases h
    exact extends_refl _
  | cons i requesters ih =>
    rw [List.foldlM_cons] at h
    obtain ⟨g₁, hsend, hrest⟩ := Option.bind_eq_some_iff.mp h
    exact (send_to_net_gate_extends hd hsend).trans (ih g₁ hrest)

/-- A lookup that succeeds has found the connection. -/
theorem look_up_some {lookup : Lookup} (h : g.look_up lookup = some g') :
    ∃ conn, (g.link lookup.url).conn = some conn ∧
      g' = g.set_link lookup.url ((g.link lookup.url).ask conn lookup) := by
  obtain ⟨conn, hconn, hrest⟩ := Option.bind_eq_some_iff.mp h
  have hat (hempty : ((conn.actor_lookup_requesters lookup.name).getD []).isEmpty = true) :
      g.conn_at lookup.url = some conn := by
    rw [if_pos hempty] at hrest
    obtain ⟨g₁, hsend, -⟩ := Option.bind_eq_some_iff.mp hrest
    obtain ⟨conn', hat', -⟩ := Option.map_eq_some_iff.mp hsend
    rw [hat', ← conn_of_conn_at hat']
    exact hconn
  rw [look_up_eq hconn hat] at h
  cases h
  exact ⟨conn, hconn, rfl⟩

/-- What comes after `establish_connection`, with the connection to `url`. -/
theorem resume_extends {k : Continuation} (hat : k.At url) (h : g.resume url k = some g') :
    g.Extends g' := by
  cases k with
  | net_gate_conn_req =>
    cases h
    exact extends_refl g
  | actor_lookup_req lookup =>
    obtain ⟨conn, hconn, rfl⟩ := look_up_some h
    exact extends_set_link (Link.extends_ask hconn lookup) (Link.known_ask hconn lookup)
  | retrieve_actor_req info =>
    obtain ⟨conn, hconn, hrest⟩ := Option.bind_eq_some_iff.mp h
    obtain ⟨net_sender_info, hinfo, heq⟩ := Option.bind_eq_some_iff.mp hrest
    cases heq
    have hbehind : (g.link url).info = some net_sender_info :=
      (Link.info_eq_of_conn (conn_of_conn_at hconn)).trans hinfo
    refine ⟨⟨rfl, rfl, fun _ => Link.grows_refl _, fun _ => (List.append_nil _).symm,
      fun _ => .inl, fun p hp => ?_⟩, fun _ => rfl, fun _ => rfl, fun _ => Iff.rfl, .inl rfl⟩
    -- the handle is made from the connection that the handler has waited for
    refine (List.mem_append.mp hp).imp_right fun hp => ?_
    rw [List.mem_singleton.mp hp]
    refine .inr ⟨net_sender_info, ?_, rfl⟩
    rw [hat info rfl]
    exact hbehind
  | ping =>
    cases h
    exact hand_extends g url [.pong]

/-- What follows does not make the handler wait again. -/
theorem control_resume {k : Continuation} (h : g.resume url k = some g') :
    g'.control = g.control := by
  cases k with
  | net_gate_conn_req =>
    cases h
    rfl
  | actor_lookup_req lookup =>
    obtain ⟨conn, -, rfl⟩ := look_up_some h
    rfl
  | retrieve_actor_req info =>
    obtain ⟨conn, -, hrest⟩ := Option.bind_eq_some_iff.mp h
    obtain ⟨net_sender_info, -, heq⟩ := Option.bind_eq_some_iff.mp hrest
    cases heq
    rfl
  | ping =>
    cases h
    rfl

/-- Between handlers all known peers are connected. -/
theorem established_of_idle (hcontrol : g.control = .idle) (z : Url) :
    g.Established z ↔ (g.link z).conn ≠ none := by
  rw [Established, hcontrol]
  exact and_iff_left fun _ hk => by cases hk

/-- For a known peer the handler goes on. For a new one it waits, and until then the peer does not
    count as connected. -/
theorem establish_connection_extends {k : Continuation} (hat : k.At url)
    (hcontrol : g.control = .idle) (h : g.establish_connection url k = some g') :
    g.Extends g' := by
  cases hnone : (g.link url).conn with
  | some conn =>
    unfold establish_connection at h
    rw [show g.net_gate_connections url = some conn from hnone] at h
    exact resume_extends hat h
  | none =>
    rw [establish_connection_eq hnone k] at h
    cases h
    have hinfo : (g.link url).info = none := by rw [Link.info, hnone, Option.bind_none]
    have hlink (z : Url) : (g.link z).Extends ((g.set_link url
        (Link.hand { g.link url with conn := some .new } [.ping])).link z) := by
      by_cases hz : z = url
      · subst hz
        rw [link_set_link_self]
        exact Link.extends_new hnone
      · rw [link_set_link_of_ne g url _ hz]
        exact Link.extends_refl _
    refine ⟨⟨rfl, rfl, fun z => (hlink z).toGrows,
      fun z => (hlink z).endpoints.trans (List.append_nil _).symm, fun _ => .inl, fun _ => .inl⟩,
      fun z => (hlink z).info_eq, fun z => (hlink z).told, fun z => ?_,
      .inr (.inr ⟨url, k, rfl, hinfo, hat⟩)⟩
    rw [established_of_idle hcontrol]
    by_cases hz : z = url
    -- the new connection is being established
    · subst hz
      exact iff_of_false (fun hest => hest.2 k rfl) fun hconn => hconn hnone
    · have hsame : (g.set_link url (Link.hand { g.link url with conn := some .new }
          [.ping])).link z = g.link z := link_set_link_of_ne g url _ hz
      constructor
      · intro hest
        have hconn := hest.1
        change ((g.set_link url _).link z).conn ≠ none at hconn
        rwa [hsame] at hconn
      · intro hconn
        refine ⟨?_, fun k' hk' => hz ?_⟩
        · show ((g.set_link url _).link z).conn ≠ none
          rwa [hsame]
        · cases hk'
          rfl

/-- The requesters of the name are told the actor, and no endpoint. -/
theorem actor_registration_extends {name : Name} {l : LocalActorHandle}
    (h : g.actor_registration name l = some g') : g.Extends g' := by
  obtain ⟨g₁, hfold, rfl⟩ := Option.map_eq_some_iff.mp h
  have hfold := foldlM_extends (d := .remote_actor_lookup_rep name l) rfl _ _ hfold
  have hfirst : g.Extends { g with
      local_registered_actors := Function.update g.local_registered_actors name
        ⟨some l, (g.local_registered_actors name).requesters⟩
      registered := g.registered ++ [(name, l)] } := extends_of_eq rfl rfl rfl rfl rfl rfl
  exact (hfirst.trans hfold).trans (extends_of_eq rfl rfl rfl rfl rfl rfl)

/-- Other handlers than that of `RetrieveActorReq` make no handle. -/
theorem at_of_ne {k : Continuation} (h : ∀ info, k ≠ .retrieve_actor_req info) (url : Url) :
    k.At url := fun info hk => absurd hk (h info)

/-- The handlers of messages. -/
theorem process_extends {m : GateMessage} (hcontrol : g.control = .idle)
    (h : g.process m = some g') : g.Extends g' := by
  cases m with
  | net_gate_conn_req host port =>
    exact establish_connection_extends (at_of_ne (fun _ hk => by cases hk) _) hcontrol h
  | actor_registration name actor =>
    cases actor with
    | local_actor l => exact actor_registration_extends h
    | remote_actor r =>
      cases h
      refine ⟨⟨rfl, rfl, fun _ => Link.grows_refl _, fun _ => (List.append_nil _).symm,
        fun _ => .inl, fun _ => .inl⟩, fun _ => rfl, fun _ => rfl, fun z => ?_, .inr (.inl rfl)⟩
      rw [established_of_idle hcontrol]
      exact and_iff_left fun _ hk => by cases hk
  | actor_lookup_req lookup =>
    exact establish_connection_extends (at_of_ne (fun _ hk => by cases hk) _) hcontrol h
  | retrieve_actor_req info =>
    simp only [process] at h
    split at h
    -- the actor is here: the answer is a local handle
    · next hown =>
      cases h
      refine ⟨⟨rfl, rfl, fun _ => Link.grows_refl _, fun _ => (List.append_nil _).symm,
        fun _ => .inl, fun p hp => ?_⟩, fun _ => rfl, fun _ => rfl, fun _ => Iff.rfl, .inl rfl⟩
      refine (List.mem_append.mp hp).imp_right fun hp => ?_
      rw [List.mem_singleton.mp hp]
      exact .inl ⟨hown, rfl⟩
    · refine establish_connection_extends ?_ hcontrol h
      intro info' hk
      cases hk
      rfl
  | ping_retry url => exact ping_net_gate_extends h

/-- The request is answered with data, or its peer is noted. -/
theorem remote_actor_lookup_req_extends {peer : Url} {name : Name}
    (h : g.remote_actor_lookup_req peer name = some g') : g.Extends g' := by
  unfold remote_actor_lookup_req at h
  dsimp only at h
  split at h
  · exact send_to_net_gate_extends rfl h
  · cases h
    exact extends_of_eq rfl rfl rfl rfl rfl rfl

/-- All that wait get a handle with the sender of the connection. -/
theorem remote_actor_lookup_rep_extends {peer : Url} {name : Name} {l : LocalActorHandle}
    (h : g.remote_actor_lookup_rep peer name l = some g') : g.Extends g' := by
  obtain ⟨conn, hat, hrest⟩ := Option.bind_eq_some_iff.mp h
  obtain ⟨requesters, hrequesters, hrest⟩ := Option.bind_eq_some_iff.mp hrest
  obtain ⟨info, hinfo, heq⟩ := Option.bind_eq_some_iff.mp hrest
  cases heq
  have hconn : (g.link peer).conn = some conn := conn_of_conn_at hat
  have hset : g.Extends (g.set_conn peer (conn.set_requesters name none)) :=
    set_conn_extends hconn rfl rfl
  have hbehind : ((g.set_conn peer (conn.set_requesters name none)).link peer).info = some info :=
    (hset.info_eq peer).trans ((Link.info_eq_of_conn hconn).trans hinfo)
  refine ⟨⟨rfl, rfl, hset.links, hset.endpoints, fun rep hrep => ?_, hset.retrieved⟩,
    hset.info_eq, hset.told, hset.established, hset.control⟩
  refine (List.mem_append.mp hrep).imp_right fun hrep => ?_
  obtain ⟨lookup, -, rfl⟩ := List.mem_map.mp hrep
  exact ⟨l, info, hbehind, rfl⟩

/-- What the senders are told when a frame is handled. -/
def passed (peer : Url) (frame : NetFrame) (z : Url) : List Endpoint :=
  if z = peer then frame.endpoint?.toList else []

/-- The only frame that has something for the sender. -/
theorem data_conn_req_extends {peer : Url} {host : Host} {port : UInt16}
    (h : g.process_frame peer (.data (.data_conn_req host port)) = some g') :
    g.Extends g' (passed peer (.data (.data_conn_req host port))) := by
  obtain ⟨conn, hat, rfl⟩ := Option.map_eq_some_iff.mp h
  have hconn := conn_of_conn_at hat
  have hinfo : conn.net_sender_info = (g.link peer).info := (Link.info_eq_of_conn hconn).symm
  rw [set_conn_eq]
  refine extends_set_link_passed ⟨fun _ h => hinfo.trans h, rfl, [], (List.append_nil _).symm,
    (List.append_nil _).symm⟩ hinfo rfl ?_ ?_
  · rw [Link.endpoints_eq hconn]
    rfl
  · rw [hconn]
    exact iff_of_false nofun nofun

/-- The handlers of frames. -/
theorem process_frame_extends {peer : Url} {frame : NetFrame} (hcontrol : g.control = .idle)
    (h : g.process_frame peer frame = some g') : g.Extends g' (passed peer frame) := by
  have hnothing (hframe : frame.endpoint? = none) : passed peer frame = fun _ => [] := by
    funext z
    rw [passed, hframe]
    exact ite_self _
  cases frame with
  | ping =>
    rw [hnothing rfl]
    exact establish_connection_extends (at_of_ne (fun _ hk => by cases hk) _) hcontrol h
  | pong =>
    rw [hnothing rfl]
    exact receive_pong_extends h
  | data d =>
    cases d with
    | data_conn_req host port => exact data_conn_req_extends h
    | remote_actor_lookup_req name =>
      rw [hnothing rfl]
      exact remote_actor_lookup_req_extends h
    | remote_actor_lookup_rep name l =>
      rw [hnothing rfl]
      exact remote_actor_lookup_rep_extends h

/-- The rest moves messages about. -/
theorem arrive_extends (g : NetGateActor) (m : GateMessage) : g.Extends (g.arrive m) := by
  cases m <;> exact extends_of_eq rfl rfl rfl rfl rfl rfl

theorem take_message_extends {m : GateMessage} (h : g.take_message = some (m, g')) :
    g.Extends g' := by
  unfold take_message at h
  split at h
  · cases h
    exact extends_of_eq rfl rfl rfl rfl rfl rfl
  · cases h
    exact extends_of_eq rfl rfl rfl rfl rfl rfl
  · cases h

theorem defer_message_extends (h : g.defer_message = some g') : g.Extends g' := by
  unfold defer_message at h
  split at h
  · cases h
    exact extends_of_eq rfl rfl rfl rfl rfl rfl
  · cases h

theorem poll_extends (g : NetGateActor) : g.Extends g.poll := extends_of_eq rfl rfl rfl rfl rfl rfl

theorem flush_extends (h : g.flush = some g') : g.Extends g' := by
  unfold flush at h
  split at h
  · cases h
    exact extends_of_eq rfl rfl rfl rfl rfl rfl
  · cases h

/-! ### Handlers that wait -/

/-- The sender for `url` is spawned. -/
structure Spawns (g g' : NetGateActor) (url : Url) (k : Continuation) (sender : LocalActorHandle) :
    Prop extends g.Grows g' where
  info_eq : ∀ z, (g'.link z).info =
    if z = url then some ⟨sender, g.bind_url, url⟩ else (g.link z).info
  told : ∀ z, (g'.link z).told = (g.link z).told
  established : ∀ z, g'.Established z ↔ g.Established z
  control : g'.control = .waiting url k

/-- The first sender for this peer: there was none. -/
theorem spawn_spawns {k : Continuation} (hcontrol : g.control = .spawning url k)
    (hnone : (g.link url).info = none) {sender : LocalActorHandle}
    (h : g.spawn url k sender = some g') : g.Spawns g' url k sender := by
  obtain ⟨conn, hconn, rfl⟩ := Option.map_eq_some_iff.mp h
  have hconn : (g.link url).conn = some conn := hconn
  rw [set_conn_eq]
  have hlink (z : Url) : (g.set_link url { g.link url with
      conn := some { conn with net_sender_info := some ⟨sender, g.bind_url, url⟩ } }).link z =
      if z = url then { g.link url with
        conn := some { conn with net_sender_info := some ⟨sender, g.bind_url, url⟩ } }
      else g.link z := by
    split
    · next hz => rw [hz, link_set_link_self]
    · next hz => rw [link_set_link_of_ne g url _ hz]
  refine ⟨⟨rfl, rfl, fun z => ?_, fun z => ?_, fun _ => .inl, fun _ => .inl⟩, fun z => ?_,
    fun z => ?_, fun z => and_congr ?_ (forall_congr' fun k' => ?_), rfl⟩
  · show (g.link z).Grows ((g.set_link url _).link z)
    rw [hlink]
    split
    · next hz =>
      rw [hz]
      exact ⟨fun _ h => absurd (hnone.symm.trans h) nofun, rfl, [], (List.append_nil _).symm,
        (List.append_nil _).symm⟩
    · exact Link.grows_refl _
  · show ((g.set_link url _).link z).endpoints = _
    rw [hlink, List.append_nil]
    split
    · next hz => rw [hz, Link.endpoints_eq hconn]; rfl
    · rfl
  · show ((g.set_link url _).link z).info = _
    rw [hlink]
    split <;> rfl
  · show ((g.set_link url _).link z).told = _
    rw [hlink]
    split
    · next hz => rw [hz]; rfl
    · rfl
  · show ((g.set_link url _).link z).conn ≠ none ↔ _
    rw [hlink]
    split
    · next hz =>
      rw [hz, hconn]
      exact iff_of_true nofun nofun
    · exact Iff.rfl
  -- both before and after, this is the connection that is being established
  · rw [hcontrol]
    exact Iff.rfl

/-- The peer `url` is told the endpoint of the receiver. -/
structure Tells (g g' : NetGateActor) (url : Url) (port : UInt16) : Prop extends g.Grows g' where
  info_eq : ∀ z, (g'.link z).info = (g.link z).info
  told : ∀ z, (g'.link z).told =
    if z = url then (g.link z).told ++ [(g.bind_host, port)] else (g.link z).told
  established : ∀ z, g'.Established z ↔ z = url ∨ g.Established z
  control : g'.control.establishing = none

/-- The peer is told the port once, when the connection has been established by this. -/
theorem bind_port_rep_tells {k : Continuation} (hcontrol : g.control = .waiting url k)
    (hat : k.At url) {port : UInt16} (h : g.bind_port_rep url k port = some g') :
    g.Tells g' url port := by
  obtain ⟨g₁, hsend, hresume⟩ := Option.bind_eq_some_iff.mp h
  obtain ⟨conn, hconn_at, -⟩ := Option.map_eq_some_iff.mp hsend
  rw [send_to_net_gate_eq hconn_at] at hsend
  cases hsend
  have hconn := conn_of_conn_at hconn_at
  have hcontrol' := control_resume hresume
  have hresume := resume_extends hat hresume
  have hlink (z : Url) : (g.set_link url ((g.link url).send conn
      (.data_conn_req g.bind_host port))).link z =
      if z = url then (g.link url).send conn (.data_conn_req g.bind_host port)
      else g.link z := by
    split
    · next hz => rw [hz, link_set_link_self]
    · next hz => rw [link_set_link_of_ne g url _ hz]
  -- first the port is sent, then the handler goes on
  have hgrows : g.Grows { g.set_link url ((g.link url).send conn
      (.data_conn_req g.bind_host port)) with control := .idle } := by
    refine ⟨rfl, rfl, fun z => ?_, fun z => ?_, fun _ => .inl, fun _ => .inl⟩
    · show (g.link z).Grows ((g.set_link url _).link z)
      rw [hlink]
      split
      · next hz => exact hz ▸ Link.grows_send hconn _
      · exact Link.grows_refl _
    · show ((g.set_link url _).link z).endpoints = _
      rw [hlink, List.append_nil]
      split
      · next hz => exact hz ▸ Link.endpoints_send hconn _
      · rfl
  refine ⟨hgrows.trans hresume.toGrows, fun z => (hresume.info_eq z).trans ?_,
    fun z => (hresume.told z).trans ?_, fun z => (hresume.established z).trans ?_, ?_⟩
  · show ((g.set_link url _).link z).info = _
    rw [hlink]
    split
    · next hz => exact hz ▸ Link.info_send hconn _
    · rfl
  · show ((g.set_link url _).link z).told = _
    rw [hlink]
    split
    · next hz =>
      rw [hz, Link.told_send]
      rfl
    · rfl
  -- one more peer is connected, and the others are as before
  · rw [established_of_idle rfl]
    show ((g.set_link url _).link z).conn ≠ none ↔ _
    rw [hlink]
    split
    · next hz =>
      have hsent := (Link.known_send hconn (.data_conn_req g.bind_host port)).not
      exact iff_of_true (hsent.mpr (by rw [hconn]; exact nofun)) (.inl hz)
    · next hz =>
      rw [Established, hcontrol]
      refine ⟨fun h => .inr ⟨h, fun k' hk' => hz ?_⟩, fun h => (h.resolve_left hz).1⟩
      cases hk'
      rfl
  · rw [hcontrol']
    rfl

end NetGateActor
end ZAF
