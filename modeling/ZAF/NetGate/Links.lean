import Mathlib.Data.List.Perm.Basic
import ZAF.NetGate.Peers

/-! # One side of a connection

    What a net gate knows and does about one peer is its `Link` to this peer. A handler
    changes few links, and always by the operations below. For each of them this module
    says what it does to the data on its way, and that a link stays sound.
-/

namespace ZAF

/-! ### Links -/

/-- What a net gate has for a peer. -/
@[ext]
structure Link where
  conn : Option NetGateConn
  in_flight : List NetFrame
  called : List Data
  handed : List NetFrame
  received : List NetFrame

namespace NetGateActor

def link (g : NetGateActor) (url : Url) : Link :=
  ⟨g.net_gate_connections url, g.net_send_socket url, g.called url, g.handed url, g.received url⟩

def links (f : Url → Link) (g : NetGateActor) : NetGateActor :=
  { g with
    net_gate_connections := fun z => (f z).conn
    net_send_socket := fun z => (f z).in_flight
    called := fun z => (f z).called
    handed := fun z => (f z).handed
    received := fun z => (f z).received }

/-- The link to `url` is another one. -/
def set_link (g : NetGateActor) (url : Url) (l : Link) : NetGateActor :=
  links (Function.update g.link url l) g

variable (g : NetGateActor) (url : Url) (l : Link)

theorem link_links (f : Url → Link) : (links f g).link = f := rfl

@[simp] theorem link_set_link_self : (g.set_link url l).link url = l := by
  rw [set_link, link_links, Function.update_self]

theorem link_set_link_of_ne {z : Url} (h : z ≠ url) : (g.set_link url l).link z = g.link z := by
  rw [set_link, link_links, Function.update_of_ne h]

@[simp] theorem set_link_link : g.set_link url (g.link url) = g := by
  rw [set_link, Function.update_eq_self]
  rfl

@[simp] theorem set_link_set_link (l' : Link) :
    (g.set_link url l).set_link url l' = g.set_link url l' := by
  show links (Function.update (links (Function.update g.link url l) g).link url l') g = _
  rw [link_links, Function.update_idem]
  rfl

/-- The maps that are changed. -/
theorem set_link_eq :
    g.set_link url l = { g with
      net_gate_connections := Function.update g.net_gate_connections url l.conn
      net_send_socket := Function.update g.net_send_socket url l.in_flight
      called := Function.update g.called url l.called
      handed := Function.update g.handed url l.handed
      received := Function.update g.received url l.received } := by
  have hmap {α : Type} (f : Link → α) :
      (fun z => f (Function.update g.link url l z)) =
        Function.update (fun z => f (g.link z)) url (f l) :=
    funext fun z => Function.apply_update (fun _ => f) g.link url l z
  show links _ _ = _
  unfold links
  rw [hmap Link.conn, hmap Link.in_flight, hmap Link.called, hmap Link.handed, hmap Link.received]
  rfl

theorem net_gate_connections_set_link : (g.set_link url l).net_gate_connections url = l.conn :=
  congrArg Link.conn (link_set_link_self g url l)

theorem set_conn_eq (conn : NetGateConn) :
    g.set_conn url conn = g.set_link url { g.link url with conn := some conn } := by
  rw [set_link_eq]
  simp only [link, Function.update_eq_self]
  rfl

theorem set_frames_eq (frames : List NetFrame) :
    g.set_frames url frames = g.set_link url { g.link url with in_flight := frames } := by
  rw [set_link_eq]
  simp only [link, Function.update_eq_self]
  rfl

theorem log_frame_eq (frame : NetFrame) :
    g.log_frame url frame = g.set_link url { g.link url with
      received := (g.link url).received ++ [frame] } := by
  rw [set_link_eq]
  simp only [link, Function.update_eq_self]
  rfl

end NetGateActor

namespace Link

/-! ### Operations -/

/-- Frames are handed to the socket. -/
def hand (l : Link) (frames : List NetFrame) : Link :=
  { l with in_flight := l.in_flight ++ frames, handed := l.handed ++ frames }

/-- `send_to_net_gate`, with a connection. -/
def send (l : Link) (conn : NetGateConn) (d : Data) : Link :=
  if conn.is_ponged then
    { l.hand [.data d] with called := l.called ++ [d] }
  else { l with
    conn := some { conn with pending_messages := conn.pending_messages ++ [d] }
    called := l.called ++ [d] }

/-- `actor_lookup_req`, with a connection. -/
def ask (l : Link) (conn : NetGateConn) (lookup : Lookup) : Link :=
  let requesters := (conn.actor_lookup_requesters lookup.name).getD []
  let l := if requesters.isEmpty then l.send conn (.remote_actor_lookup_req lookup.name) else l
  { l with
    conn := l.conn.map fun conn =>
      conn.set_requesters lookup.name (some (requesters ++ [lookup])) }

/-- `receive_pong`, the first time. -/
def pong (l : Link) (conn : NetGateConn) : Link :=
  { l.hand (conn.pending_messages.map .data) with
    conn := some { conn with is_ponged := true, pending_messages := [] } }

/-- The data that wait or are in flight. -/
def on_the_way (l : Link) : List Data :=
  (l.conn.elim [] fun conn => conn.pending_messages) ++ l.in_flight.filterMap NetFrame.data?

def ponged (l : Link) : Bool := l.conn.any fun conn => conn.is_ponged

/-- The sender has been spawned. -/
def spawned (l : Link) : Bool := l.conn.any fun conn => conn.net_sender_info.isSome

/-- Does anybody wait for the answer to a lookup? -/
def waits (l : Link) (name : Name) : Bool :=
  l.conn.any fun conn => !((conn.actor_lookup_requesters name).getD []).isEmpty

/-- After a call of `send_to_net_gate`, the entry is the same but for `pending_messages`. -/
theorem conn_send {l : Link} {conn : NetGateConn} (hconn : l.conn = some conn) (d : Data) :
    ∃ conn', (l.send conn d).conn = some conn' ∧ conn'.net_sender_info = conn.net_sender_info ∧
      conn'.is_ponged = conn.is_ponged ∧
      conn'.actor_lookup_requesters = conn.actor_lookup_requesters := by
  unfold send
  split
  · exact ⟨conn, hconn, rfl, rfl, rfl⟩
  · exact ⟨_, rfl, rfl, rfl, rfl⟩

end Link

namespace NetGateActor

variable {g : NetGateActor} {url : Url} {conn : NetGateConn}

theorem hand_eq (frames : List NetFrame) :
    g.hand url frames = g.set_link url ((g.link url).hand frames) := by
  rw [set_link_eq]
  simp only [link, Link.hand, Function.update_eq_self]
  rfl

theorem conn_at_eq (hconn : (g.link url).conn = some conn)
    (hspawned : (g.link url).spawned = true) : g.conn_at url = some conn := by
  have hsome : conn.net_sender_info.isSome = true := by
    rwa [Link.spawned, hconn] at hspawned
  exact Option.filter_eq_some_iff.mpr ⟨hconn, hsome⟩

theorem send_to_net_gate_eq (hconn : g.conn_at url = some conn) (d : Data) :
    g.send_to_net_gate url d = some (g.set_link url ((g.link url).send conn d)) := by
  unfold send_to_net_gate
  rw [hconn, Option.map_some]
  congr 1
  unfold Link.send
  dsimp only
  split
  · rw [hand_eq, set_link_eq, set_link_eq]
    simp only [link, Link.hand, Function.update_eq_self]
  · rw [set_conn_eq, set_link_eq, set_link_eq]
    simp only [link, Function.update_eq_self]

theorem receive_pong_eq (hconn : g.conn_at url = some conn) :
    g.receive_pong url = some
      (if conn.is_ponged then g else g.set_link url ((g.link url).pong conn)) := by
  unfold receive_pong
  rw [hconn, Option.map_some]
  congr 1
  split
  · rfl
  · rw [set_conn_eq, hand_eq, link_set_link_self, set_link_set_link]
    rfl

theorem conn_of_conn_at (hat : g.conn_at url = some conn) : (g.link url).conn = some conn :=
  (Option.filter_eq_some_iff.mp hat).1

/-- A sender is needed only if there is a request to send. -/
theorem look_up_eq {lookup : Lookup} (hconn : (g.link lookup.url).conn = some conn)
    (hat : ((conn.actor_lookup_requesters lookup.name).getD []).isEmpty = true →
      g.conn_at lookup.url = some conn) :
    g.look_up lookup =
      some (g.set_link lookup.url ((g.link lookup.url).ask conn lookup)) := by
  unfold look_up
  rw [show g.net_gate_connections lookup.url = some conn from hconn]
  simp only [Option.bind_eq_bind, Option.bind_some]
  unfold Link.ask
  dsimp only
  split
  · next hempty =>
    -- the entry may have changed
    obtain ⟨conn', hconn', -⟩ := Link.conn_send hconn (.remote_actor_lookup_req lookup.name)
    rw [send_to_net_gate_eq (hat hempty), Option.bind_some]
    rw [net_gate_connections_set_link, hconn', Option.bind_some, set_conn_eq, link_set_link_self,
      set_link_set_link]
    rfl
  · rw [show g.net_gate_connections lookup.url = some conn from hconn, Option.bind_some,
      set_conn_eq, hconn]
    rfl

end NetGateActor

namespace Link

/-! ### Sound links -/

/-- What a link keeps: before a `Pong` has been received, no data have been handed over and
    all wait; afterwards, all have been handed over. -/
structure Sound (l : Link) : Prop where
  in_flight : l.in_flight.Sublist l.handed
  unknown : l.conn = none → l.handed = [] ∧ l.called = []
  ponged : l.ponged = true ↔ .pong ∈ l.received
  stable : l.ponged = true → l.handed.filterMap NetFrame.data? = l.called
  unstable : l.ponged = false → l.handed.filterMap NetFrame.data? = []
  pending : ∀ conn, l.conn = some conn →
    conn.pending_messages = if conn.is_ponged then [] else l.called

variable {l : Link} {conn conn' : NetGateConn}

theorem ponged_eq (hconn : l.conn = some conn) : l.ponged = conn.is_ponged := by
  rw [ponged, hconn, Option.any_some]

/-- No frames are in flight for a peer that is not known. -/
theorem Sound.conn_of_mem (h : l.Sound) {frame : NetFrame} (hmem : frame ∈ l.in_flight) :
    l.conn ≠ none := by
  intro hnone
  have hhanded := h.in_flight.subset hmem
  rw [(h.unknown hnone).1] at hhanded
  cases hhanded

theorem Sound.ponged_of_mem (h : l.Sound) {d : Data} (hmem : .data d ∈ l.in_flight) :
    l.ponged = true := by
  by_contra hnot
  have hdata : d ∈ l.handed.filterMap NetFrame.data? :=
    List.mem_filterMap.mpr ⟨_, h.in_flight.subset hmem, rfl⟩
  rw [h.unstable (by simpa using hnot)] at hdata
  cases hdata

/-- Some frames arrive or are lost. -/
theorem Sound.sublist (h : l.Sound) {frames : List NetFrame}
    (hframes : frames.Sublist l.in_flight) : Sound { l with in_flight := frames } :=
  ⟨hframes.trans h.in_flight, h.unknown, h.ponged, h.stable, h.unstable, h.pending⟩

/-- A frame has been received. After a `Pong`, the link must be ponged. -/
theorem Sound.log (h : l.Sound) {frame : NetFrame} (hframe : frame = .pong → l.ponged = true) :
    Sound { l with received := l.received ++ [frame] } := by
  refine ⟨h.in_flight, h.unknown, ?_, h.stable, h.unstable, h.pending⟩
  show l.ponged = true ↔ _
  rw [List.mem_append, List.mem_singleton, ← h.ponged]
  exact ⟨.inl, fun hor => hor.elim id fun heq => hframe heq.symm⟩

/-- The entry changes, but not what waits in it. -/
theorem Sound.set_conn (h : l.Sound) (hconn : l.conn = some conn)
    (hponged : conn'.is_ponged = conn.is_ponged)
    (hpending : conn'.pending_messages = conn.pending_messages) :
    Sound { l with conn := some conn' } := by
  have heq : Link.ponged { l with conn := some conn' } = l.ponged := by
    rw [ponged_eq hconn, ← hponged]
    rfl
  refine ⟨h.in_flight, fun hnone => (nomatch hnone), ?_, ?_, ?_, ?_⟩
  · rw [heq]
    exact h.ponged
  · rw [heq]
    exact h.stable
  · rw [heq]
    exact h.unstable
  · intro conn'' heq'
    cases heq'
    rw [hpending, hponged]
    exact h.pending conn hconn

/-- The entry is made. -/
theorem Sound.new (h : l.Sound) (hnone : l.conn = none) : Sound { l with conn := some .new } := by
  have hponged : l.ponged = false := by rw [Link.ponged, hnone, Option.any_none]
  refine ⟨h.in_flight, fun hnone => (nomatch hnone), ?_, ?_, ?_, ?_⟩
  · rw [← h.ponged, hponged]
    rfl
  · exact fun hp => (nomatch hp)
  · exact fun _ => h.unstable hponged
  · intro conn' heq
    cases heq
    exact (h.unknown hnone).2.symm

/-- A `Ping` or a `Pong` is sent. -/
theorem Sound.hand (h : l.Sound) (hconn : l.conn ≠ none) {frame : NetFrame}
    (hframe : frame.data? = none) : (l.hand [frame]).Sound := by
  have hdata : (l.handed ++ [frame]).filterMap NetFrame.data? =
      l.handed.filterMap NetFrame.data? := by
    rw [List.filterMap_append, List.filterMap_cons_none hframe, List.filterMap_nil,
      List.append_nil]
  refine ⟨h.in_flight.append_right _, fun hnone => absurd hnone hconn, h.ponged, ?_, ?_,
    h.pending⟩
  · intro hp
    exact hdata.trans (h.stable hp)
  · intro hp
    exact hdata.trans (h.unstable hp)

theorem Sound.send (h : l.Sound) (hconn : l.conn = some conn) (d : Data) :
    (l.send conn d).Sound := by
  have hpending := h.pending conn hconn
  have hp := ponged_eq hconn
  unfold Link.send
  split
  · next hponged =>
    rw [hponged] at hp
    refine ⟨h.in_flight.append_right _, fun hnone => ?_, h.ponged, fun _ => ?_, ?_, ?_⟩
    · exact absurd (hconn.symm.trans hnone) nofun
    · show (l.handed ++ [NetFrame.data d]).filterMap NetFrame.data? = l.called ++ [d]
      rw [List.filterMap_append, h.stable hp]
      rfl
    · intro hnot
      exact absurd (hp.symm.trans hnot) nofun
    · intro conn' heq
      cases hconn.symm.trans heq
      rw [hponged] at hpending ⊢
      exact hpending
  · next hponged =>
    have hfalse : conn.is_ponged = false := by simpa using hponged
    rw [hfalse] at hp hpending
    refine ⟨h.in_flight, fun hnone => (nomatch hnone), ?_, ?_, fun _ => h.unstable hp, ?_⟩
    · rw [← h.ponged, hp]
      exact iff_of_eq (congrArg (· = true) hfalse)
    · intro hyes
      exact absurd (hfalse.symm.trans hyes) nofun
    · intro conn' heq
      cases heq
      show conn.pending_messages ++ [d] = if conn.is_ponged then [] else l.called ++ [d]
      rw [hpending, hfalse]
      rfl

/-- The first `Pong` is received. -/
theorem Sound.pong (h : l.Sound) (hconn : l.conn = some conn) (hponged : conn.is_ponged = false) :
    (Link.pong { l with received := l.received ++ [.pong] } conn).Sound := by
  have hp := (ponged_eq hconn).trans hponged
  have hpending : conn.pending_messages = l.called := by
    have := h.pending conn hconn
    rwa [hponged] at this
  refine ⟨h.in_flight.append_right _, fun hnone => (nomatch hnone), ?_, fun _ => ?_, ?_, ?_⟩
  · exact iff_of_true rfl (List.mem_append_right _ (List.mem_singleton_self _))
  · show (l.handed ++ conn.pending_messages.map NetFrame.data).filterMap NetFrame.data? = l.called
    rw [List.filterMap_append, h.unstable hp, List.filterMap_map, hpending, List.nil_append]
    exact List.filterMap_some
  · exact fun hnot => (nomatch hnot)
  · intro conn' heq
    cases heq
    rfl

theorem Sound.ask (h : l.Sound) (hconn : l.conn = some conn) (lookup : Lookup) :
    (l.ask conn lookup).Sound := by
  unfold Link.ask
  dsimp only
  split
  · obtain ⟨conn', hconn', -⟩ := conn_send hconn (.remote_actor_lookup_req lookup.name)
    rw [hconn']
    exact (h.send hconn _).set_conn hconn' rfl rfl
  · rw [hconn]
    exact h.set_conn hconn rfl rfl

/-! ### The data on their way -/

theorem on_the_way_eq (hconn : l.conn = some conn) :
    l.on_the_way = conn.pending_messages ++ l.in_flight.filterMap NetFrame.data? := by
  rw [on_the_way, hconn]
  rfl

theorem on_the_way_send (hconn : l.conn = some conn) (d : Data) :
    (l.send conn d).on_the_way.Perm (d :: l.on_the_way) := by
  rw [on_the_way_eq hconn]
  unfold send
  split
  · have heq : on_the_way { l.hand [.data d] with called := l.called ++ [d] } =
        conn.pending_messages ++ (l.in_flight ++ [NetFrame.data d]).filterMap NetFrame.data? :=
      on_the_way_eq (l := { l.hand [.data d] with called := l.called ++ [d] }) hconn
    rw [heq, List.filterMap_append, ← List.append_assoc]
    exact List.perm_append_singleton d _
  · show (conn.pending_messages ++ [d] ++ _).Perm _
    rw [List.append_assoc]
    exact List.perm_middle

theorem on_the_way_hand {frame : NetFrame} (hframe : frame.data? = none) :
    (l.hand [frame]).on_the_way = l.on_the_way := by
  unfold on_the_way hand
  rw [List.filterMap_append, List.filterMap_cons_none hframe, List.filterMap_nil, List.append_nil]

theorem on_the_way_pong (hconn : l.conn = some conn) :
    (l.pong conn).on_the_way.Perm l.on_the_way := by
  have hpending : (conn.pending_messages.map NetFrame.data).filterMap NetFrame.data? =
      conn.pending_messages := by
    rw [List.filterMap_map]
    exact List.filterMap_some
  rw [on_the_way_eq hconn]
  show ((l.in_flight ++ conn.pending_messages.map NetFrame.data).filterMap NetFrame.data?).Perm _
  rw [List.filterMap_append, hpending]
  exact List.perm_append_comm

/-- The first frame in flight arrives. -/
theorem on_the_way_cons {frame : NetFrame} {rest : List NetFrame}
    (hframes : l.in_flight = frame :: rest) :
    l.on_the_way.Perm (frame.data?.toList ++ on_the_way { l with in_flight := rest }) := by
  rw [on_the_way, on_the_way, hframes]
  cases frame with
  | ping => exact .refl _
  | pong => exact .refl _
  | data d => exact List.perm_middle

/-- A `Ping` or a `Pong` is lost. -/
theorem on_the_way_lose {i : Nat} {frame : NetFrame} (hframe : l.in_flight[i]? = some frame)
    (hdata : frame.data? = none) :
    on_the_way { l with in_flight := l.in_flight.eraseIdx i } = l.on_the_way := by
  have hi := List.getElem?_eq_some_iff.mp hframe
  have hsplit : l.in_flight = l.in_flight.take i ++ frame :: l.in_flight.drop (i + 1) := by
    obtain ⟨hlt, heq⟩ := hi
    rw [← heq, List.getElem_cons_drop, List.take_append_drop]
  rw [on_the_way, on_the_way, List.eraseIdx_eq_take_drop_succ]
  conv_rhs => rw [hsplit]
  rw [List.filterMap_append, List.filterMap_append, List.filterMap_cons_none hdata]

theorem on_the_way_set_conn (hconn : l.conn = some conn)
    (hpending : conn'.pending_messages = conn.pending_messages) :
    on_the_way { l with conn := some conn' } = l.on_the_way := by
  rw [on_the_way_eq hconn, ← hpending]
  rfl

theorem on_the_way_set_requesters (hconn : l.conn = some conn) (name : Name)
    (requesters : Option (List Lookup)) :
    on_the_way { l with conn := some (conn.set_requesters name requesters) } = l.on_the_way :=
  on_the_way_set_conn hconn rfl

end Link
end ZAF
