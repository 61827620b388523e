import ZAF.NetGate.Growth

/-! # Pinging until there is an answer

    `Ping` and `Pong` may be lost. So with each `Ping`, a `PingRetry` is delayed, and its
    handler starts over if there is no `Pong` yet. This module counts: for each peer that has
    not answered there is exactly one `PingRetry`, wherever it is, and after the answer there
    are no more `Ping`s. So the net gate never pings twice at a time. Whether it comes to
    handle the `PingRetry` is another matter: one that is put off waits for further messages.
-/

namespace ZAF

open LTS

namespace Link

/-- How often the peer has been pinged. -/
def pings (l : Link) : Nat := l.handed.count .ping

/-- The peer is known as before, what is ponged stays so, and there is no `Ping`. -/
structure Stays (l l' : Link) : Prop where
  known : l'.conn = none ↔ l.conn = none
  ponged : l.ponged = true → l'.ponged = true
  pings : l'.pings = l.pings

variable {l l' l'' : Link} {conn conn' : NetGateConn}

theorem stays_refl (l : Link) : l.Stays l := ⟨Iff.rfl, id, rfl⟩

theorem Stays.trans (h : l.Stays l') (h' : l'.Stays l'') : l.Stays l'' :=
  ⟨h'.known.trans h.known, h'.ponged ∘ h.ponged, h'.pings.trans h.pings⟩

theorem pings_hand (l : Link) (frames : List NetFrame) :
    (l.hand frames).pings = l.pings + frames.count .ping :=
  List.count_append ..

theorem stays_hand (l : Link) {frames : List NetFrame} (hframes : frames.count .ping = 0) :
    l.Stays (l.hand frames) :=
  ⟨Iff.rfl, id, by rw [pings_hand, hframes, Nat.add_zero]⟩

theorem count_ping_data (data : List Data) : (data.map NetFrame.data).count .ping = 0 := by
  refine List.count_eq_zero.mpr fun hmem => ?_
  obtain ⟨d, -, hd⟩ := List.mem_map.mp hmem
  cases hd

theorem stays_set_conn (hconn : l.conn = some conn)
    (hponged : conn.is_ponged = true → conn'.is_ponged = true) :
    l.Stays { l with conn := some conn' } := by
  refine ⟨?_, fun hp => hponged ?_, rfl⟩
  · rw [hconn]
    exact iff_of_false (Option.some_ne_none _) (Option.some_ne_none _)
  · rwa [ponged_eq hconn] at hp

/-- Data are no pings, whether they are handed over or wait at the entry. -/
theorem stays_send (hconn : l.conn = some conn) (d : Data) : l.Stays (l.send conn d) := by
  refine ⟨known_send hconn d, fun hp => (ponged_send hconn d).trans hp, ?_⟩
  unfold send
  split
  · exact pings_hand l [.data d]
  · rfl

/-- What has waited for the `Pong` are data. -/
theorem stays_pong (hconn : l.conn = some conn) : l.Stays (l.pong conn) :=
  (stays_hand l (count_ping_data _)).trans (stays_set_conn (l := l.hand _) hconn fun _ => rfl)

theorem stays_ask (hconn : l.conn = some conn) (lookup : Lookup) :
    l.Stays (l.ask conn lookup) := by
  unfold ask
  dsimp only
  split
  · obtain ⟨conn', hconn', -⟩ := conn_send hconn (.remote_actor_lookup_req lookup.name)
    rw [hconn', Option.map_some]
    exact (stays_send hconn _).trans (stays_set_conn hconn' id)
  · rw [hconn, Option.map_some]
    exact stays_set_conn hconn id

end Link

namespace NetGateActor

/-! ### What a handler schedules -/

/-- How many `PingRetry` messages there are for `z`, wherever they are. -/
def num_retries (g : NetGateActor) (z : Url) : Nat :=
  g.pending_messages.count (.ping_retry z) + g.recv_socket.count (.ping_retry z) +
    g.delayed_messages.count z

/-- The peers in `new` are pinged and nobody else. -/
structure Pings (g g' : NetGateActor) (new : List Url) : Prop where
  recv_socket : g'.recv_socket = g.recv_socket
  revents : g'.revents = g.revents
  pending_messages : g'.pending_messages = g.pending_messages
  delayed_messages : g'.delayed_messages = g.delayed_messages ++ new
  known : ∀ z, (g'.link z).conn ≠ none ↔ (g.link z).conn ≠ none ∨ z ∈ new
  ponged : ∀ z, (g.link z).ponged = true → (g'.link z).ponged = true ∧ z ∉ new
  pings : ∀ z, (g'.link z).pings = (g.link z).pings + new.count z

variable {g g' g'' : NetGateActor} {url : Url} {l' : Link} {conn : NetGateConn} {new : List Url}

theorem pings_of_eq (hrecv : g'.recv_socket = g.recv_socket) (hrevents : g'.revents = g.revents)
    (hpending : g'.pending_messages = g.pending_messages)
    (hdelayed : g'.delayed_messages = g.delayed_messages) (hlink : g'.link = g.link) :
    g.Pings g' [] where
  recv_socket := hrecv
  revents := hrevents
  pending_messages := hpending
  delayed_messages := hdelayed.trans (List.append_nil _).symm
  known z := by
    rw [hlink]
    exact (or_iff_left (List.not_mem_nil)).symm
  ponged z hp := ⟨by rwa [hlink], List.not_mem_nil⟩
  pings z := by rw [hlink, List.count_nil, Nat.add_zero]

theorem pings_refl (g : NetGateActor) : g.Pings g [] := pings_of_eq rfl rfl rfl rfl rfl

theorem Pings.trans (h : g.Pings g' []) (h' : g'.Pings g'' new) : g.Pings g'' new where
  recv_socket := h'.recv_socket.trans h.recv_socket
  revents := h'.revents.trans h.revents
  pending_messages := h'.pending_messages.trans h.pending_messages
  delayed_messages := by rw [h'.delayed_messages, h.delayed_messages, List.append_nil]
  known z := by
    rw [h'.known, h.known]
    simp
  ponged z hp := h'.ponged z (h.ponged z hp).1
  pings z := by rw [h'.pings, h.pings, List.count_nil, Nat.add_zero]

/-- Nobody is pinged when one link stays. -/
theorem pings_set_link (h : (g.link url).Stays l') : g.Pings (g.set_link url l') [] := by
  have hlink (z : Url) : (g.link z).Stays ((g.set_link url l').link z) := by
    by_cases hz : z = url
    · rwa [hz, link_set_link_self]
    · rw [link_set_link_of_ne g url l' hz]
      exact Link.stays_refl _
  refine ⟨rfl, rfl, rfl, (List.append_nil _).symm, fun z => ?_, fun z hp => ?_, fun z => ?_⟩
  · rw [Ne, (hlink z).known]
    exact (or_iff_left (List.not_mem_nil)).symm
  · exact ⟨(hlink z).ponged hp, List.not_mem_nil⟩
  · exact (hlink z).pings.trans (Nat.add_zero _).symm

/-- One peer that is not ponged is pinged, and is known from now on. -/
theorem pings_of_hand (hrecv : g'.recv_socket = g.recv_socket) (hrevents : g'.revents = g.revents)
    (hpending : g'.pending_messages = g.pending_messages)
    (hdelayed : g'.delayed_messages = g.delayed_messages ++ [url])
    (hlink : g'.link = Function.update g.link url l') (hconn : l'.conn ≠ none)
    (hponged : (g.link url).ponged = false) (hpings : l'.pings = (g.link url).pings + 1) :
    g.Pings g' [url] := by
  refine ⟨hrecv, hrevents, hpending, hdelayed, fun z => ?_, fun z hp => ?_, fun z => ?_⟩
  all_goals
    rw [hlink]
    by_cases hz : z = url
  · subst hz
    rw [Function.update_self]
    exact iff_of_true hconn (.inr (List.mem_singleton_self z))
  · rw [Function.update_of_ne hz, List.mem_singleton]
    exact (or_iff_left hz).symm
  · subst hz
    rw [hponged] at hp
    cases hp
  · rw [Function.update_of_ne hz, List.mem_singleton]
    exact ⟨hp, hz⟩
  · subst hz
    rw [Function.update_self, List.count_singleton_self, hpings]
  · rw [Function.update_of_ne hz, List.count_singleton,
      if_neg fun heq => hz (beq_iff_eq.mp heq).symm, Nat.add_zero]

/-! ### Handlers -/

/-- Frames other than `Ping`s. -/
theorem hand_pings (g : NetGateActor) (url : Url) {frames : List NetFrame}
    (hframes : frames.count .ping = 0) : g.Pings (g.hand url frames) [] := by
  rw [hand_eq]
  exact pings_set_link (Link.stays_hand _ hframes)

theorem send_to_net_gate_pings {d : Data} (h : g.send_to_net_gate url d = some g') :
    g.Pings g' [] := by
  obtain ⟨conn, hat, -⟩ := Option.map_eq_some_iff.mp h
  rw [send_to_net_gate_eq hat] at h
  cases h
  exact pings_set_link (Link.stays_send (conn_of_conn_at hat) d)

theorem foldlM_pings {d : Data} (requesters : List Url) (g : NetGateActor)
    (h : requesters.foldlM (fun (g : NetGateActor) i => g.send_to_net_gate i d) g = some g') :
    g.Pings g' [] := by
  induction requesters generalizing g with
  | nil =>
    cases h
    exact pings_refl _
  | cons i requesters ih =>
    rw [List.foldlM_cons] at h
    obtain ⟨g₁, hsend, hrest⟩ := Option.bind_eq_some_iff.mp h
    exact (send_to_net_gate_pings hsend).trans (ih g₁ hrest)

/-- A peer is pinged again if it has not answered. -/
theorem ping_net_gate_pings (h : g.ping_net_gate url = some g') :
    g.Pings g' (if (g.link url).ponged then [] else [url]) := by
  obtain ⟨conn, hconn, heq⟩ := Option.map_eq_some_iff.mp h
  have hconn : (g.link url).conn = some conn := hconn
  rw [Link.ponged_eq hconn]
  split at heq
  · next hponged =>
    cases heq
    rw [hponged, if_pos rfl]
    exact pings_refl g
  · next hponged =>
    cases heq
    have hponged : conn.is_ponged = false := by simpa using hponged
    rw [hponged, if_neg Bool.false_ne_true]
    have hsome : ((g.link url).hand [.ping]).conn ≠ none := by
      show (g.link url).conn ≠ none
      rw [hconn]
      exact Option.some_ne_none _
    refine pings_of_hand rfl rfl rfl rfl ?_ hsome ?_ (Link.pings_hand ..)
    · unfold imme_send_to_net_gate
      rw [hand_eq]
      rfl
    · rw [Link.ponged_eq hconn, hponged]

/-- Only here an entry becomes ponged, and no retry is taken back. -/
theorem receive_pong_pings (h : g.receive_pong url = some g') : g.Pings g' [] := by
  obtain ⟨conn, hat, -⟩ := Option.map_eq_some_iff.mp h
  rw [receive_pong_eq hat] at h
  split at h
  · cases h
    exact pings_refl g
  · cases h
    exact pings_set_link (Link.stays_pong (conn_of_conn_at hat))

/-- The peer has been pinged when its entry was made, and not again. -/
theorem resume_pings {k : Continuation} (h : g.resume url k = some g') : g.Pings g' [] := by
  cases k with
  | net_gate_conn_req =>
    cases h
    exact pings_refl g
  | actor_lookup_req lookup =>
    obtain ⟨conn, hconn, rfl⟩ := look_up_some h
    exact pings_set_link (Link.stays_ask hconn lookup)
  | retrieve_actor_req info =>
    obtain ⟨conn, -, hrest⟩ := Option.bind_eq_some_iff.mp h
    obtain ⟨net_sender_info, -, heq⟩ := Option.bind_eq_some_iff.mp hrest
    cases heq
    exact pings_of_eq rfl rfl rfl rfl rfl
  | ping =>
    cases h
    exact hand_pings g url rfl

/-- The first `Ping` is for a new peer. -/
theorem establish_connection_pings {k : Continuation}
    (h : g.establish_connection url k = some g') :
    g.Pings g' (if (g.link url).conn = none then [url] else []) := by
  split
  · next hnone =>
    rw [establish_connection_eq hnone k] at h
    cases h
    have hponged : (g.link url).ponged = false := by
      rw [Link.ponged, hnone]
      rfl
    exact pings_of_hand rfl rfl rfl rfl rfl (Option.some_ne_none _) hponged (Link.pings_hand ..)
  · next hsome =>
    obtain ⟨conn, hconn⟩ := Option.ne_none_iff_exists'.mp hsome
    unfold establish_connection at h
    rw [show g.net_gate_connections url = some conn from hconn] at h
    exact resume_pings h

theorem actor_registration_pings {name : Name} {l : LocalActorHandle}
    (h : g.actor_registration name l = some g') : g.Pings g' [] := by
  obtain ⟨g₁, hfold, rfl⟩ := Option.map_eq_some_iff.mp h
  have hfirst : g.Pings { g with
      local_registered_actors := Function.update g.local_registered_actors name
        ⟨some l, (g.local_registered_actors name).requesters⟩
      registered := g.registered ++ [(name, l)] } [] := pings_of_eq rfl rfl rfl rfl rfl
  exact (hfirst.trans (foldlM_pings _ _ hfold)).trans (pings_of_eq rfl rfl rfl rfl rfl)

/-- At most one peer is pinged, for the first time. -/
def Greets (g : NetGateActor) (new : List Url) : Prop :=
  new = [] ∨ ∃ z, new = [z] ∧ (g.link z).conn = none

/-- Whoever gets an entry is pinged, once. -/
theorem establish_connection_greets {k : Continuation}
    (h : g.establish_connection url k = some g') : ∃ new, g.Pings g' new ∧ g.Greets new := by
  refine ⟨_, establish_connection_pings h, ?_⟩
  split
  · next hnone => exact .inr ⟨url, rfl, hnone⟩
  · exact .inl rfl

/-- The handlers of messages other than `PingRetry`. -/
theorem process_greets {m : GateMessage} (hm : ∀ z, m ≠ .ping_retry z)
    (h : g.process m = some g') : ∃ new, g.Pings g' new ∧ g.Greets new := by
  cases m with
  | net_gate_conn_req host port => exact establish_connection_greets h
  | actor_registration name actor =>
    refine ⟨[], ?_, .inl rfl⟩
    cases actor with
    | local_actor l => exact actor_registration_pings h
    | remote_actor r =>
      cases h
      exact pings_of_eq rfl rfl rfl rfl rfl
  | actor_lookup_req lookup => exact establish_connection_greets h
  | retrieve_actor_req info =>
    simp only [process] at h
    split at h
    · cases h
      exact ⟨[], pings_of_eq rfl rfl rfl rfl rfl, .inl rfl⟩
    · exact establish_connection_greets h
  | ping_retry url => exact absurd rfl (hm url)

theorem remote_actor_lookup_req_pings {peer : Url} {name : Name}
    (h : g.remote_actor_lookup_req peer name = some g') : g.Pings g' [] := by
  unfold remote_actor_lookup_req at h
  dsimp only at h
  split at h
  · exact send_to_net_gate_pings h
  · cases h
    exact pings_of_eq rfl rfl rfl rfl rfl

theorem set_conn_pings {conn' : NetGateConn} (hconn : (g.link url).conn = some conn)
    (hponged : conn'.is_ponged = conn.is_ponged) : g.Pings (g.set_conn url conn') [] := by
  rw [set_conn_eq]
  exact pings_set_link (Link.stays_set_conn hconn fun hp => hponged.trans hp)

/-- The entry of the name is erased, the connection stays. -/
theorem remote_actor_lookup_rep_pings {peer : Url} {name : Name} {l : LocalActorHandle}
    (h : g.remote_actor_lookup_rep peer name l = some g') : g.Pings g' [] := by
  obtain ⟨conn, hat, hrest⟩ := Option.bind_eq_some_iff.mp h
  obtain ⟨requesters, hrequesters, hrest⟩ := Option.bind_eq_some_iff.mp hrest
  obtain ⟨info, hinfo, heq⟩ := Option.bind_eq_some_iff.mp hrest
  cases heq
  have hset : g.Pings (g.set_conn peer (conn.set_requesters name none)) [] :=
    set_conn_pings (conn_of_conn_at hat) rfl
  exact hset.trans (pings_of_eq rfl rfl rfl rfl rfl)

/-- The handlers of frames. Only a `Ping` of a new peer is answered by another one. -/
theorem process_frame_greets {peer : Url} {frame : NetFrame}
    (h : g.process_frame peer frame = some g') : ∃ new, g.Pings g' new ∧ g.Greets new := by
  cases frame with
  | ping => exact establish_connection_greets h
  | pong => exact ⟨[], receive_pong_pings h, .inl rfl⟩
  | data d =>
    refine ⟨[], ?_, .inl rfl⟩
    cases d with
    | data_conn_req host port =>
      obtain ⟨conn, hat, rfl⟩ := Option.map_eq_some_iff.mp h
      exact set_conn_pings (conn_of_conn_at hat) rfl
    | remote_actor_lookup_req name => exact remote_actor_lookup_req_pings h
    | remote_actor_lookup_rep name l => exact remote_actor_lookup_rep_pings h

theorem log_frame_pings (g : NetGateActor) (peer : Url) (frame : NetFrame) :
    g.Pings (g.log_frame peer frame) [] := by
  rw [log_frame_eq]
  exact pings_set_link ⟨Iff.rfl, id, rfl⟩

theorem set_frames_pings (g : NetGateActor) (url : Url) (frames : List NetFrame) :
    g.Pings (g.set_frames url frames) [] := by
  rw [set_frames_eq]
  exact pings_set_link ⟨Iff.rfl, id, rfl⟩

theorem spawn_pings {k : Continuation} {sender : LocalActorHandle}
    (h : g.spawn url k sender = some g') : g.Pings g' [] := by
  obtain ⟨conn, hconn, rfl⟩ := Option.map_eq_some_iff.mp h
  have hset : g.Pings (g.set_conn url
      { conn with net_sender_info := some ⟨sender, g.bind_url, url⟩ }) [] :=
    set_conn_pings hconn rfl
  exact hset.trans (pings_of_eq rfl rfl rfl rfl rfl)

/-- The port is told in data, which are no `Ping`. -/
theorem bind_port_rep_pings {k : Continuation} {port : UInt16}
    (h : g.bind_port_rep url k port = some g') : g.Pings g' [] := by
  obtain ⟨g₁, hsend, hresume⟩ := Option.bind_eq_some_iff.mp h
  have hidle : g₁.Pings { g₁ with control := .idle } [] := pings_of_eq rfl rfl rfl rfl rfl
  exact ((send_to_net_gate_pings hsend).trans hidle).trans (resume_pings hresume)

/-! ### One retry at a time -/

/-- For each peer that has not answered, there is one `PingRetry`. -/
structure Persistent (g : NetGateActor) : Prop where
  unknown : ∀ z, (g.link z).conn = none → g.num_retries z = 0
  calling : ∀ z, (g.link z).conn ≠ none → (g.link z).ponged = false → g.num_retries z = 1
  once : ∀ z, g.num_retries z ≤ 1

theorem persistent_bound (host : Host) (url : Url) : (bound host url).Persistent :=
  ⟨fun _ _ => rfl, fun _ h => absurd rfl h, fun _ => Nat.zero_le 1⟩

/-- A step keeps what is known of the retries, and pings nobody who has answered. -/
structure Advances (g g' : NetGateActor) : Prop where
  persistent : g.Persistent → g'.Persistent
  ponged : ∀ z, (g.link z).ponged = true → (g'.link z).ponged = true ∧
    (g'.link z).pings = (g.link z).pings

theorem advances_refl (g : NetGateActor) : g.Advances g := ⟨id, fun _ hp => ⟨hp, rfl⟩⟩

theorem Advances.trans (h : g.Advances g') (h' : g'.Advances g'') : g.Advances g'' where
  persistent := h'.persistent ∘ h.persistent
  ponged z hp := by
    obtain ⟨hp', hpings⟩ := h.ponged z hp
    exact ⟨(h'.ponged z hp').1, (h'.ponged z hp').2.trans hpings⟩

/-- A retry is moved, or something else. -/
theorem advances_of_moved (hlink : g'.link = g.link)
    (hnum : ∀ z, g'.num_retries z = g.num_retries z) : g.Advances g' where
  persistent h := by
    refine ⟨?_, ?_, ?_⟩ <;> simp only [hlink, hnum]
    · exact h.unknown
    · exact h.calling
    · exact h.once
  ponged z hp := by
    rw [hlink]
    exact ⟨hp, rfl⟩

/-- One retry more for each peer that is pinged. -/
theorem Pings.num_retries (h : g.Pings g' new) (z : Url) :
    g'.num_retries z = g.num_retries z + new.count z := by
  unfold NetGateActor.num_retries
  rw [h.recv_socket, h.pending_messages, h.delayed_messages, List.count_append]
  exact (Nat.add_assoc ..).symm

/-- How a retry of `z` is taken and a new one made: the handler may ping a new peer, or it
    handles the retry and makes another one if there is still no answer. -/
def Renews (g : NetGateActor) (taken new : List Url) (z : Url) : Prop :=
  (taken.count z = 0 ∧ (new.count z = 0 ∨ (g.link z).conn = none ∧ new.count z = 1)) ∨
    (taken.count z = 1 ∧ (g.link z).conn ≠ none ∧
      ((g.link z).ponged = true ∨ (g.link z).ponged = false ∧ new.count z = 1))

/-- The retries before a message is taken, and after it has been handled. -/
theorem Pings.advances_of_taken {g₁ : NetGateActor} (taken : List Url) (h : g₁.Pings g' new)
    (hlink : g₁.link = g.link)
    (hnum : ∀ z, g₁.num_retries z + taken.count z = g.num_retries z)
    (hrenews : ∀ z, g.Renews taken new z) : g.Advances g' where
  persistent hg := by
    have hknown (z : Url) : (g'.link z).conn ≠ none ↔ (g.link z).conn ≠ none ∨ z ∈ new := by
      rw [h.known, hlink]
    have hponged (z : Url) (hp : (g'.link z).ponged = false) : (g.link z).ponged = false := by
      refine Bool.eq_false_iff.mpr fun hp' => ?_
      rw [(h.ponged z (hlink ▸ hp')).1] at hp
      cases hp
    have hnone (z : Url) (hz : (g.link z).conn = none) : (g.link z).ponged = false := by
      rw [Link.ponged, hz]
      rfl
    refine ⟨fun z hz => ?_, fun z hz hp => ?_, fun z => ?_⟩
    all_goals
      have htaken := hnum z
      have hnew := h.num_retries z
      have hold := hg.once z
    · have hnot := not_or.mp (mt (hknown z).mpr (not_not.mpr hz))
      have hcount := List.count_eq_zero.mpr hnot.2
      have hzero := hg.unknown z (not_not.mp hnot.1)
      omega
    · have hcalling := hg.calling z
      -- by who has been pinged: nobody or `z` newly, or the retry of `z` has been handled
      rcases hrenews z with ⟨ht, hn | ⟨hconn, hn⟩⟩ | ⟨ht, hconn, hp' | ⟨-, hn⟩⟩
      · have hz' := ((hknown z).mp hz).resolve_right (List.count_eq_zero.mp hn)
        have hone := hg.calling z hz' (hponged z hp)
        omega
      · have hzero := hg.unknown z hconn
        omega
      · rw [hponged z hp] at hp'
        cases hp'
      · have hone := hg.calling z hconn (hponged z hp)
        omega
    · rcases hrenews z with ⟨ht, hn | ⟨hconn, hn⟩⟩ | ⟨ht, hconn, hp | ⟨-, hn⟩⟩
      · omega
      · have hzero := hg.unknown z hconn
        omega
      · have hnot := List.count_eq_zero.mpr (h.ponged z (hlink ▸ hp)).2
        omega
      · omega
  ponged z hp := by
    obtain ⟨hp', hnot⟩ := h.ponged z (hlink ▸ hp)
    refine ⟨hp', ?_⟩
    rw [h.pings, List.count_eq_zero.mpr hnot, Nat.add_zero, hlink]

/-- A handler pings at most one peer, which has been unknown. -/
theorem Pings.advances {g₁ : NetGateActor} (h : g₁.Pings g' new) (hgreets : g₁.Greets new)
    (hlink : g₁.link = g.link) (hnum : ∀ z, g₁.num_retries z = g.num_retries z) :
    g.Advances g' := by
  refine h.advances_of_taken [] hlink hnum fun z => .inl ⟨rfl, ?_⟩
  rcases hgreets with rfl | ⟨y, rfl, hnone⟩
  · exact .inl rfl
  · by_cases hz : z = y
    · subst hz
      exact .inr ⟨hlink ▸ hnone, List.count_singleton_self⟩
    · exact .inl (List.count_eq_zero.mpr fun hmem => hz (List.mem_singleton.mp hmem))

/-- A `PingRetry` is handled: it comes back if there is still no answer. -/
theorem Pings.advances_retry {g₁ : NetGateActor}
    (h : g₁.Pings g' (if (g₁.link url).ponged then [] else [url])) (hlink : g₁.link = g.link)
    (hnum : ∀ z, g₁.num_retries z + [url].count z = g.num_retries z)
    (hconn : (g.link url).conn ≠ none) : g.Advances g' := by
  refine h.advances_of_taken [url] hlink hnum fun z => ?_
  rw [hlink]
  by_cases hz : z = url
  · subst hz
    refine .inr ⟨List.count_singleton_self, hconn, ?_⟩
    cases hponged : (g.link z).ponged with
    | true => exact .inl rfl
    | false => exact .inr ⟨rfl, List.count_singleton_self⟩
  · have hnot {urls : List Url} (hurls : urls ⊆ [url]) : urls.count z = 0 :=
      List.count_eq_zero.mpr fun hmem => hz (List.mem_singleton.mp (hurls hmem))
    refine .inl ⟨hnot (List.Subset.refl _), .inl (hnot ?_)⟩
    split
    · exact List.nil_subset _
    · exact List.Subset.refl _

/-! ### Where retries are -/

theorem arrive_advances {m : GateMessage} (hm : ∀ url, m ≠ .ping_retry url) :
    g.Advances (g.arrive m) := by
  obtain ⟨m', arrived, heq, hm'⟩ := arrive_eq g hm
  rw [heq]
  refine advances_of_moved rfl fun z => ?_
  unfold num_retries
  dsimp only
  rw [List.count_append, List.count_singleton, if_neg fun heq => hm' z (beq_iff_eq.mp heq),
    Nat.add_zero]

/-- A retry is not delayed any more, it is in the socket. -/
theorem flush_advances (h : g.flush = some g') : g.Advances g' := by
  unfold flush at h
  split at h
  · next url delayed_messages hdelayed =>
    cases h
    refine advances_of_moved rfl fun z => ?_
    unfold num_retries
    dsimp only
    rw [hdelayed, List.count_append, List.count_singleton, List.count_cons]
    simp only [beq_iff_eq, GateMessage.ping_retry.injEq]
    omega
  · cases h

/-- A retry is not in the socket any more, it is put off. -/
theorem defer_advances (h : g.defer_message = some g') : g.Advances g' := by
  unfold defer_message at h
  split at h
  · next m recv_socket hrecv =>
    cases h
    refine advances_of_moved rfl fun z => ?_
    unfold num_retries
    dsimp only
    rw [hrecv, List.count_append, List.count_singleton, List.count_cons]
    omega
  · cases h

/-- The retry that is taken is nowhere else. -/
theorem take_message_retries {m : GateMessage} (h : g.take_message = some (m, g')) (z : Url) :
    g'.num_retries z + [m].count (.ping_retry z) = g.num_retries z := by
  unfold take_message at h
  split at h
  · next pending_messages _ hpending =>
    cases h
    unfold num_retries
    dsimp only
    rw [hpending, List.count_singleton, List.count_cons]
    omega
  · next recv_socket hpending hrecv =>
    cases h
    unfold num_retries
    dsimp only
    rw [hrecv, List.count_singleton, List.count_cons]
    omega
  · cases h

/-- A message is taken and handled. -/
theorem process_advances {g₁ : NetGateActor} {m : GateMessage} (hg : g.Sound)
    (htake : g.take_message = some (m, g₁)) (h : g₁.process m = some g') : g.Advances g' := by
  have htakes := take_message_eq htake
  have hnum := take_message_retries htake
  by_cases hretry : ∃ url, m = .ping_retry url
  · obtain ⟨url, rfl⟩ := hretry
    refine (ping_net_gate_pings h).advances_retry htakes.link (fun z => ?_)
      (hg.retries url (htakes.retry url rfl))
    rw [← hnum z, List.count_singleton, List.count_singleton]
    simp only [beq_iff_eq, GateMessage.ping_retry.injEq]
  · have hm (url : Url) : m ≠ .ping_retry url := fun heq => hretry ⟨url, heq⟩
    obtain ⟨new, hpings, hgreets⟩ := process_greets hm h
    refine hpings.advances hgreets htakes.link fun z => ?_
    rw [← hnum z, List.count_singleton, if_neg fun heq => hm z (beq_iff_eq.mp heq), Nat.add_zero]

end NetGateActor

namespace NetGates

open NetGateActor

variable {s s' : NetGates} {x y : Url} {g : NetGateActor}

/-! ### Steps -/

theorem advances_set (h : (s x).Advances g) (z : Url) : (s z).Advances (s.set x g z) :=
  forall_set (p := fun z => (s z).Advances) h (fun z => advances_refl (s z)) z

theorem pings_advances {g g' : NetGateActor} (h : g.Pings g' []) : g.Advances g' :=
  h.advances (.inl rfl) rfl fun _ => rfl

theorem arrived_frame_pings (s : NetGates) (x y : Url) (frame : NetFrame) (rest : List NetFrame)
    (z : Url) : (s z).Pings (s.arrived_frame x y frame rest z) [] := by
  -- neither of the two updates changes what is scheduled
  have hset {s : NetGates} {x : Url} {g : NetGateActor} (h : (s x).Pings g []) (z : Url) :
      (s z).Pings (s.set x g z) [] :=
    forall_set (p := fun z g => (s z).Pings g []) h (fun z => pings_refl (s z)) z
  exact (hset (set_frames_pings ..) z).trans (hset (log_frame_pings ..) z)

theorem polled_advances (s : NetGates) (x z : Url) : (s z).Advances (s.polled x z) := by
  rw [polled_apply]
  exact advances_of_moved rfl fun _ => rfl

/-- Every step advances every net gate: those that have no part in it stay as they are. -/
theorem next_advances (h : s.Sound) (l : NetGateStep) (hnext : s.next l = some s') (z : Url) :
    (s z).Advances (s' z) := by
  have hs' := h.next l hnext
  cases stepped_of_next hnext with
  | arrive x m hm => exact advances_set (arrive_advances hm) z
  | poll x => exact polled_advances s x z
  | receive_once x m g hcontrol htake =>
    obtain ⟨g', hg', heq⟩ := hs'.checked_eq
    rw [heq]
    exact advances_set (process_advances (h.gates x) htake hg') z
  | receive_frame x y frame rest hcontrol hframes =>
    obtain ⟨g', hg', heq⟩ := hs'.checked_eq
    rw [heq]
    obtain ⟨new, hpings, hgreets⟩ := process_frame_greets hg'
    have harrived := pings_advances (arrived_frame_pings (s.polled x) x y frame rest z)
    exact ((polled_advances s x z).trans harrived).trans
      (advances_set (hpings.advances hgreets rfl fun _ => rfl) z)
  | lose x y i frame hframe hdata => exact advances_set (pings_advances (set_frames_pings ..)) z
  | spawn x url k sender hcontrol =>
    obtain ⟨g', hg', heq⟩ := hs'.checked_eq
    rw [heq]
    exact advances_set (pings_advances (spawn_pings hg')) z
  | bind_port_rep x url k port hcontrol =>
    obtain ⟨g', hg', heq⟩ := hs'.checked_eq
    rw [heq]
    exact advances_set (pings_advances (bind_port_rep_pings hg')) z
  | defer x g hdefer => exact advances_set (defer_advances hdefer) z
  | flush x g hflush => exact advances_set (flush_advances hflush) z

/-! ### Runs -/

/-- At the start no peer is known, and there is no retry. -/
theorem persistent_of_reachable (h : Reachable system s) (x : Url) : (s x).Persistent := by
  refine h.invariant_of (fun s => ∀ x, (s x).Persistent) (fun _ => sound_of_reachable)
    (fun s hs x => ?_) (fun s l s' hsound hs _ hnext x => ?_) x
  · obtain ⟨host, hx⟩ : ∃ host, s x = bound host x := hs x
    rw [hx]
    exact persistent_bound host x
  · exact (next_advances hsound l hnext x).persistent (hs x)

/-- In all continuations. -/
theorem advances_of_continuation (h : Reachable system s)
    (h' : Reachable (system.start_in s) s') (x : Url) : (s x).Advances (s' x) := by
  refine h'.invariant_of (fun s' => (s x).Advances (s' x))
    (fun _ hs' => sound_of_reachable (h.trans hs')) (fun s' heq => ?_)
    fun s₁ l s₂ hsound hs₁ _ hnext => hs₁.trans (next_advances hsound l hnext x)
  cases (heq : s' = s)
  exact advances_refl _

/-- How `x` pings `z`. -/
structure Retried (s : NetGates) (x z : Url) : Prop where
  unknown : ((s x).link z).conn = none → (s x).num_retries z = 0 ∧ ((s x).link z).pings = 0
  /-- It is delayed, in the socket, or put off. -/
  calling : ((s x).link z).conn ≠ none → ((s x).link z).ponged = false →
    (s x).num_retries z = 1
  once : (s x).num_retries z ≤ 1
  /-- After the answer, there are no more `Ping`s. -/
  answered : ((s x).link z).ponged = true → ∀ s', Reachable (system.start_in s) s' →
    ((s' x).link z).pings = ((s x).link z).pings

/-- **Retries**: in every run, whatever is lost, there is one `PingRetry` for each known peer
    that has not answered, never another one, and after the answer the peer is not pinged again. -/
theorem retried (h : Reachable system s) (x z : Url) : s.Retried x z := by
  have hpersistent := persistent_of_reachable h x
  refine ⟨fun hnone => ⟨hpersistent.unknown z hnone, ?_⟩, hpersistent.calling z,
    hpersistent.once z, fun hponged s' hs' => ?_⟩
  · have hhanded := ((((sound_of_reachable h).gates x).links z).unknown hnone).1
    rw [Link.pings, hhanded]
    rfl
  · exact ((advances_of_continuation h hs' x).ponged z hponged).2

/-- `url_a` looks for an actor at `url_b`, and its first `Ping` is lost. -/
def lost_ping_run : List NetGateStep :=
  [.arrive url_a (.actor_lookup_req ⟨0, url_b, counter⟩), .poll url_a, .receive_once url_a,
    .lose url_b url_a 0, .spawn url_a ⟨4, true⟩, .bind_port_rep url_a 9, .flush url_a,
    .poll url_a, .receive_once url_a]

/-- The retry has pinged again, and there is still one of it. -/
theorem retried_lost_ping_run :
    ∃ s : NetGates, ((s url_a).num_retries url_b, ((s url_a).link url_b).pings) = (1, 2) ∧
      s.Retried url_a url_b := by
  obtain ⟨s, hs, hobs⟩ := System.reachable_of_exec system (fun _ _ => True) lost_ping_run
    (fun s => ((s url_a).num_retries url_b, ((s url_a).link url_b).pings))
    (s := bound localhost) (b := (1, 2)) (fun x => ⟨localhost, rfl⟩) (by decide +kernel)
  exact ⟨s, hobs, retried hs url_a url_b⟩

end NetGates
end ZAF
