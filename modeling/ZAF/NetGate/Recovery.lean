import ZAF.Framework.Continuation
import ZAF.NetGate.Retries
import ZAF.NetGate.Wiring

/-! # Nothing is lost for good

    A `Ping` or `Pong` that is lost is made up for by a `PingRetry`. So wherever the net gates
    have come to, they can go on by themselves until both ends of a connection know each
    other and nothing is on its way any more. Then all lookups of registered actors have been
    answered.

    By themselves means that nothing new arrives and nothing more is lost, that a handler which
    waits for a reply puts off whatever is in the socket before, and that no `PingRetry` comes
    due while it waits. Two net gates that can do this have not been put to sleep or ended:

    * messages that have been put off are only handled when the socket has another one, so
      there must be one in the socket, or a `PingRetry` that is still to come;
    * a net gate that is asked to register an actor of another machine ends by an exception,
      so this must not be among the messages it has.

    There is no clock here: a `PingRetry` is flushed at some time. In the source, one that is
    late by a millisecond when `zmq::poll` is entered with nothing to read is not flushed
    before something else arrives.
-/

namespace ZAF

open LTS

/-- Nothing arrives from outside, and nothing is lost. -/
def NetGateStep.Own (s : NetGates) : NetGateStep → Prop
  | .arrive .. => False
  | .lose .. => False
  -- the reply comes after all that is in the socket, and before a `PingRetry` is due
  | .bind_port_rep x _ => (s x).recv_socket = []
  | .flush x => (s x).control = .idle
  | _ => True

/-- Does the handler throw? -/
def GateMessage.ends : GateMessage → Bool
  | .actor_registration _ (.remote_actor _) => true
  | _ => false

theorem Link.conn_of_ponged {l : Link} (hponged : l.ponged = true) : l.conn ≠ none := by
  intro hnone
  rw [Link.ponged, hnone] at hponged
  cases hponged

/-- How many frames may come of a frame, itself counted. -/
def NetFrame.weight : NetFrame → Nat
  | .ping => 2
  | .data (.remote_actor_lookup_req _) => 2
  | _ => 1

/-- A handler that waits may put off messages, once for each message other than a retry. -/
def GateMessage.weight : GateMessage → Nat
  | .ping_retry _ => 1
  | _ => 2

namespace NetGateActor

/-- The messages that have arrived, in the order in which they are handled. -/
def inbox (g : NetGateActor) : List GateMessage := g.pending_messages ++ g.recv_socket

/-- The net gate runs, no message that it has ends it, and what it has put off is not left
    behind. -/
structure Open (g : NetGateActor) : Prop where
  running : g.control ≠ .stopped
  messages : ∀ m ∈ g.inbox, m.ends = false
  /-- A handler that waits empties the socket. -/
  attended : g.inbox = [] ∨ g.delayed_messages ≠ [] ∨
    (g.control = .idle ∧ g.recv_socket ≠ [])

/-- What `zmq::poll` has reported is still there. -/
def Reported (g : NetGateActor) : Prop := g.revents = true → g.inbox ≠ []

/-- The messages that have arrived, and then those that are delayed. -/
def agenda (g : NetGateActor) : List GateMessage :=
  g.inbox ++ g.delayed_messages.map .ping_retry

variable {g g' : NetGateActor} {url : Url} {new : List Url}

/-! ### What a net gate waits for -/

theorem send_to_net_gate_control {d : Data} (h : g.send_to_net_gate url d = some g') :
    g'.control = g.control := by
  obtain ⟨conn, hat, -⟩ := Option.map_eq_some_iff.mp h
  rw [send_to_net_gate_eq hat] at h
  cases h
  rfl

/-- By induction on the requesters that are left. -/
theorem foldlM_control {d : Data} (requesters : List Url) (g : NetGateActor)
    (h : requesters.foldlM (fun (g : NetGateActor) i => g.send_to_net_gate i d) g = some g') :
    g'.control = g.control := by
  induction requesters generalizing g with
  | nil =>
    cases h
    rfl
  | cons i requesters ih =>
    rw [List.foldlM_cons] at h
    obtain ⟨g₁, hsend, hrest⟩ := Option.bind_eq_some_iff.mp h
    exact (ih g₁ hrest).trans (send_to_net_gate_control hsend)

theorem ping_net_gate_control (h : g.ping_net_gate url = some g') : g'.control = g.control := by
  obtain ⟨conn, -, heq⟩ := Option.map_eq_some_iff.mp h
  split at heq
  · cases heq
    rfl
  · cases heq
    rfl

theorem receive_pong_control (h : g.receive_pong url = some g') : g'.control = g.control := by
  obtain ⟨conn, hat, -⟩ := Option.map_eq_some_iff.mp h
  rw [receive_pong_eq hat] at h
  split at h
  · cases h
    rfl
  · cases h
    rfl

/-- A handler waits only for a new connection. -/
theorem establish_connection_control {k : Continuation}
    (h : g.establish_connection url k = some g') :
    if (g.link url).conn = none then g'.control = .spawning url k
    else g'.control = g.control := by
  split
  · next hnone =>
    rw [establish_connection_eq hnone k] at h
    cases h
    rfl
  · next hsome =>
    obtain ⟨conn, hconn⟩ := Option.ne_none_iff_exists'.mp hsome
    unfold establish_connection at h
    rw [show g.net_gate_connections url = some conn from hconn] at h
    exact control_resume h

theorem actor_registration_control {name : Name} {l : LocalActorHandle}
    (h : g.actor_registration name l = some g') : g'.control = g.control := by
  obtain ⟨g₁, hfold, rfl⟩ := Option.map_eq_some_iff.mp h
  exact (foldlM_control _ _ hfold :)

theorem establish_connection_running {k : Continuation} (hrunning : g.control ≠ .stopped)
    (h : g.establish_connection url k = some g') : g'.control ≠ .stopped := by
  have hcontrol := establish_connection_control h
  split at hcontrol
  · rw [hcontrol]
    exact fun heq => by cases heq
  · rwa [hcontrol]

/-- Only the registration of an actor of another machine ends the net gate. -/
theorem process_running {m : GateMessage} (hends : m.ends = false) (hrunning : g.control ≠ .stopped)
    (h : g.process m = some g') : g'.control ≠ .stopped := by
  cases m with
  | net_gate_conn_req host port => exact establish_connection_running hrunning h
  | actor_registration name actor =>
    cases actor with
    | local_actor l =>
      rw [actor_registration_control h]
      exact hrunning
    | remote_actor r => cases hends
  | actor_lookup_req lookup => exact establish_connection_running hrunning h
  | retrieve_actor_req info =>
    simp only [process] at h
    split at h
    · cases h
      exact hrunning
    · exact establish_connection_running hrunning h
  | ping_retry url =>
    rw [ping_net_gate_control h]
    exact hrunning

theorem remote_actor_lookup_req_control {peer : Url} {name : Name}
    (h : g.remote_actor_lookup_req peer name = some g') : g'.control = g.control := by
  unfold remote_actor_lookup_req at h
  dsimp only at h
  split at h
  · exact send_to_net_gate_control h
  · cases h
    rfl

theorem remote_actor_lookup_rep_control {peer : Url} {name : Name} {l : LocalActorHandle}
    (h : g.remote_actor_lookup_rep peer name l = some g') : g'.control = g.control := by
  obtain ⟨conn, hat, hrest⟩ := Option.bind_eq_some_iff.mp h
  obtain ⟨requesters, hrequesters, hrest⟩ := Option.bind_eq_some_iff.mp hrest
  obtain ⟨info, hinfo, heq⟩ := Option.bind_eq_some_iff.mp hrest
  cases heq
  rfl

/-- A frame is handled at once, unless it is a `Ping`. -/
theorem process_frame_control {peer : Url} {frame : NetFrame} (hframe : frame ≠ .ping)
    (h : g.process_frame peer frame = some g') : g'.control = g.control := by
  cases frame with
  | ping => exact absurd rfl hframe
  | pong => exact receive_pong_control h
  | data d =>
    cases d with
    | data_conn_req host port =>
      obtain ⟨conn, hat, rfl⟩ := Option.map_eq_some_iff.mp h
      rfl
    | remote_actor_lookup_req name => exact remote_actor_lookup_req_control h
    | remote_actor_lookup_rep name l => exact remote_actor_lookup_rep_control h

theorem process_frame_running {peer : Url} {frame : NetFrame} (hrunning : g.control ≠ .stopped)
    (h : g.process_frame peer frame = some g') : g'.control ≠ .stopped := by
  by_cases hframe : frame = .ping
  · subst hframe
    exact establish_connection_running hrunning h
  · rw [process_frame_control hframe h]
    exact hrunning

/-- A frame of a known peer is handled at once. -/
theorem process_frame_known {peer : Url} {frame : NetFrame} (hconn : (g.link peer).conn ≠ none)
    (h : g.process_frame peer frame = some g') : g'.control = g.control := by
  by_cases hframe : frame = .ping
  · subst hframe
    have hcontrol := establish_connection_control h
    rwa [if_neg hconn] at hcontrol
  · exact process_frame_control hframe h

/-! ### Frames are only added -/

/-- A handler sends at the end of what is in flight. -/
theorem frames_of_extends {passed : Url → List Endpoint} (h : g.Extends g' passed) (z : Url) :
    (g.link z).in_flight <+: (g'.link z).in_flight := by
  obtain ⟨frames, -, hflight⟩ := (h.links z).frames
  exact ⟨frames, hflight.symm⟩

theorem frames_set_link {l' : Link} (h : (g.link url).in_flight <+: l'.in_flight) (z : Url) :
    (g.link z).in_flight <+: ((g.set_link url l').link z).in_flight := by
  by_cases hz : z = url
  · rwa [hz, link_set_link_self]
  · rw [link_set_link_of_ne g url l' hz]

theorem resume_frames {k : Continuation} (h : g.resume url k = some g') (z : Url) :
    (g.link z).in_flight <+: (g'.link z).in_flight := by
  cases k with
  | net_gate_conn_req =>
    cases h
    exact List.prefix_rfl
  | actor_lookup_req lookup =>
    obtain ⟨conn, hconn, rfl⟩ := look_up_some h
    obtain ⟨frames, -, hflight⟩ := (Link.extends_ask hconn lookup).frames
    exact frames_set_link ⟨frames, hflight.symm⟩ z
  | retrieve_actor_req info =>
    obtain ⟨conn, -, hrest⟩ := Option.bind_eq_some_iff.mp h
    obtain ⟨net_sender_info, -, heq⟩ := Option.bind_eq_some_iff.mp hrest
    cases heq
    exact List.prefix_rfl
  | ping =>
    cases h
    unfold imme_send_to_net_gate
    rw [hand_eq]
    exact frames_set_link (List.prefix_append _ _) z

/-- A `Ping` is answered by a `Pong`. -/
theorem mem_in_flight_pong (h : g.resume url .ping = some g') :
    .pong ∈ (g'.link url).in_flight := by
  cases h
  unfold imme_send_to_net_gate
  rw [hand_eq, link_set_link_self]
  exact List.mem_append_right _ (List.mem_singleton_self _)

theorem spawn_frames {k : Continuation} {sender : LocalActorHandle}
    (h : g.spawn url k sender = some g') :
    g'.control = .waiting url k ∧ ∀ z, (g'.link z).in_flight = (g.link z).in_flight := by
  obtain ⟨conn, -, rfl⟩ := Option.map_eq_some_iff.mp h
  exact ⟨rfl, fun z => rfl⟩

/-- The handler that has waited comes to its end, and answers if a `Ping` has made it. -/
theorem bind_port_rep_frames {k : Continuation} {port : UInt16}
    (h : g.bind_port_rep url k port = some g') : g'.control = .idle ∧
      (∀ z, (g.link z).in_flight <+: (g'.link z).in_flight) ∧
      (k = .ping → .pong ∈ (g'.link url).in_flight) := by
  obtain ⟨g₁, hsend, hresume⟩ := Option.bind_eq_some_iff.mp h
  refine ⟨control_resume hresume, fun z => ?_, ?_⟩
  · obtain ⟨conn, hat, -⟩ := Option.map_eq_some_iff.mp hsend
    rw [send_to_net_gate_eq hat] at hsend
    cases hsend
    obtain ⟨frames, -, hflight⟩ := (Link.grows_send (conn_of_conn_at hat)
      (.data_conn_req g.bind_host port)).frames
    exact (frames_set_link ⟨frames, hflight.symm⟩ z).trans (resume_frames hresume z)
  · rintro rfl
    exact mem_in_flight_pong hresume

/-! ### The agenda -/

theorem Pings.inbox (h : g.Pings g' new) : g'.inbox = g.inbox := by
  unfold NetGateActor.inbox
  rw [h.recv_socket, h.pending_messages]

/-- Every new peer adds a retry to the agenda, and takes nothing from it. -/
theorem Pings.agenda (h : g.Pings g' new) : g'.agenda = g.agenda ++ new.map .ping_retry := by
  unfold NetGateActor.agenda
  rw [h.inbox, h.delayed_messages, List.map_append, ← List.append_assoc]

/-- `receive_once` does not look at `revents`. -/
theorem take_message_poll (g : NetGateActor) : g.poll.take_message = g.take_message := rfl

/-- What has been put off goes first, so the messages are handled in the order of `inbox`. -/
theorem take_message_inbox {m : GateMessage} (h : g.take_message = some (m, g')) :
    g.inbox = m :: g'.inbox ∧ g'.delayed_messages = g.delayed_messages := by
  unfold take_message at h
  split at h
  · next pending_messages _ hpending =>
    cases h
    unfold inbox
    rw [hpending]
    exact ⟨rfl, rfl⟩
  · next recv_socket hpending hrecv =>
    cases h
    unfold inbox
    rw [hpending, hrecv]
    exact ⟨rfl, rfl⟩
  · cases h

theorem take_message_agenda {m : GateMessage} (h : g.take_message = some (m, g')) :
    g.agenda = m :: g'.agenda := by
  obtain ⟨hinbox, hdelayed⟩ := take_message_inbox h
  unfold agenda
  rw [hinbox, hdelayed]
  rfl

theorem take_message_of_ne_nil (h : g.inbox ≠ []) : ∃ m g', g.take_message = some (m, g') := by
  unfold take_message
  split
  · exact ⟨_, _, rfl⟩
  · exact ⟨_, _, rfl⟩
  · next hpending hrecv =>
    rw [inbox, hpending, hrecv] at h
    exact absurd rfl h

/-- All messages are put off. -/
def put_off (g : NetGateActor) : NetGateActor :=
  { g with recv_socket := [], pending_messages := g.inbox }

@[simp] theorem put_off_inbox (g : NetGateActor) : g.put_off.inbox = g.inbox := List.append_nil _

@[simp] theorem put_off_agenda (g : NetGateActor) : g.put_off.agenda = g.agenda := by
  unfold agenda
  rw [put_off_inbox]
  rfl

theorem put_off_of_nil (h : g.recv_socket = []) : g.put_off = g := by
  have hinbox : g.inbox = g.pending_messages := by rw [inbox, h, List.append_nil]
  unfold put_off
  rw [hinbox, ← h]

theorem defer_message_eq (h : g.defer_message = some g') :
    g'.inbox = g.inbox ∧ g'.delayed_messages = g.delayed_messages ∧ g'.control = g.control ∧
      g'.revents = g.revents := by
  unfold defer_message at h
  split at h
  · next m recv_socket hrecv =>
    cases h
    refine ⟨?_, rfl, rfl, rfl⟩
    unfold inbox
    rw [hrecv]
    exact (List.append_cons ..).symm
  · cases h

/-- To put one off on the way to putting all off. -/
theorem put_off_defer_message (h : g.defer_message = some g') : g'.put_off = g.put_off := by
  have hinbox := (defer_message_eq h).1
  unfold defer_message at h
  split at h
  · cases h
    unfold put_off
    rw [hinbox]
  · cases h

/-- A message that is put off goes first, so the socket is emptied last. -/
theorem take_message_last {m : GateMessage} (h : g.take_message = some (m, g'))
    (hrecv : g.recv_socket ≠ []) : g'.pending_messages = [] ∨ g'.recv_socket ≠ [] := by
  unfold take_message at h
  split at h
  · cases h
    exact .inr hrecv
  · next hpending _ =>
    cases h
    exact .inl hpending
  · cases h

/-- A retry is sent. -/
theorem flush_of_ne_nil (h : g.delayed_messages ≠ []) : ∃ g', g.flush = some g' ∧
    g'.recv_socket ≠ [] ∧ g'.agenda = g.agenda ∧ g'.link = g.link ∧ g'.control = g.control ∧
    ∃ url, g'.inbox = g.inbox ++ [.ping_retry url] := by
  obtain ⟨url, delayed_messages, hdelayed⟩ := List.exists_cons_of_ne_nil h
  have hflush : g.flush = some { g with
      delayed_messages := delayed_messages
      recv_socket := g.recv_socket ++ [.ping_retry url] } := by
    unfold flush
    rw [hdelayed]
  have hinbox : g.pending_messages ++ (g.recv_socket ++ [.ping_retry url]) =
      g.inbox ++ [.ping_retry url] := (List.append_assoc ..).symm
  refine ⟨_, hflush, List.append_ne_nil_of_right_ne_nil _ (List.cons_ne_nil _ _), ?_, rfl, rfl,
    url, hinbox⟩
  show (g.pending_messages ++ (g.recv_socket ++ [.ping_retry url])) ++
    delayed_messages.map .ping_retry = g.agenda
  unfold agenda
  rw [hinbox, hdelayed, List.map_cons, List.append_assoc]
  rfl

/-- The retries are counted over the agenda: delayed, in the socket or put off. -/
theorem num_retries_eq (g : NetGateActor) (z : Url) :
    g.num_retries z = g.agenda.count (.ping_retry z) := by
  have hmap : (g.delayed_messages.map GateMessage.ping_retry).count (.ping_retry z) =
      g.delayed_messages.count z :=
    List.count_map_of_injective _ _ (fun _ _ heq => GateMessage.ping_retry.inj heq) z
  unfold num_retries agenda inbox
  rw [List.count_append, List.count_append, hmap]

/-! ### A handler that has to wait has pinged a new peer -/

theorem establish_connection_waits {k : Continuation}
    (h : g.establish_connection url k = some g') :
    ∃ new, g.Pings g' new ∧ (g'.control = g.control ∨ new ≠ []) := by
  have hcontrol := establish_connection_control h
  refine ⟨_, establish_connection_pings h, ?_⟩
  split
  · exact .inr (List.cons_ne_nil _ _)
  · next hsome =>
    rw [if_neg hsome] at hcontrol
    exact .inl hcontrol

/-- A message whose handler has to wait is a lookup, a retrieval or a connection request for a
    peer that is not known yet. -/
theorem process_waits {m : GateMessage} (hends : m.ends = false) (h : g.process m = some g') :
    ∃ new, g.Pings g' new ∧ (g'.control = g.control ∨ new ≠ []) := by
  cases m with
  | net_gate_conn_req host port => exact establish_connection_waits h
  | actor_registration name actor =>
    cases actor with
    | local_actor l =>
      exact ⟨[], actor_registration_pings h, .inl (actor_registration_control h)⟩
    | remote_actor r => cases hends
  | actor_lookup_req lookup => exact establish_connection_waits h
  | retrieve_actor_req info =>
    simp only [process] at h
    split at h
    · cases h
      exact ⟨[], pings_of_eq rfl rfl rfl rfl rfl, .inl rfl⟩
    · exact establish_connection_waits h
  | ping_retry url => exact ⟨_, ping_net_gate_pings h, .inl (ping_net_gate_control h)⟩

theorem process_frame_waits {peer : Url} {frame : NetFrame}
    (h : g.process_frame peer frame = some g') :
    ∃ new, g.Pings g' new ∧ (g'.control = g.control ∨ new ≠ []) := by
  by_cases hframe : frame = .ping
  · subst hframe
    exact establish_connection_waits h
  · obtain ⟨new, hpings, -⟩ := process_frame_greets h
    exact ⟨new, hpings, .inl (process_frame_control hframe h)⟩

/-! ### Open net gates stay open -/

theorem Open.of_messages (h : g.Open) (hrunning : g'.control ≠ .stopped)
    (hmessages : ∀ m ∈ g'.inbox, m.ends = false ∨ m ∈ g.inbox)
    (hattended : g'.inbox = [] ∨ g'.delayed_messages ≠ [] ∨
      (g'.control = .idle ∧ g'.recv_socket ≠ [])) : g'.Open :=
  ⟨hrunning, fun m hm => (hmessages m hm).elim id (h.messages m), hattended⟩

/-- A handler that waits has pinged a new peer, so that a retry is still to come. -/
theorem Open.pings (h : g.Open) (hpings : g.Pings g' new) (hrunning : g'.control ≠ .stopped)
    (hwaits : g.control = .idle → g'.control = .idle ∨ new ≠ []) : g'.Open := by
  refine h.of_messages hrunning (fun _ hm => .inr (hpings.inbox ▸ hm)) ?_
  rw [hpings.inbox, hpings.recv_socket, hpings.delayed_messages]
  rcases h.attended with hinbox | hdelayed | ⟨hidle, hrecv⟩
  · exact .inl hinbox
  · exact .inr (.inl (List.append_ne_nil_of_left_ne_nil hdelayed _))
  · rcases hwaits hidle with hidle' | hnew
    · exact .inr (.inr ⟨hidle', hrecv⟩)
    -- the retry for the new peer is still to come
    · exact .inr (.inl (List.append_ne_nil_of_right_ne_nil _ hnew))

/-- When the last message of the socket is taken, nothing is put off any more. -/
theorem Open.take_message {m : GateMessage} (h : g.Open) (hidle : g.control = .idle)
    (htake : g.take_message = some (m, g')) : g'.Open ∧ m.ends = false := by
  have hcontrol : g'.control = g.control := (take_message_eq htake).control
  obtain ⟨hinbox, hdelayed⟩ := take_message_inbox htake
  refine ⟨h.of_messages (hcontrol ▸ h.running) (fun m' hm' => .inr ?_) ?_, h.messages m ?_⟩
  · rw [hinbox]
    exact List.mem_cons_of_mem _ hm'
  · rcases h.attended with hnil | hsome | ⟨-, hrecv⟩
    · rw [hnil] at hinbox
      cases hinbox
    · exact .inr (.inl (hdelayed ▸ hsome))
    · by_cases hrecv' : g'.recv_socket = []
      · have hpending := (take_message_last htake hrecv).resolve_right fun h => h hrecv'
        exact .inl (List.append_eq_nil_iff.mpr ⟨hpending, hrecv'⟩)
      · exact .inr (.inr ⟨hcontrol.trans hidle, hrecv'⟩)
  · rw [hinbox]
    exact List.mem_cons_self

/-- The retry wakes up the net gate, with what it has put off. -/
theorem Open.flush (h : g.Open) (hidle : g.control = .idle) (hflush : g.flush = some g') :
    g'.Open := by
  unfold NetGateActor.flush at hflush
  split at hflush
  · next url delayed_messages hdelayed =>
    cases hflush
    refine h.of_messages h.running (fun m' hm' => ?_) (.inr (.inr ⟨hidle, by simp⟩))
    unfold NetGateActor.inbox at hm'
    rw [← List.append_assoc] at hm'
    refine (List.mem_append.mp hm').symm.imp_left fun hm' => ?_
    rw [List.mem_singleton.mp hm']
    rfl
  · cases hflush

theorem Open.poll (h : g.Open) : g.poll.Open := ⟨h.running, h.messages, h.attended⟩

/-- A handler that waits may put messages off, since a retry is still to come. -/
theorem Open.defer (h : g.Open) (hwaits : g.control ≠ .idle) (hdefer : g.defer_message = some g') :
    g'.Open := by
  obtain ⟨hinbox, hdelayed, hcontrol, -⟩ := defer_message_eq hdefer
  refine h.of_messages (hcontrol ▸ h.running) (fun m hm => .inr (hinbox ▸ hm)) ?_
  rw [hinbox, hdelayed]
  exact h.attended.imp_right fun hrest => .inl (hrest.resolve_right fun hidle => hwaits hidle.1)

/-- If there is something to do, a retry is still to come or the next poll reports a message. -/
theorem Open.delayed_messages_ne_nil (h : g.Open) (hagenda : g.agenda ≠ [])
    (hrecv : g.recv_socket = []) : g.delayed_messages ≠ [] := by
  rcases h.attended with hinbox | hdelayed | ⟨-, hsome⟩
  · intro hnil
    rw [agenda, hinbox, hnil] at hagenda
    exact hagenda rfl
  · exact hdelayed
  · exact absurd hrecv hsome

/-- What is still to be done for the messages that have arrived. Messages that have been put
    off need another one in the socket. -/
def backlog (g : NetGateActor) : Nat :=
  (g.inbox.map GateMessage.weight).sum +
    if g.recv_socket = [] ∧ g.pending_messages ≠ [] then 1 else 0

theorem backlog_eq (h : g.pending_messages = [] ∨ g.recv_socket ≠ []) :
    g.backlog = (g.inbox.map GateMessage.weight).sum := by
  unfold backlog
  rw [if_neg fun hleft => h.elim hleft.2 fun hrecv => hrecv hleft.1, Nat.add_zero]

/-- What has been put off costs one more. -/
theorem backlog_le (g : NetGateActor) :
    g.backlog ≤ (g.inbox.map GateMessage.weight).sum + 1 := by
  unfold backlog
  split <;> omega

/-! ### What has been reported -/

/-- A poll reports what is there. -/
theorem reported_poll (g : NetGateActor) : g.poll.Reported := by
  intro hrevents hinbox
  have hrecv : g.recv_socket = [] := (List.append_eq_nil_iff.mp hinbox).2
  unfold poll at hrevents
  dsimp only at hrevents
  rw [hrecv] at hrevents
  cases hrevents

theorem Reported.pings (h : g.Reported) (hpings : g.Pings g' new) : g'.Reported := by
  unfold Reported
  rw [hpings.revents, hpings.inbox]
  exact h

/-- Nothing is taken from the messages, and none of them is reported newly. -/
theorem Reported.of_inbox (h : g.Reported) (hrevents : g'.revents = g.revents)
    (hinbox : g.inbox <+: g'.inbox) : g'.Reported := by
  intro hreported hnil
  rw [hnil, List.prefix_nil] at hinbox
  exact h (hrevents ▸ hreported) hinbox

theorem Reported.arrive (h : g.Reported) {m : GateMessage} (hm : ∀ url, m ≠ .ping_retry url) :
    (g.arrive m).Reported := by
  obtain ⟨m', arrived, heq, -⟩ := arrive_eq g hm
  rw [heq]
  refine h.of_inbox rfl ?_
  unfold inbox
  rw [← List.append_assoc]
  exact List.prefix_append _ _

theorem Reported.defer (h : g.Reported) (hdefer : g.defer_message = some g') : g'.Reported := by
  obtain ⟨hinbox, -, -, hrevents⟩ := defer_message_eq hdefer
  exact h.of_inbox hrevents (hinbox ▸ List.prefix_rfl)

theorem Reported.flush (h : g.Reported) (hflush : g.flush = some g') : g'.Reported := by
  unfold NetGateActor.flush at hflush
  split at hflush
  · cases hflush
    refine h.of_inbox rfl ?_
    unfold inbox
    rw [← List.append_assoc]
    exact List.prefix_append _ _
  · cases hflush

/-- After `receive_once` the loop polls again. -/
theorem reported_take_message {m : GateMessage} (h : g.take_message = some (m, g')) :
    g'.Reported := by
  have hrevents : g'.revents = false := by
    unfold take_message at h
    split at h <;> cases h <;> rfl
  intro hreported
  rw [hrevents] at hreported
  cases hreported

/-- The weight of what is in flight. -/
def load (g : NetGateActor) (z : Url) : Nat := ((g.link z).in_flight.map NetFrame.weight).sum

/-- At most `n` is sent to the peer, and nothing to others. -/
structure Adds (g g' : NetGateActor) (peer : Url) (n : Nat) : Prop where
  to_peer : g'.load peer ≤ g.load peer + n
  others : ∀ z, z ≠ peer → g'.load z = g.load z

/-- The weight of what is sent is added for its peer. -/
theorem adds_set_link {peer : Url} {l' : Link} (frames : List NetFrame)
    (h : l'.in_flight = (g.link peer).in_flight ++ frames) :
    g.Adds (g.set_link peer l') peer (frames.map NetFrame.weight).sum where
  to_peer := by
    unfold load
    rw [link_set_link_self, h, List.map_append, List.sum_append]
  others z hz := by
    unfold load
    rw [link_set_link_of_ne g peer l' hz]

theorem adds_of_eq {peer : Url} (h : g'.link = g.link) : g.Adds g' peer 0 where
  to_peer := by
    unfold load
    rw [h, Nat.add_zero]
  others z _ := by
    unfold load
    rw [h]

theorem Adds.mono {peer : Url} {m n : Nat} (h : g.Adds g' peer m) (hle : m ≤ n) :
    g.Adds g' peer n :=
  ⟨h.to_peer.trans (Nat.add_le_add_left hle _), h.others⟩

/-- Data for a peer that is not ponged wait at its entry, and are not in flight. -/
theorem send_to_net_gate_adds {peer : Url} {d : Data} (h : g.send_to_net_gate peer d = some g') :
    g.Adds g' peer (NetFrame.data d).weight := by
  obtain ⟨conn, hat, -⟩ := Option.map_eq_some_iff.mp h
  rw [send_to_net_gate_eq hat] at h
  cases h
  by_cases hponged : conn.is_ponged = true
  · refine adds_set_link [.data d] ?_
    unfold Link.send
    rw [if_pos hponged]
    rfl
  · refine (adds_set_link [] ?_).mono (Nat.zero_le _)
    unfold Link.send
    rw [if_neg hponged]
    exact (List.append_nil _).symm

theorem set_conn_adds (g : NetGateActor) (peer : Url) (conn : NetGateConn) :
    g.Adds (g.set_conn peer conn) peer 0 := by
  rw [set_conn_eq]
  exact adds_set_link [] (List.append_nil _).symm

/-- The handler of a frame from a ponged peer sends less than the frame weighs. -/
theorem process_frame_adds {peer : Url} {frame : NetFrame} (hponged : (g.link peer).ponged = true)
    (h : g.process_frame peer frame = some g') : ∃ n < frame.weight, g.Adds g' peer n := by
  cases frame with
  | ping =>
    obtain ⟨conn, hconn⟩ := Option.ne_none_iff_exists'.mp (Link.conn_of_ponged hponged)
    simp only [process_frame] at h
    unfold establish_connection at h
    rw [show g.net_gate_connections peer = some conn from hconn] at h
    cases h
    refine ⟨1, Nat.lt_succ_self 1, ?_⟩
    unfold imme_send_to_net_gate
    rw [hand_eq]
    exact adds_set_link [.pong] rfl
  | pong =>
    obtain ⟨conn, hat, heq⟩ := Option.map_eq_some_iff.mp h
    have hconn := conn_of_conn_at hat
    rw [if_pos (Link.ponged_eq hconn ▸ hponged)] at heq
    cases heq
    exact ⟨0, Nat.one_pos, adds_of_eq rfl⟩
  | data d =>
    cases d with
    | data_conn_req host port =>
      obtain ⟨conn, hat, rfl⟩ := Option.map_eq_some_iff.mp h
      exact ⟨0, Nat.one_pos, set_conn_adds ..⟩
    | remote_actor_lookup_req name =>
      simp only [process_frame] at h
      unfold remote_actor_lookup_req at h
      dsimp only at h
      split at h
      -- the answer weighs less than the request
      · exact ⟨1, Nat.lt_succ_self 1, send_to_net_gate_adds h⟩
      · cases h
        exact ⟨0, Nat.two_pos, adds_of_eq rfl⟩
    | remote_actor_lookup_rep name l =>
      obtain ⟨conn, hat, hrest⟩ := Option.bind_eq_some_iff.mp h
      obtain ⟨requesters, hrequesters, hrest⟩ := Option.bind_eq_some_iff.mp hrest
      obtain ⟨info, hinfo, heq⟩ := Option.bind_eq_some_iff.mp hrest
      cases heq
      have hset := set_conn_adds g peer (conn.set_requesters name none)
      exact ⟨0, Nat.one_pos, hset.to_peer, hset.others⟩

end NetGateActor

namespace NetGates

open NetGateActor

variable {s s' : NetGates} {x y : Url} {g g' : NetGateActor}

/-! ### What is reported in a run -/

/-- All handlers of messages, a retry among them. -/
theorem process_pings {m : GateMessage} (h : g.process m = some g') : ∃ new, g.Pings g' new := by
  by_cases hretry : ∃ url, m = .ping_retry url
  · obtain ⟨url, rfl⟩ := hretry
    exact ⟨_, ping_net_gate_pings h⟩
  · obtain ⟨new, hpings, -⟩ := process_greets (fun url heq => hretry ⟨url, heq⟩) h
    exact ⟨new, hpings⟩

theorem reported_set (h : ∀ z, (s z).Reported) (hg : g.Reported) (z : Url) :
    (s.set x g z).Reported :=
  forall_set (p := fun _ => Reported) hg h z

/-- Only the loop takes messages, and it polls before it looks at `revents` again. -/
theorem reported_next (hsound : s.Sound) (h : ∀ z, (s z).Reported) (l : NetGateStep)
    (hnext : s.next l = some s') : ∀ z, (s' z).Reported := by
  have hs' := hsound.next l hnext
  cases stepped_of_next hnext with
  | arrive x m hm => exact reported_set h ((h x).arrive hm)
  | poll x => exact reported_set h (reported_poll _)
  | receive_once x m g hcontrol htake =>
    obtain ⟨g', hg', heq⟩ := hs'.checked_eq
    obtain ⟨new, hpings⟩ := process_pings hg'
    rw [heq]
    exact reported_set h ((reported_take_message htake).pings hpings)
  | receive_frame x y frame rest hcontrol hframes =>
    obtain ⟨g', hg', heq⟩ := hs'.checked_eq
    obtain ⟨new, hpings, -⟩ := process_frame_greets hg'
    rw [heq]
    have hpolled : ∀ z, (s.polled x z).Reported := reported_set h (reported_poll _)
    have harrived (z : Url) := (hpolled z).pings (arrived_frame_pings _ x y frame rest z)
    exact reported_set harrived ((harrived x).pings hpings)
  | lose x y i frame hframe hdata => exact reported_set h ((h y).pings (set_frames_pings ..))
  | spawn x url k sender hcontrol =>
    obtain ⟨g', hg', heq⟩ := hs'.checked_eq
    rw [heq]
    exact reported_set h ((h x).pings (spawn_pings hg'))
  | bind_port_rep x url k port hcontrol =>
    obtain ⟨g', hg', heq⟩ := hs'.checked_eq
    rw [heq]
    exact reported_set h ((h x).pings (bind_port_rep_pings hg'))
  | defer x g hdefer => exact reported_set h ((h x).defer hdefer)
  | flush x g hflush => exact reported_set h ((h x).flush hflush)

theorem reported_of_reachable (h : Reachable system s) (x : Url) : (s x).Reported := by
  refine h.invariant_of (fun s => ∀ x, (s x).Reported) (fun _ => sound_of_reachable)
    (fun s hs x => ?_) (fun s l s' hsound hs _ hnext => reported_next hsound hs l hnext) x
  obtain ⟨host, hx⟩ : ∃ host, s x = bound host x := hs x
  rw [hx]
  exact fun hreported => nomatch hreported

/-! ### Steps of the net gates themselves -/

/-- The net gates go on by themselves, until they come to the goal. -/
abbrev CanReach (s : NetGates) (goal : NetGates → Prop) : Prop :=
  system.CanReach (fun s l => l.Own s) s goal

/-- They go on, and no net gate ends. -/
def CanMove (s : NetGates) (goal : NetGates → Prop) : Prop :=
  s.CanReach fun s' => (∀ z, (s z).Open → (s' z).Open) ∧ goal s'

theorem can_move_here {goal : NetGates → Prop} (h : goal s) : s.CanMove goal :=
  System.can_reach_here ⟨fun _ => id, h⟩

/-- First to the one goal, and from there to the other. -/
theorem CanMove.bind {goal goal' : NetGates → Prop} (h : s.CanMove goal)
    (hrest : ∀ s', goal s' → s'.CanMove goal') : s.CanMove goal' :=
  System.CanReach.bind h fun s₁ ⟨hopen, hgoal⟩ => (hrest s₁ hgoal).mono fun _ ⟨hopen', hgoal'⟩ =>
    ⟨fun z hz => hopen' z (hopen z hz), hgoal'⟩

theorem CanMove.mono {goal goal' : NetGates → Prop} (h : s.CanMove goal)
    (himp : ∀ s', goal s' → goal' s') : s.CanMove goal' :=
  System.CanReach.mono h fun s' => And.imp_right (himp s')

/-- A step of one net gate that others do not see. -/
theorem can_move_set {goal : NetGates → Prop} (l : NetGateStep) (hown : l.Own s)
    (hnext : s.next l = some (s.set x g)) (hopen : (s x).Open → g.Open) (hgoal : goal (s.set x g)) :
    s.CanMove goal := by
  refine System.can_reach_next l hown hnext ⟨?_, hgoal⟩
  exact forall_set (p := fun z g => (s z).Open → g.Open) hopen fun _ => id

/-- Two net gates that are in a run and do not end. -/
structure Live (s : NetGates) (x y : Url) : Prop where
  reachable : Reachable system s
  left : (s x).Open
  right : (s y).Open

theorem Live.sound (h : s.Live x y) : s.Sound := sound_of_reachable h.reachable

theorem Live.symm (h : s.Live x y) : s.Live y x := ⟨h.reachable, h.right, h.left⟩

/-- As no net gate ends, the two are still live where they come to. -/
theorem Live.reach {goal : NetGates → Prop} (h : s.Live x y) (hmove : s.CanMove goal) :
    s.CanReach fun s' => s'.Live x y ∧ Reachable (system.start_in s) s' ∧ goal s' := by
  refine (System.CanReach.continues hmove).mono ?_
  rintro s' ⟨hcont, hopen, hgoal⟩
  exact ⟨⟨h.reachable.trans hcont, hopen x h.left, hopen y h.right⟩, hcont, hgoal⟩

/-! ### A handler that waits goes on -/

/-- Only `x` has gone on, to the end of a handler. -/
structure GoneOn (s s' : NetGates) (x : Url) : Prop where
  idle : (s' x).control = .idle
  others : ∀ z, z ≠ x → s' z = s z
  frames : ∀ z, ((s x).link z).in_flight <+: ((s' x).link z).in_flight
  pong : ∀ z, (s x).Pongs z → .pong ∈ ((s' x).link z).in_flight

/-- The handler of `x` has gone on to its end, and may have put messages off. -/
structure Idled (s s' : NetGates) (x : Url) : Prop extends s.GoneOn s' x where
  inbox : (s' x).inbox = (s x).inbox
  agenda : (s' x).agenda = (s x).agenda

/-- `x` has handled all its messages, and waits for frames. -/
structure Cleared (s s' : NetGates) (x : Url) : Prop extends s.GoneOn s' x where
  inbox : (s' x).inbox = []

theorem GoneOn.all_frames (h : s.GoneOn s' x) (a b : Url) :
    ((s a).link b).in_flight <+: ((s' a).link b).in_flight := by
  by_cases ha : a = x
  · exact ha ▸ h.frames b
  · rw [h.others a ha]

/-- `x` goes on alone, to the end of another handler. -/
theorem GoneOn.further {s'' : NetGates} (h : s.GoneOn s' x) (hidle : (s'' x).control = .idle)
    (hothers : ∀ z, z ≠ x → s'' z = s' z)
    (hframes : ∀ z, ((s' x).link z).in_flight <+: ((s'' x).link z).in_flight) :
    s.GoneOn s'' x :=
  ⟨hidle, fun z hz => (hothers z hz).trans (h.others z hz),
    fun z => (h.frames z).trans (hframes z), fun z hz => (hframes z).subset (h.pong z hz)⟩

/-- All messages in the socket are put off. -/
theorem can_put_off (h : s.Sound) {url : Url} {k : Continuation}
    (hcontrol : (s x).control = .waiting url k) :
    s.CanMove fun s' => s'.Sound ∧ s' = s.set x (s x).put_off := by
  induction hrecv : (s x).recv_socket generalizing s with
  | nil =>
    refine can_move_here ⟨h, ?_⟩
    rw [put_off_of_nil hrecv]
    exact (Function.update_eq_self x s).symm
  | cons m recv_socket ih =>
    obtain ⟨g, hdefer, hg⟩ : ∃ g, (s x).defer_message = some g ∧ g.recv_socket = recv_socket := by
      unfold defer_message
      rw [hrecv]
      exact ⟨_, rfl, rfl⟩
    have hnext : s.next (.defer x) = some (s.set x g) := by
      simp only [NetGates.next]
      rw [hcontrol]
      exact congrArg (Option.map (s.set x)) hdefer
    have hwaits : (s x).control ≠ .idle := by
      rw [hcontrol]
      exact fun heq => by cases heq
    have hx : s.set x g x = g := set_self s x g
    -- one message is put off, then the rest is
    have hdeferred : s.CanMove fun s' => s' = s.set x g :=
      can_move_set (.defer x) trivial hnext (fun hopen => hopen.defer hwaits hdefer) rfl
    refine hdeferred.bind ?_
    rintro s₁ rfl
    have hcontrol₁ : (s.set x g x).control = .waiting url k := by
      rw [hx, (defer_message_eq hdefer).2.2.1]
      exact hcontrol
    refine (ih (h.next _ hnext) hcontrol₁ (by rw [hx]; exact hg)).mono ?_
    rintro s₂ ⟨hsound, heq⟩
    rw [hx, put_off_defer_message hdefer] at heq
    exact ⟨hsound, heq.trans (Function.update_idem ..)⟩

/-- The receiver has been spawned, and tells a port. -/
theorem can_go_on (h : s.Sound) {url : Url} {k : Continuation}
    (hcontrol : (s x).control = .waiting url k) : s.CanMove fun s' => s.Idled s' x := by
  refine (can_put_off h hcontrol).bind ?_
  rintro s₁ ⟨hsound, rfl⟩
  have hx : s.set x (s x).put_off x = (s x).put_off := set_self s x _
  have hcontrol₁ : (s.set x (s x).put_off x).control = .waiting url k := by
    rw [hx]
    exact hcontrol
  obtain ⟨g, hg, -⟩ := handles_bind_port_rep (hsound.gates x) hcontrol₁ 0
  have hnext : (s.set x (s x).put_off).next (.bind_port_rep x 0) =
      some ((s.set x (s x).put_off).set x g) := by
    simp only [NetGates.next]
    rw [hcontrol₁]
    exact congrArg (fun result => some ((s.set x (s x).put_off).set x
      ((s.set x (s x).put_off x).checked result))) hg
  have hsocket : (s.set x (s x).put_off x).recv_socket = [] := by
    rw [hx]
    rfl
  rw [hx] at hg
  obtain ⟨hidle, hframes, hpong⟩ := bind_port_rep_frames hg
  have hpings := bind_port_rep_pings hg
  refine can_move_set (.bind_port_rep x 0) hsocket hnext (fun hopen => ?_) ?_
  · rw [hx] at hopen
    exact hopen.pings hpings (by rw [hidle]; exact fun heq => by cases heq) fun _ => .inl hidle
  · refine ⟨⟨?_, fun z hz => (set_of_ne _ hz g).trans (set_of_ne s hz _), ?_, ?_⟩, ?_, ?_⟩ <;>
      rw [set_self]
    · exact hidle
    · exact hframes
    · intro z hz
      rw [Pongs, hcontrol] at hz
      cases hz
      exact hpong rfl
    · exact hpings.inbox.trans (put_off_inbox _)
    · rw [hpings.agenda, List.map_nil, List.append_nil, put_off_agenda]

/-- Whatever handler runs, its sender and its receiver are spawned, and it comes to its end. -/
theorem can_get_idle (h : s.Sound) (hopen : (s x).Open) : s.CanMove fun s' => s.Idled s' x := by
  cases hcontrol : (s x).control with
  | idle =>
    refine can_move_here ⟨⟨hcontrol, fun _ _ => rfl, fun _ => List.prefix_rfl, ?_⟩, rfl, rfl⟩
    intro z hz
    rw [Pongs, hcontrol] at hz
    cases hz
  | stopped => exact absurd hcontrol hopen.running
  | failed => exact absurd hcontrol (h.gates x).not_failed
  | waiting url k => exact can_go_on h hcontrol
  | spawning url k =>
    obtain ⟨g, hg, -⟩ := handles_spawn (h.gates x) hcontrol ⟨0, false⟩
    obtain ⟨hwaiting, hframes⟩ := spawn_frames hg
    have hnext : s.next (.spawn x ⟨0, false⟩) = some (s.set x g) := by
      simp only [NetGates.next]
      rw [hcontrol]
      exact congrArg (fun result => some (s.set x ((s x).checked result))) hg
    have hpings := spawn_pings hg
    have hspawned : s.CanMove fun s' => s' = s.set x g := by
      refine can_move_set (.spawn x ⟨0, false⟩) trivial hnext
        (fun hopen => hopen.pings hpings ?_ fun hidle => ?_) rfl
      · rw [hwaiting]
        exact fun heq => by cases heq
      · rw [hcontrol] at hidle
        cases hidle
    -- then it is told the port
    refine hspawned.bind ?_
    rintro s₁ rfl
    have hsound := h.next _ hnext
    have hx : s.set x g x = g := set_self s x g
    have hset : (s.set x g x).control = .waiting url k := by rw [hx]; exact hwaiting
    refine (can_go_on hsound hset).mono ?_
    intro s' hs'
    refine ⟨⟨hs'.idle, fun z hz => (hs'.others z hz).trans (set_of_ne s hz g), fun z => ?_,
      fun z hz => hs'.pong z ?_⟩, ?_, ?_⟩
    · rw [← hframes z]
      have hframes' := hs'.frames z
      rwa [hx] at hframes'
    · rw [Pongs, hcontrol] at hz
      rw [hx, Pongs, hwaiting]
      exact hz
    · rw [hs'.inbox, hx, hpings.inbox]
    · rw [hs'.agenda, hx, hpings.agenda, List.map_nil, List.append_nil]

/-! ### Messages come to their turns -/

/-- The next message has been handled. -/
structure Processed (s s' : NetGates) (x : Url) (m : GateMessage) (rest : List GateMessage) :
    Prop where
  others : ∀ z, z ≠ x → s' z = s z
  frames : ∀ z, ((s x).link z).in_flight <+: ((s' x).link z).in_flight
  handled : ∃ (g : NetGateActor) (new : List Url), g.link = (s x).link ∧ g.control = .idle ∧
    g.process m = some (s' x) ∧ (s' x).agenda = rest ++ new.map .ping_retry

/-- The loop takes a message only if the poll has reported one. -/
theorem receive_once_next (hidle : (s x).control = .idle) (hrevents : (s x).revents = true)
    {m : GateMessage} (htake : (s x).take_message = some (m, g)) :
    s.next (.receive_once x) = some (s.set x (g.checked (g.process m))) := by
  simp only [NetGates.next]
  rw [if_pos ⟨hidle, hrevents⟩, htake]
  rfl

/-- A message is taken and handled, if need be after a poll that reports it. -/
theorem can_handle (h : Reachable system s) (hidle : (s x).control = .idle) (hopen : (s x).Open)
    (hrecv : (s x).recv_socket ≠ []) {m : GateMessage}
    (htake : (s x).take_message = some (m, g)) :
    ∃ g', g.process m = some g' ∧ s.CanMove fun s' => s' = s.set x g' := by
  -- the net gate stays open, as the handler that waits has pinged
  have hopened {g' : NetGateActor} (hg' : g.process m = some g') : g'.Open := by
    obtain ⟨hg, hends⟩ := hopen.take_message hidle htake
    obtain ⟨new, hpings, hwaits⟩ := process_waits hends hg'
    exact hg.pings hpings (process_running hends hg.running hg') fun hidle =>
      hwaits.imp_left fun hcontrol => hcontrol.trans hidle
  cases hrevents : (s x).revents with
  | true =>
    have hnext := receive_once_next hidle hrevents htake
    obtain ⟨g', hg', heq⟩ := ((sound_of_reachable h).next _ hnext).checked_eq
    rw [heq] at hnext
    exact ⟨g', hg', can_move_set (.receive_once x) trivial hnext (fun _ => hopened hg') rfl⟩
  | false =>
    have hx : s.polled x x = (s x).poll := set_self s x _
    have hpoll : s.next (.poll x) = some (s.polled x) := by
      simp only [NetGates.next]
      rw [if_pos ⟨hidle, hrevents⟩]
    have hpolled : (s.polled x x).revents = true := by
      rw [hx]
      simpa [NetGateActor.poll] using hrecv
    have hnext : (s.polled x).next (.receive_once x) =
        some ((s.polled x).set x (g.checked (g.process m))) := by
      refine receive_once_next (by rw [polled_control]; exact hidle) hpolled ?_
      rw [hx, take_message_poll]
      exact htake
    obtain ⟨g', hg', heq⟩ := (((sound_of_reachable h).next _ hpoll).next _ hnext).checked_eq
    rw [heq] at hnext
    have hmoved : s.CanMove fun s' => s' = s.polled x :=
      can_move_set (.poll x) trivial hpoll Open.poll rfl
    refine ⟨g', hg', hmoved.bind ?_⟩
    rintro s₁ rfl
    exact can_move_set (.receive_once x) trivial hnext (fun _ => hopened hg')
      (Function.update_idem ..)

/-- A net gate that has a message in its socket takes the first one that has arrived. -/
theorem can_receive_once (h : Reachable system s) (hidle : (s x).control = .idle)
    (hopen : (s x).Open) (hrecv : (s x).recv_socket ≠ []) {m : GateMessage}
    (htake : (s x).take_message = some (m, g)) :
    s.CanMove fun s' => s.Processed s' x m g.agenda ∧ (s' x).inbox = g.inbox ∧
      ((s' x).pending_messages = [] ∨ (s' x).recv_socket ≠ []) := by
  obtain ⟨g', hg', hmove⟩ := can_handle h hidle hopen hrecv htake
  have htakes := take_message_eq htake
  have hidle' : g.control = .idle := htakes.control.trans hidle
  obtain ⟨new, hpings⟩ := process_pings hg'
  refine hmove.mono ?_
  rintro s' rfl
  refine ⟨⟨fun z hz => set_of_ne s hz g', fun z => ?_, g, new, htakes.link, hidle', ?_, ?_⟩,
    ?_, ?_⟩
  all_goals rw [set_self]
  · rw [← htakes.link]
    exact frames_of_extends (process_extends hidle' hg') z
  · exact hg'
  · exact hpings.agenda
  · exact hpings.inbox
  · rw [hpings.pending_messages, hpings.recv_socket]
    exact take_message_last htake hrecv

/-- If there is something to do, the socket has a message, if need be a retry. -/
theorem can_attend (hidle : (s x).control = .idle) (hopen : (s x).Open)
    (hagenda : (s x).agenda ≠ []) :
    s.CanMove fun s' => ∃ g, s' = s.set x g ∧ g.recv_socket ≠ [] ∧ g.agenda = (s x).agenda ∧
      g.link = (s x).link ∧ g.control = .idle ∧
      ((s x).inbox ≠ [] → g.inbox ≠ [] ∧ g.backlog = (s x).backlog) := by
  by_cases hrecv : (s x).recv_socket = []
  · obtain ⟨g, hflush, hsome, hsame, hlink, hcontrol, url, hinbox⟩ :=
      flush_of_ne_nil (hopen.delayed_messages_ne_nil hagenda hrecv)
    have hnext : s.next (.flush x) = some (s.set x g) := by
      simp only [NetGates.next]
      rw [hflush]
      rfl
    refine can_move_set (.flush x) hidle hnext (fun hopen => hopen.flush hidle hflush)
      ⟨g, rfl, hsome, hsame, hlink, hcontrol.trans hidle, fun hleft => ⟨?_, ?_⟩⟩
    · rw [hinbox]
      exact List.append_ne_nil_of_left_ne_nil hleft _
    · have hpending : (s x).pending_messages ≠ [] := by
        rwa [inbox, hrecv, List.append_nil] at hleft
      rw [backlog_eq (.inr hsome), hinbox, List.map_append, List.sum_append]
      unfold backlog
      rw [if_pos ⟨hrecv, hpending⟩]
      rfl
  · exact can_move_here ⟨s x, (Function.update_eq_self x s).symm, hrecv, rfl, rfl, hidle,
      fun hleft => ⟨hleft, rfl⟩⟩

/-- If there is something on the agenda, the first message can be handled. -/
theorem Live.can_process (h : s.Live x y) (hidle : (s x).control = .idle) {m : GateMessage}
    {rest : List GateMessage} (hagenda : (s x).agenda = m :: rest) :
    s.CanReach fun s' => s'.Live x y ∧ Reachable (system.start_in s) s' ∧
      s.Processed s' x m rest := by
  refine (h.reach (can_attend hidle h.left (hagenda ▸ List.cons_ne_nil _ _))).bind ?_
  rintro s₁ ⟨hlive, hcont, g, rfl, hrecv, hsame, hlink, hcontrol, -⟩
  have hx : s.set x g x = g := set_self s x g
  obtain ⟨m', g', htake⟩ := take_message_of_ne_nil (List.append_ne_nil_of_right_ne_nil _ hrecv)
  have hcons := (take_message_agenda htake).symm.trans (hsame.trans hagenda)
  obtain ⟨rfl, rfl⟩ := List.cons.inj hcons
  refine (hlive.reach (can_receive_once hlive.reachable (x := x) (by rw [hx]; exact hcontrol)
    hlive.left (by rw [hx]; exact hrecv) (by rw [hx]; exact htake))).mono ?_
  rintro s₂ ⟨hlive₂, hcont₂, hprocessed, -⟩
  refine ⟨hlive₂, hcont.trans hcont₂, fun z hz => (hprocessed.others z hz).trans
    (set_of_ne s hz g), fun z => ?_, ?_⟩
  · have hframes := hprocessed.frames z
    rwa [hx, hlink] at hframes
  · have hhandled := hprocessed.handled
    rwa [hx, hlink] at hhandled

/-- Any message that a net gate has can come to its turn. -/
theorem Live.can_come_first (h : s.Live x y) {m : GateMessage} (hmem : m ∈ (s x).agenda) :
    s.CanReach fun s' => s'.Live x y ∧ (s' x).control = .idle ∧
      ∃ rest, (s' x).agenda = m :: rest := by
  obtain ⟨n, hget⟩ := List.mem_iff_getElem?.mp hmem
  clear hmem
  -- the message is one place nearer when another one has been handled
  induction n generalizing s with
  | zero =>
    refine (h.reach (can_get_idle h.sound h.left)).mono ?_
    rintro s₁ ⟨hlive, -, hidled⟩
    refine ⟨hlive, hidled.idle, ?_⟩
    rw [hidled.agenda]
    cases hagenda : (s x).agenda with
    | nil =>
      rw [hagenda] at hget
      cases hget
    | cons m' rest =>
      rw [hagenda] at hget
      cases hget
      exact ⟨rest, rfl⟩
  | succ n ih =>
    refine (h.reach (can_get_idle h.sound h.left)).bind ?_
    rintro s₁ ⟨hlive, -, hidled⟩
    have hget₁ : (s₁ x).agenda[n + 1]? = some m := by rwa [hidled.agenda]
    cases hagenda : (s₁ x).agenda with
    | nil =>
      rw [hagenda] at hget₁
      cases hget₁
    | cons m' rest =>
      rw [hagenda] at hget₁
      have hrest : rest[n]? = some m := hget₁
      refine (hlive.can_process hidled.idle hagenda).bind ?_
      rintro s₂ ⟨hlive₂, -, hprocessed⟩
      obtain ⟨g, new, -, -, -, hagenda₂⟩ := hprocessed.handled
      refine ih hlive₂ ?_
      rw [hagenda₂]
      exact (List.getElem?_append_left (List.getElem?_eq_some_iff.mp hrest).1).trans hrest

/-! ### Frames come to their turns -/

/-- To take a frame from a socket and to log it touches no handler. -/
theorem control_arrived_frame (s : NetGates) (x y : Url) (frame : NetFrame)
    (rest : List NetFrame) (z : Url) :
    (s.arrived_frame x y frame rest z).control = (s z).control := by
  have hset {s : NetGates} {x : Url} {g : NetGateActor} (h : g.control = (s x).control) (z : Url) :
      (s.set x g z).control = (s z).control :=
    forall_set (p := fun z g => g.control = (s z).control) h (fun _ => rfl) z
  refine (hset ?_ z).trans (hset ?_ z)
  · rfl
  · rfl

theorem link_polled (s : NetGates) (x z : Url) : (s.polled x z).link = (s z).link := by
  rw [polled_apply]
  rfl

/-- The next frame from `y` has been handled by `x`. -/
structure Received (s s' : NetGates) (x y : Url) (frame : NetFrame) (rest : List NetFrame) :
    Prop where
  others : ∀ z, z ≠ x → s' z = (s.polled x).arrived_frame x y frame rest z
  handled : ((s.polled x).arrived_frame x y frame rest x).process_frame y frame = some (s' x)
  frames : ∀ a b, (if a = y ∧ b = x then rest else ((s a).link b).in_flight) <+:
    ((s' a).link b).in_flight

/-- A net gate that has no messages waits for frames. -/
theorem can_receive_frame (h : Reachable system s) (hidle : (s x).control = .idle)
    (hinbox : (s x).inbox = []) {frame : NetFrame} {rest : List NetFrame}
    (hframes : ((s y).link x).in_flight = frame :: rest) :
    s.CanMove fun s' => s.Received s' x y frame rest := by
  let arrived := (s.polled x).arrived_frame x y frame rest
  have hrevents : (s x).revents = false :=
    Bool.eq_false_iff.mpr fun hreported => reported_of_reachable h x hreported hinbox
  have hnext : s.next (.receive_frame x y) = some (arrived.set x
      ((arrived x).checked ((arrived x).process_frame y frame))) := by
    have hsocket : (s y).net_send_socket x = frame :: rest := hframes
    simp only [NetGates.next]
    rw [if_pos ⟨hidle, hrevents⟩, hsocket]
  obtain ⟨g', hg', heq⟩ := ((sound_of_reachable h).next _ hnext).checked_eq
  rw [heq] at hnext
  have hcontrol (z : Url) : (arrived z).control = (s z).control :=
    (control_arrived_frame ..).trans (polled_control s x z)
  have hidle' : (arrived x).control = .idle := (hcontrol x).trans hidle
  -- polling and logging leave every net gate open
  have harrived (z : Url) (hz : (s z).Open) : (arrived z).Open := by
    have hpolled : (s.polled x z).Open := by
      rw [polled_apply]
      exact ⟨hz.running, hz.messages, hz.attended⟩
    exact hpolled.pings (arrived_frame_pings ..) (hcontrol z ▸ hz.running) fun hidle =>
      .inl ((control_arrived_frame ..).trans hidle)
  obtain ⟨new, hpings, hwaits⟩ := process_frame_waits hg'
  refine System.can_reach_next (.receive_frame x y) trivial hnext ⟨fun z hz => ?_,
    fun z hz => set_of_ne arrived hz g', ?_, fun a b => ?_⟩
  · by_cases heq : z = x
    · subst heq
      rw [set_self]
      exact (harrived z hz).pings hpings (process_frame_running (harrived z hz).running hg')
        fun hidle => hwaits.imp_left fun hcontrol => hcontrol.trans hidle
    · rw [set_of_ne arrived heq]
      exact harrived z hz
  · rw [set_self]
    exact hg'
  · have hlink : ((arrived a).link b).in_flight =
        if a = y ∧ b = x then rest else ((s a).link b).in_flight := by
      rw [← link_polled s x a]
      exact congrArg Link.in_flight (link_arrived_frame (s.polled x) x y frame rest a b)
    rw [← hlink]
    by_cases ha : a = x
    · subst ha
      rw [set_self]
      exact frames_of_extends (process_frame_extends hidle' hg') b
    · rw [set_of_ne arrived ha]

/-- One message is handled, and what is left gets less. -/
theorem Live.can_shorten (h : s.Live x y) (hidle : (s x).control = .idle)
    (hleft : (s x).inbox ≠ []) :
    s.CanReach fun s' => s'.Live x y ∧ (s' x).control = .idle ∧ (∀ z, z ≠ x → s' z = s z) ∧
      (∀ z, ((s x).link z).in_flight <+: ((s' x).link z).in_flight) ∧
      (s' x).backlog < (s x).backlog := by
  have hagenda : (s x).agenda ≠ [] := List.append_ne_nil_of_left_ne_nil hleft _
  refine (h.reach (can_attend hidle h.left hagenda)).bind ?_
  rintro s₁ ⟨hlive, -, g, rfl, hrecv, -, hlink, hcontrol, hattended⟩
  have hx : s.set x g x = g := set_self s x g
  obtain ⟨hinbox, hbacklog⟩ := hattended hleft
  obtain ⟨m, g', htake⟩ := take_message_of_ne_nil hinbox
  refine (hlive.reach (can_receive_once hlive.reachable (x := x) (by rw [hx]; exact hcontrol)
    hlive.left (by rw [hx]; exact hrecv) (by rw [hx]; exact htake))).bind ?_
  rintro s₂ ⟨hlive₂, -, hprocessed, hinbox₂, hlast⟩
  have hothers (z : Url) (hz : z ≠ x) : s₂ z = s z :=
    (hprocessed.others z hz).trans (set_of_ne s hz g)
  have hframes (z : Url) : ((s x).link z).in_flight <+: ((s₂ x).link z).in_flight := by
    have hframes := hprocessed.frames z
    rwa [hx, hlink] at hframes
  -- the message that is taken leaves the others
  have hsum : (s x).backlog = m.weight + ((s₂ x).inbox.map GateMessage.weight).sum := by
    rw [← hbacklog, backlog_eq (.inr hrecv), (take_message_inbox htake).1, hinbox₂]
    rfl
  by_cases hretry : ∃ url, m = .ping_retry url
  · -- a retry is handled at once
    obtain ⟨url, rfl⟩ := hretry
    obtain ⟨g₁, new, -, hidle₁, hprocess, -⟩ := hprocessed.handled
    refine System.can_reach_here ⟨hlive₂, (ping_net_gate_control hprocess).trans hidle₁, hothers,
      hframes, ?_⟩
    rw [hsum, backlog_eq hlast]
    exact Nat.lt_add_of_pos_left Nat.one_pos
  · -- another message may have to wait, and then the rest is put off
    refine (hlive₂.reach (can_get_idle hlive₂.sound hlive₂.left)).mono ?_
    rintro s₃ ⟨hlive₃, -, hidled⟩
    refine ⟨hlive₃, hidled.idle, fun z hz => (hidled.others z hz).trans (hothers z hz),
      fun z => (hframes z).trans (hidled.frames z), ?_⟩
    have hweight : m.weight = 2 := by
      cases m with
      | ping_retry url => exact absurd ⟨url, rfl⟩ hretry
      | _ => rfl
    have hle := (s₃ x).backlog_le
    rw [hidled.inbox] at hle
    omega

/-- All messages that have arrived can be handled. -/
theorem Live.can_clear (h : s.Live x y) : s.CanReach fun s' => s'.Live x y ∧ s.Cleared s' x := by
  refine (h.reach (can_get_idle h.sound h.left)).bind ?_
  rintro s₁ ⟨hlive, -, hidled⟩
  -- the backlog gets less with every message
  have hempty : s₁.CanReach fun s' => (s'.Live x y ∧ s.GoneOn s' x) ∧ (s' x).inbox = [] := by
    refine System.can_reach_of_measure _ (fun s' => (s' x).backlog) ?_ ⟨hlive, hidled.toGoneOn⟩
    rintro s₂ ⟨hlive₂, hgone⟩ hleft
    refine (hlive₂.can_shorten hgone.idle hleft).mono ?_
    rintro s₃ ⟨hlive₃, hidle, hothers, hframes, hlt⟩
    exact ⟨⟨hlive₃, hgone.further hidle hothers hframes⟩, hlt⟩
  refine hempty.mono ?_
  rintro s₂ ⟨⟨hlive₂, hgone⟩, hinbox⟩
  exact ⟨hlive₂, hgone, hinbox⟩

theorem getElem?_of_prefixed {α : Type} {l l' : List α} (h : l <+: l') {i : Nat} {a : α}
    (hget : l[i]? = some a) : l'[i]? = some a := by
  obtain ⟨hlt, heq⟩ := List.getElem?_eq_some_iff.mp hget
  rw [List.prefix_iff_getElem?.mp h i hlt, heq]

/-- Any frame that is in flight can come to its turn. -/
theorem Live.can_come_next (h : s.Live x y) {frame : NetFrame}
    (hmem : frame ∈ ((s y).link x).in_flight) :
    s.CanReach fun s' => s'.Live x y ∧ (s' x).control = .idle ∧ (s' x).inbox = [] ∧
      ∃ rest, ((s' y).link x).in_flight = frame :: rest := by
  obtain ⟨n, hget⟩ := List.mem_iff_getElem?.mp hmem
  clear hmem
  -- the frame is one place nearer when another one has been handled
  induction n generalizing s with
  | zero =>
    refine h.can_clear.mono ?_
    rintro s₁ ⟨hlive, hcleared⟩
    refine ⟨hlive, hcleared.idle, hcleared.inbox, ?_⟩
    have hget₁ := getElem?_of_prefixed (hcleared.all_frames y x) hget
    cases hframes : ((s₁ y).link x).in_flight with
    | nil =>
      rw [hframes] at hget₁
      cases hget₁
    | cons frame' rest =>
      rw [hframes] at hget₁
      cases hget₁
      exact ⟨rest, rfl⟩
  | succ n ih =>
    refine h.can_clear.bind ?_
    rintro s₁ ⟨hlive, hcleared⟩
    have hget₁ := getElem?_of_prefixed (hcleared.all_frames y x) hget
    cases hframes : ((s₁ y).link x).in_flight with
    | nil =>
      rw [hframes] at hget₁
      cases hget₁
    | cons frame' rest =>
      rw [hframes] at hget₁
      have hrest : rest[n]? = some frame := hget₁
      refine (hlive.reach (can_receive_frame hlive.reachable hcleared.idle hcleared.inbox
        hframes)).bind ?_
      rintro s₂ ⟨hlive₂, -, hreceived⟩
      have hprefix := hreceived.frames y x
      rw [if_pos ⟨rfl, rfl⟩] at hprefix
      exact ih hlive₂ (getElem?_of_prefixed hprefix hrest)

/-! ### The handshake can be completed -/

/-- A `Ping` is answered. -/
theorem Live.can_answer_ping (h : s.Live x y) (hmem : .ping ∈ ((s y).link x).in_flight) :
    s.CanReach fun s' => s'.Live x y ∧ .pong ∈ ((s' x).link y).in_flight := by
  refine (h.can_come_next hmem).bind ?_
  rintro s₁ ⟨hlive, hidle, hinbox, rest, hframes⟩
  refine (hlive.reach (can_receive_frame hlive.reachable hidle hinbox hframes)).bind ?_
  rintro s₂ ⟨hlive₂, -, hreceived⟩
  have hhandled := hreceived.handled
  generalize (s₁.polled x).arrived_frame x y .ping rest x = g at hhandled
  cases hconn : (g.link y).conn with
  | some conn =>
    refine System.can_reach_here ⟨hlive₂, mem_in_flight_pong (g := g) ?_⟩
    simp only [process_frame] at hhandled
    unfold establish_connection at hhandled
    rwa [show g.net_gate_connections y = some conn from hconn] at hhandled
  | none =>
    -- `y` has been unknown, and is answered when its sender is there
    have hcontrol := establish_connection_control hhandled
    rw [if_pos hconn] at hcontrol
    refine (hlive₂.reach (can_get_idle hlive₂.sound hlive₂.left)).mono ?_
    rintro s₃ ⟨hlive₃, -, hidled⟩
    refine ⟨hlive₃, hidled.pong y ?_⟩
    rw [Pongs, hcontrol]
    rfl

/-- A `Pong` is received. -/
theorem Live.can_receive_pong (h : s.Live x y) (hmem : .pong ∈ ((s y).link x).in_flight) :
    s.CanReach fun s' => s'.Live x y ∧ ((s' x).link y).ponged = true := by
  refine (h.can_come_next hmem).bind ?_
  rintro s₁ ⟨hlive, hidle, hinbox, rest, hframes⟩
  refine (hlive.reach (can_receive_frame hlive.reachable hidle hinbox hframes)).mono ?_
  rintro s₂ ⟨hlive₂, -, hreceived⟩
  refine ⟨hlive₂, ?_⟩
  -- a connection is ponged when a `Pong` has been noted
  refine ((hlive₂.sound.gates x).links y).ponged.mpr ?_
  have hextends : ((s₁.polled x).arrived_frame x y .pong rest x).Extends (s₂ x) :=
    receive_pong_extends hreceived.handled
  rw [(hextends.links y).received, link_arrived_frame]
  dsimp only
  rw [if_pos ⟨rfl, rfl⟩]
  exact List.mem_append_right _ (List.mem_singleton_self _)

/-- Who is ponged stays so. -/
theorem Live.ponged_of_continuation (h : s.Live x y) (hcont : Reachable (system.start_in s) s')
    {a b : Url} (hponged : ((s a).link b).ponged = true) : ((s' a).link b).ponged = true :=
  ((advances_of_continuation h.reachable hcont a).ponged b hponged).1

/-- The `PingRetry` of a peer that has not answered can be handled. -/
theorem Live.can_ping (h : s.Live x y) (hconn : ((s x).link y).conn ≠ none)
    (hponged : ((s x).link y).ponged = false) :
    s.CanReach fun s' => s'.Live x y ∧
      (.ping ∈ ((s' x).link y).in_flight ∨ ((s' x).link y).ponged = true) := by
  have hmem : .ping_retry y ∈ (s x).agenda := by
    refine List.count_pos_iff.mp ?_
    rw [← num_retries_eq, (persistent_of_reachable h.reachable x).calling y hconn hponged]
    exact Nat.one_pos
  refine (h.can_come_first hmem).bind ?_
  rintro s₁ ⟨hlive, hidle, rest, hagenda⟩
  refine (hlive.can_process hidle hagenda).mono ?_
  rintro s₂ ⟨hlive₂, hcont, hprocessed⟩
  refine ⟨hlive₂, ?_⟩
  obtain ⟨g, new, hlink, -, hprocess, -⟩ := hprocessed.handled
  obtain ⟨conn, hsome, heq⟩ := Option.map_eq_some_iff.mp hprocess
  split at heq
  · next hconn_ponged =>
    refine .inr (hlive.ponged_of_continuation hcont ?_)
    rw [← hlink, Link.ponged_eq hsome, hconn_ponged]
  · next hnot =>
    left
    rw [← heq]
    unfold imme_send_to_net_gate
    rw [hand_eq]
    show .ping ∈ ((g.set_link y _).link y).in_flight
    rw [link_set_link_self]
    exact List.mem_append_right _ (List.mem_singleton_self _)

/-- **The handshake can be completed** from wherever it has come to. -/
theorem Live.can_be_ponged (h : s.Live x y) (hconn : ((s x).link y).conn ≠ none) :
    s.CanReach fun s' => s'.Live x y ∧ ((s' x).link y).ponged = true := by
  cases hponged : ((s x).link y).ponged with
  | true => exact System.can_reach_here ⟨h, hponged⟩
  | false =>
    refine (h.can_ping hconn hponged).bind ?_
    rintro s₁ ⟨hlive₁, hping | hponged₁⟩
    · refine (hlive₁.symm.can_answer_ping hping).bind ?_
      rintro s₂ ⟨hlive₂, hpong⟩
      exact hlive₂.symm.can_receive_pong hpong
    · exact System.can_reach_here ⟨hlive₁, hponged₁⟩

/-- Both ends get to know each other. -/
theorem Live.can_both_be_ponged (h : s.Live x y) (hconn : ((s x).link y).conn ≠ none) :
    s.CanReach fun s' => s'.Live x y ∧ ((s' x).link y).ponged = true ∧
      ((s' y).link x).ponged = true := by
  refine (h.can_be_ponged hconn).bind ?_
  rintro s₁ ⟨hlive₁, hponged⟩
  -- who has answered knows the other end
  have hknown := (hlive₁.sound.agree x y).ponged hponged
  refine (System.CanReach.continues (hlive₁.symm.can_be_ponged hknown)).mono ?_
  rintro s₂ ⟨hcont, hlive₂, hponged'⟩
  exact ⟨hlive₂.symm, hlive₁.ponged_of_continuation hcont hponged, hponged'⟩

/-! ### Nothing is left -/

/-- Two net gates that have got to know each other, and wait for frames. -/
structure Connected (s : NetGates) (x y : Url) : Prop where
  live : s.Live x y
  ponged : ((s x).link y).ponged = true ∧ ((s y).link x).ponged = true
  idle : (s x).control = .idle ∧ (s y).control = .idle
  inbox : (s x).inbox = [] ∧ (s y).inbox = []

theorem Connected.symm (h : s.Connected x y) : s.Connected y x :=
  ⟨h.live.symm, h.ponged.symm, h.idle.symm, h.inbox.symm⟩

/-- The frame that has arrived is not in flight any more. -/
theorem load_arrived_frame {frame : NetFrame} {rest : List NetFrame}
    (hframes : ((s y).link x).in_flight = frame :: rest) (a b : Url) :
    (s a).load b = (s.arrived_frame x y frame rest a).load b +
      if a = y ∧ b = x then frame.weight else 0 := by
  unfold load
  rw [link_arrived_frame]
  dsimp only
  split
  · next hab =>
    rw [hab.1, hab.2, hframes, List.map_cons, List.sum_cons, Nat.add_comm]
  · rw [Nat.add_zero]

/-- A frame that is handled leaves less in flight, in both directions together. -/
theorem Received.load_lt {frame : NetFrame} {rest : List NetFrame}
    (h : s.Received s' x y frame rest) (hframes : ((s y).link x).in_flight = frame :: rest)
    (hponged : ((s x).link y).ponged = true) :
    (s' x).load y + (s' y).load x < (s x).load y + (s y).load x := by
  have hload (a b : Url) : (s.polled x a).load b = (s a).load b := by
    unfold load
    rw [link_polled]
  have hframes' : ((s.polled x y).link x).in_flight = frame :: rest := by rwa [link_polled]
  have hponged' : (((s.polled x).arrived_frame x y frame rest x).link y).ponged = true := by
    rw [link_arrived_frame, link_polled]
    exact hponged
  obtain ⟨n, hn, hadds⟩ := process_frame_adds hponged' h.handled
  have hpeer := hadds.to_peer
  have hx := load_arrived_frame hframes' x y
  have hy := load_arrived_frame hframes' y x
  rw [if_pos ⟨rfl, rfl⟩, hload] at hy
  by_cases hxy : y = x
  · subst hxy
    omega
  · rw [if_neg fun hab => hxy hab.2, hload] at hx
    rw [h.others y hxy]
    omega

/-- Both ends are known, so the frame is handled at once and no message comes of it. -/
theorem Connected.can_receive_frame (h : s.Connected x y) {frame : NetFrame}
    {rest : List NetFrame} (hframes : ((s y).link x).in_flight = frame :: rest) :
    s.CanReach fun s' => s'.Connected x y ∧
      (s' x).load y + (s' y).load x < (s x).load y + (s y).load x := by
  refine (h.live.reach (NetGates.can_receive_frame h.live.reachable h.idle.1 h.inbox.1
    hframes)).mono ?_
  rintro s' ⟨hlive, hcont, hreceived⟩
  have hsame (z : Url) : (s' z).control = (s z).control ∧ (s' z).inbox = (s z).inbox := by
    have hcontrol : ((s.polled x).arrived_frame x y frame rest z).control = (s z).control :=
      (control_arrived_frame ..).trans (polled_control s x z)
    have hinbox : ((s.polled x).arrived_frame x y frame rest z).inbox = (s z).inbox := by
      rw [(arrived_frame_pings (s.polled x) x y frame rest z).inbox, polled_apply]
      rfl
    by_cases hz : z = x
    · subst hz
      have hknown := process_frame_known (by
        rw [link_arrived_frame, link_polled]
        exact Link.conn_of_ponged h.ponged.1) hreceived.handled
      obtain ⟨new, hpings, -⟩ := process_frame_greets hreceived.handled
      exact ⟨hknown.trans hcontrol, hpings.inbox.trans hinbox⟩
    · rw [hreceived.others z hz]
      exact ⟨hcontrol, hinbox⟩
  exact ⟨⟨hlive, ⟨h.live.ponged_of_continuation hcont h.ponged.1,
    h.live.ponged_of_continuation hcont h.ponged.2⟩, ⟨(hsame x).1.trans h.idle.1,
    (hsame y).1.trans h.idle.2⟩, (hsame x).2.trans h.inbox.1, (hsame y).2.trans h.inbox.2⟩,
    hreceived.load_lt hframes h.ponged.1⟩

/-- All frames that are in flight can be handled. -/
theorem Connected.can_drain (h : s.Connected x y) :
    s.CanReach fun s' => s'.Connected x y ∧
      ((s' x).link y).in_flight = [] ∧ ((s' y).link x).in_flight = [] := by
  refine System.can_reach_of_measure (fun s : NetGates => s.Connected x y)
    (fun s => (s x).load y + (s y).load x) ?_ h
  intro s h hleft
  cases hy : ((s y).link x).in_flight with
  | cons frame rest => exact h.can_receive_frame hy
  | nil =>
    cases hx : ((s x).link y).in_flight with
    | nil => exact absurd ⟨hx, hy⟩ hleft
    | cons frame rest =>
      refine (h.symm.can_receive_frame hx).mono ?_
      rintro s' ⟨hs', hlt⟩
      refine ⟨hs'.symm, ?_⟩
      rwa [Nat.add_comm, Nat.add_comm ((s x).load y)]

/-- `url_b` has spawned its sender when the `Pong` for `url_a` is lost. -/
def lost_pong_run : List NetGateStep :=
  [.arrive url_a (.actor_lookup_req ⟨0, url_b, counter⟩), .poll url_a, .receive_once url_a,
    .spawn url_a ⟨4, true⟩, .bind_port_rep url_a 9, .receive_frame url_b url_a,
    .spawn url_b ⟨5, true⟩, .bind_port_rep url_b 10, .lose url_a url_b 1,
    .arrive url_b (.actor_registration counter (.local_actor ⟨6, true⟩)), .poll url_b,
    .receive_once url_b]

instance (g : NetGateActor) : Decidable g.Open :=
  decidable_of_iff (g.control ≠ .stopped ∧ (∀ m ∈ g.inbox, m.ends = false) ∧
      (g.inbox = [] ∨ g.delayed_messages ≠ [] ∨ (g.control = .idle ∧ g.recv_socket ≠ [])))
    ⟨fun h => ⟨h.1, h.2.1, h.2.2⟩, fun h => ⟨h.running, h.messages, h.attended⟩⟩

/-- What has arrived and what has been registered is not forgotten. -/
theorem subset_of_continuation (h : Reachable system s) (h' : Reachable (system.start_in s) s')
    (x : Url) : (s x).arrived ⊆ (s' x).arrived ∧ (s x).registered ⊆ (s' x).registered := by
  refine h'.invariant_of (fun s' => (s x).arrived ⊆ (s' x).arrived ∧
    (s x).registered ⊆ (s' x).registered)
    (fun _ hs' => known_of_reachable (h.trans hs')) (fun s' heq => ?_)
    fun s₁ l s₂ hknown hs₁ _ hnext => ?_
  · cases (heq : s' = s)
    exact ⟨List.Subset.refl _, List.Subset.refl _⟩
  · have hmoves := next_moves hknown.sound hknown.registry l hnext x
    refine ⟨List.Subset.trans hs₁.1 ?_, List.Subset.trans hs₁.2 hmoves.registered⟩
    show (s₁ x).desk.arrived ⊆ (s₂ x).desk.arrived
    rcases hmoves.desk with heq | ⟨l', hl', -⟩
    · rw [heq]
      exact List.Subset.refl _
    · rcases Desk.records_next hl' with ⟨heq, -⟩ | ⟨lookup, -, heq, -⟩ | ⟨k, actor, -, heq, -⟩
      · rw [heq]
        exact List.Subset.refl _
      · rw [heq]
        exact List.subset_append_left _ _
      · rw [heq]
        exact List.Subset.refl _

/-- A net gate that has handled all its messages has answered a lookup, or has a connection to
    the peer that can answer. -/
theorem answered_or_known (h : Reachable system s) (hidle : (s x).control = .idle)
    (hinbox : (s x).inbox = []) {lookup : Lookup} (harrived : lookup ∈ (s x).arrived) :
    (∃ rep ∈ (s x).replies, rep.lookup = lookup) ∨ ((s x).link lookup.url).conn ≠ none := by
  by_cases hconn : ((s x).link lookup.url).conn = none
  · left
    -- no lookup is queued, in hand or waiting
    have hqueued : (s x).desk.queued = [] := by
      show (s x).inbox.filterMap _ = []
      rw [hinbox]
      rfl
    have hwaiting : (s x).desk.waiting lookup.key = [] := by
      show ((s x).link lookup.url).requesters lookup.name = []
      rw [Link.requesters, hconn]
      rfl
    have hmem := (desk_sound h x).mem_answered hqueued (hand_of_idle hidle) hwaiting harrived
    rw [map_fst_answered] at hmem
    exact List.mem_map.mp hmem
  · exact .inr hconn

end NetGates
end ZAF
