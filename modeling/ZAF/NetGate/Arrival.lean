import ZAF.Framework.Continuation
import ZAF.NetGate.Forwarded

/-! # Messages can arrive

    A message may wait in a sender that is not connected yet, in its byte buffer, or in its
    socket. Once the net gate has been told where its peer receives, nothing else is needed:
    the sender connects, gets the `FlushBuffer` that it has sent to itself, or comes to the end
    of a consumption, and the receiver takes one batch after the other. Until then no actor
    has to send anything, and no net gate has to do anything.
-/

namespace ZAF

open LTS

/-! ### A sender can flush -/

namespace SenderRun

variable {connects : List UInt8 → Bool} {s s' : SenderRun}

/-- The sender gets a message of its own, or the consumption that it is in ends. -/
def Flushes : SenderStep → Prop
  | .receive_own => True
  | .end_consumption => True
  | _ => False

variable (connects) in
/-- What a running sender does with its next message to itself. -/
theorem next_receive_own (hconsuming : s.consuming = false)
    (hactivated : s.sender.activated = true) {m : OwnMessage} {ms : List OwnMessage}
    (hms : s.sender.self_messages = m :: ms) :
    s.next connects .receive_own =
      handle connects { s with sender := { s.sender with self_messages := ms } } m.message := by
  unfold SenderRun.next
  rw [hconsuming, hactivated, if_neg (by decide)]
  dsimp only
  rw [hms]

/-- Outside of a consumption, the messages before the `FlushBuffer` can be handled. -/
theorem Sound.can_flush_own (h : s.Sound) (hconsuming : s.consuming = false)
    (hne : s.sender.num_buffered_messages ≠ 0) :
    (sender_system connects).CanReach (fun _ step => Flushes step) s
      fun s' => s'.sender.num_buffered_messages = 0 := by
  obtain ⟨hactivated, hmem⟩ := h.flush_of_buffered hne
  induction hn : s.sender.self_messages generalizing s with
  | nil =>
    rw [hn] at hmem
    cases hmem
  | cons m ms ih =>
    have hnext := next_receive_own connects hconsuming hactivated hn
    cases m with
    | flush_buffer =>
      refine System.can_reach_next .receive_own trivial hnext ?_
      exact Sender.num_buffered_messages_flush_byte_buffer _
    | termination =>
      have horderly := h.orderly hactivated
      -- an idle sender would get the `FlushBuffer` first
      have hforward : s.sender.forward_any_message = true := by
        refine Bool.eq_true_of_not_eq_false fun hidle => ?_
        have hhead := horderly.flush_of_idle hidle hne
        rw [hn] at hhead
        cases hhead
      have hrun : (handle connects { s with sender := { s.sender with self_messages := ms } }
          .termination) = some { s with
            sender := ({ s.sender with self_messages := ms } : Sender).termination
            told := true } := rfl
      rw [hn] at hmem
      refine (System.can_step .receive_own trivial (hnext.trans hrun)).bind ?_
      rintro s' rfl
      have hfits : CountFits s .receive_own := trivial
      have hsound := h.next hfits (hnext.trans hrun)
      have hterm : ({ s.sender with self_messages := ms } : Sender).termination = { s.sender with
          self_messages := ms
          forward_any_message := !s.sender.pending_messages.isEmpty
          delayed_messages := s.sender.delayed_messages + 1 } := if_pos hforward
      rw [hterm] at hsound ⊢
      exact ih hsound hconsuming hne hactivated
        ((List.mem_cons.mp hmem).resolve_left (fun heq => by cases heq)) rfl

/-- **What is buffered can be flushed.** -/
theorem Sound.can_flush (h : s.Sound) :
    (sender_system connects).CanReach (fun _ step => Flushes step) s
      fun s' => s'.sender.num_buffered_messages = 0 := by
  by_cases hzero : s.sender.num_buffered_messages = 0
  · exact System.can_reach_here hzero
  cases hconsuming : s.consuming with
  | false => exact h.can_flush_own hconsuming hzero
  | true =>
    have hnext : s.next connects .end_consumption =
        some { s with sender := s.sender.post_swsr_consumption, consuming := false } :=
      if_pos hconsuming
    exact System.can_reach_next .end_consumption trivial hnext
      (Sender.num_buffered_messages_flush_byte_buffer _)

/-- The sender has never been connected, and has written nothing. -/
structure Unused (s : SenderRun) : Prop where
  connected_url : s.sender.connected_url = []
  count : s.sender.num_buffered_messages = 0
  sent : s.sender.net_send_socket = []

theorem Unused.flush_byte_buffer (h : s.Unused) (s' : SenderRun)
    (heq : s'.sender = s.sender.flush_byte_buffer) : s'.Unused := by
  have hflush : s.sender.flush_byte_buffer = s.sender := if_neg (not_not.mpr h.count)
  rw [hflush] at heq
  exact ⟨heq ▸ h.connected_url, heq ▸ h.count, heq ▸ h.sent⟩

theorem Unused.handle (h : s.Unused) {m : SenderMessage}
    (hm : ∀ host port, m ≠ .data_conn_req host port) (hnext : s.handle connects m = some s') :
    s'.Unused := by
  obtain ⟨sender, hsender, rfl⟩ := Option.map_eq_some_iff.mp hnext
  cases m with
  | data_conn_req host port => exact absurd rfl (hm host port)
  | termination =>
    cases hsender
    obtain ⟨hsent, hurl⟩ := Sender.termination_frame s.sender
    have hcount : s.sender.termination.num_buffered_messages = s.sender.num_buffered_messages := by
      unfold Sender.termination
      split <;> rfl
    exact ⟨hurl.trans h.connected_url, hcount.trans h.count, hsent.trans h.sent⟩
  | flush_buffer =>
    cases hsender
    exact h.flush_byte_buffer _ rfl
  | forward_message bytes =>
    cases hsender
    dsimp only
    rw [Sender.forward_message_pending bytes h.connected_url]
    exact ⟨h.connected_url, h.count, h.sent⟩

/-- Only a `DataConnReq` changes this. -/
theorem Unused.next (h : s.Unused) {step : SenderStep}
    (hstep : ∀ host port, step ≠ .receive (.data_conn_req host port))
    (hnext : s.next connects step = some s') : s'.Unused := by
  cases stepped_of_next hnext with
  | receive m s' hrunning hforeign htold hhandle =>
    exact h.handle (fun host port heq => hstep host port (congrArg _ heq)) hhandle
  | receive_own m ms s' hconsuming hactivated hms hhandle =>
    have hown : Unused { s with sender := { s.sender with self_messages := ms } } :=
      ⟨h.connected_url, h.count, h.sent⟩
    exact hown.handle (fun _ _ heq => by cases m <;> cases heq) hhandle
  | flush_delayed n hactivated hdelayed => exact ⟨h.connected_url, h.count, h.sent⟩
  | start_consumption hactivated => exact ⟨h.connected_url, h.count, h.sent⟩
  | end_consumption hconsuming => exact h.flush_byte_buffer _ rfl

/-- A sender that has stopped without a connection has not been asked to forward anything. -/
theorem Unused.forwarded_of_stopped (h : s.Unused) (hsound : s.Sound)
    (hstopped : s.sender.activated = false) : s.forwarded = [] := by
  obtain ⟨batches, buffered, hkeeps⟩ := hsound.keeps
  have hbatches : batches = [] := by
    have hsent := hkeeps.sent
    rw [h.sent, eq_comm] at hsent
    exact List.map_eq_nil_iff.mp hsent
  have hbuffered : buffered = [] := by
    apply List.eq_nil_of_length_eq_zero
    rw [← hkeeps.count, h.count]
    rfl
  rw [hkeeps.forwarded_eq, hbatches, hbuffered, (hsound.stopped hstopped).1]
  rfl

/-- A sender that has not stopped gets its `DataConnReq`. -/
theorem can_connect {host : Host} {port : UInt16} (hconnects : connects (tcp_url host port) = true)
    (hrunning : ¬ (s.consuming = false ∧ s.sender.activated = false)) :
    ∃ s', s.next connects (.receive (.data_conn_req host port)) = some s' := by
  obtain ⟨sender, hsender⟩ : ∃ sender, s.sender.data_conn_req connects host port = some sender :=
    ⟨_, if_pos hconnects⟩
  have hhandle : s.handle connects (.data_conn_req host port) = some { s with sender } := by
    show Option.map _ (s.sender.data_conn_req connects host port) = _
    rw [hsender]
    rfl
  exact ⟨_, (if_neg hrunning).trans hhandle⟩

end SenderRun

/-! ### The cluster goes on -/

namespace Cluster

open NetGates NetGateActor

variable {codecs : Codecs} {β β' : Type} {bodies : BodyCodec β β'} {connects : List UInt8 → Bool}

/-- The steps of the sender of `x` for `y`, and of the receiver at the other end. -/
def Between (x y : Url) : ClusterStep codecs β → Prop
  | .data_conn_req a b => a = x ∧ b = y
  | .sender a b step => a = x ∧ b = y ∧ SenderRun.Flushes step
  | .receive a b a' b' => a = y ∧ b = x ∧ a' = x ∧ b' = y
  | _ => False

variable (bodies connects) in
/-- By such steps, in which the counts fit, the cluster comes to the goal. -/
def CanGoOn (c : Cluster codecs β) (x y : Url) (goal : Cluster codecs β → Prop) : Prop :=
  (system bodies connects).CanReach (fun c l => Between x y l ∧ c.Fits bodies l) c goal

variable {c c' : Cluster codecs β} {x y : Url} {q q' : NetSender codecs β}

theorem CanGoOn.reach {goal : Cluster codecs β → Prop}
    (h : ReachableVia (system bodies connects) (Fits bodies) c)
    (hgoal : c.CanGoOn bodies connects x y goal) : c.CanGoOn bodies connects x y fun c' =>
      ReachableVia (system bodies connects) (Fits bodies) c' ∧ goal c' := by
  obtain ⟨c', hc', hgoal⟩ := hgoal
  exact ⟨c', hc', h.trans (hc'.mono fun _ _ hl => hl.2), hgoal⟩

theorem set_sender_self (hq : c.senders x y = some q) : c.set_sender x y q = c := by
  have hsame : Function.update c.senders x (Function.update (c.senders x) y (some q)) =
      c.senders := by
    rw [← hq, Function.update_eq_self, Function.update_eq_self]
  rw [set_sender, hsame]

theorem set_sender_set_sender (c : Cluster codecs β) (x y : Url) (q q' : NetSender codecs β) :
    (c.set_sender x y q).set_sender x y q' = c.set_sender x y q' := by
  unfold set_sender
  dsimp only
  rw [Function.update_idem, Function.update_self, Function.update_idem]

theorem senders_set_sender_self (c : Cluster codecs β) (x y : Url) (q : NetSender codecs β) :
    (c.set_sender x y q).senders x y = some q := by
  rw [senders_set_sender, if_pos ⟨rfl, rfl⟩]

/-- What a sender can do by itself, it can do in the cluster. -/
theorem can_run (hq : c.senders x y = some q) {goal : SenderRun → Prop}
    (h : (sender_system connects).CanReach (fun _ step => SenderRun.Flushes step) q.run goal) :
    c.CanGoOn bodies connects x y fun c' =>
      ∃ run, goal run ∧ c' = c.set_sender x y { q with run } := by
  obtain ⟨run, hrun, hgoal⟩ := h
  refine ⟨c.set_sender x y { q with run }, ?_, run, hgoal, rfl⟩
  clear hgoal
  induction hrun with
  | @init run heq =>
    cases (heq : run = q.run)
    exact .init (set_sender_self hq)
  | @step run run' step _ hflushes hnext ih =>
    have hown : own_step step = true ∧ Fits bodies (c.set_sender x y { q with run })
        (.sender x y step : ClusterStep codecs β) := by
      cases step with
      | receive m => cases hflushes
      | _ => exact ⟨rfl, trivial⟩
    have hstep : (c.set_sender x y { q with run }).next bodies connects (.sender x y step) =
        some (c.set_sender x y { q with run := run' }) := by
      have hrun : run.next connects step = some run' := hnext
      simp only [Cluster.next, senders_set_sender_self, Option.bind_eq_bind, Option.bind_some]
      rw [if_pos hown.1, hrun]
      exact congrArg some (set_sender_set_sender ..)
    exact .step (.sender x y step) ih ⟨⟨rfl, rfl, hflushes⟩, hown.2⟩ hstep

/-- A sender that is not connected has written nothing. -/
def Fresh (c : Cluster codecs β) : Prop :=
  ∀ x y q, c.senders x y = some q → q.connections = [] → q.run.Unused

theorem Fresh.set_sender (h : c.Fresh) (hq : q.connections = [] → q.run.Unused) :
    (c.set_sender x y q).Fresh := by
  intro a b q₁ hq₁ hnil
  rw [senders_set_sender] at hq₁
  split at hq₁
  · cases hq₁
    exact hq hnil
  · exact h a b q₁ hq₁ hnil

theorem fresh_of_reachable {guard : Cluster codecs β → ClusterStep codecs β → Prop}
    (h : ReachableVia (system bodies connects) guard c) : c.Fresh := by
  refine h.invariant Fresh (fun c hinit x y q hq => ?_) fun c l c' hfresh _ hnext => ?_
  · cases (hinit.2.1 x y).symm.trans hq
  · cases stepped_of_next hnext with
    | gate l gates hplain hgates => exact hfresh
    | bind_port_rep x url k r gates hcontrol hr hgates => exact hfresh
    | spawn x url k sender port gates hcontrol hid hport hgates =>
      exact hfresh.set_sender (x := x) (y := url) fun _ => ⟨rfl, rfl, rfl⟩
    | forward x y r m q info run hq hinfo hsender hrecv hrun =>
      exact hfresh.set_sender fun hnil =>
        (hfresh x y q hq hnil).next (fun _ _ heq => by cases heq) hrun
    | data_conn_req x y q host port run hq hget hrun =>
      exact hfresh.set_sender fun hnil =>
        absurd hnil (List.append_ne_nil_of_right_ne_nil _ (List.cons_ne_nil _ _))
    | sender x y step q run hq hown hrun =>
      refine hfresh.set_sender fun hnil => (hfresh x y q hq hnil).next (fun _ _ heq => ?_) hrun
      subst heq
      cases hown
    | terminate x y r hr hactivated hidle => exact hfresh
    | receive x y a b r q frames ds rest hr hq hactivated hmem hframes hread =>
      exact hfresh.set_sender (q := { q with taken := q.taken + 1 }) fun hnil =>
        hfresh a b q hq hnil

variable (bodies) in
/-- The receiver of `y` for `x` has delivered these messages, and no others. -/
def Delivered (c : Cluster codecs β) (x y : Url) (ms : List (RemoteSend codecs β)) : Prop :=
  ∃ r, c.receivers y x = some r ∧
    r.delivered = ms.map (RemoteSend.delivery bodies r.net_sender_info)

variable (bodies connects) in
/-- The sender of `x` for `y` is connected and has accepted these messages, and the receiver
    has not ended. -/
structure Online (c : Cluster codecs β) (x y : Url) (ms : List (RemoteSend codecs β)) : Prop where
  reachable : ReachableVia (system bodies connects) (Fits bodies) c
  sender : ∃ q, c.senders x y = some q ∧ q.accepted = ms ∧ q.connections ≠ []
  receiver : ∀ r, c.receivers y x = some r → r.activated = true

/-- Nothing is in the byte buffer. -/
def Flushed (c : Cluster codecs β) (x y : Url) : Prop :=
  ∀ q, c.senders x y = some q → q.run.sender.num_buffered_messages = 0

/-- How many batches wait for the receiver. -/
def untaken (c : Cluster codecs β) (x y : Url) : Nat :=
  (c.senders x y).elim 0 fun q => q.run.sender.net_send_socket.length - q.taken

variable {ms : List (RemoteSend codecs β)}

theorem Online.can_flush (h : c.Online bodies connects x y ms) :
    c.CanGoOn bodies connects x y fun c' =>
      c'.Online bodies connects x y ms ∧ c'.Flushed x y := by
  obtain ⟨q, hq, haccepted, hconnections⟩ := h.sender
  have hflows := (flowing_of_reachable h.reachable).senders x y q hq
  refine ((can_run hq hflows.sound.can_flush).reach h.reachable).mono ?_
  rintro c' ⟨hc', run, hcount, rfl⟩
  refine ⟨⟨hc', ⟨_, senders_set_sender_self .., haccepted, hconnections⟩, h.receiver⟩, ?_⟩
  intro q' hq'
  rw [senders_set_sender_self] at hq'
  cases hq'
  exact hcount

/-- The receiver takes the next batch. -/
theorem Online.can_take (h : c.Online bodies connects x y ms) (hflushed : c.Flushed x y)
    (hleft : c.untaken x y ≠ 0) : c.CanGoOn bodies connects x y fun c' =>
      (c'.Online bodies connects x y ms ∧ c'.Flushed x y) ∧ c'.untaken x y < c.untaken x y := by
  obtain ⟨q, hq, haccepted, hconnections⟩ := h.sender
  have hlinked := linked_of_reachable h.reachable
  have hflows := (flowing_of_reachable h.reachable).senders x y q hq
  have huntaken : c.untaken x y = q.run.sender.net_send_socket.length - q.taken := by
    rw [untaken, hq]
    rfl
  obtain ⟨r, hr, hendpoint⟩ := (hlinked.connection hq).resolve_left hconnections
  have hlt : q.taken < q.run.sender.net_send_socket.length := by omega
  have hframes := List.getElem?_eq_getElem hlt
  obtain ⟨ds, hread, -⟩ := hflows.read_next hframes r.net_sender_info
  have hnext : c.next bodies connects (.receive y x x y) =
      some ((c.set_sender x y { q with taken := q.taken + 1 }).set_receiver y x
        { r with delivered := r.delivered ++ ds }) := by
    simp only [Cluster.next, hr, hq, Option.bind_eq_bind, Option.bind_some]
    rw [if_pos ⟨h.receiver r hr, by rw [hendpoint]; exact List.mem_singleton_self _⟩, hframes,
      Option.bind_some, hread]
    rfl
  have hgo : c.CanGoOn bodies connects x y _ :=
    System.can_step (.receive y x x y) ⟨⟨rfl, rfl, rfl, rfl⟩, trivial⟩ hnext
  refine (hgo.reach h.reachable).mono ?_
  rintro c' ⟨hc', rfl⟩
  have hsender : ((c.set_sender x y { q with taken := q.taken + 1 }).set_receiver y x
      { r with delivered := r.delivered ++ ds }).senders x y =
        some { q with taken := q.taken + 1 } := senders_set_sender_self ..
  refine ⟨⟨⟨hc', ⟨_, hsender, haccepted, hconnections⟩, fun r' hr' => ?_⟩, ?_⟩, ?_⟩
  · rw [receivers_set_receiver, if_pos ⟨rfl, rfl⟩] at hr'
    cases hr'
    exact h.receiver r hr
  · intro q' hq'
    cases hsender.symm.trans hq'
    exact hflushed q hq
  · rw [huntaken, untaken, hsender]
    show q.run.sender.net_send_socket.length - (q.taken + 1) < _
    omega

/-- A connected sender can get rid of all that it has accepted. -/
theorem Online.can_deliver (h : c.Online bodies connects x y ms) :
    c.CanGoOn bodies connects x y fun c' => c'.Delivered bodies x y ms := by
  refine h.can_flush.bind ?_
  intro c₁ hc₁
  have htake : c₁.CanGoOn bodies connects x y fun c' =>
      (c'.Online bodies connects x y ms ∧ c'.Flushed x y) ∧ c'.untaken x y = 0 :=
    System.can_reach_of_measure _ (·.untaken x y)
      (fun c' hc' hleft => hc'.1.can_take hc'.2 hleft) hc₁
  refine htake.mono ?_
  rintro c₂ ⟨⟨honline, hflushed⟩, hzero⟩
  obtain ⟨q, hq, rfl, hconnections⟩ := honline.sender
  have hflowing := flowing_of_reachable honline.reachable
  have hflows := hflowing.senders x y q hq
  have htaken : q.taken = q.run.sender.net_send_socket.length := by
    have hle := hflows.taken_le
    rw [untaken, hq] at hzero
    exact Nat.le_antisymm hle (Nat.le_of_sub_eq_zero hzero)
  obtain ⟨r, hr, -⟩ := ((linked_of_reachable honline.reachable).connection hq).resolve_left
    hconnections
  refine ⟨r, hr, ?_⟩
  rw [hflowing.delivered x y q r hq hr, NetSender.read,
    hflows.take_announced_all hconnections (hflushed q hq) htaken]

/-- The sender connects to where it has been told. -/
theorem can_go_online (h : ReachableVia (system bodies connects) (Fits bodies) c)
    (hq : c.senders x y = some q) (hnil : q.connections = [])
    (hrunning : ¬ (q.run.consuming = false ∧ q.run.sender.activated = false))
    {host : Host} {port : UInt16} {rest : List Endpoint}
    (htold : ((c.gates x).link y).endpoints = (host, port) :: rest)
    (hconnects : connects (tcp_url host port) = true)
    (hfits : c.Fits bodies (.data_conn_req x y))
    (hreceiver : ∀ r, c.receivers y x = some r → r.activated = true) :
    c.CanGoOn bodies connects x y fun c' => c'.Online bodies connects x y q.accepted := by
  obtain ⟨run, hrun⟩ := SenderRun.can_connect hconnects hrunning
  have hnext : c.next bodies connects (.data_conn_req x y) =
      some (c.set_sender x y { q with run, connections := q.connections ++ [(host, port)] }) := by
    simp only [Cluster.next, hq, hnil, htold, Option.bind_eq_bind, Option.bind_some,
      List.length_nil, List.getElem?_cons_zero]
    rw [hrun]
    rfl
  have hgo : c.CanGoOn bodies connects x y _ :=
    System.can_step (.data_conn_req x y) ⟨⟨rfl, rfl⟩, hfits⟩ hnext
  refine (hgo.reach h).mono ?_
  rintro c' ⟨hc', rfl⟩
  exact ⟨hc', ⟨_, senders_set_sender_self .., rfl,
    List.append_ne_nil_of_right_ne_nil _ (List.cons_ne_nil _ _)⟩, hreceiver⟩

/-- **Messages can arrive**: wherever the messages from `x` to `y` are, once `x` has been told
    where `y` receives, and as long as the receiver has not ended, the sender and the receiver
    can go on by themselves until all of them have been delivered. -/
theorem can_be_delivered (h : ReachableVia (system bodies connects) (Fits bodies) c)
    (hq : c.senders x y = some q) (htold : ((c.gates x).link y).endpoints ≠ [])
    (hconnects : ∀ e ∈ ((c.gates x).link y).endpoints, connects (tcp_url e.1 e.2) = true)
    (hfits : c.Fits bodies (.data_conn_req x y))
    (hreceiver : ∀ r, c.receivers y x = some r → r.activated = true) :
    c.CanGoOn bodies connects x y fun c' => c'.Delivered bodies x y q.accepted := by
  have hlinked := linked_of_reachable h
  have hflowing := flowing_of_reachable h
  have hflows := hflowing.senders x y q hq
  by_cases hnil : q.connections = []
  · by_cases hstopped : q.run.consuming = false ∧ q.run.sender.activated = false
    · -- it has stopped before it was connected, so nothing has been accepted
      have hforwarded :=
        (fresh_of_reachable h x y q hq hnil).forwarded_of_stopped hflows.sound hstopped.2
      rw [hflows.forwarded, List.map_eq_nil_iff] at hforwarded
      obtain ⟨port, hport, -⟩ := (hlinked.wired.endpoints hlinked.gates x y).resolve_left htold
      obtain ⟨r, hr, -⟩ := Option.map_eq_some_iff.mp hport
      refine System.can_reach_here ⟨r, hr, ?_⟩
      rw [hflowing.delivered x y q r hq hr, NetSender.read, hforwarded, List.take_nil]
    · obtain ⟨⟨host, port⟩, rest, hendpoints⟩ := List.exists_cons_of_ne_nil htold
      refine (can_go_online h hq hnil hstopped hendpoints ?_ hfits hreceiver).bind
        fun c' hc' => hc'.can_deliver
      exact hconnects _ (hendpoints ▸ List.mem_cons_self)
  · exact Online.can_deliver ⟨h, ⟨q, hq, rfl, hnil⟩, hreceiver⟩

/-- The sender of `url_a` has a message, and its `DataConnReq` is on its way. -/
def waiting_run : List (ClusterStep plain_codecs (NestedBody plain_codecs 0)) :=
  question_run.take 19

theorem can_be_delivered_waiting_run :
    ∃ (c : Cluster plain_codecs (NestedBody plain_codecs 0))
      (q : NetSender plain_codecs (NestedBody plain_codecs 0)),
      q.connections = [] ∧ q.accepted.length = 1 ∧
        c.CanGoOn (nested_codec plain_codecs 0) (fun _ => true) url_a url_b fun c' =>
          c'.Delivered (nested_codec plain_codecs 0) url_a url_b q.accepted := by
  obtain ⟨c, hc, hobs⟩ := System.reachable_of_exec
    (system (nested_codec plain_codecs 0) fun _ => true) (Fits (nested_codec plain_codecs 0))
    waiting_run
    (fun c => (((c.gates url_a).link url_b).endpoints.length,
      decide (c.Fits (nested_codec plain_codecs 0) (.data_conn_req url_a url_b)),
      (c.senders url_a url_b).map fun q => (q.connections.length, q.accepted.length),
      decide (((c.receivers url_b url_a).all fun r => r.activated) = true)))
    (s := ⟨NetGateActor.bound localhost, fun _ _ => none, fun _ _ => none, [], []⟩)
    (b := (1, true, some (0, 1), true))
    ⟨fun _ => ⟨localhost, rfl⟩, fun _ _ => rfl, fun _ _ => rfl, rfl, rfl⟩ (by decide +kernel)
  obtain ⟨hendpoints, hrest⟩ := Prod.mk.inj hobs
  obtain ⟨hfits, hrest⟩ := Prod.mk.inj hrest
  obtain ⟨hsome, hreceivers⟩ := Prod.mk.inj hrest
  obtain ⟨q, hq, hlengths⟩ := Option.map_eq_some_iff.mp hsome
  obtain ⟨hconnections, haccepted⟩ := Prod.mk.inj hlengths
  exact ⟨c, q, List.length_eq_zero_iff.mp hconnections, haccepted,
    can_be_delivered hc hq (List.ne_nil_of_length_eq_add_one hendpoints) (fun _ _ => rfl)
      (of_decide_eq_true hfits) fun r hr => by
        rw [hr] at hreceivers
        exact of_decide_eq_true hreceivers⟩

end Cluster
end ZAF
