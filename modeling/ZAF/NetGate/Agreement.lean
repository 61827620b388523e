import ZAF.NetGate.Handshake

/-! # Both ends of a connection

    A net gate does not check what the other end knows: it looks up the connection to the
    peer of a frame, and the name in an answer, as if they must be there. That they are
    there is a property of both ends together. Every frame has been sent for a reason, and
    the reason is at its destination.

    For each peer and name, a lookup that waits has one token on its way: the request, the
    entry of the peer among the `requesters`, or the answer.
-/

namespace ZAF

namespace NetGates

open NetGateActor LTS

/-! ### What holds between two net gates -/

/-- What holds between `x` and `y`. -/
structure Agree (s : NetGates) (x y : Url) : Prop where
  /-- A `Pong` comes only after a `Ping`. -/
  pong : .pong ∈ ((s y).link x).in_flight → ((s x).link y).conn ≠ none
  pongs : (s y).Pongs x → ((s x).link y).conn ≠ none
  ponged : ((s x).link y).ponged = true → ((s y).link x).conn ≠ none

/-- The tokens of the lookups of `x` at `y`. -/
def tokens (s : NetGates) (x y : Url) (name : Name) : Nat :=
  ((s x).link y).asks name + ((s y).parks x name + ((s y).link x).reps name)

structure Sound (s : NetGates) : Prop where
  gates : ∀ x, (s x).Sound
  agree : ∀ x y, s.Agree x y
  tokens : ∀ x y name, s.tokens x y name = (((s x).link y).waits name).toNat

/-- The token in the frame that `x` handles. -/
def token_in_hand (x : Url) (hand : Option (Url × NetFrame)) (a b : Url) (name : Name) : Nat :=
  (if b = x ∧ frame_from hand a = some (.data (.remote_actor_lookup_req name)) then 1 else 0) +
    if a = x ∧ (frame_from hand b).any (·.is_rep name) = true then 1 else 0

/-- The state while `x` handles a frame, which is in flight no more. -/
structure SoundWith (s : NetGates) (x : Url) (hand : Option (Url × NetFrame)) : Prop where
  gates : ∀ a, (s a).Sound
  agree : ∀ a b, s.Agree a b
  tokens : ∀ a b name, s.tokens a b name + token_in_hand x hand a b name =
    (((s a).link b).waits name).toNat
  known : ∀ z, frame_from hand z ≠ none → ((s z).link x).conn ≠ none

variable {s : NetGates} {x y : Url} {g' : NetGateActor} {hand : Option (Url × NetFrame)}

theorem token_in_hand_some (x peer : Url) (frame : NetFrame) (a b : Url) (name : Name) :
    token_in_hand x (some (peer, frame)) a b name =
      (if a = peer ∧ b = x ∧ frame = .data (.remote_actor_lookup_req name) then 1 else 0) +
        if b = peer ∧ a = x then (frame.is_rep name).toNat else 0 := by
  unfold token_in_hand
  congr 1
  · by_cases ha : a = peer
    · rw [ha, frame_from_self]
      simp only [Option.some.injEq, true_and]
    · rw [frame_from_of_ne ha, if_neg fun h => (nomatch h.2), if_neg fun h => ha h.1]
  · by_cases hb : b = peer
    · rw [hb, frame_from_self]
      by_cases hx : a = x
      · cases hrep : frame.is_rep name <;> simp [hx, hrep]
      · simp [hx]
    · rw [frame_from_of_ne hb, if_neg fun h => (nomatch h.2), if_neg fun h => hb h.1]

theorem Sound.with_none (h : s.Sound) (x : Url) : s.SoundWith x none := by
  refine ⟨h.gates, h.agree, fun a b name => ?_, fun _ hz => absurd rfl hz⟩
  rw [← h.tokens a b name]
  simp [token_in_hand, frame_from]

@[simp] theorem set_self (s : NetGates) (x : Url) (g : NetGateActor) : s.set x g x = g :=
  Function.update_self ..

theorem set_of_ne (s : NetGates) {x z : Url} (h : z ≠ x) (g : NetGateActor) : s.set x g z = s z :=
  Function.update_of_ne h ..

/-- A property of all net gates, when one of them has made a step. -/
theorem forall_set {x : Url} {g : NetGateActor} {p : Url → NetGateActor → Prop} (hx : p x g)
    (hother : ∀ a, p a (s a)) (a : Url) : p a (s.set x g a) := by
  by_cases ha : a = x
  · subst ha
    rwa [set_self]
  · rw [set_of_ne s ha]
    exact hother a

/-- The handler of `x` is done. -/
theorem SoundWith.handled (h : s.SoundWith x hand) (hsound : g'.Sound)
    (heffect : (s x).Effect g' hand) : (s.set x g').Sound := by
  have hconn (a b : Url) (hab : ((s a).link b).conn ≠ none) :
      ((s.set x g' a).link b).conn ≠ none := by
    by_cases ha : a = x
    · subst ha
      rw [set_self]
      obtain ⟨answered, hturns, -⟩ := heffect.links b
      exact hturns.conn hab
    · rwa [set_of_ne s ha]
  have hping (z : Url) (hz : frame_from hand z = some .ping) : ((s z).link x).conn ≠ none :=
    h.known z (by rw [hz]; exact nofun)
  refine ⟨fun a => ?_, fun a b => ⟨fun hmem => ?_, fun hpongs => ?_, fun hponged => ?_⟩,
    fun a b name => ?_⟩
  · by_cases ha : a = x
    · rwa [ha, set_self]
    · rw [set_of_ne s ha]
      exact h.gates a
  -- a `Pong` is sent by the handler of a `Ping`, at once or when the sender is there
  · apply hconn
    by_cases hb : b = x
    · subst hb
      rw [set_self] at hmem
      obtain ⟨answered, hturns, -⟩ := heffect.links a
      rcases hturns.pong hmem with hmem | hpongs | hframe
      · exact (h.agree a b).pong hmem
      · exact (h.agree a b).pongs hpongs
      · exact hping a hframe
    · rw [set_of_ne s hb] at hmem
      exact (h.agree a b).pong hmem
  · apply hconn
    by_cases hb : b = x
    · subst hb
      rw [set_self] at hpongs
      exact (heffect.pongs a hpongs).elim (h.agree a b).pongs (hping a)
    · rw [set_of_ne s hb] at hpongs
      exact (h.agree a b).pongs hpongs
  -- a connection becomes ponged by the `Pong` of a peer that knows it
  · apply hconn
    by_cases ha : a = x
    · subst ha
      rw [set_self] at hponged
      obtain ⟨answered, hturns, -⟩ := heffect.links b
      rcases hturns.ponged hponged with hponged | hframe
      · exact (h.agree a b).ponged hponged
      · exact h.known b (by rw [hframe]; exact nofun)
    · rw [set_of_ne s ha] at hponged
      exact (h.agree a b).ponged hponged
  -- the three places of a token, before and after the handler
  · have hasks : ((s.set x g' a).link b).asks name + (((s a).link b).waits name).toNat =
        ((s a).link b).asks name + (((s.set x g' a).link b).waits name).toNat +
          if a = x ∧ (frame_from hand b).any (·.is_rep name) = true then 1 else 0 := by
      by_cases ha : a = x
      · subst ha
        obtain ⟨answered, hturns, -⟩ := heffect.links b
        have hturn := hturns.asks name
        rw [set_self, hturn]
        cases (frame_from hand b).any (·.is_rep name) <;> simp
      · rw [set_of_ne s ha, if_neg fun hand => ha hand.1, Nat.add_zero]
    have hreps : (s.set x g' b).parks a name + ((s.set x g' b).link a).reps name =
        (s b).parks a name + ((s b).link a).reps name +
          if b = x ∧ frame_from hand a = some (.data (.remote_actor_lookup_req name)) then 1
          else 0 := by
      by_cases hb : b = x
      · subst hb
        obtain ⟨answered, hturns, hparks⟩ := heffect.links a
        have hturn := hturns.reps name
        have hpark := hparks name
        simp only [true_and, set_self]
        omega
      · rw [set_of_ne s hb, if_neg fun hand => hb hand.1, Nat.add_zero]
    have htokens := h.tokens a b name
    unfold NetGates.tokens token_in_hand at *
    omega

/-! ### Steps -/

/-- For the others, and but for `revents`, nothing has changed. -/
theorem polled_apply (s : NetGates) (x z : Url) :
    s.polled x z = { s z with revents := (s.polled x z).revents } := by
  unfold polled
  by_cases hz : z = x
  · subst hz
    rw [set_self]
    rfl
  · rw [set_of_ne s hz]

theorem polled_control (s : NetGates) (x z : Url) : (s.polled x z).control = (s z).control := by
  rw [polled_apply]

theorem polled_net_send_socket (s : NetGates) (x z : Url) :
    (s.polled x z).net_send_socket = (s z).net_send_socket := by
  rw [polled_apply]

/-- What a step can do. -/
inductive Stepped (s : NetGates) : NetGates → Prop where
  | arrive (x : Url) (m : GateMessage) (hm : ∀ url, m ≠ .ping_retry url) :
      Stepped s (s.set x ((s x).arrive m))
  | poll (x : Url) : Stepped s (s.polled x)
  | receive_once (x : Url) (m : GateMessage) (g : NetGateActor) (hcontrol : (s x).control = .idle)
      (htake : (s x).take_message = some (m, g)) : Stepped s (s.set x (g.checked (g.process m)))
  | receive_frame (x y : Url) (frame : NetFrame) (rest : List NetFrame)
      (hcontrol : (s.polled x x).control = .idle)
      (hframes : (s.polled x y).net_send_socket x = frame :: rest) :
      Stepped s (((s.polled x).arrived_frame x y frame rest).set x
        (((s.polled x).arrived_frame x y frame rest x).checked
          (((s.polled x).arrived_frame x y frame rest x).process_frame y frame)))
  | lose (x y : Url) (i : Nat) (frame : NetFrame)
      (hframe : ((s y).net_send_socket x)[i]? = some frame) (hdata : frame.data? = none) :
      Stepped s (s.set y ((s y).set_frames x (((s y).net_send_socket x).eraseIdx i)))
  | spawn (x url : Url) (k : Continuation) (sender : LocalActorHandle)
      (hcontrol : (s x).control = .spawning url k) :
      Stepped s (s.set x ((s x).checked ((s x).spawn url k sender)))
  | bind_port_rep (x url : Url) (k : Continuation) (port : UInt16)
      (hcontrol : (s x).control = .waiting url k) :
      Stepped s (s.set x ((s x).checked ((s x).bind_port_rep url k port)))
  | defer (x : Url) (g : NetGateActor) (hdefer : (s x).defer_message = some g) :
      Stepped s (s.set x g)
  | flush (x : Url) (g : NetGateActor) (hflush : (s x).flush = some g) : Stepped s (s.set x g)

theorem stepped_of_next {s' : NetGates} {l : NetGateStep} (hnext : s.next l = some s') :
    s.Stepped s' := by
  cases l with
  | arrive x m =>
    simp only [NetGates.next] at hnext
    split at hnext
    · cases hnext
    · next hm =>
      cases hnext
      exact .arrive x m hm
  | poll x =>
    simp only [NetGates.next] at hnext
    split at hnext <;> cases hnext
    exact .poll x
  | receive_once x =>
    simp only [NetGates.next] at hnext
    split at hnext
    · next hready =>
      obtain ⟨⟨m, g⟩, htake, rfl⟩ := Option.map_eq_some_iff.mp hnext
      exact .receive_once x m g hready.1 htake
    · cases hnext
  | receive_frame x y =>
    simp only [NetGates.next] at hnext
    split at hnext
    -- the first frame in flight, if there is one
    · next hready =>
      split at hnext
      · next frame rest hframes =>
        cases hnext
        refine .receive_frame x y frame rest ?_ ?_
        · rw [polled_control]
          exact hready.1
        · rw [polled_net_send_socket]
          exact hframes
      · cases hnext
    · cases hnext
  | lose x y i =>
    simp only [NetGates.next] at hnext
    split at hnext
    · next hframe =>
      cases hnext
      exact .lose x y i .ping hframe rfl
    · next hframe =>
      cases hnext
      exact .lose x y i .pong hframe rfl
    · cases hnext
  | spawn x sender =>
    simp only [NetGates.next] at hnext
    split at hnext
    · next url k hcontrol =>
      cases hnext
      exact .spawn x url k sender hcontrol
    · cases hnext
  | bind_port_rep x port =>
    simp only [NetGates.next] at hnext
    split at hnext
    · next url k hcontrol =>
      cases hnext
      exact .bind_port_rep x url k port hcontrol
    · cases hnext
  | defer x =>
    simp only [NetGates.next] at hnext
    split at hnext
    · obtain ⟨g, hdefer, rfl⟩ := Option.map_eq_some_iff.mp hnext
      exact .defer x g hdefer
    · cases hnext
  | flush x =>
    obtain ⟨g, hflush, rfl⟩ := Option.map_eq_some_iff.mp hnext
    exact .flush x g hflush

/-- The step of a net gate whose handler does not fail. -/
theorem SoundWith.checked (h : s.SoundWith x hand) {result : Option NetGateActor}
    (hhandles : (s x).Handles hand result) (g : NetGateActor) :
    (s.set x (g.checked result)).Sound := by
  obtain ⟨g', rfl, hsound, heffect⟩ := hhandles
  exact h.handled hsound heffect

/-- A step that others do not see. -/
theorem Sound.congr (h : s.Sound) (hlink : g'.link = (s x).link)
    (hcontrol : g'.control = (s x).control)
    (hregs : g'.local_registered_actors = (s x).local_registered_actors)
    (hretries : ∀ z, g'.Retries z → (s x).Retries z) : (s.set x g').Sound :=
  (h.with_none x).handled ((h.gates x).congr hlink hcontrol hregs hretries)
    (effect_of_eq hlink hregs fun _ => pongs_of_control hcontrol)

theorem Sound.arrive (h : s.Sound) (x : Url) {m : GateMessage} (hm : ∀ url, m ≠ .ping_retry url) :
    (s.set x ((s x).arrive m)).Sound := by
  obtain ⟨m', arrived, heq, hm'⟩ := arrive_eq (s x) hm
  rw [heq]
  refine h.congr rfl rfl rfl fun z hz => hz.imp_left fun hz => ?_
  exact (List.mem_append.mp hz).resolve_right fun hz => hm' z (List.mem_singleton.mp hz).symm

theorem Sound.poll (h : s.Sound) (x : Url) : (s.polled x).Sound :=
  h.congr rfl rfl rfl fun _ => id

theorem Sound.receive_once (h : s.Sound) (hcontrol : (s x).control = .idle) {m : GateMessage}
    {g : NetGateActor} (htake : (s x).take_message = some (m, g)) :
    (s.set x (g.checked (g.process m))).Sound := by
  have hspec := take_message_eq htake
  have hg : g.Sound := (h.gates x).congr hspec.link hspec.control hspec.regs hspec.retries
  refine (h.with_none x).checked (Handles.congr hspec.link hspec.control hspec.regs ?_) g
  refine handles_process hg (hspec.control.trans hcontrol) m fun url hm => ?_
  rw [hspec.link]
  exact (h.gates x).retries url (hspec.retry url hm)

theorem Sound.lose (h : s.Sound) {y : Url} {i : Nat} {frame : NetFrame}
    (hframe : ((s y).net_send_socket x)[i]? = some frame) (hdata : frame.data? = none) :
    (s.set y ((s y).set_frames x (((s y).net_send_socket x).eraseIdx i))).Sound := by
  have hsub : (((s y).net_send_socket x).eraseIdx i).Sublist ((s y).link x).in_flight :=
    List.eraseIdx_sublist ..
  refine (h.with_none y).handled ((h.gates y).set_frames hsub) ?_
  have hturns : ((s y).link x).Turns { (s y).link x with
      in_flight := ((s y).net_send_socket x).eraseIdx i } none False fun _ => 0 :=
    Link.turns_of_eq id id rfl (fun hmem => .inl (hsub.subset hmem))
      (Link.on_the_way_lose hframe hdata) rfl
  rw [set_frames_eq]
  exact effect_of_turns rfl rfl (fun _ _ => rfl) (hturns.mono False.elim) (fun _ => rfl)
    fun _ => .inl

theorem Sound.flush (h : s.Sound) {g : NetGateActor} (hflush : (s x).flush = some g) :
    (s.set x g).Sound := by
  unfold NetGateActor.flush at hflush
  split at hflush
  · next url delayed_messages hdelayed =>
    cases hflush
    refine h.congr rfl rfl rfl ?_
    rintro z (hz | hz | hz)
    · rcases List.mem_append.mp hz with hz | hz
      · exact .inl hz
      · cases List.mem_singleton.mp hz
        exact .inr (.inr (hdelayed ▸ List.mem_cons_self))
    · exact .inr (.inl hz)
    · exact .inr (.inr (hdelayed ▸ List.mem_cons_of_mem _ hz))
  · cases hflush

theorem Sound.defer (h : s.Sound) {g : NetGateActor} (hdefer : (s x).defer_message = some g) :
    (s.set x g).Sound := by
  unfold defer_message at hdefer
  split at hdefer
  · next m recv_socket hrecv =>
    cases hdefer
    refine h.congr rfl rfl rfl ?_
    rintro z (hz | hz | hz)
    · exact .inl (hrecv ▸ List.mem_cons_of_mem _ hz)
    · rcases List.mem_append.mp hz with hz | hz
      · exact .inr (.inl hz)
      · cases List.mem_singleton.mp hz
        exact .inl (hrecv ▸ List.mem_cons_self)
    · exact .inr (.inr hz)
  · cases hdefer

/-- A frame has left the socket of `y`, and `x` is going to handle it. -/
theorem Sound.take_frame (h : s.Sound) {y : Url} {frame : NetFrame} {rest : List NetFrame}
    (hframes : (s y).net_send_socket x = frame :: rest) :
    (s.set y ((s y).set_frames x rest)).SoundWith x (some (y, frame)) := by
  have hin : ((s y).link x).in_flight = frame :: rest := hframes
  have hsub : rest.Sublist ((s y).link x).in_flight := hin ▸ List.sublist_cons_self ..
  have hlink (a b : Url) : ((s.set y ((s y).set_frames x rest)) a).link b =
      if a = y ∧ b = x then { (s y).link x with in_flight := rest } else (s a).link b := by
    by_cases ha : a = y
    · subst ha
      rw [set_self, set_frames_eq]
      by_cases hb : b = x
      · rw [hb, link_set_link_self, if_pos ⟨rfl, rfl⟩]
      · rw [link_set_link_of_ne _ _ _ hb, if_neg fun hab => hb hab.2]
    · rw [set_of_ne s ha, if_neg fun hab => ha hab.1]
  have hconn (a b : Url) : (((s.set y ((s y).set_frames x rest)) a).link b).conn =
      ((s a).link b).conn := by
    rw [hlink]
    split
    · next hab => rw [hab.1, hab.2]
    · rfl
  have hregs (a : Url) : ((s.set y ((s y).set_frames x rest)) a).local_registered_actors =
      (s a).local_registered_actors := by
    by_cases ha : a = y
    · rw [ha, set_self]
      rfl
    · rw [set_of_ne s ha]
  have hpongs (a b : Url) (hab : ((s.set y ((s y).set_frames x rest)) a).Pongs b) :
      (s a).Pongs b := by
    by_cases ha : a = y
    · rwa [ha, set_self, ← ha] at hab
    · rwa [set_of_ne s ha] at hab
  refine ⟨fun a => ?_, fun a b => ⟨fun hmem => ?_, fun hb => ?_, fun hb => ?_⟩, fun a b name => ?_,
    fun z hz => ?_⟩
  · by_cases ha : a = y
    · rw [ha, set_self]
      exact (h.gates y).set_frames hsub
    · rw [set_of_ne s ha]
      exact h.gates a
  · rw [hconn]
    rw [hlink] at hmem
    split at hmem
    · next hab => exact (h.agree a b).pong (hab.1 ▸ hab.2 ▸ hsub.subset hmem)
    · exact (h.agree a b).pong hmem
  · rw [hconn]
    exact (h.agree a b).pongs (hpongs b a hb)
  · rw [Link.ponged, hconn] at hb
    rw [hconn]
    exact (h.agree a b).ponged hb
  · have hasks : (((s.set y ((s y).set_frames x rest)) a).link b).asks name +
        (if a = y ∧ b = x ∧ frame = .data (.remote_actor_lookup_req name) then 1 else 0) =
        ((s a).link b).asks name := by
      rw [hlink]
      split
      · next hab =>
        rw [hab.1, hab.2, Link.asks_cons hin, Nat.add_comm]
        simp only [true_and]
      · next hab => rw [if_neg fun habc => hab ⟨habc.1, habc.2.1⟩, Nat.add_zero]
    have hreps : (((s.set y ((s y).set_frames x rest)) b).link a).reps name +
        (if b = y ∧ a = x then (frame.is_rep name).toNat else 0) = ((s b).link a).reps name := by
      rw [hlink]
      split
      · next hab => rw [hab.1, hab.2, Link.reps_cons hin, Nat.add_comm]
      · rw [Nat.add_zero]
    have htokens := h.tokens a b name
    rw [Link.waits, hconn]
    unfold NetGates.tokens parks at *
    rw [hregs, token_in_hand_some]
    unfold Link.waits at htokens
    omega
  -- a frame is only sent by who knows the other end
  · rw [hconn]
    by_cases hzy : z = y
    · rw [hzy]
      exact ((h.gates y).links x).conn_of_mem (hin ▸ List.mem_cons_self)
    · exact absurd (frame_from_of_ne hzy frame) hz

/-- An answer is on its way only if somebody waits for it. -/
theorem Sound.waits_of_mem (h : s.Sound) {y : Url} {name : Name} {actor : LocalActorHandle}
    (hmem : .data (.remote_actor_lookup_rep name actor) ∈ ((s y).link x).in_flight) :
    ((s x).link y).waits name = true := by
  have hway : .remote_actor_lookup_rep name actor ∈ ((s y).link x).on_the_way :=
    List.mem_append_right _ (List.mem_filterMap.mpr ⟨_, hmem, rfl⟩)
  have hreps : 0 < ((s y).link x).reps name :=
    List.countP_pos_iff.mpr ⟨_, hway, decide_eq_true rfl⟩
  have htokens := h.tokens x y name
  unfold NetGates.tokens at htokens
  cases hwaits : ((s x).link y).waits name with
  | true => rfl
  | false =>
    rw [hwaits, Bool.toNat_false] at htokens
    omega

theorem Sound.receive_frame (h : s.Sound) (hcontrol : (s x).control = .idle) {y : Url}
    {frame : NetFrame} {rest : List NetFrame}
    (hframes : (s y).net_send_socket x = frame :: rest) (g : NetGateActor) :
    ((s.arrived_frame x y frame rest).set x (g.checked
      (((s.arrived_frame x y frame rest) x).process_frame y frame))).Sound := by
  have hin : ((s y).link x).in_flight = frame :: rest := hframes
  have hmem : frame ∈ ((s y).link x).in_flight := hin ▸ List.mem_cons_self
  have htake := h.take_frame hframes
  have hcontrol' : (s.set y ((s y).set_frames x rest) x).control = .idle := by
    by_cases hx : x = y
    · subst hx
      rw [set_self]
      exact hcontrol
    · rwa [set_of_ne s hx]
  have hconn : ((s.set y ((s y).set_frames x rest) x).link y).conn = ((s x).link y).conn := by
    by_cases hx : x = y
    · subst hx
      rw [set_self, set_frames_eq, link_set_link_self]
    · rw [set_of_ne s hx]
  suffices hhandles : (s.set y ((s y).set_frames x rest) x).Handles (some (y, frame))
      ((((s.set y ((s y).set_frames x rest) x).log_frame y frame)).process_frame y frame) by
    unfold arrived_frame
    dsimp only
    rw [set_self, set, set, Function.update_idem]
    exact htake.checked hhandles g
  refine handles_process_frame (htake.gates x) hcontrol' (fun hping => ?_) fun name actor hrep => ?_
  · rw [hconn]
    cases frame with
    | ping => exact absurd rfl hping
    -- each kind of frame has its own reason to be in flight
    | pong => exact (h.agree x y).pong hmem
    | data d => exact (h.agree y x).ponged (((h.gates y).links x).ponged_of_mem hmem)
  · rw [Link.waits, hconn]
    exact h.waits_of_mem (hrep ▸ hmem)

theorem Sound.next (h : s.Sound) {s' : NetGates} (l : NetGateStep) (hnext : s.next l = some s') :
    s'.Sound := by
  cases stepped_of_next hnext with
  | arrive x m hm => exact h.arrive x hm
  | receive_once x m g hcontrol htake => exact h.receive_once hcontrol htake
  | poll x => exact h.poll x
  | receive_frame x y frame rest hcontrol hframes =>
    exact (h.poll x).receive_frame hcontrol hframes _
  | lose x y i frame hframe hdata => exact h.lose hframe hdata
  | spawn x url k sender hcontrol =>
    exact (h.with_none x).checked (handles_spawn (h.gates x) hcontrol sender) _
  | bind_port_rep x url k port hcontrol =>
    exact (h.with_none x).checked (handles_bind_port_rep (h.gates x) hcontrol port) _
  | defer x g hdefer => exact h.defer hdefer
  | flush x g hflush => exact h.flush hflush

/-! ### Runs -/

theorem sound_init (h : system.init s) : s.Sound := by
  have hbound (x : Url) : ∃ host, s x = bound host x := h x
  refine ⟨fun x => ?_, fun x y => ⟨fun hmem => ?_, fun hb => ?_, fun hb => ?_⟩, fun x y name => ?_⟩
  · obtain ⟨host, hx⟩ := hbound x
    rw [hx]
    exact sound_bound host x
  · obtain ⟨host, hy⟩ := hbound y
    rw [hy] at hmem
    -- nothing is in flight, and nobody is known
    cases hmem
  · obtain ⟨host, hy⟩ := hbound y
    rw [hy] at hb
    cases hb
  · obtain ⟨host, hx⟩ := hbound x
    rw [hx] at hb
    cases hb
  · obtain ⟨host, hx⟩ := hbound x
    obtain ⟨host', hy⟩ := hbound y
    rw [NetGates.tokens, hx, hy]
    rfl

theorem sound_of_reachable (h : Reachable system s) : s.Sound :=
  h.invariant Sound (fun _ => sound_init) fun _ l _ hs _ hnext => hs.next l hnext

/-- What a net gate can rely on without a check, and what it owes to a peer. -/
structure Handshake (s : NetGates) (x y : Url) : Prop where
  no_error : (s x).control ≠ .failed
  pong_first : ∀ d, .data d ∈ (s x).handed y → .pong ∈ (s x).received y
  in_order : ((s x).handed y).filterMap NetFrame.data? <+: (s x).called y
  all_sent : .pong ∈ (s x).received y → ((s x).handed y).filterMap NetFrame.data? = (s x).called y

/-- **Handshake**: whatever is asked of the net gates, and whatever `Ping` and `Pong` are
    lost, no handler comes to an error branch, and the data for a peer are handed over in
    the order of the calls, from the first `Pong` on. -/
theorem handshake (h : Reachable system s) (x y : Url) : s.Handshake x y := by
  have hsound := (sound_of_reachable h).gates x
  have hlink := hsound.links y
  refine ⟨hsound.not_failed, fun d hd => ?_, ?_, fun hpong => hlink.stable (hlink.ponged.mpr hpong)⟩
  -- without a `Pong`, no data have been handed over
  · apply hlink.ponged.mp
    by_contra hnot
    have hdata : d ∈ ((s x).handed y).filterMap NetFrame.data? :=
      List.mem_filterMap.mpr ⟨_, hd, rfl⟩
    rw [show ((s x).handed y).filterMap NetFrame.data? = [] from
      hlink.unstable (Bool.eq_false_iff.mpr hnot)] at hdata
    cases hdata
  · cases hponged : ((s x).link y).ponged with
    | true => exact (hlink.stable hponged) ▸ List.prefix_rfl
    | false =>
      rw [show ((s x).handed y).filterMap NetFrame.data? = [] from hlink.unstable hponged]
      exact List.nil_prefix

def url_a : Url := ⟨[1], by decide⟩

def url_b : Url := ⟨[2], by decide⟩

def counter : Name := ⟨[3], by decide⟩

def localhost : Host := ⟨[], by decide⟩

/-- `url_a` is asked three times for an actor. It has to wait for its sender, and puts the
    second lookup off, until the third one comes. The actor is registered later. -/
def lookups_run : List NetGateStep :=
  [.arrive url_a (.actor_lookup_req ⟨0, url_b, counter⟩), .poll url_a, .receive_once url_a,
    .spawn url_a ⟨4, true⟩, .arrive url_a (.actor_lookup_req ⟨0, url_b, counter⟩), .defer url_a,
    .bind_port_rep url_a 9, .arrive url_a (.actor_lookup_req ⟨0, url_b, counter⟩), .poll url_a,
    .receive_once url_a, .poll url_a, .receive_once url_a, .receive_frame url_b url_a,
    .spawn url_b ⟨5, true⟩, .bind_port_rep url_b 10, .receive_frame url_a url_b,
    .receive_frame url_a url_b, .receive_frame url_b url_a, .receive_frame url_b url_a,
    .receive_frame url_b url_a,
    .arrive url_b (.actor_registration counter (.local_actor ⟨6, true⟩)), .poll url_b,
    .receive_once url_b, .receive_frame url_a url_b, .receive_frame url_a url_b]

theorem handshake_lookups_run :
    ∃ s : NetGates, (s url_a).handed url_b = [.ping, .pong, .data (.data_conn_req localhost 9),
      .data (.remote_actor_lookup_req counter)] ∧ s.Handshake url_a url_b := by
  obtain ⟨s, hs, hobs⟩ := System.reachable_of_exec system (fun _ _ => True) lookups_run
    (fun s => (s url_a).handed url_b) (s := bound localhost)
    (b := [.ping, .pong, .data (.data_conn_req localhost 9),
      .data (.remote_actor_lookup_req counter)])
    (fun x => ⟨localhost, rfl⟩) (by decide +kernel)
  exact ⟨s, hobs, handshake hs url_a url_b⟩

end NetGates

end ZAF
