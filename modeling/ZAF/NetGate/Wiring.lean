import ZAF.NetGate.Growth

/-! # What the ends of a connection tell each other

    A net gate tells a peer the endpoint of the receiver that it has spawned for it. The
    peer tells it to its sender. This happens once for each peer, and what is told is not
    changed on the way: the data between two net gates arrive in the order in which they
    have been handed over. All handles that a net gate gives out for actors at a peer carry
    the sender of the one connection to this peer.
-/

namespace ZAF

open LTS

namespace NetGateActor

/-! ### At one end -/

/-- What has arrived for a sender is passed on, but for what is in `hand`; and the handles
    that have been given out lead to their connections. -/
structure Carries (g : NetGateActor) (hand : Url → List Endpoint := fun _ => []) : Prop where
  endpoints : ∀ z, (g.link z).endpoints ++ hand z =
    (g.link z).received.filterMap NetFrame.endpoint?
  replies : ∀ rep ∈ g.replies, ∃ l, g.Behind rep.peer l rep.actor
  retrieved : ∀ p ∈ g.retrieved, g.Retrieved p.1 p.2

/-- Which peers have been told the endpoints of their receivers, at these ports. -/
structure Told (g : NetGateActor) (ports : Url → Option UInt16) : Prop where
  spawned : ∀ z, (g.link z).info = none ↔ ports z = none
  told : ∀ z, g.Established z →
    ∃ port, ports z = some port ∧ (g.link z).told = [(g.bind_host, port)]
  untold : ∀ z, ¬ g.Established z → (g.link z).told = []
  spawning : ∀ z k, g.control = .spawning z k → (g.link z).info = none
  continuation : ∀ z k, g.control.establishing = some (z, k) → k.At z
  info : ∀ z info, (g.link z).info = some info →
    info.local_net_gate_url = g.bind_url ∧ info.remote_net_gate_url = z

variable {g g' : NetGateActor} {url : Url} {ports : Url → Option UInt16}
  {hand : Url → List Endpoint}

/-- A handler that grows the net gate passes on what it had in `hand`; what has been given out
    before leads to the same connections. -/
theorem Carries.grows (h : g.Carries hand) (hgrows : g.Grows g' hand) : g'.Carries where
  endpoints z := by
    rw [List.append_nil, hgrows.endpoints, (hgrows.links z).received]
    exact h.endpoints z
  replies rep hrep := by
    rcases hgrows.replies rep hrep with hrep | hnew
    · obtain ⟨l, hl⟩ := h.replies rep hrep
      exact ⟨l, hl.grows hgrows⟩
    · exact hnew
  retrieved p hp := (hgrows.retrieved p hp).elim (fun hp => (h.retrieved p hp).grows hgrows) id

/-- What is told depends on the senders, on what is established and on the handler that runs.
    A handler may have started to connect to a new peer. -/
theorem Told.congr (h : g.Told ports) (hhost : g'.bind_host = g.bind_host)
    (hurl : g'.bind_url = g.bind_url) (hinfo : ∀ z, (g'.link z).info = (g.link z).info)
    (htold : ∀ z, (g'.link z).told = (g.link z).told)
    (hest : ∀ z, g'.Established z ↔ g.Established z)
    (hcontrol : g'.control = g.control ∨ g'.control.establishing = none ∨
      ∃ z k, g'.control = .spawning z k ∧ (g.link z).info = none ∧ k.At z) : g'.Told ports where
  spawned z := by
    rw [hinfo]
    exact h.spawned z
  told z hz := by
    rw [htold, hhost]
    exact h.told z ((hest z).mp hz)
  untold z hz := by
    rw [htold]
    exact h.untold z ((hest z).not.mp hz)
  spawning z k hk := by
    rw [hinfo]
    rcases hcontrol with heq | hnone | ⟨z', k', hk', hnone, -⟩
    · exact h.spawning z k (heq ▸ hk)
    · rw [hk] at hnone
      cases hnone
    · cases hk.symm.trans hk'
      exact hnone
  continuation z k hk := by
    rcases hcontrol with heq | hnone | ⟨z', k', hk', -, hat⟩
    · exact h.continuation z k (heq ▸ hk)
    · cases hnone.symm.trans hk
    · rw [hk'] at hk
      cases hk
      exact hat
  info z info hz := by
    rw [hurl]
    exact h.info z info ((hinfo z).symm.trans hz)

/-- A handler that neither spawns nor tells a port. -/
theorem Told.extends (h : g.Told ports) (hext : g.Extends g' hand) : g'.Told ports :=
  h.congr hext.bind_host hext.bind_url hext.info_eq hext.told hext.established hext.control

/-- With the sender, the receiver is spawned, at some port. -/
theorem Told.spawns (h : g.Told ports) {k : Continuation} (hcontrol : g.control = .spawning url k)
    {sender : LocalActorHandle} (hspawns : g.Spawns g' url k sender) (port : UInt16) :
    g'.Told (Function.update ports url (some port)) where
  spawned z := by
    rw [hspawns.info_eq, Function.update_apply]
    split
    · exact iff_of_false nofun nofun
    · exact h.spawned z
  told z hz := by
    rw [hspawns.told, hspawns.bind_host]
    have hz := (hspawns.established z).mp hz
    -- the new one is not established yet
    have hne : z ≠ url := by
      rintro rfl
      exact hz.2 k (by rw [hcontrol]; rfl)
    rw [Function.update_of_ne hne]
    exact h.told z hz
  untold z hz := by
    rw [hspawns.told]
    exact h.untold z ((hspawns.established z).not.mp hz)
  spawning z k' hk := by cases hspawns.control.symm.trans hk
  continuation z k' hk := by
    rw [hspawns.control] at hk
    cases hk
    exact h.continuation url k (by rw [hcontrol]; rfl)
  info z info hinfo := by
    rw [hspawns.bind_url]
    rw [hspawns.info_eq] at hinfo
    split at hinfo
    · next hz =>
      cases hinfo
      exact ⟨rfl, hz.symm⟩
    · exact h.info z info hinfo

/-- The peer has not been told before. -/
theorem Told.tells (h : g.Told ports) {k : Continuation} (hcontrol : g.control = .waiting url k)
    {port : UInt16} (hport : ports url = some port) (htells : g.Tells g' url port) :
    g'.Told ports where
  spawned z := by
    rw [htells.info_eq]
    exact h.spawned z
  told z hz := by
    rw [htells.told, htells.bind_host]
    split
    · next hurl =>
      -- the handler waits for the port, so the peer is not established
      have hnot : ¬ g.Established z := fun hest => hest.2 k (by rw [hcontrol, hurl]; rfl)
      exact ⟨port, hurl ▸ hport, by rw [h.untold z hnot]; rfl⟩
    · next hurl => exact h.told z (((htells.established z).mp hz).resolve_left hurl)
  untold z hz := by
    obtain ⟨hurl, hest⟩ := not_or.mp ((htells.established z).not.mp hz)
    rw [htells.told, if_neg hurl]
    exact h.untold z hest
  spawning z k' hk := by
    have hnone := htells.control
    rw [hk] at hnone
    cases hnone
  continuation z k' hk := by cases htells.control.symm.trans hk
  info z info hinfo := by
    rw [htells.bind_url]
    exact h.info z info ((htells.info_eq z).symm.trans hinfo)

/-! ### When a frame arrives -/

theorem link_set_frames (g : NetGateActor) (url : Url) (frames : List NetFrame) (z : Url) :
    (g.set_frames url frames).link z = { g.link z with
      in_flight := if z = url then frames else (g.link z).in_flight } :=
  Link.ext rfl (Function.update_apply ..) rfl rfl rfl

theorem link_log_frame_apply (g : NetGateActor) (peer : Url) (frame : NetFrame) (z : Url) :
    (g.log_frame peer frame).link z = { g.link z with
      received := if z = peer then (g.link peer).received ++ [frame] else (g.link z).received } :=
  Link.ext rfl rfl rfl rfl (Function.update_apply ..)

theorem Carries.set_frames (h : g.Carries) (frames : List NetFrame) :
    (g.set_frames url frames).Carries where
  endpoints z := by
    rw [link_set_frames]
    exact h.endpoints z
  replies rep hrep := by
    obtain ⟨l, info, hinfo, hactor⟩ := h.replies rep hrep
    exact ⟨l, info, by rwa [link_set_frames], hactor⟩
  retrieved p hp := (h.retrieved p hp).imp_right fun ⟨info, hinfo, hactor⟩ =>
    ⟨info, by rwa [link_set_frames], hactor⟩

/-- The endpoint in a frame has to be passed on. -/
theorem Carries.log_frame (h : g.Carries) (peer : Url) (frame : NetFrame) :
    (g.log_frame peer frame).Carries (passed peer frame) where
  endpoints z := by
    have hendpoints := h.endpoints z
    rw [List.append_nil] at hendpoints
    rw [link_log_frame_apply]
    dsimp only
    show (g.link z).endpoints ++ _ = _
    rw [hendpoints, passed]
    split
    · next hz =>
      rw [hz, List.filterMap_append]
      cases hframe : frame.endpoint? with
      | none => rw [List.filterMap_cons_none hframe]; rfl
      | some endpoint => rw [List.filterMap_cons_some hframe]; rfl
    · exact List.append_nil _
  replies rep hrep := by
    obtain ⟨l, info, hinfo, hactor⟩ := h.replies rep hrep
    exact ⟨l, info, by rwa [link_log_frame_apply], hactor⟩
  retrieved p hp := (h.retrieved p hp).imp_right fun ⟨info, hinfo, hactor⟩ =>
    ⟨info, by rwa [link_log_frame_apply], hactor⟩

/-- What has been told does not depend on the frames in flight. -/
theorem Told.set_frames (h : g.Told ports) (frames : List NetFrame) :
    (g.set_frames url frames).Told ports := by
  refine h.congr rfl rfl (fun z => ?_) (fun z => ?_) (fun z => ?_) (.inl rfl)
  · rw [link_set_frames]
    rfl
  · rw [link_set_frames]
    rfl
  · exact Iff.rfl

theorem Told.log_frame (h : g.Told ports) (peer : Url) (frame : NetFrame) :
    (g.log_frame peer frame).Told ports := by
  refine h.congr rfl rfl (fun z => ?_) (fun z => ?_) (fun z => ?_) (.inl rfl)
  · rw [link_log_frame_apply]
    rfl
  · rw [link_log_frame_apply]
    rfl
  · exact Iff.rfl

theorem carries_bound (host : Host) (url : Url) : (bound host url).Carries where
  endpoints _ := rfl
  replies _ hrep := by cases hrep
  retrieved _ hp := by cases hp

/-- A new net gate has no peer, and has told nobody a port. -/
theorem told_bound (host : Host) (url : Url) : (bound host url).Told fun _ => none where
  spawned _ := iff_of_true rfl rfl
  told _ hz := absurd rfl hz.1
  untold _ _ := rfl
  spawning _ _ hk := by cases hk
  continuation _ _ hk := by cases hk
  info _ _ hinfo := by cases hinfo

end NetGateActor

/-! ### At both ends -/

/-- The ports of the receivers that the net gates have spawned for their peers. -/
abbrev Ports := Url → Url → Option UInt16

namespace NetGates

open NetGateActor

/-- The data arrive in order. -/
def InOrder (s : NetGates) : Prop :=
  ∀ a b, ((s a).link b).handed.filterMap NetFrame.data? =
    ((s b).link a).received.filterMap NetFrame.data? ++
      ((s a).link b).in_flight.filterMap NetFrame.data?

/-- What holds of all net gates at every step, given the ports of the receivers spawned so far. -/
structure Wired (s : NetGates) (ports : Ports) : Prop where
  bind_url : ∀ a, (s a).bind_url = a
  in_order : s.InOrder
  carries : ∀ a, (s a).Carries
  told : ∀ a, (s a).Told (ports a)

variable {s s' : NetGates} {ports : Ports} {x : Url} {g g' : NetGateActor}

/-- What a step hands over goes to the end of what is in flight. -/
theorem InOrder.grows (h : s.InOrder) (hgrows : ∀ z, ((s x).link z).Grows (g.link z)) :
    (s.set x g).InOrder := by
  have hlink (a b : Url) : ((s a).link b).Grows ((s.set x g a).link b) :=
    forall_set (p := fun a g' => ((s a).link b).Grows (g'.link b)) (hgrows b)
      (fun _ => Link.grows_refl _) a
  intro a b
  obtain ⟨frames, hhanded, hflight⟩ := (hlink a b).frames
  rw [hhanded, hflight, (hlink b a).received, List.filterMap_append, h a b, List.filterMap_append,
    List.append_assoc]

/-- A `Ping` or a `Pong` is lost. -/
theorem InOrder.lose (h : s.InOrder) {y : Url} {i : Nat} {frame : NetFrame}
    (hframe : ((s y).net_send_socket x)[i]? = some frame) (hdata : frame.data? = none) :
    (s.set y ((s y).set_frames x (((s y).net_send_socket x).eraseIdx i))).InOrder := by
  have hlink (a b : Url) : (s.set y ((s y).set_frames x (((s y).net_send_socket x).eraseIdx i))
      a).link b = { (s a).link b with
        in_flight := if a = y ∧ b = x then ((s y).net_send_socket x).eraseIdx i
          else ((s a).link b).in_flight } := by
    by_cases ha : a = y
    · subst ha
      rw [set_self, link_set_frames]
      simp only [true_and]
    · rw [set_of_ne s ha, if_neg fun hab => ha hab.1]
  -- a frame without data leaves the data in flight as they are
  have hsame : (((s y).net_send_socket x).eraseIdx i).filterMap NetFrame.data? =
      ((s y).net_send_socket x).filterMap NetFrame.data? := by
    obtain ⟨hlt, heq⟩ := List.getElem?_eq_some_iff.mp hframe
    have hsplit : (s y).net_send_socket x = ((s y).net_send_socket x).take i ++
        frame :: ((s y).net_send_socket x).drop (i + 1) := by
      rw [← heq, List.getElem_cons_drop, List.take_append_drop]
    rw [List.eraseIdx_eq_take_drop_succ]
    conv_rhs => rw [hsplit]
    rw [List.filterMap_append, List.filterMap_append, List.filterMap_cons_none hdata]
  intro a b
  rw [hlink, hlink]
  dsimp only
  rw [h a b]
  split
  · next hab =>
    rw [hab.1, hab.2]
    exact congrArg _ hsame.symm
  · rfl

/-- What the links are when a frame has arrived. -/
theorem link_arrived_frame (s : NetGates) (x y : Url) (frame : NetFrame) (rest : List NetFrame)
    (a b : Url) : (s.arrived_frame x y frame rest a).link b = { (s a).link b with
      in_flight := if a = y ∧ b = x then rest else ((s a).link b).in_flight
      received := if a = x ∧ b = y then ((s x).link y).received ++ [frame]
        else ((s a).link b).received } := by
  -- the frame is taken from the socket, then it is logged
  have htaken (a b : Url) : (s.set y ((s y).set_frames x rest) a).link b =
      { (s a).link b with
        in_flight := if a = y ∧ b = x then rest else ((s a).link b).in_flight } := by
    by_cases ha : a = y
    · subst ha
      rw [set_self, link_set_frames]
      simp only [true_and]
    · rw [set_of_ne s ha, if_neg fun hab => ha hab.1]
  unfold arrived_frame
  dsimp only
  by_cases ha : a = x
  · subst ha
    rw [set_self, link_log_frame_apply, htaken, htaken]
    simp only [true_and]
  · rw [set_of_ne _ ha, htaken, if_neg fun hab : a = x ∧ b = y => ha hab.1]

/-- The first frame in flight is the next one that is received. -/
theorem InOrder.take (h : s.InOrder) {y : Url} {frame : NetFrame} {rest : List NetFrame}
    (hframes : (s y).net_send_socket x = frame :: rest) :
    (s.arrived_frame x y frame rest).InOrder := by
  intro a b
  rw [link_arrived_frame, link_arrived_frame]
  dsimp only
  rw [h a b]
  by_cases hab : a = y ∧ b = x
  · obtain ⟨rfl, rfl⟩ := hab
    have hin : ((s a).link b).in_flight = frame :: rest := hframes
    rw [if_pos ⟨rfl, rfl⟩, if_pos ⟨rfl, rfl⟩, hin, ← List.filterMap_append,
      ← List.filterMap_append, List.append_assoc]
    rfl
  · rw [if_neg hab, if_neg fun hba => hab hba.symm]

/-! ### Steps -/

/-- A handler of one net gate that neither spawns nor tells a port. -/
theorem Wired.extends (h : s.Wired ports) (hext : (s x).Extends g) : (s.set x g).Wired ports where
  bind_url := forall_set (p := fun a g => g.bind_url = a) (hext.bind_url.trans (h.bind_url x))
    h.bind_url
  in_order := h.in_order.grows hext.links
  carries := forall_set (p := fun _ g => g.Carries) ((h.carries x).grows hext.toGrows) h.carries
  told := forall_set (p := fun a g => g.Told (ports a)) ((h.told x).extends hext) h.told

/-- The sender and the receiver for `url` are spawned. -/
theorem Wired.spawn (h : s.Wired ports) {url : Url} {k : Continuation}
    (hcontrol : (s x).control = .spawning url k) {sender : LocalActorHandle}
    (hspawn : (s x).spawn url k sender = some g) (port : UInt16) :
    (s.set x g).Wired (Function.update ports x (Function.update (ports x) url (some port))) := by
  have hspawns := spawn_spawns hcontrol ((h.told x).spawning url k hcontrol) hspawn
  refine ⟨forall_set (p := fun a g => g.bind_url = a) (hspawns.bind_url.trans (h.bind_url x))
    h.bind_url, h.in_order.grows hspawns.links,
    forall_set (p := fun _ g => g.Carries) ((h.carries x).grows hspawns.toGrows) h.carries,
    fun a => ?_⟩
  by_cases ha : a = x
  · subst ha
    rw [set_self, Function.update_self]
    exact (h.told a).spawns hcontrol hspawns port
  · rw [set_of_ne s ha, Function.update_of_ne ha]
    exact h.told a

/-- The receiver tells its port. -/
theorem Wired.bind_port_rep (h : s.Wired ports) {url : Url} {k : Continuation}
    (hcontrol : (s x).control = .waiting url k) {port : UInt16} (hport : ports x url = some port)
    (hrep : (s x).bind_port_rep url k port = some g) : (s.set x g).Wired ports := by
  have hat := (h.told x).continuation url k (by rw [hcontrol]; rfl)
  have htells := bind_port_rep_tells hcontrol hat hrep
  exact ⟨forall_set (p := fun a g => g.bind_url = a) (htells.bind_url.trans (h.bind_url x))
    h.bind_url, h.in_order.grows htells.links,
    forall_set (p := fun _ g => g.Carries) ((h.carries x).grows htells.toGrows) h.carries,
    forall_set (p := fun a g => g.Told (ports a)) ((h.told x).tells hcontrol hport htells) h.told⟩

/-- The steps in which nothing is spawned and no port is told. -/
def Plain : NetGateStep → Prop
  | .spawn _ _ => False
  | .bind_port_rep _ _ => False
  | _ => True

instance (l : NetGateStep) : Decidable (Plain l) := by
  cases l <;> unfold Plain <;> infer_instance

/-- What such a step does. -/
inductive Plainly (s : NetGates) : NetGates → Prop where
  | handle (x : Url) (g : NetGateActor) (hext : (s x).Extends g) : Plainly s (s.set x g)
  | receive_frame (x y : Url) (frame : NetFrame) (rest : List NetFrame) (g : NetGateActor)
      (hcontrol : (s.polled x x).control = .idle)
      (hframes : (s.polled x y).net_send_socket x = frame :: rest)
      (hprocess : ((s.polled x).arrived_frame x y frame rest x).process_frame y frame = some g) :
      Plainly s (((s.polled x).arrived_frame x y frame rest).set x g)
  | lose (x y : Url) (i : Nat) (frame : NetFrame)
      (hframe : ((s y).net_send_socket x)[i]? = some frame) (hdata : frame.data? = none) :
      Plainly s (s.set y ((s y).set_frames x (((s y).net_send_socket x).eraseIdx i)))

/-- The steps other than those of a spawned sender and of its port, one kind after the other: all
    handlers extend their net gate. -/
theorem plainly_of_next (hsound : s.Sound) {l : NetGateStep} (hl : Plain l)
    (hnext : s.next l = some s') : s.Plainly s' := by
  have hs' := hsound.next l hnext
  cases l with
  | arrive x m =>
    simp only [NetGates.next] at hnext
    split at hnext
    · cases hnext
    · cases hnext
      exact .handle x _ (arrive_extends (s x) m)
  | poll x =>
    simp only [NetGates.next] at hnext
    split at hnext <;> cases hnext
    exact .handle x _ (poll_extends (s x))
  | receive_once x =>
    simp only [NetGates.next] at hnext
    split at hnext
    · next hready =>
      obtain ⟨⟨m, g⟩, htake, rfl⟩ := Option.map_eq_some_iff.mp hnext
      obtain ⟨g', hg', heq⟩ := hs'.checked_eq
      have hidle := (take_message_eq htake).control.trans hready.1
      rw [heq]
      exact .handle x g' ((take_message_extends htake).trans (process_extends hidle hg'))
    · cases hnext
  | receive_frame x y =>
    simp only [NetGates.next] at hnext
    split at hnext
    · next hready =>
      split at hnext
      · next frame rest hframes =>
        cases hnext
        obtain ⟨g', hg', heq⟩ := hs'.checked_eq
        rw [heq]
        refine .receive_frame x y frame rest g' ?_ ?_ hg'
        · rw [polled_control]
          exact hready.1
        · rw [polled_net_send_socket]
          exact hframes
      · cases hnext
    · cases hnext
  | lose x y i =>
    simp only [NetGates.next] at hnext
    split at hnext
    · next hframe =>
      cases hnext
      exact .lose x y i .ping hframe rfl
    · next hframe =>
      cases hnext
      exact .lose x y i .pong hframe rfl
    · cases hnext
  | spawn x sender => exact hl.elim
  | bind_port_rep x port => exact hl.elim
  | defer x =>
    simp only [NetGates.next] at hnext
    split at hnext
    · obtain ⟨g, hdefer, rfl⟩ := Option.map_eq_some_iff.mp hnext
      exact .handle x g (defer_message_extends hdefer)
    · cases hnext
  | flush x =>
    obtain ⟨g, hflush, rfl⟩ := Option.map_eq_some_iff.mp hnext
    exact .handle x g (flush_extends hflush)

/-- A frame goes from the one net gate to the other, where it is handled. The two may be the
    same. -/
theorem Wired.receive_frame (h : s.Wired ports) {y : Url} {frame : NetFrame}
    {rest : List NetFrame} (hcontrol : (s x).control = .idle)
    (hframes : (s y).net_send_socket x = frame :: rest)
    (hprocess : (s.arrived_frame x y frame rest x).process_frame y frame = some g) :
    ((s.arrived_frame x y frame rest).set x g).Wired ports := by
  -- the net gates before the handler
  have htaken : ∀ a, (s.set y ((s y).set_frames x rest) a).bind_url = a ∧
      (s.set y ((s y).set_frames x rest) a).Carries ∧
      (s.set y ((s y).set_frames x rest) a).Told (ports a) ∧
      (s.set y ((s y).set_frames x rest) a).control = (s a).control :=
    forall_set (p := fun a g => g.bind_url = a ∧ g.Carries ∧ g.Told (ports a) ∧
        g.control = (s a).control)
      ⟨h.bind_url y, (h.carries y).set_frames rest, (h.told y).set_frames rest, rfl⟩
      fun a => ⟨h.bind_url a, h.carries a, h.told a, rfl⟩
  obtain ⟨hurl, hcarries, htold, hsame⟩ := htaken x
  unfold arrived_frame at hprocess ⊢
  dsimp only at hprocess ⊢
  rw [set_self] at hprocess
  have hext := process_frame_extends (by exact hsame.trans hcontrol) hprocess
  have hinorder := (h.in_order.take hframes).grows (x := x) (g := g) (by
    unfold arrived_frame
    rw [set_self]
    exact hext.links)
  unfold arrived_frame at hinorder
  dsimp only at hinorder
  rw [set, set, Function.update_idem]
  rw [set, set, Function.update_idem] at hinorder
  refine ⟨forall_set (p := fun a g => g.bind_url = a) (hext.bind_url.trans hurl)
    fun a => (htaken a).1, hinorder, forall_set (p := fun _ g => g.Carries)
    ((hcarries.log_frame y frame).grows hext.toGrows) fun a => (htaken a).2.1,
    forall_set (p := fun a g => g.Told (ports a)) ((htold.log_frame y frame).extends hext)
    fun a => (htaken a).2.2.1⟩

/-- The same ports, as nothing is spawned. -/
theorem Wired.plainly (h : s.Wired ports) (hstep : s.Plainly s') : s'.Wired ports := by
  cases hstep with
  | handle x g hext => exact h.extends hext
  | receive_frame x y frame rest g hcontrol hframes hprocess =>
    exact (h.extends (poll_extends (s x))).receive_frame hcontrol hframes hprocess
  | lose x y i frame hframe hdata =>
    exact ⟨forall_set (p := fun a g => g.bind_url = a) (h.bind_url y) h.bind_url,
      h.in_order.lose hframe hdata,
      forall_set (p := fun _ g => g.Carries) ((h.carries y).set_frames _) h.carries,
      forall_set (p := fun a g => g.Told (ports a)) ((h.told y).set_frames _) h.told⟩

/-- What a sender and a receiver know of their net gate stays as it is. -/
structure Steady (g g' : NetGateActor) : Prop where
  bind_host : g'.bind_host = g.bind_host
  info : ∀ z, (g'.link z).info = (g.link z).info
  endpoints : ∀ z, (g.link z).endpoints <+: (g'.link z).endpoints

theorem steady_of_extends {passed : Url → List Endpoint} (h : g.Extends g' passed) :
    Steady g g' where
  bind_host := h.bind_host
  info := h.info_eq
  endpoints z := by
    rw [h.endpoints]
    exact List.prefix_append _ _

theorem steady_of_tells {url : Url} {port : UInt16} (h : g.Tells g' url port) : Steady g g' where
  bind_host := h.bind_host
  info := h.info_eq
  endpoints z := by
    rw [h.endpoints]
    exact List.prefix_append _ _

theorem steady_set_frames (g : NetGateActor) (url : Url) (frames : List NetFrame) :
    Steady g (g.set_frames url frames) where
  bind_host := rfl
  info z := by
    rw [link_set_frames]
    rfl
  endpoints z := by
    rw [link_set_frames]
    exact List.prefix_rfl

theorem steady_refl (g : NetGateActor) : Steady g g :=
  ⟨rfl, fun _ => rfl, fun _ => List.prefix_rfl⟩

theorem Steady.trans {g g' g'' : NetGateActor} (h : Steady g g') (h' : Steady g' g'') :
    Steady g g'' where
  bind_host := h'.bind_host.trans h.bind_host
  info z := (h'.info z).trans (h.info z)
  endpoints z := (h.endpoints z).trans (h'.endpoints z)

/-- The frame is taken from the peer and logged before it is handled. -/
theorem steady_receive_frame {y : Url} {frame : NetFrame} {rest : List NetFrame}
    (hcontrol : (s x).control = .idle)
    (hprocess : (s.arrived_frame x y frame rest x).process_frame y frame = some g) (a : Url) :
    Steady (s a) ((s.arrived_frame x y frame rest).set x g a) := by
  have htaken (a : Url) : Steady (s a) (s.set y ((s y).set_frames x rest) a) ∧
      (s.set y ((s y).set_frames x rest) a).control = (s a).control :=
    forall_set (p := fun a g => Steady (s a) g ∧ g.control = (s a).control)
      ⟨steady_set_frames .., rfl⟩ (fun a => ⟨steady_refl _, rfl⟩) a
  unfold arrived_frame at hprocess ⊢
  rw [set_self] at hprocess
  have hext := process_frame_extends (by exact (htaken x).2.trans hcontrol) hprocess
  rw [set, set, Function.update_idem]
  refine forall_set (p := fun a g => Steady (s a) g) ?_ (fun a => (htaken a).1) a
  have hlogged (z : Url) := link_log_frame_apply (s.set y ((s y).set_frames x rest) x) y frame z
  refine ⟨hext.bind_host.trans (htaken x).1.bind_host, fun z => ?_, fun z => ?_⟩
  · rw [hext.info_eq, hlogged]
    exact (htaken x).1.info z
  · rw [hext.endpoints, hlogged]
    exact ((htaken x).1.endpoints z).trans (List.prefix_append _ _)

/-- All net gates are steady in such a step. -/
theorem steady_of_plainly (hstep : s.Plainly s') (a : Url) : Steady (s a) (s' a) := by
  cases hstep with
  | handle x g hext =>
    exact forall_set (p := fun a g => Steady (s a) g) (steady_of_extends hext)
      (fun a => steady_refl _) a
  | receive_frame x y frame rest g hcontrol hframes hprocess =>
    have hpolled : Steady (s a) (s.polled x a) :=
      forall_set (p := fun a g => Steady (s a) g) (steady_of_extends (poll_extends (s x)))
        (fun a => steady_refl _) a
    exact hpolled.trans (steady_receive_frame hcontrol hprocess a)
  | lose x y i frame hframe hdata =>
    exact forall_set (p := fun a g => Steady (s a) g) (steady_set_frames ..)
      (fun a => steady_refl _) a

/-- No port is given out yet. -/
theorem wired_init (h : system.init s) : s.Wired fun _ _ => none := by
  have hbound (x : Url) : ∃ host, s x = bound host x := h x
  refine ⟨fun a => ?_, fun a b => ?_, fun a => ?_, fun a => ?_⟩
  · obtain ⟨host, ha⟩ := hbound a
    rw [ha]
    rfl
  · obtain ⟨host, ha⟩ := hbound a
    obtain ⟨host', hb⟩ := hbound b
    rw [ha, hb]
    rfl
  · obtain ⟨host, ha⟩ := hbound a
    rw [ha]
    exact carries_bound host a
  · obtain ⟨host, ha⟩ := hbound a
    rw [ha]
    exact told_bound host a

/-! ### What a sender is told -/

/-- A sender has been told the endpoint of the receiver that the peer has spawned, or nothing. -/
theorem Wired.endpoints (h : s.Wired ports) (hsound : s.Sound) (a b : Url) :
    ((s a).link b).endpoints = [] ∨ ∃ port, ports b a = some port ∧
      ((s a).link b).endpoints = [((s b).bind_host, port)] := by
  have hreceived := (h.carries a).endpoints b
  rw [List.append_nil] at hreceived
  -- what is received has been handed over, and what is handed over has been sent
  have hdata : ((s a).link b).endpoints =
      (((s a).link b).received.filterMap NetFrame.data?).filterMap Data.endpoint? := by
    rw [hreceived, List.filterMap_filterMap]
    rfl
  have hpre : ((s a).link b).endpoints <+: ((s b).link a).told := by
    -- the data arrive in order
    have hhanded : ((s a).link b).received.filterMap NetFrame.data? <+:
        ((s b).link a).handed.filterMap NetFrame.data? :=
      h.in_order b a ▸ List.prefix_append _ _
    -- only after the `Pong` data are handed over
    have hcalled : ((s b).link a).handed.filterMap NetFrame.data? <+: ((s b).link a).called := by
      have hlink := (hsound.gates b).links a
      cases hponged : ((s b).link a).ponged with
      | true => exact hlink.stable hponged ▸ List.prefix_rfl
      | false =>
        rw [hlink.unstable hponged]
        exact List.nil_prefix
    rw [hdata]
    exact (hhanded.trans hcalled).filterMap _
  -- nothing has been told before `b` has established its connection
  by_cases hest : (s b).Established a
  · obtain ⟨port, hport, htold⟩ := (h.told b).told a hest
    rw [htold] at hpre
    rcases List.prefix_cons_iff.mp hpre with hnil | ⟨rest, heq, hrest⟩
    · exact .inl hnil
    · rw [List.prefix_nil.mp hrest] at heq
      exact .inr ⟨port, hport, heq⟩
  · rw [(h.told b).untold a hest] at hpre
    exact .inl (List.prefix_nil.mp hpre)

end NetGates
end ZAF
