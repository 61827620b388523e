import ZAF.NetGate.Links

/-! # The handshake, at one end

    What a net gate keeps by itself, and what each of its handlers does to its links and to
    what it owes to others. If a frame comes from a known peer and an answer is waited for,
    no handler comes to an error branch.
-/

namespace ZAF

/-- Is this an answer to lookups of the name? -/
def Data.is_rep (name : Name) : Data → Bool
  | .data_conn_req _ _ => false
  | .remote_actor_lookup_req _ => false
  | .remote_actor_lookup_rep name' _ => name' = name

def NetFrame.is_rep (name : Name) : NetFrame → Bool
  | .data d => d.is_rep name
  | _ => false

namespace Link

/-! ### What a handler does to a link -/

/-- How many requests for the name are on their way. -/
def asks (l : Link) (name : Name) : Nat := l.on_the_way.count (.remote_actor_lookup_req name)

/-- How many answers for the name are on their way. -/
def reps (l : Link) (name : Name) : Nat := l.on_the_way.countP (Data.is_rep name)

/-- A link becomes another one, when a frame from the peer is handled, and `answered` answers
    are sent. -/
structure Turns (l l' : Link) (frame : Option NetFrame) (pongs : Prop) (answered : Name → Nat) :
    Prop where
  conn : l.conn ≠ none → l'.conn ≠ none
  spawned : l.spawned = true → l'.spawned = true
  ponged : l'.ponged = true → l.ponged = true ∨ frame = some .pong
  pong : .pong ∈ l'.in_flight → .pong ∈ l.in_flight ∨ pongs
  asks : ∀ name, l'.asks name + (l.waits name).toNat =
    l.asks name + (l'.waits name).toNat + (frame.any (·.is_rep name)).toNat
  reps : ∀ name, l'.reps name = l.reps name + answered name

variable {l l' l'' : Link} {conn conn' : NetGateConn} {frame : Option NetFrame}
  {pongs : Prop} {answered answered' : Name → Nat}

/-- A peer with a sender is known. -/
theorem conn_of_spawned (h : l.spawned = true) : ∃ conn, l.conn = some conn := by
  cases hconn : l.conn with
  | none =>
    rw [spawned, hconn] at h
    cases h
  | some conn => exact ⟨conn, rfl⟩

/-- Nothing happens at the link. -/
theorem turns_refl (l : Link) : Turns l l none False fun _ => 0 :=
  ⟨id, id, .inl, .inl, fun _ => rfl, fun _ => rfl⟩

/-- Two changes in a row; only the second one may be for a frame. -/
theorem Turns.trans (h : Turns l l' none False answered) (h' : Turns l' l'' frame pongs answered') :
    Turns l l'' frame pongs fun name => answered name + answered' name where
  conn := h'.conn ∘ h.conn
  spawned := h'.spawned ∘ h.spawned
  ponged hp := (h'.ponged hp).imp_left fun hp' => (h.ponged hp').elim id nofun
  pong hp := (h'.pong hp).imp_left fun hp' => (h.pong hp').elim id False.elim
  asks name := by
    have h₁ := h.asks name
    have h₂ := h'.asks name
    have hnone : (Option.any (fun f : NetFrame => f.is_rep name) none).toNat = 0 := rfl
    omega
  reps name := by
    have h₁ := h.reps name
    have h₂ := h'.reps name
    omega

theorem Turns.mono {pongs' : Prop} (h : Turns l l' frame pongs answered) (himp : pongs → pongs') :
    Turns l l' frame pongs' answered :=
  { h with pong := fun hp => (h.pong hp).imp_right himp }

/-- A frame that concludes nothing. -/
theorem Turns.with_frame (h : Turns l l' none pongs answered)
    (hframe : ∀ name, frame.any (·.is_rep name) = false) : Turns l l' frame pongs answered :=
  { h with
    ponged := fun hp => .inl ((h.ponged hp).elim id nofun)
    asks := fun name => by
      rw [hframe]
      exact h.asks name }

/-- The link changes in a way that the other end does not see. -/
theorem turns_of_eq (hconn : l.conn ≠ none → l'.conn ≠ none)
    (hspawned : l.spawned = true → l'.spawned = true) (hponged : l'.ponged = l.ponged)
    (hpong : .pong ∈ l'.in_flight → .pong ∈ l.in_flight ∨ pongs)
    (hway : l'.on_the_way = l.on_the_way) (hwaits : l'.waits = l.waits) :
    Turns l l' none pongs fun _ => 0 where
  conn := hconn
  spawned := hspawned
  ponged hp := .inl (hponged ▸ hp)
  pong := hpong
  asks name := by
    rw [Link.asks, Link.asks, hway, hwaits]
    rfl
  reps name := by
    rw [Link.reps, Link.reps, hway]
    rfl

/-- A frame is noted. -/
theorem turns_log (l : Link) (frame : NetFrame) :
    Turns l { l with received := l.received ++ [frame] } none False fun _ => 0 :=
  turns_of_eq id id rfl .inl rfl rfl

/-- The entry of a new peer, with the first `Ping`. -/
theorem turns_new (hnone : l.conn = none) :
    Turns l (hand { l with conn := some .new } [.ping]) none False fun _ => 0 := by
  apply turns_of_eq
  · exact fun hsome => absurd hnone hsome
  · intro hspawned
    rw [spawned, hnone] at hspawned
    cases hspawned
  · rw [ponged, ponged, hnone]
    rfl
  · intro hmem
    rcases List.mem_append.mp hmem with hmem | hmem
    · exact .inl hmem
    · cases List.mem_singleton.mp hmem
  -- no data is pending at a connection that there was not, nor at the new one
  · rw [on_the_way_hand rfl, on_the_way, on_the_way, hnone]
    rfl
  · funext name
    rw [waits, waits, hnone]
    rfl

/-- A `Ping` or a `Pong` is sent at once, past what is pending. -/
theorem turns_hand {f : NetFrame} (hf : f.data? = none) :
    Turns l (l.hand [f]) none (f = .pong) fun _ => 0 := by
  refine turns_of_eq id id rfl ?_ (on_the_way_hand hf) rfl
  intro hmem
  rcases List.mem_append.mp hmem with hmem | hmem
  · exact .inl hmem
  · exact .inr (List.mem_singleton.mp hmem).symm

/-- The entry changes in what is for the sender only. -/
theorem turns_set_conn (hconn : l.conn = some conn)
    (hspawned : conn.net_sender_info.isSome = true → conn'.net_sender_info.isSome = true)
    (hponged : conn'.is_ponged = conn.is_ponged)
    (hpending : conn'.pending_messages = conn.pending_messages)
    (hrequesters : conn'.actor_lookup_requesters = conn.actor_lookup_requesters) :
    Turns l { l with conn := some conn' } none False fun _ => 0 := by
  apply turns_of_eq
  · exact fun _ => nofun
  · intro h
    rw [spawned, hconn] at h
    exact hspawned h
  · rw [ponged_eq hconn, ← hponged]
    rfl
  · exact .inl
  · exact on_the_way_set_conn hconn hpending
  · funext name
    rw [waits, waits, hconn]
    exact congrArg (fun r : Name → Option (List Lookup) => !((r name).getD []).isEmpty)
      hrequesters

/-! ### Operations that send or conclude -/

/-- Data count as on their way from the moment they are sent, also while they are pending. -/
theorem asks_send (hconn : l.conn = some conn) (d : Data) (name : Name) :
    (l.send conn d).asks name =
      l.asks name + if d = .remote_actor_lookup_req name then 1 else 0 := by
  rw [asks, (on_the_way_send hconn d).count_eq, List.count_cons]
  simp only [beq_iff_eq]
  rfl

/-- The first frame of a link is handled and leaves it. -/
theorem asks_cons {f : NetFrame} {rest : List NetFrame} (hframes : l.in_flight = f :: rest)
    (name : Name) :
    l.asks name = (if f = .data (.remote_actor_lookup_req name) then 1 else 0) +
      asks { l with in_flight := rest } name := by
  rw [asks, (on_the_way_cons hframes).count_eq, List.count_append]
  congr 1
  cases f with
  | ping => rfl
  | pong => rfl
  | data d =>
    show [d].count _ = _
    simp only [List.count_singleton, beq_iff_eq, NetFrame.data.injEq]

theorem reps_cons {f : NetFrame} {rest : List NetFrame} (hframes : l.in_flight = f :: rest)
    (name : Name) :
    l.reps name = (f.is_rep name).toNat + reps { l with in_flight := rest } name := by
  rw [reps, (on_the_way_cons hframes).countP_eq, List.countP_append]
  congr 1
  cases f with
  | ping => rfl
  | pong => rfl
  | data d =>
    show [d].countP _ = (d.is_rep name).toNat
    rw [List.countP_singleton]
    cases d.is_rep name <;> rfl

theorem reps_send (hconn : l.conn = some conn) (d : Data) (name : Name) :
    (l.send conn d).reps name = l.reps name + (d.is_rep name).toNat := by
  rw [reps, (on_the_way_send hconn d).countP_eq, List.countP_cons]
  cases d.is_rep name <;> rfl

theorem ponged_send (hconn : l.conn = some conn) (d : Data) :
    (l.send conn d).ponged = l.ponged := by
  obtain ⟨conn', hconn', -, hponged, -⟩ := conn_send hconn d
  rw [ponged_eq hconn', hponged, ponged_eq hconn]

theorem spawned_eq (hconn : l.conn = some conn) :
    l.spawned = conn.net_sender_info.isSome := by
  rw [spawned, hconn, Option.any_some]

theorem waits_eq (hconn : l.conn = some conn) (name : Name) :
    l.waits name = !((conn.actor_lookup_requesters name).getD []).isEmpty := by
  rw [waits, hconn, Option.any_some]

/-- Data are no `Pong`. -/
theorem mem_in_flight_send {d : Data} (hmem : .pong ∈ (l.send conn d).in_flight) :
    .pong ∈ l.in_flight := by
  unfold send at hmem
  split at hmem
  · rcases List.mem_append.mp hmem with hmem | hmem
    · exact hmem
    · exact absurd (List.mem_singleton.mp hmem) nofun
  · exact hmem

/-- Data are sent that ask for nothing. -/
theorem turns_send (hconn : l.conn = some conn) {d : Data}
    (hd : ∀ name, d ≠ .remote_actor_lookup_req name) :
    Turns l (l.send conn d) none False fun name => (d.is_rep name).toNat := by
  obtain ⟨conn', hconn', hspawned, hponged, hrequesters⟩ := conn_send hconn d
  refine ⟨fun _ => ?_, ?_, ?_, ?_, ?_, reps_send hconn d⟩
  · rw [hconn']
    exact nofun
  · rw [spawned_eq hconn', hspawned, spawned_eq hconn]
    exact id
  · rw [ponged_send hconn]
    exact .inl
  · exact fun hmem => .inl (mem_in_flight_send hmem)
  · intro name
    rw [asks_send hconn, if_neg (hd name), waits_eq hconn', hrequesters, waits_eq hconn]
    rfl

/-- The first `Pong`: what has been pending is sent. -/
theorem turns_pong (hconn : l.conn = some conn) :
    Turns l (l.pong conn) (some .pong) False fun _ => 0 where
  conn _ := nofun
  spawned h := by
    rw [spawned_eq hconn] at h
    exact h
  ponged _ := .inr rfl
  pong hmem := by
    rcases List.mem_append.mp hmem with hmem | hmem
    · exact .inl hmem
    · obtain ⟨d, -, hd⟩ := List.mem_map.mp hmem
      cases hd
  asks name := by
    rw [asks, (on_the_way_pong hconn).count_eq, waits_eq hconn]
    rfl
  reps name := by
    rw [reps, (on_the_way_pong hconn).countP_eq]
    rfl

/-- Whether lookups of a name wait, after its entry has been replaced. -/
theorem waits_set_requesters (conn : NetGateConn) (name : Name) (requesters : Option (List Lookup))
    (name' : Name) :
    waits { l with conn := some (conn.set_requesters name requesters) } name' =
      if name' = name then !(requesters.getD []).isEmpty
      else !((conn.actor_lookup_requesters name').getD []).isEmpty := by
  rw [waits, Option.any_some]
  split
  · next h => rw [h, NetGateConn.set_requesters_self]
  · next h => rw [NetGateConn.set_requesters_of_ne conn h]

/-- The entry for a name is another one. -/
theorem turns_set_requesters (hconn : l.conn = some conn) (name : Name)
    (requesters : Option (List Lookup))
    (hwaits : (!(requesters.getD []).isEmpty) = l.waits name) :
    Turns l { l with conn := some (conn.set_requesters name requesters) } none False
      fun _ => 0 := by
  apply turns_of_eq
  · exact fun _ => nofun
  · rw [spawned_eq hconn]
    exact id
  · rw [ponged_eq hconn]
    rfl
  · exact .inl
  · exact on_the_way_set_requesters hconn name requesters
  · funext name'
    rw [waits_set_requesters, waits_eq hconn]
    split
    · next h => rw [h, hwaits, waits_eq hconn]
    · rfl

/-- A lookup joins those that wait, and asks if there are none. -/
theorem turns_ask (hconn : l.conn = some conn) (lookup : Lookup) :
    Turns l (l.ask conn lookup) none False fun _ => 0 := by
  have hpush : ((conn.actor_lookup_requesters lookup.name).getD [] ++ [lookup]).isEmpty = false :=
    List.isEmpty_eq_false_iff.mpr (by simp)
  unfold ask
  dsimp only
  split
  · next hempty =>
    obtain ⟨conn', hconn', hspawned, hponged, hrequesters⟩ :=
      conn_send hconn (.remote_actor_lookup_req lookup.name)
    rw [hconn', Option.map_some]
    refine ⟨fun _ => nofun, ?_, ?_, ?_, ?_, ?_⟩
    · rw [spawned_eq hconn, ← hspawned]
      exact id
    · intro hp
      rw [ponged_eq hconn, ← hponged]
      exact .inl hp
    · exact fun hmem => .inl (mem_in_flight_send hmem)
    · intro name
      rw [waits_set_requesters, waits_eq hconn, hrequesters, asks,
        on_the_way_set_requesters hconn', ← asks, asks_send hconn]
      by_cases hname : name = lookup.name
      · -- nobody has waited, and now there is a request on its way
        subst hname
        rw [hempty, if_pos rfl, if_pos rfl, Option.getD_some, hpush]
        rfl
      · rw [if_neg hname, if_neg fun h => hname (by cases h; rfl)]
        rfl
    · intro name
      rw [reps, on_the_way_set_requesters hconn', ← reps, reps_send hconn]
      rfl
  -- a request for this name is on its way already
  · next hnonempty =>
    rw [hconn, Option.map_some]
    apply turns_set_requesters hconn
    rw [waits_eq hconn, Option.getD_some, hpush]
    simpa using hnonempty

/-- An answer is given to all that wait. -/
theorem turns_conclude (hconn : l.conn = some conn) {name : Name} (hwaits : l.waits name = true)
    (actor : LocalActorHandle) :
    Turns l { l with conn := some (conn.set_requesters name none) }
      (some (.data (.remote_actor_lookup_rep name actor))) False fun _ => 0 where
  conn _ := nofun
  spawned h := by
    rw [spawned_eq hconn] at h
    exact h
  ponged hp := by
    rw [ponged_eq hconn]
    exact .inl hp
  pong := .inl
  asks name' := by
    rw [asks, on_the_way_set_requesters hconn, ← asks, waits_set_requesters, ← waits_eq hconn]
    by_cases hname : name' = name
    -- all that have waited for the name are answered at once
    · subst hname
      rw [hwaits, if_pos rfl]
      simp [NetFrame.is_rep, Data.is_rep]
    · rw [if_neg hname]
      simp [NetFrame.is_rep, Data.is_rep, Ne.symm hname]
  reps name' := by
    rw [reps, on_the_way_set_requesters hconn]
    rfl

end Link

/-! ### What a net gate keeps -/

/-- The connection that is being established, and the handler that waits for it. -/
def Control.establishing : Control → Option (Url × Continuation)
  | .spawning url k => some (url, k)
  | .waiting url k => some (url, k)
  | _ => none

namespace NetGateActor

/-- The net gate will send a `Ping` to `z` again. -/
def Retries (g : NetGateActor) (z : Url) : Prop :=
  .ping_retry z ∈ g.recv_socket ∨ .ping_retry z ∈ g.pending_messages ∨ z ∈ g.delayed_messages

/-- What a net gate keeps by itself. -/
structure Sound (g : NetGateActor) : Prop where
  not_failed : g.control ≠ .failed
  links : ∀ z, (g.link z).Sound
  spawned : ∀ z, (g.link z).conn ≠ none →
    (g.link z).spawned = true ∨ ∃ k, g.control = .spawning z k
  establishing : ∀ z k, g.control.establishing = some (z, k) →
    (g.link z).conn ≠ none ∧ ∀ lookup, k = .actor_lookup_req lookup → lookup.url = z
  parked : ∀ name, ∀ z ∈ (g.local_registered_actors name).requesters,
    (g.link z).conn ≠ none ∧ (g.local_registered_actors name).actor = none
  retries : ∀ z, g.Retries z → (g.link z).conn ≠ none

variable {g g' : NetGateActor} {url : Url} {l' : Link} {frame : Option NetFrame} {pongs : Prop}
  {answered : Name → Nat}

/-- A net gate that has been bound knows nobody. -/
theorem sound_bound (host : Host) (url : Url) : (bound host url).Sound where
  not_failed := nofun
  links _ := ⟨.refl _, fun _ => ⟨rfl, rfl⟩, iff_of_false nofun nofun, fun h => (nomatch h),
    fun _ => rfl, fun _ h => (nomatch h)⟩
  spawned _ h := absurd rfl h
  establishing _ _ h := nomatch h
  parked _ _ h := nomatch h
  retries _ h := by
    rcases h with h | h | h <;> cases h

theorem not_spawning_of_idle (hcontrol : g.control = .idle) (k : Continuation) :
    g.control ≠ .spawning url k := by
  rw [hcontrol]
  exact nofun

/-- Between handlers all known peers have their senders. -/
theorem Sound.spawned_of_idle (h : g.Sound) (hcontrol : g.control = .idle)
    (hconn : (g.link url).conn ≠ none) : (g.link url).spawned = true :=
  (h.spawned url hconn).resolve_right fun ⟨k, hk⟩ => not_spawning_of_idle hcontrol k hk

/-- While nothing is being spawned, all connections have their senders. -/
theorem Sound.conn_at (h : g.Sound) (hcontrol : ∀ k, g.control ≠ .spawning url k)
    (hconn : (g.link url).conn ≠ none) :
    ∃ conn, (g.link url).conn = some conn ∧ g.conn_at url = some conn := by
  obtain ⟨conn, hsome⟩ := Option.ne_none_iff_exists'.mp hconn
  refine ⟨conn, hsome, conn_at_eq hsome ?_⟩
  exact (h.spawned url hconn).resolve_right fun ⟨k, hk⟩ => hcontrol k hk

/-- The link to a peer changes, which neither becomes known nor is forgotten by this. -/
theorem Sound.with_link (h : g.Sound) (hl : l'.Sound)
    (hconn : (g.link url).conn ≠ none ↔ l'.conn ≠ none)
    (hspawned : (g.link url).spawned = true → l'.spawned = true) : (g.set_link url l').Sound := by
  have hconns (z : Url) (hz : (g.link z).conn ≠ none) :
      ((g.set_link url l').link z).conn ≠ none := by
    by_cases hurl : z = url
    · subst hurl
      rw [link_set_link_self]
      exact hconn.mp hz
    · rwa [link_set_link_of_ne g url l' hurl]
  refine ⟨h.not_failed, fun z => ?_, fun z hz => ?_, fun z k hk => ?_, fun name z hz => ?_,
    fun z hz => hconns z (h.retries z hz)⟩
  · by_cases hurl : z = url
    · rwa [hurl, link_set_link_self]
    · rw [link_set_link_of_ne g url l' hurl]
      exact h.links z
  -- the other peers keep their senders
  · by_cases hurl : z = url
    · subst hurl
      rw [link_set_link_self] at hz ⊢
      exact (h.spawned z (hconn.mpr hz)).imp_left hspawned
    · rw [link_set_link_of_ne g url l' hurl] at hz ⊢
      exact h.spawned z hz
  · exact (h.establishing z k hk).imp_left (hconns z)
  · exact (h.parked name z hz).imp_left (hconns z)

/-- A handler turns the link to a peer that is known. -/
theorem Sound.set_link (h : g.Sound) (hl : l'.Sound)
    (hturn : (g.link url).Turns l' frame pongs answered)
    (hnone : (g.link url).conn = none → l'.conn = none) : (g.set_link url l').Sound :=
  h.with_link hl ⟨hturn.conn, mt hnone⟩ hturn.spawned

/-- Some frames arrive or are lost. -/
theorem Sound.set_frames (h : g.Sound) {frames : List NetFrame}
    (hframes : frames.Sublist (g.link url).in_flight) : (g.set_frames url frames).Sound := by
  rw [set_frames_eq]
  exact h.with_link ((h.links url).sublist hframes) Iff.rfl id

/-- What else a net gate has does not matter. -/
theorem Sound.congr (h : g.Sound) (hlink : g'.link = g.link) (hcontrol : g'.control = g.control)
    (hregs : g'.local_registered_actors = g.local_registered_actors)
    (hretries : ∀ z, g'.Retries z → g.Retries z) : g'.Sound := by
  refine ⟨?_, ?_, ?_, ?_, ?_, ?_⟩ <;> simp only [hlink, hcontrol, hregs]
  · exact h.not_failed
  · exact h.links
  · exact h.spawned
  · exact h.establishing
  · exact h.parked
  · exact fun z hz => h.retries z (hretries z hz)

/-- The handler that has waited goes on. -/
theorem Sound.idle (h : g.Sound) (hcontrol : ∀ z k, g.control ≠ .spawning z k) :
    Sound { g with control := .idle } where
  not_failed := nofun
  links := h.links
  spawned z hz := .inl ((h.spawned z hz).resolve_right fun ⟨k, hk⟩ => hcontrol z k hk)
  establishing _ _ hk := nomatch hk
  parked := h.parked
  retries := h.retries

/-! ### What a handler does to both ends -/

/-- Is a `Pong` for `z` due when the handler that waits goes on? -/
def Pongs (g : NetGateActor) (z : Url) : Prop := g.control.establishing = some (z, .ping)

/-- How many entries `z` has among the requesters of a name. -/
def parks (g : NetGateActor) (z : Url) (name : Name) : Nat :=
  (g.local_registered_actors name).requesters.count z

/-- The frame that is handled, if it is from `z`. -/
def frame_from (hand : Option (Url × NetFrame)) (z : Url) : Option NetFrame :=
  hand.bind fun (peer, frame) => if z = peer then some frame else none

/-- The peer itself. -/
theorem frame_from_self (z : Url) (frame : NetFrame) :
    frame_from (some (z, frame)) z = some frame :=
  if_pos rfl

theorem frame_from_of_ne {z peer : Url} (h : z ≠ peer) (frame : NetFrame) :
    frame_from (some (peer, frame)) z = none :=
  if_neg h

/-- What a handler does to the links, and how it changes what is owed to others: a request
    of `z` is answered or parked. -/
structure Effect (g g' : NetGateActor) (hand : Option (Url × NetFrame)) : Prop where
  links : ∀ z, ∃ answered,
    (g.link z).Turns (g'.link z) (frame_from hand z)
      (g.Pongs z ∨ frame_from hand z = some .ping) answered ∧
    ∀ name, g'.parks z name + answered name = g.parks z name +
      if frame_from hand z = some (.data (.remote_actor_lookup_req name)) then 1 else 0
  pongs : ∀ z, g'.Pongs z → g.Pongs z ∨ frame_from hand z = some .ping

variable {hand : Option (Url × NetFrame)}

/-- One link turns. -/
theorem effect_of_turns (hlink : g'.link = Function.update g.link url l')
    (hregs : g'.local_registered_actors = g.local_registered_actors)
    (hhand : ∀ z, z ≠ url → frame_from hand z = none)
    (hturns : (g.link url).Turns l' (frame_from hand url)
      (g.Pongs url ∨ frame_from hand url = some .ping) answered)
    (hanswered : ∀ name, answered name =
      if frame_from hand url = some (.data (.remote_actor_lookup_req name)) then 1 else 0)
    (hpongs : ∀ z, g'.Pongs z → g.Pongs z ∨ frame_from hand z = some .ping) :
    Effect g g' hand where
  links z := by
    have hparks (name : Name) : g'.parks z name = g.parks z name := by
      rw [parks, parks, hregs]
    by_cases hz : z = url
    · subst hz
      refine ⟨answered, ?_, fun name => ?_⟩
      · rw [hlink, Function.update_self]
        exact hturns
      · rw [hparks, hanswered]
    · refine ⟨fun _ => 0, ?_, fun name => ?_⟩
      · rw [hlink, Function.update_of_ne hz, hhand z hz]
        exact (Link.turns_refl _).mono False.elim
      · rw [hparks, hhand z hz, if_neg nofun]
  pongs := hpongs

/-- Nothing that others see changes. -/
theorem effect_of_eq (hlink : g'.link = g.link)
    (hregs : g'.local_registered_actors = g.local_registered_actors)
    (hpongs : ∀ z, g'.Pongs z → g.Pongs z) : Effect g g' none where
  links z := by
    refine ⟨fun _ => 0, ?_, fun name => ?_⟩
    · rw [hlink]
      exact (Link.turns_refl _).mono False.elim
    · rw [parks, parks, hregs]
      rfl
  pongs z hz := .inl (hpongs z hz)

/-- A handler comes to no error branch. -/
def Handles (g : NetGateActor) (hand : Option (Url × NetFrame)) (result : Option NetGateActor) :
    Prop :=
  ∃ g', result = some g' ∧ g'.Sound ∧ Effect g g' hand

/-- A handler sees nothing but links, the point of control and the registered actors. -/
theorem Handles.congr {g₀ : NetGateActor} {result : Option NetGateActor} (hlink : g.link = g₀.link)
    (hcontrol : g.control = g₀.control)
    (hregs : g.local_registered_actors = g₀.local_registered_actors)
    (h : g.Handles hand result) : g₀.Handles hand result := by
  obtain ⟨g', hresult, hsound, hlinks, hpongs⟩ := h
  refine ⟨g', hresult, hsound, ?_, ?_⟩
  · simpa only [hlink, parks, hregs, Pongs, hcontrol] using hlinks
  · simpa only [Pongs, hcontrol] using hpongs

/-- What arrives from outside is no `PingRetry`. -/
theorem arrive_eq (g : NetGateActor) {m : GateMessage} (hm : ∀ url, m ≠ .ping_retry url) :
    ∃ m' arrived, g.arrive m = { g with recv_socket := g.recv_socket ++ [m'], arrived } ∧
      ∀ url, m' ≠ .ping_retry url := by
  cases m with
  | ping_retry url => exact absurd rfl (hm url)
  | actor_lookup_req lookup => exact ⟨_, _, rfl, fun _ => nofun⟩
  | net_gate_conn_req host port => exact ⟨_, g.arrived, rfl, hm⟩
  | actor_registration name actor => exact ⟨_, g.arrived, rfl, hm⟩
  | retrieve_actor_req info => exact ⟨_, g.arrived, rfl, hm⟩

/-- What `take_message` leaves as it is, and where the message comes from. -/
structure Takes (g g' : NetGateActor) (m : GateMessage) : Prop where
  link : g'.link = g.link
  control : g'.control = g.control
  regs : g'.local_registered_actors = g.local_registered_actors
  retries : ∀ z, g'.Retries z → g.Retries z
  retry : ∀ z, m = .ping_retry z → g.Retries z

/-- A message that has been put off goes before those in the socket. -/
theorem take_message_eq {m : GateMessage} (h : g.take_message = some (m, g')) : g.Takes g' m := by
  unfold take_message at h
  split at h
  · next pending_messages _ hpending =>
    cases h
    refine ⟨rfl, rfl, rfl, fun z hz => ?_, ?_⟩
    · exact hz.imp_right fun hz => hz.imp_left fun hz => hpending ▸ List.mem_cons_of_mem _ hz
    · rintro z rfl
      exact .inr (.inl (hpending ▸ List.mem_cons_self))
  · next recv_socket _ hrecv =>
    cases h
    refine ⟨rfl, rfl, rfl, fun z hz => ?_, ?_⟩
    · exact hz.imp_left fun hz => hrecv ▸ List.mem_cons_of_mem _ hz
    · rintro z rfl
      exact .inl (hrecv ▸ List.mem_cons_self)
  · cases h

/-! ### The handlers -/

/-- What follows `establish_connection` in a handler: nothing, a lookup, a handle, or a `Pong`. -/
theorem resume_turns (h : g.Sound) (hcontrol : ∀ k, g.control ≠ .spawning url k)
    (hconn : (g.link url).conn ≠ none) {k : Continuation}
    (hlookup : ∀ lookup, k = .actor_lookup_req lookup → lookup.url = url) :
    ∃ l' retrieved, g.resume url k = some { g.set_link url l' with retrieved } ∧ l'.Sound ∧
      (g.link url).Turns l' none (k = .ping) fun _ => 0 := by
  obtain ⟨conn, hsome, hat⟩ := h.conn_at hcontrol hconn
  -- by what the handler has done when it has called `establish_connection`
  cases k with
  | net_gate_conn_req =>
    refine ⟨g.link url, g.retrieved, ?_, h.links url, (Link.turns_refl _).mono False.elim⟩
    rw [set_link_link]
    rfl
  | actor_lookup_req lookup =>
    obtain rfl := hlookup lookup rfl
    exact ⟨_, g.retrieved, look_up_eq hsome fun _ => hat, (h.links _).ask hsome lookup,
      (Link.turns_ask hsome lookup).mono False.elim⟩
  | retrieve_actor_req info =>
    obtain ⟨net_sender_info, hsender⟩ :=
      Option.isSome_iff_exists.mp (Option.filter_eq_some_iff.mp hat).2
    refine ⟨g.link url, g.retrieved ++ [(info, .remote_actor ⟨net_sender_info, info.actor⟩)], ?_,
      h.links url, (Link.turns_refl _).mono False.elim⟩
    rw [set_link_link]
    unfold resume
    simp only [hat, Option.bind_eq_bind, Option.bind_some, hsender]
    rfl
  | ping =>
    refine ⟨_, g.retrieved, congrArg some (hand_eq _), (h.links url).hand hconn rfl, ?_⟩
    exact (Link.turns_hand rfl).mono fun _ => rfl

theorem pongs_of_control {g₀ g₁ : NetGateActor} (hcontrol : g₁.control = g₀.control) {z : Url}
    (h : g₁.Pongs z) : g₀.Pongs z := by
  rwa [Pongs, ← hcontrol]

/-- A frame that asks for nothing and concludes nothing, as a `Ping` or no frame at all. -/
structure Plain (hand : Option (Url × NetFrame)) (url : Url) : Prop where
  other : ∀ z, z ≠ url → frame_from hand z = none
  not_rep : ∀ name, (frame_from hand url).any (·.is_rep name) = false
  not_req : ∀ name, frame_from hand url ≠ some (.data (.remote_actor_lookup_req name))

/-- There is no frame, or it is a `Ping`. -/
theorem plain_none (url : Url) : Plain none url := ⟨fun _ _ => rfl, fun _ => rfl, fun _ => nofun⟩

theorem plain_ping (url : Url) : Plain (some (url, .ping)) url where
  other _ hz := frame_from_of_ne hz _
  not_rep _ := by
    rw [frame_from_self]
    rfl
  not_req _ := by
    rw [frame_from_self]
    exact nofun

/-- The peer is known, and the handler goes on at once. -/
theorem handles_resume (h : g.Sound) (hcontrol : g.control = .idle)
    (hconn : (g.link url).conn ≠ none) {k : Continuation}
    (hlookup : ∀ lookup, k = .actor_lookup_req lookup → lookup.url = url)
    (hplain : Plain hand url) (hping : k = .ping → frame_from hand url = some .ping) :
    g.Handles hand (g.resume url k) := by
  obtain ⟨l', retrieved, hresume, hl', hturns⟩ :=
    resume_turns h (not_spawning_of_idle hcontrol) hconn hlookup
  have hset := h.set_link hl' hturns fun hnone => absurd hnone hconn
  refine ⟨_, hresume, hset.congr rfl rfl rfl fun _ => id, ?_⟩
  refine effect_of_turns rfl rfl hplain.other
    ((hturns.mono fun hk => .inr (hping hk)).with_frame hplain.not_rep) ?_ ?_
  · exact fun name => (if_neg (hplain.not_req name)).symm
  · exact fun z hz => .inl hz

/-- The first steps towards a new peer. -/
theorem establish_connection_eq (hnone : (g.link url).conn = none) (k : Continuation) :
    g.establish_connection url k = some { g.set_link url
        (Link.hand { g.link url with conn := some .new } [.ping]) with
      delayed_messages := g.delayed_messages ++ [url], control := .spawning url k } := by
  have hconn : (g.set_conn url .new).net_gate_connections url = some .new :=
    Function.update_self ..
  unfold establish_connection
  rw [show g.net_gate_connections url = none from hnone]
  unfold ping_net_gate
  dsimp only
  rw [hconn, Option.map_some, Option.map_some, if_neg nofun]
  unfold imme_send_to_net_gate
  rw [hand_eq, set_conn_eq, link_set_link_self, set_link_set_link]
  rfl

/-- The peer becomes known before it has a sender, and only this one is without. -/
theorem Sound.establish (h : g.Sound) (hcontrol : g.control = .idle)
    (hnone : (g.link url).conn = none) {k : Continuation}
    (hlookup : ∀ lookup, k = .actor_lookup_req lookup → lookup.url = url) :
    Sound { g.set_link url (Link.hand { g.link url with conn := some .new } [.ping]) with
      delayed_messages := g.delayed_messages ++ [url], control := .spawning url k } := by
  -- the others stay as they are; this one gets a connection, and so does its `PingRetry`
  have hself : ((g.set_link url (Link.hand { g.link url with conn := some .new }
      [.ping])).link url).conn ≠ none := by
    rw [link_set_link_self]
    exact nofun
  have hconns (z : Url) (hz : (g.link z).conn ≠ none) :
      ((g.set_link url (Link.hand { g.link url with conn := some .new } [.ping])).link z).conn ≠
        none := by
    have hne : z ≠ url := fun heq => hz (heq ▸ hnone)
    rwa [link_set_link_of_ne g url _ hne]
  refine ⟨nofun, fun z => ?_, fun z hz => ?_, fun z k' hk => ?_, fun name z hz => ?_,
    fun z hz => ?_⟩
  · by_cases hurl : z = url
    · subst hurl
      show ((g.set_link z _).link z).Sound
      rw [link_set_link_self]
      exact ((h.links z).new hnone).hand nofun rfl
    · show ((g.set_link url _).link z).Sound
      rw [link_set_link_of_ne g url _ hurl]
      exact h.links z
  · by_cases hurl : z = url
    · -- the sender is what the handler waits for
      exact .inr ⟨k, by rw [hurl]⟩
    · change ((g.set_link url _).link z).conn ≠ none at hz
      show ((g.set_link url _).link z).spawned = true ∨ _
      rw [link_set_link_of_ne g url _ hurl] at hz ⊢
      exact .inl (h.spawned_of_idle hcontrol hz)
  · cases hk
    exact ⟨hself, hlookup⟩
  · exact (h.parked name z hz).imp_left (hconns z)
  · rcases hz with hz | hz | hz
    · exact hconns z (h.retries z (.inl hz))
    · exact hconns z (h.retries z (.inr (.inl hz)))
    · rcases List.mem_append.mp hz with hz | hz
      · exact hconns z (h.retries z (.inr (.inr hz)))
      · rw [List.mem_singleton.mp hz]
        exact hself

/-- A handler that wants a connection to a peer goes on, or waits for the sender of a new one. -/
theorem handles_establish_connection (h : g.Sound) (hcontrol : g.control = .idle)
    {k : Continuation} (hlookup : ∀ lookup, k = .actor_lookup_req lookup → lookup.url = url)
    (hplain : Plain hand url) (hping : k = .ping → frame_from hand url = some .ping) :
    g.Handles hand (g.establish_connection url k) := by
  cases hnone : (g.link url).conn with
  | some conn =>
    have hresume : g.establish_connection url k = g.resume url k := by
      unfold establish_connection
      rw [show g.net_gate_connections url = some conn from hnone]
    rw [hresume]
    exact handles_resume h hcontrol (by rw [hnone]; exact nofun) hlookup hplain hping
  | none =>
    -- a new peer: the continuation runs when its sender is there
    refine ⟨_, establish_connection_eq hnone k, h.establish hcontrol hnone hlookup, ?_⟩
    refine effect_of_turns rfl rfl hplain.other
      (((Link.turns_new hnone).mono False.elim).with_frame hplain.not_rep) ?_ ?_
    · exact fun name => (if_neg (hplain.not_req name)).symm
    · intro z hz
      cases hz
      exact .inr (hping rfl)

/-- The same data are sent to some peers, one after the other. -/
theorem foldlM_send_to_net_gate {d : Data} (hd : ∀ name, d ≠ .remote_actor_lookup_req name)
    (requesters : List Url) (g : NetGateActor) (hlinks : ∀ z, (g.link z).Sound)
    (hspawned : ∀ i ∈ requesters, (g.link i).spawned = true) :
    ∃ f, requesters.foldlM (fun (g : NetGateActor) i => g.send_to_net_gate i d) g =
        some (links f g) ∧
      ∀ z, (f z).Sound ∧ (z ∉ requesters → f z = g.link z) ∧
        (g.link z).Turns (f z) none False fun name =>
          requesters.count z * (d.is_rep name).toNat := by
  -- on the list of peers; one of them may be in it more than once
  induction requesters generalizing g with
  | nil =>
    refine ⟨g.link, rfl, fun z => ⟨hlinks z, fun _ => rfl, ?_⟩⟩
    simpa using Link.turns_refl (g.link z)
  | cons i requesters ih =>
    have hi := hspawned i List.mem_cons_self
    obtain ⟨conn, hconn⟩ := Link.conn_of_spawned hi
    have hsend := send_to_net_gate_eq (conn_at_eq hconn hi) d
    have hturns := Link.turns_send hconn hd
    have hlink (z : Url) : (g.link z).Turns ((g.set_link i ((g.link i).send conn d)).link z) none
        False fun name => if z = i then (d.is_rep name).toNat else 0 := by
      by_cases hz : z = i
      · subst hz
        simpa using hturns
      · rw [link_set_link_of_ne g i _ hz]
        simpa [hz] using Link.turns_refl (g.link z)
    obtain ⟨f, hfold, hf⟩ := ih (g.set_link i ((g.link i).send conn d))
      (fun z => by
        by_cases hz : z = i
        · rw [hz, link_set_link_self]
          exact (hlinks i).send hconn d
        · rw [link_set_link_of_ne g i _ hz]
          exact hlinks z)
      (fun j hj => (hlink j).spawned (hspawned j (List.mem_cons_of_mem _ hj)))
    refine ⟨f, ?_, fun z => ⟨(hf z).1, fun hz => ?_, ?_⟩⟩
    · rw [List.foldlM_cons, hsend]
      exact hfold
    · rw [List.mem_cons, not_or] at hz
      rw [(hf z).2.1 hz.2, link_set_link_of_ne g i _ hz.1]
    · have hboth := (hlink z).trans (hf z).2.2
      have hcount (name : Name) : (i :: requesters).count z * (d.is_rep name).toNat =
          (if z = i then (d.is_rep name).toNat else 0) +
            requesters.count z * (d.is_rep name).toNat := by
        rw [List.count_cons]
        by_cases hz : z = i
        · rw [if_pos hz, if_pos (beq_iff_eq.mpr hz.symm), Nat.add_mul, Nat.one_mul, Nat.add_comm]
        · rw [if_neg hz, if_neg fun heq => hz (beq_iff_eq.mp heq).symm, Nat.add_zero, Nat.zero_add]
      simpa only [hcount] using hboth

/-- All peers that have asked for the name are answered, and none is left. -/
theorem handles_actor_registration (h : g.Sound) (hcontrol : g.control = .idle) (name : Name)
    (l : LocalActorHandle) : g.Handles none (g.actor_registration name l) := by
  have hspawned (z : Url) (hz : (g.link z).conn ≠ none) : (g.link z).spawned = true :=
    h.spawned_of_idle hcontrol hz
  obtain ⟨f, hfold, hf⟩ := foldlM_send_to_net_gate (d := .remote_actor_lookup_rep name l)
    (fun _ => nofun) (g.local_registered_actors name).requesters
    { g with
      local_registered_actors := Function.update g.local_registered_actors name
        ⟨some l, (g.local_registered_actors name).requesters⟩
      registered := g.registered ++ [(name, l)] }
    h.links (fun z hz => hspawned z (h.parked name z hz).1)
  -- sending makes nobody unknown
  have hconns (z : Url) (hz : (g.link z).conn ≠ none) : (f z).conn ≠ none :=
    (hf z).2.2.conn hz
  let regs := Function.update (Function.update g.local_registered_actors name
    ⟨some l, (g.local_registered_actors name).requesters⟩) name ⟨some l, []⟩
  have hregs (name' : Name) : regs name' =
      if name' = name then ⟨some l, []⟩ else g.local_registered_actors name' := by
    show Function.update (Function.update _ name _) name _ name' = _
    rw [Function.update_idem, Function.update_apply]
  unfold actor_registration
  dsimp only
  rw [hfold, Option.map_some]
  refine ⟨_, rfl, ⟨?_, fun z => (hf z).1, fun z hz => .inl ?_, fun z k hk => ?_, ?_, ?_⟩, ?_⟩
  · exact h.not_failed
  · by_cases hmem : z ∈ (g.local_registered_actors name).requesters
    · exact (hf z).2.2.spawned (hspawned z (h.parked name z hmem).1)
    · change (f z).conn ≠ none at hz
      show (f z).spawned = true
      rw [(hf z).2.1 hmem] at hz ⊢
      exact hspawned z hz
  · exact (h.establishing z k hk).imp_left (hconns z)
  -- only names without an actor have requesters
  · intro name' z hz
    change z ∈ (regs name').requesters at hz
    show _ ∧ (regs name').actor = none
    rw [hregs] at hz ⊢
    split at hz
    · cases hz
    · next hname =>
      rw [if_neg hname]
      exact (h.parked name' z hz).imp_left (hconns z)
  · exact fun z hz => hconns z (h.retries z hz)
  · refine ⟨fun z => ⟨_, (hf z).2.2.mono False.elim, fun name' => ?_⟩, fun z hz => .inl hz⟩
    show (regs name').requesters.count z + _ = _
    rw [hregs]
    by_cases hname : name' = name
    · subst hname
      simp [parks, Data.is_rep, frame_from]
    · simp [parks, Data.is_rep, frame_from, hname, Ne.symm hname]

theorem handles_self (h : g.Sound) : g.Handles none (some g) :=
  ⟨g, rfl, h, effect_of_eq rfl rfl fun _ => id⟩

/-- A `PingRetry` pings again, and is delayed again, until there has been a `Pong`. -/
theorem handles_ping_net_gate (h : g.Sound) (hconn : (g.link url).conn ≠ none) :
    g.Handles none (g.ping_net_gate url) := by
  obtain ⟨conn, hsome⟩ := Option.ne_none_iff_exists'.mp hconn
  unfold ping_net_gate
  rw [show g.net_gate_connections url = some conn from hsome, Option.map_some]
  split
  · exact handles_self h
  · have hturns := Link.turns_hand (l := g.link url) (f := .ping) rfl
    have hset := h.set_link ((h.links url).hand hconn rfl) hturns fun hnone => absurd hnone hconn
    unfold imme_send_to_net_gate
    rw [hand_eq]
    refine ⟨_, rfl, ⟨hset.not_failed, hset.links, hset.spawned, hset.establishing, hset.parked, ?_⟩,
      ?_⟩
    · rintro z (hz | hz | hz)
      · exact hset.retries z (.inl hz)
      · exact hset.retries z (.inr (.inl hz))
      · rcases List.mem_append.mp hz with hz | hz
        · exact hset.retries z (.inr (.inr hz))
        · rw [List.mem_singleton.mp hz]
          show ((g.set_link url _).link url).conn ≠ none
          rwa [link_set_link_self]
    · exact effect_of_turns rfl rfl (fun _ _ => rfl) (hturns.mono nofun) (fun _ => rfl)
        fun z hz => .inl hz

/-- A handler of a message. A `PingRetry` is for a known peer. -/
theorem handles_process (h : g.Sound) (hcontrol : g.control = .idle) (m : GateMessage)
    (hretry : ∀ url, m = .ping_retry url → (g.link url).conn ≠ none) :
    g.Handles none (g.process m) := by
  cases m with
  | net_gate_conn_req host port =>
    exact handles_establish_connection h hcontrol nofun (plain_none _) nofun
  | actor_registration name actor =>
    cases actor with
    | local_actor l => exact handles_actor_registration h hcontrol name l
    | remote_actor r =>
      -- an exception ends the net gate
      exact ⟨_, rfl, ⟨nofun, h.links, fun z hz => .inl (h.spawned_of_idle hcontrol hz),
        fun _ _ hk => (nomatch hk), h.parked, h.retries⟩,
        effect_of_eq rfl rfl fun _ hz => (nomatch hz)⟩
  | actor_lookup_req lookup =>
    refine handles_establish_connection h hcontrol ?_ (plain_none _) nofun
    rintro _ ⟨⟩
    rfl
  | retrieve_actor_req info =>
    simp only [process]
    split
    · exact ⟨_, rfl, h.congr rfl rfl rfl fun _ => id, effect_of_eq rfl rfl fun _ => id⟩
    · exact handles_establish_connection h hcontrol nofun (plain_none _) nofun
  | ping_retry url => exact handles_ping_net_gate h (hretry url rfl)

/-- The sender has been spawned, and the handler waits for the port of the receiver. -/
theorem handles_spawn (h : g.Sound) {k : Continuation} (hcontrol : g.control = .spawning url k)
    (sender : LocalActorHandle) : g.Handles none (g.spawn url k sender) := by
  have hest := h.establishing url k (by rw [hcontrol]; rfl)
  obtain ⟨conn, hsome⟩ := Option.ne_none_iff_exists'.mp hest.1
  have hturns : (g.link url).Turns { g.link url with
      conn := some { conn with net_sender_info := some ⟨sender, g.bind_url, url⟩ } } none False
      fun _ => 0 :=
    Link.turns_set_conn hsome (fun _ => rfl) rfl rfl rfl
  have hlink : Link.Sound { g.link url with
      conn := some { conn with net_sender_info := some ⟨sender, g.bind_url, url⟩ } } :=
    (h.links url).set_conn hsome rfl rfl
  have hset := h.set_link hlink hturns fun hnone => absurd hnone hest.1
  unfold spawn
  rw [show g.net_gate_connections url = some conn from hsome, Option.map_some, set_conn_eq]
  refine ⟨_, rfl, ⟨nofun, hset.links, fun z hz => .inl ?_, fun z k' hk => ?_, hset.parked,
    hset.retries⟩, ?_⟩
  · show ((g.set_link url _).link z).spawned = true
    by_cases hurl : z = url
    · subst hurl
      rw [link_set_link_self]
      rfl
    -- only one sender is spawned at a time
    · refine (hset.spawned z hz).resolve_right fun ⟨k', hk'⟩ => hurl ?_
      cases hcontrol.symm.trans hk'
      rfl
  · refine hset.establishing z k' ?_
    cases hk
    show g.control.establishing = _
    rw [hcontrol]
    rfl
  · refine effect_of_turns rfl rfl (fun _ _ => rfl) (hturns.mono False.elim) (fun _ => rfl) ?_
    intro z hz
    left
    cases hz
    show g.control.establishing = _
    rw [hcontrol]
    rfl

/-- The peer is told the port, and the handler goes on. Until its `Pong` this is pending. -/
theorem handles_bind_port_rep (h : g.Sound) {k : Continuation}
    (hcontrol : g.control = .waiting url k) (port : UInt16) :
    g.Handles none (g.bind_port_rep url k port) := by
  have hest := h.establishing url k (by rw [hcontrol]; rfl)
  have hwaiting (z : Url) (k' : Continuation) : g.control ≠ .spawning z k' := by
    rw [hcontrol]
    exact nofun
  obtain ⟨conn, hsome, hat⟩ := h.conn_at (hwaiting url) hest.1
  have hsend := Link.turns_send hsome (d := .data_conn_req g.bind_host port) fun _ => nofun
  have hset := h.set_link ((h.links url).send hsome _) hsend fun hnone => absurd hnone hest.1
  -- the port has been sent, and now the handler goes on
  have hidle := hset.idle hwaiting
  have hconn : ((g.set_link url ((g.link url).send conn (.data_conn_req g.bind_host port))).link
      url).conn ≠ none := by
    rw [link_set_link_self]
    exact hsend.conn hest.1
  obtain ⟨l', retrieved, hresume, hl', hturns⟩ := resume_turns hidle nofun hconn hest.2
  have hturns' : ((g.link url).send conn (.data_conn_req g.bind_host port)).Turns l' none
      (k = .ping) fun _ => 0 := by
    have := hturns
    change Link.Turns ((g.set_link url _).link url) l' _ _ _ at this
    rwa [link_set_link_self] at this
  unfold bind_port_rep
  rw [send_to_net_gate_eq hat, Option.bind_some]
  refine ⟨_, hresume, (hidle.set_link hl' hturns fun hnone => absurd hnone hconn).congr rfl rfl rfl
    fun _ => id, ?_⟩
  refine effect_of_turns ?_ rfl (fun _ _ => rfl) ((hsend.trans hturns').mono ?_) (fun _ => rfl) ?_
  · exact Function.update_idem ..
  · rintro rfl
    left
    show g.control.establishing = _
    rw [hcontrol]
    rfl
  · exact fun z hz => (nomatch hz)

/-- A frame other than a `Pong` is noted. -/
theorem Sound.log_frame (h : g.Sound) {frame : NetFrame} (hframe : frame ≠ .pong) :
    (g.log_frame url frame).Sound := by
  rw [log_frame_eq]
  exact h.set_link ((h.links url).log fun heq => absurd heq hframe) (Link.turns_log _ _) id

/-- Others do not see that a frame has been noted. -/
theorem Effect.of_log_frame {peer : Url} {frame : NetFrame}
    (h : Effect (g.log_frame peer frame) g' hand) : Effect g g' hand where
  links z := by
    obtain ⟨answered, hturns, hparks⟩ := h.links z
    refine ⟨answered, ?_, hparks⟩
    rw [log_frame_eq] at hturns
    by_cases hz : z = peer
    · subst hz
      rw [link_set_link_self] at hturns
      exact ⟨hturns.conn, hturns.spawned, hturns.ponged, hturns.pong, hturns.asks, hturns.reps⟩
    · rw [link_set_link_of_ne g peer _ hz] at hturns
      exact hturns
  pongs := h.pongs

theorem link_log_frame (g : NetGateActor) (peer : Url) (frame : NetFrame) :
    (g.log_frame peer frame).link peer =
      { g.link peer with received := (g.link peer).received ++ [frame] } := by
  rw [log_frame_eq, link_set_link_self]

/-- One link turns, while nothing is established. -/
theorem handles_set_link (h : g.Sound) {peer : Url} {frame : NetFrame} (hl : l'.Sound)
    (hturns : (g.link peer).Turns l' (some frame) False answered)
    (hnone : (g.link peer).conn = none → l'.conn = none)
    (hanswered : ∀ name, answered name =
      if frame = .data (.remote_actor_lookup_req name) then 1 else 0) :
    g.Handles (some (peer, frame)) (some (g.set_link peer l')) := by
  have hturns' : (g.link peer).Turns l' (frame_from (some (peer, frame)) peer)
      (g.Pongs peer ∨ frame_from (some (peer, frame)) peer = some .ping) answered := by
    rw [frame_from_self]
    exact hturns.mono False.elim
  refine ⟨_, rfl, h.set_link hl hturns hnone, effect_of_turns rfl rfl
    (fun z hz => frame_from_of_ne hz frame) hturns' ?_ fun z hz => .inl hz⟩
  intro name
  rw [frame_from_self, hanswered]
  simp only [Option.some.injEq]

theorem Handles.of_log_frame (peer : Url) (frame : NetFrame) {result : Option NetGateActor}
    (h : (g.log_frame peer frame).Handles hand result) : g.Handles hand result := by
  obtain ⟨g', hresult, hsound, heffect⟩ := h
  exact ⟨g', hresult, hsound, heffect.of_log_frame⟩

/-- A `Pong` finds the entry of its peer, which has been pinged. -/
theorem handles_receive_pong (h : g.Sound) {peer : Url} (hcontrol : g.control = .idle)
    (hconn : (g.link peer).conn ≠ none) :
    g.Handles (some (peer, .pong)) ((g.log_frame peer .pong).receive_pong peer) := by
  obtain ⟨conn, hsome, hat⟩ := h.conn_at (not_spawning_of_idle hcontrol) hconn
  have hat' : (g.log_frame peer .pong).conn_at peer = some conn := hat
  rw [receive_pong_eq hat', link_log_frame, log_frame_eq, set_link_set_link]
  split
  -- another `Pong` does nothing
  · next hponged =>
    have hp : (g.link peer).ponged = true := (Link.ponged_eq hsome).trans hponged
    exact handles_set_link h ((h.links peer).log fun _ => hp)
      ((Link.turns_log _ _).with_frame fun _ => rfl) id fun name => (if_neg nofun).symm
  · next hponged =>
    have hsome' : Link.conn { g.link peer with
        received := (g.link peer).received ++ [.pong] } = some conn := hsome
    have hturns := Link.turns_pong hsome'
    exact handles_set_link h ((h.links peer).pong hsome (by simpa using hponged))
      ⟨hturns.conn, hturns.spawned, hturns.ponged, hturns.pong, hturns.asks, hturns.reps⟩
      (fun hnone => absurd hnone hconn) fun name => (if_neg nofun).symm

/-- The request that is handled is the one of this peer for this name. -/
theorem frame_from_req_iff (peer z : Url) (name name' : Name) :
    frame_from (some (peer, .data (.remote_actor_lookup_req name))) z =
      some (.data (.remote_actor_lookup_req name')) ↔ z = peer ∧ name' = name := by
  by_cases hz : z = peer
  · rw [hz, frame_from_self, Option.some.injEq, NetFrame.data.injEq,
      Data.remote_actor_lookup_req.injEq, and_iff_right rfl]
    exact eq_comm
  · rw [frame_from_of_ne hz]
    exact iff_of_false nofun fun hand => hz hand.1

/-- A request for a name that is not registered waits at its entry. -/
theorem handles_park (h : g.Sound) {peer : Url} (hconn : (g.link peer).conn ≠ none) {name : Name}
    {regs : Name → LocalActor}
    (hregs : ∀ name', regs name' = if name' = name then
      ⟨none, (g.local_registered_actors name).requesters ++ [peer]⟩
      else g.local_registered_actors name') :
    g.Handles (some (peer, .data (.remote_actor_lookup_req name)))
      (some { g with local_registered_actors := regs }) := by
  refine ⟨_, rfl, ⟨h.not_failed, h.links, h.spawned, h.establishing, fun name' z hz => ?_,
    h.retries⟩, fun z => ⟨fun _ => 0, ?_, fun name' => ?_⟩, fun z hz => .inl hz⟩
  · change z ∈ (regs name').requesters at hz
    show _ ∧ (regs name').actor = none
    rw [hregs] at hz ⊢
    split at hz
    · next hname =>
      rw [if_pos hname]
      refine ⟨?_, rfl⟩
      rcases List.mem_append.mp hz with hz | hz
      · exact (h.parked name z hz).1
      · rwa [List.mem_singleton.mp hz]
    · next hname =>
      rw [if_neg hname]
      exact h.parked name' z hz
  · refine ((Link.turns_refl _).mono False.elim).with_frame fun _ => ?_
    by_cases hz : z = peer
    · rw [hz, frame_from_self]
      rfl
    · rw [frame_from_of_ne hz]
      rfl
  -- one more entry for the peer, and one more request that has come from it
  · show (regs name').requesters.count z + 0 =
      (g.local_registered_actors name').requesters.count z + _
    simp only [frame_from_req_iff]
    rw [hregs, Nat.add_zero]
    by_cases hname : name' = name
    · rw [hname, if_pos rfl, List.count_append, List.count_singleton]
      refine congrArg _ (if_congr ?_ rfl rfl)
      rw [beq_iff_eq, and_iff_left rfl]
      exact eq_comm
    · rw [if_neg hname, if_neg fun hand => hname hand.2, Nat.add_zero]

/-- A request is answered if the name is registered, and otherwise parked. -/
theorem handles_remote_actor_lookup_req (h : g.Sound) (hcontrol : g.control = .idle) {peer : Url}
    (hconn : (g.link peer).conn ≠ none) (name : Name) :
    g.Handles (some (peer, .data (.remote_actor_lookup_req name)))
      (g.remote_actor_lookup_req peer name) := by
  obtain ⟨conn, hsome, hat⟩ := h.conn_at (not_spawning_of_idle hcontrol) hconn
  unfold remote_actor_lookup_req
  dsimp only
  split
  · next l hactor =>
    rw [send_to_net_gate_eq hat]
    have hturns := Link.turns_send hsome (d := .remote_actor_lookup_rep name l) fun _ => nofun
    refine handles_set_link h ((h.links peer).send hsome _) (hturns.with_frame fun _ => rfl)
      (fun hnone => absurd hnone hconn) fun name' => ?_
    by_cases hname : name = name'
    · simp [Data.is_rep, hname]
    · simp [Data.is_rep, hname]
  · next hactor =>
    refine handles_park h hconn fun name' => ?_
    rw [Function.update_apply, hactor]

/-- An answer finds the lookups that wait for it: `find(name)` is not the end. -/
theorem handles_remote_actor_lookup_rep (h : g.Sound) (hcontrol : g.control = .idle) {peer : Url}
    (hconn : (g.link peer).conn ≠ none) {name : Name} (hwaits : (g.link peer).waits name = true)
    (remote_actor : LocalActorHandle) :
    g.Handles (some (peer, .data (.remote_actor_lookup_rep name remote_actor)))
      (g.remote_actor_lookup_rep peer name remote_actor) := by
  obtain ⟨conn, hsome, hat⟩ := h.conn_at (not_spawning_of_idle hcontrol) hconn
  obtain ⟨net_sender_info, hsender⟩ :=
    Option.isSome_iff_exists.mp (Option.filter_eq_some_iff.mp hat).2
  obtain ⟨requesters, hrequesters⟩ : ∃ requesters,
      conn.actor_lookup_requesters name = some requesters := by
    rw [Link.waits_eq hsome] at hwaits
    cases hnone : conn.actor_lookup_requesters name with
    | none =>
      rw [hnone] at hwaits
      cases hwaits
    | some requesters => exact ⟨requesters, rfl⟩
  have hlink : Link.Sound { g.link peer with conn := some (conn.set_requesters name none) } :=
    (h.links peer).set_conn hsome rfl rfl
  obtain ⟨g', hg', hsound, heffect⟩ := handles_set_link h hlink
    (Link.turns_conclude hsome hwaits remote_actor) (fun hnone => absurd hnone hconn)
    fun name => (if_neg nofun).symm
  cases hg'
  unfold remote_actor_lookup_rep
  simp only [hat, hrequesters, hsender, Option.bind_eq_bind, Option.bind_some]
  rw [set_conn_eq]
  exact ⟨_, rfl, hsound.congr rfl rfl rfl fun _ => id, heffect.links, heffect.pongs⟩

/-- Where the peer receives is passed on to the sender. -/
theorem handles_data_conn_req (h : g.Sound) (hcontrol : g.control = .idle) {peer : Url}
    (hconn : (g.link peer).conn ≠ none) (host : Host) (port : UInt16) :
    g.Handles (some (peer, .data (.data_conn_req host port)))
      (g.process_frame peer (.data (.data_conn_req host port))) := by
  obtain ⟨conn, hsome, hat⟩ := h.conn_at (not_spawning_of_idle hcontrol) hconn
  have hlink : Link.Sound { g.link peer with
      conn := some { conn with data_conn_reqs := conn.data_conn_reqs ++ [(host, port)] } } :=
    (h.links peer).set_conn hsome rfl rfl
  have hturns : (g.link peer).Turns { g.link peer with
      conn := some { conn with data_conn_reqs := conn.data_conn_reqs ++ [(host, port)] } } none
      False fun _ => 0 :=
    Link.turns_set_conn hsome id rfl rfl rfl
  simp only [process_frame, hat, Option.map_some]
  rw [set_conn_eq]
  exact handles_set_link h hlink (hturns.with_frame fun _ => rfl)
    (fun hnone => absurd hnone hconn) fun name => (if_neg nofun).symm

/-- A handler of a frame, which comes from a known peer unless it is a `Ping`; an answer is
    waited for. -/
theorem handles_process_frame (h : g.Sound) (hcontrol : g.control = .idle) {peer : Url}
    {frame : NetFrame} (hconn : frame ≠ .ping → (g.link peer).conn ≠ none)
    (hwaits : ∀ name actor, frame = .data (.remote_actor_lookup_rep name actor) →
      (g.link peer).waits name = true) :
    g.Handles (some (peer, frame)) ((g.log_frame peer frame).process_frame peer frame) := by
  have hlogged (hframe : frame ≠ .pong) : (g.log_frame peer frame).Sound := h.log_frame hframe
  cases frame with
  | pong => exact handles_receive_pong h hcontrol (hconn nofun)
  | ping =>
    apply Handles.of_log_frame peer .ping
    exact handles_establish_connection (hlogged nofun) hcontrol nofun (plain_ping peer)
      fun _ => frame_from_self peer .ping
  | data d =>
    apply Handles.of_log_frame peer (.data d)
    cases d with
    | data_conn_req host port =>
      exact handles_data_conn_req (hlogged nofun) hcontrol (hconn nofun) host port
    | remote_actor_lookup_req name =>
      exact handles_remote_actor_lookup_req (hlogged nofun) hcontrol (hconn nofun) name
    | remote_actor_lookup_rep name actor =>
      exact handles_remote_actor_lookup_rep (hlogged nofun) hcontrol (hconn nofun)
        (hwaits name actor rfl) actor

end NetGateActor

end ZAF
