import ZAF.NetGate.Cluster

/-! # Where messages go

    The sender of a net gate for a peer connects to one receiver, the one that the peer has
    spawned for this net gate. So all that is sent with the handle of an actor at a peer
    goes to this peer, and all that is received from a peer comes with a handle that leads
    back to it.
-/

namespace ZAF

open LTS

namespace Cluster

open NetGates NetGateActor

variable {codecs : Codecs} {β β' : Type} {bodies : BodyCodec β β'} {connects : List UInt8 → Bool}

/-- The ports of the receivers. -/
def ports (c : Cluster codecs β) : Ports := fun x y => (c.receivers x y).map (·.bind_port)

/-- What holds of the net gates, their senders and their receivers together. -/
structure Linked (c : Cluster codecs β) : Prop where
  gates : c.gates.Sound
  wired : c.gates.Wired c.ports
  senders : ∀ x y, c.senders x y = none ↔ c.info x y = none
  receivers : ∀ x y r, c.receivers x y = some r → c.info x y = some r.net_sender_info
  /-- A sender is connected to what it has been told. -/
  connections : ∀ x y q, c.senders x y = some q →
    q.connections <+: ((c.gates x).link y).endpoints
  ids : ∀ x y info, c.info x y = some info → (x, info.net_sender) ∈ c.ids
  ids_injective : ∀ x y y' info info', c.info x y = some info → c.info x y' = some info' →
    info.net_sender = info'.net_sender → y = y'
  bound : ∀ x y r, c.receivers x y = some r → c.endpoint x r ∈ c.bound
  bound_injective : ∀ x y r x' y' r', c.receivers x y = some r → c.receivers x' y' = some r' →
    c.endpoint x r = c.endpoint x' r' → x = x' ∧ y = y'

variable {c c' : Cluster codecs β} {x y : Url} {q q' : NetSender codecs β} {r r' : NetReceiver}

theorem update_update_apply {α : Type} (f : Url → Url → α) (x y : Url) (v : α) (a b : Url) :
    Function.update f x (Function.update (f x) y v) a b = if a = x ∧ b = y then v else f a b := by
  by_cases ha : a = x
  · subst ha
    rw [Function.update_self, Function.update_apply]
    simp only [true_and]
  · rw [Function.update_of_ne ha, if_neg fun hab => ha hab.1]

theorem senders_set_sender (c : Cluster codecs β) (x y : Url) (q : NetSender codecs β) (a b : Url) :
    (c.set_sender x y q).senders a b = if a = x ∧ b = y then some q else c.senders a b :=
  update_update_apply ..

theorem receivers_set_receiver (c : Cluster codecs β) (x y : Url) (r : NetReceiver) (a b : Url) :
    (c.set_receiver x y r).receivers a b = if a = x ∧ b = y then some r else c.receivers a b :=
  update_update_apply ..

/-! ### Steps -/

/-- The net gates make a step that senders and receivers do not notice. -/
theorem Linked.steady (h : c.Linked) {gates : NetGates} (hsound : gates.Sound)
    (hwired : gates.Wired c.ports) (hsteady : ∀ a, Steady (c.gates a) (gates a)) :
    Linked { c with gates } := by
  have hinfo (a b : Url) : Cluster.info { c with gates } a b = c.info a b := (hsteady a).info b
  have hendpoint (a : Url) (r : NetReceiver) :
      Cluster.endpoint { c with gates } a r = c.endpoint a r :=
    Prod.ext (hsteady a).bind_host rfl
  refine ⟨hsound, hwired, fun a b => ?_, fun a b r hr => ?_, fun a b q hq => ?_,
    fun a b info hab => ?_, fun a b b' info info' hb hb' hsame => ?_, fun a b r hr => ?_,
    fun a b r a' b' r' hr hr' hsame => ?_⟩
  · rw [hinfo]
    exact h.senders a b
  · rw [hinfo]
    exact h.receivers a b r hr
  · exact (h.connections a b q hq).trans ((hsteady a).endpoints b)
  · rw [hinfo] at hab
    exact h.ids a b info hab
  · rw [hinfo] at hb hb'
    exact h.ids_injective a b b' info info' hb hb' hsame
  · rw [hendpoint]
    exact h.bound a b r hr
  · rw [hendpoint, hendpoint] at hsame
    exact h.bound_injective a b r a' b' r' hr hr' hsame

/-- A sender makes a step. -/
theorem Linked.set_sender (h : c.Linked) (hq : c.senders x y = some q)
    (hpre : q'.connections <+: ((c.gates x).link y).endpoints) :
    (c.set_sender x y q').Linked := by
  refine ⟨h.gates, h.wired, fun a b => ?_, h.receivers, fun a b q₁ hq₁ => ?_, h.ids,
    h.ids_injective, h.bound, h.bound_injective⟩
  · rw [senders_set_sender]
    split
    · next hab =>
      have hsome := (h.senders x y).not.mp (by rw [hq]; exact nofun)
      rw [hab.1, hab.2]
      exact iff_of_false nofun hsome
    · exact h.senders a b
  · rw [senders_set_sender] at hq₁
    split at hq₁
    · next hab =>
      cases hq₁
      rw [hab.1, hab.2]
      exact hpre
    · exact h.connections a b q₁ hq₁

/-- A receiver delivers something, or ends. -/
theorem Linked.set_receiver (h : c.Linked) (hr : c.receivers x y = some r)
    (hinfo : r'.net_sender_info = r.net_sender_info) (hport : r'.bind_port = r.bind_port) :
    (c.set_receiver x y r').Linked := by
  -- whatever is known of a receiver of the new cluster is known of one of the old one
  have hold (a b : Url) (r₁ : NetReceiver) (hr₁ : (c.set_receiver x y r').receivers a b = some r₁) :
      ∃ r₀, c.receivers a b = some r₀ ∧ r₁.net_sender_info = r₀.net_sender_info ∧
        r₁.bind_port = r₀.bind_port := by
    rw [receivers_set_receiver] at hr₁
    split at hr₁
    · next hab =>
      cases hr₁
      exact ⟨r, by rw [hab.1, hab.2, hr], hinfo, hport⟩
    · exact ⟨r₁, hr₁, rfl, rfl⟩
  have hendpoint {a : Url} {r₁ r₀ : NetReceiver} (hsame : r₁.bind_port = r₀.bind_port) :
      (c.set_receiver x y r').endpoint a r₁ = c.endpoint a r₀ := Prod.ext rfl hsame
  have hports : (c.set_receiver x y r').ports = c.ports := by
    funext a b
    unfold ports
    rw [receivers_set_receiver]
    split
    · next hab =>
      rw [hab.1, hab.2, hr]
      exact congrArg some hport
    · rfl
  refine ⟨h.gates, hports ▸ h.wired, h.senders, fun a b r₁ hr₁ => ?_, h.connections, h.ids,
    h.ids_injective, fun a b r₁ hr₁ => ?_, fun a b r₁ a' b' r₁' hr₁ hr₁' hsame => ?_⟩
  · obtain ⟨r₀, hr₀, hinfo₀, -⟩ := hold a b r₁ hr₁
    rw [hinfo₀]
    exact h.receivers a b r₀ hr₀
  · obtain ⟨r₀, hr₀, -, hport₀⟩ := hold a b r₁ hr₁
    rw [hendpoint hport₀]
    exact h.bound a b r₀ hr₀
  · obtain ⟨r₀, hr₀, -, hport₀⟩ := hold a b r₁ hr₁
    obtain ⟨r₀', hr₀', -, hport₀'⟩ := hold a' b' r₁' hr₁'
    rw [hendpoint hport₀, hendpoint hport₀'] at hsame
    exact h.bound_injective a b r₀ a' b' r₀' hr₀ hr₀' hsame

/-- The sender and the receiver for `url` are spawned. -/
theorem Linked.spawn (h : c.Linked) {url : Url} {k : Continuation}
    (hcontrol : (c.gates x).control = .spawning url k) {sender : LocalActorHandle} {port : UInt16}
    (hid : (x, sender) ∉ c.ids) (hport : ((c.gates x).bind_host, port) ∉ c.bound)
    {gates : NetGates} (hnext : c.gates.next (.spawn x sender) = some gates) :
    Linked { (c.set_sender x url .spawned).set_receiver x url
        (.spawned ⟨sender, (c.gates x).bind_url, url⟩ port) with
      gates
      ids := (x, sender) :: c.ids
      bound := ((c.gates x).bind_host, port) :: c.bound } := by
  have hsound := h.gates.next _ hnext
  simp only [NetGates.next, hcontrol, Option.some.injEq] at hnext
  subst hnext
  obtain ⟨g, hg, heq⟩ := hsound.checked_eq
  rw [heq] at hsound ⊢
  have hspawns := spawn_spawns hcontrol ((h.wired.told x).spawning url k hcontrol) hg
  have hwired := h.wired.spawn hcontrol hg port
  -- what the new entries are, and that the others are as before
  have hbind (a : Url) : (c.gates.set x g a).bind_host = (c.gates a).bind_host :=
    forall_set (p := fun a g => g.bind_host = (c.gates a).bind_host) hspawns.bind_host
      (fun _ => rfl) a
  have hinfo (a b : Url) : ((c.gates.set x g a).link b).info =
      if a = x ∧ b = url then some ⟨sender, (c.gates x).bind_url, url⟩ else c.info a b := by
    by_cases ha : a = x
    · subst ha
      rw [set_self, hspawns.info_eq]
      simp only [true_and]
      rfl
    · rw [set_of_ne _ ha, if_neg fun hab => ha hab.1]
      rfl
  let r₀ : NetReceiver := .spawned ⟨sender, (c.gates x).bind_url, url⟩ port
  have hsenders (a b : Url) := senders_set_sender c x url .spawned a b
  have hreceivers (a b : Url) := receivers_set_receiver c x url r₀ a b
  have hports : (c.set_receiver x url r₀).ports =
      Function.update c.ports x (Function.update (c.ports x) url (some port)) := by
    funext a b
    rw [ports, hreceivers, update_update_apply]
    split <;> rfl
  refine ⟨hsound, ?_, fun a b => ?_, fun a b r hr => ?_, fun a b q hq => ?_, fun a b info hab => ?_,
    fun a b b' info info' hb hb' hsame => ?_, fun a b r hr => ?_,
    fun a b r a' b' r' hr hr' hsame => ?_⟩
  · show Wired _ (c.set_receiver x url r₀).ports
    exact hports ▸ hwired
  · show (c.set_sender x url .spawned).senders a b = none ↔
      ((c.gates.set x g a).link b).info = none
    rw [hsenders, hinfo]
    split
    · exact iff_of_false (Option.some_ne_none _) (Option.some_ne_none _)
    · exact h.senders a b
  · show ((c.gates.set x g a).link b).info = _
    change (c.set_receiver x url r₀).receivers a b = some r at hr
    rw [hreceivers] at hr
    rw [hinfo]
    split at hr
    · next hab =>
      cases hr
      rw [if_pos hab]
      rfl
    · next hab =>
      rw [if_neg hab]
      exact h.receivers a b r hr
  · show _ <+: ((c.gates.set x g a).link b).endpoints
    change (c.set_sender x url .spawned).senders a b = some q at hq
    rw [hsenders] at hq
    split at hq
    · cases hq
      exact List.nil_prefix
    · refine (h.connections a b q hq).trans ?_
      exact forall_set (p := fun a g => ((c.gates a).link b).endpoints <+: (g.link b).endpoints)
        (hspawns.endpoints b ▸ List.prefix_append _ _) (fun _ => List.prefix_rfl) a
  · change ((c.gates.set x g a).link b).info = _ at hab
    rw [hinfo] at hab
    split at hab
    · next heq =>
      cases hab
      rw [heq.1]
      exact List.mem_cons_self
    · exact List.mem_cons_of_mem _ (h.ids a b info hab)
  -- the id of the new sender is not that of an old one
  · change ((c.gates.set x g a).link b).info = _ at hb
    change ((c.gates.set x g a).link b').info = _ at hb'
    have hfresh {b : Url} {info : NetSenderInfo} (hold : c.info a b = some info)
        (hsender : info.net_sender = sender) (ha : a = x) : False := by
      have hmem := h.ids a b info hold
      rw [ha, hsender] at hmem
      exact hid hmem
    rw [hinfo] at hb hb'
    split at hb
    · next hab =>
      cases hb
      split at hb'
      · next hab' => rw [hab.2, hab'.2]
      · exact (hfresh hb' hsame.symm hab.1).elim
    · split at hb'
      · next hab' =>
        cases hb'
        exact (hfresh hb hsame hab'.1).elim
      · exact h.ids_injective a b b' info info' hb hb' hsame
  · show ((c.gates.set x g a).bind_host, r.bind_port) ∈ _
    change (c.set_receiver x url r₀).receivers a b = some r at hr
    rw [hreceivers] at hr
    rw [hbind]
    split at hr
    · next hab =>
      cases hr
      rw [hab.1]
      exact List.mem_cons_self
    · exact List.mem_cons_of_mem _ (h.bound a b r hr)
  -- the new receiver is not bound where an old one is
  · change ((c.gates.set x g a).bind_host, r.bind_port) =
      ((c.gates.set x g a').bind_host, r'.bind_port) at hsame
    change (c.set_receiver x url r₀).receivers a b = some r at hr
    change (c.set_receiver x url r₀).receivers a' b' = some r' at hr'
    rw [hbind, hbind] at hsame
    rw [hreceivers] at hr hr'
    split at hr
    · next hab =>
      cases hr
      split at hr'
      · next hab' => exact ⟨hab.1.trans hab'.1.symm, hab.2.trans hab'.2.symm⟩
      · rw [hab.1] at hsame
        exact absurd (hsame ▸ h.bound a' b' r' hr') hport
    · split at hr'
      · next hab' =>
        cases hr'
        rw [hab'.1] at hsame
        exact absurd (hsame ▸ h.bound a b r hr) hport
      · exact h.bound_injective a b r a' b' r' hr hr' hsame

theorem Linked.next (h : c.Linked) {l : ClusterStep codecs β}
    (hnext : c.next bodies connects l = some c') : c'.Linked := by
  cases stepped_of_next hnext with
  | gate l gates hplain hgates =>
    have hplainly := plainly_of_next h.gates hplain hgates
    exact h.steady (h.gates.next _ hgates) (h.wired.plainly hplainly) (steady_of_plainly hplainly)
  | spawn x url k sender port gates hcontrol hid hport hgates =>
    exact h.spawn hcontrol hid hport hgates
  | bind_port_rep x url k r gates hcontrol hr hgates =>
    have hsound := h.gates.next _ hgates
    simp only [NetGates.next, hcontrol, Option.some.injEq] at hgates
    subst hgates
    obtain ⟨g, hg, heq⟩ := hsound.checked_eq
    rw [heq] at hsound ⊢
    have hport : c.ports x url = some r.bind_port := congrArg (Option.map _) hr
    have hat := (h.wired.told x).continuation url k (by rw [hcontrol]; rfl)
    refine h.steady hsound (h.wired.bind_port_rep hcontrol hport hg) fun a => ?_
    exact forall_set (p := fun a g => Steady (c.gates a) g)
      (steady_of_tells (bind_port_rep_tells hcontrol hat hg))
      (fun _ => ⟨rfl, fun _ => rfl, fun _ => List.prefix_rfl⟩) a
  | forward x y r m q info run hq hinfo hsender hrecv hrun =>
    exact h.set_sender hq (h.connections x y q hq)
  | data_conn_req x y q host port run hq hget hrun =>
    refine h.set_sender hq ?_
    -- the next one of those that it has been told
    obtain ⟨rest, hrest⟩ := h.connections x y q hq
    rw [← hrest, List.getElem?_append_right (Nat.le_refl _), Nat.sub_self] at hget
    cases rest with
    | nil => cases hget
    | cons e rest =>
      cases hget
      exact ⟨rest, by rw [← hrest, List.append_assoc]; rfl⟩
  | sender x y step q run hq hown hrun => exact h.set_sender hq (h.connections x y q hq)
  | terminate x y r hr hactivated hidle => exact h.set_receiver hr rfl rfl
  | receive x y a b r q frames ds rest hr hq hactivated hmem hframes hread =>
    have hsender : (c.set_sender a b { q with taken := q.taken + 1 }).Linked :=
      h.set_sender hq (h.connections a b q hq)
    exact hsender.set_receiver hr rfl rfl

theorem linked_of_reachable {guard : Cluster codecs β → ClusterStep codecs β → Prop}
    (h : ReachableVia (system bodies connects) guard c) : c.Linked := by
  refine h.invariant Linked (fun c hinit => ?_) fun _ _ _ hc _ hnext => hc.next hnext
  obtain ⟨hgates, hsenders, hreceivers, hids, hbound⟩ := hinit
  have hwired := wired_init hgates
  have hports : c.ports = fun _ _ => none := by
    funext a b
    rw [ports, hreceivers]
    rfl
  have hinfo (a b : Url) : c.info a b = none := ((hwired.told a).spawned b).mpr rfl
  refine ⟨sound_init hgates, hports ▸ hwired, fun a b => iff_of_true (hsenders a b) (hinfo a b),
    ?_, ?_, ?_, ?_, ?_, ?_⟩
  all_goals simp only [hsenders, hreceivers, hinfo]
  all_goals exact fun _ _ => nofun

/-- A step of the cluster is one of the net gates, or they do nothing. -/
theorem gates_next {l : ClusterStep codecs β} (hnext : c.next bodies connects l = some c') :
    c'.gates = c.gates ∨ ∃ l', NetGates.system.next c.gates l' = some c'.gates := by
  cases stepped_of_next hnext with
  | gate l gates hplain hgates => exact .inr ⟨l, hgates⟩
  | spawn x url k sender port gates hcontrol hid hport hgates =>
    exact .inr ⟨.spawn x sender, hgates⟩
  | bind_port_rep x url k r gates hcontrol hr hgates =>
    exact .inr ⟨.bind_port_rep x r.bind_port, hgates⟩
  | forward => exact .inl rfl
  | data_conn_req => exact .inl rfl
  | sender => exact .inl rfl
  | receive => exact .inl rfl
  | terminate => exact .inl rfl

/-- The net gates of a cluster run as they do by themselves. -/
def gates_simulation (guard : Cluster codecs β → ClusterStep codecs β → Prop) :
    Simulation (system bodies connects) guard NetGates.system fun _ => True where
  image := gates
  image_init _ h := h.1
  image_step _ _ _ _ _ hnext := gates_next hnext

theorem reachable_gates {guard : Cluster codecs β → ClusterStep codecs β → Prop}
    (h : ReachableVia (system bodies connects) guard c) : Reachable NetGates.system c.gates :=
  (gates_simulation guard).reachable (fun _ _ => trivial) h

/-! ### Routes -/

variable (bodies connects) in
/-- With this handle, `x` reaches the actor `l` of the peer `y`, and nobody else. -/
def Leads (c : Cluster codecs β) (x : Url) (actor : Actor) (y : Url) (l : LocalActorHandle) :
    Prop :=
  ∃ info, actor = .remote_actor ⟨info, l⟩ ∧ c.info x y = some info ∧
    ∀ z m, (c.next bodies connects (.forward x z ⟨info, l⟩ m)).isSome → z = y ∧ m.recv = l

/-- A message is forwarded by the sender in the handle. -/
theorem Linked.leads (h : c.Linked) {info : NetSenderInfo} (hinfo : c.info x y = some info)
    (l : LocalActorHandle) : c.Leads bodies connects x (.remote_actor ⟨info, l⟩) y l := by
  refine ⟨info, rfl, hinfo, fun z m hsome => ?_⟩
  obtain ⟨c', hnext⟩ := Option.isSome_iff_exists.mp hsome
  cases stepped_of_next hnext with
  | forward _ _ _ _ _ info' _ _ hinfo' hsender hrecv =>
    exact ⟨h.ids_injective x z y info' info hinfo' hinfo hsender, hrecv⟩

/-- The only receiver to which the sender of `x` for `y` is connected. -/
theorem Linked.connection (h : c.Linked) (hq : c.senders x y = some q) :
    q.connections = [] ∨ ∃ r, c.receivers y x = some r ∧ q.connections = [c.endpoint y r] := by
  have hpre := h.connections x y q hq
  rcases h.wired.endpoints h.gates x y with hnil | ⟨port, hport, heq⟩
  · rw [hnil] at hpre
    exact .inl (List.prefix_nil.mp hpre)
  · obtain ⟨r, hr, rfl⟩ := Option.map_eq_some_iff.mp hport
    rw [heq] at hpre
    rcases List.prefix_cons_iff.mp hpre with hnil | ⟨rest, heq, hrest⟩
    · exact .inl hnil
    · rw [List.prefix_nil.mp hrest] at heq
      exact .inr ⟨r, hr, heq⟩

theorem Linked.of_mem_connections (h : c.Linked) {a b : Url} (hq : c.senders a b = some q)
    (hr : c.receivers x y = some r) (hmem : c.endpoint x r ∈ q.connections) : x = b ∧ y = a := by
  rcases h.connection hq with hnil | ⟨r', hr', heq⟩
  · rw [hnil] at hmem
    cases hmem
  · rw [heq] at hmem
    exact h.bound_injective x y r b a r' hr hr' (List.mem_singleton.mp hmem)

variable (bodies connects) in
/-- What `x` can rely on when it sends something to `y`. -/
structure Routed (c : Cluster codecs β) (x y : Url) : Prop where
  /-- The sender is connected to the receiver that `y` has spawned for `x`, or not at all. -/
  connection : ∀ q, c.senders x y = some q →
    q.connections = [] ∨ ∃ r, c.receivers y x = some r ∧ q.connections = [c.endpoint y r]
  /-- No other receiver takes what it sends. -/
  private_to : ∀ q, c.senders x y = some q → ∀ a b r, c.receivers a b = some r →
    c.endpoint a r ∈ q.connections → a = y ∧ b = x
  /-- A handle that has been looked up leads to the actor that has been registered. -/
  looked_up : ∀ rep ∈ (c.gates x).replies, rep.peer = y → ∃ l,
    (rep.name, l) ∈ (c.gates y).registered ∧ c.Leads bodies connects x rep.actor y l
  /-- A handle that has been retrieved leads to the actor of which the url has been given. -/
  retrieved : ∀ p ∈ (c.gates x).retrieved, p.1.net_gate_url = y →
    (y = x ∧ p.2 = .local_actor p.1.actor) ∨ c.Leads bodies connects x p.2 y p.1.actor

/-- **Routes**: in every run, a sender is connected to at most one receiver, the one that its
    peer has spawned for it; and the handles that a net gate gives out lead to the actors that
    have been asked for. -/
theorem routed {guard : Cluster codecs β → ClusterStep codecs β → Prop}
    (h : ReachableVia (system bodies connects) guard c) (x y : Url) :
    c.Routed bodies connects x y := by
  have hlinked := linked_of_reachable h
  have hanswered := lookups_answered (reachable_gates h)
  refine ⟨fun q hq => hlinked.connection hq, fun q hq a b r hr hmem =>
    hlinked.of_mem_connections hq hr hmem, fun rep hrep hpeer => ?_, fun p hp hurl => ?_⟩
  · obtain ⟨l, info, hinfo, hactor⟩ := (hlinked.wired.carries x).replies rep hrep
    obtain ⟨info', l', hactor', hregistered⟩ := (hanswered x y).registered rep hrep
    cases hactor.symm.trans hactor'
    rw [hpeer] at hinfo hregistered
    exact ⟨l, hregistered, hactor ▸ hlinked.leads hinfo l⟩
  · rcases (hlinked.wired.carries x).retrieved p hp with ⟨hown, hactor⟩ | ⟨info, hinfo, hactor⟩
    · rw [hlinked.wired.bind_url, hurl] at hown
      exact .inl ⟨hown, hactor⟩
    · rw [hurl] at hinfo
      exact .inr (hactor ▸ hlinked.leads hinfo p.1.actor)

/-- A message for the actor that has been looked up. -/
def question : RemoteSend plain_codecs (NestedBody plain_codecs 0) := ⟨⟨3, true⟩, ⟨6, true⟩, 7, []⟩

def looked_up : RemoteActorHandle := ⟨⟨⟨4, true⟩, url_a, url_b⟩, ⟨6, true⟩⟩

/-- `url_a` looks up an actor of `url_b` and asks it twice, once before its sender is
    connected. -/
def question_run : List (ClusterStep plain_codecs (NestedBody plain_codecs 0)) :=
  [.gate (.arrive url_b (.actor_registration counter (.local_actor ⟨6, true⟩))),
    .gate (.poll url_b), .gate (.receive_once url_b),
    .gate (.arrive url_a (.actor_lookup_req ⟨0, url_b, counter⟩)), .gate (.poll url_a),
    .gate (.receive_once url_a), .spawn url_a ⟨4, true⟩ 9, .bind_port_rep url_a,
    .gate (.receive_frame url_b url_a), .spawn url_b ⟨4, true⟩ 10, .bind_port_rep url_b,
    .gate (.receive_frame url_a url_b), .gate (.receive_frame url_a url_b),
    .forward url_a url_b looked_up question, .gate (.receive_frame url_b url_a),
    .gate (.receive_frame url_b url_a), .gate (.receive_frame url_b url_a),
    .gate (.receive_frame url_a url_b), .gate (.receive_frame url_a url_b),
    .data_conn_req url_a url_b, .forward url_a url_b looked_up question,
    .sender url_a url_b .receive_own, .receive url_b url_a url_a url_b]

/-- A lookup has been answered and the sender is connected. -/
theorem routed_question_run : ∃ (c : Cluster plain_codecs (NestedBody plain_codecs 0))
    (q : NetSender plain_codecs (NestedBody plain_codecs 0)),
    (c.gates url_a).replies.length = 1 ∧ c.senders url_a url_b = some q ∧
      q.connections.length = 1 ∧
      c.Routed (nested_codec plain_codecs 0) (fun _ => true) url_a url_b := by
  obtain ⟨c, hc, hobs⟩ := System.reachable_of_exec
    (system (nested_codec plain_codecs 0) fun _ => true) (fun _ _ => True) question_run
    (fun c => ((c.gates url_a).replies.length,
      (c.senders url_a url_b).map fun q => q.connections.length))
    (s := ⟨NetGateActor.bound localhost, fun _ _ => none, fun _ _ => none, [], []⟩)
    (b := (1, some 1))
    ⟨fun _ => ⟨localhost, rfl⟩, fun _ _ => rfl, fun _ _ => rfl, rfl, rfl⟩ (by decide +kernel)
  obtain ⟨hreplies, hconnections⟩ := Prod.mk.inj hobs
  obtain ⟨q, hq, hlength⟩ := Option.map_eq_some_iff.mp hconnections
  exact ⟨c, q, hreplies, hq, hlength, routed hc url_a url_b⟩

end Cluster
end ZAF
