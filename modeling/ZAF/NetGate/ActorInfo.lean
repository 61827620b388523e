import ZAF.NetGate.Handle
import ZAF.Serialization.Failures

/-! # Actors on other machines

    A handle is made for one process. To give an actor to another process,
    `Actor::to_actor_info` puts down the actor and the url of a net gate, and the net gate
    of the process that receives it makes a handle out of this again. If the url is its
    own, the actor is local; if not, the actor is at the other end of a connection to
    that url.

    The constructor of a net gate computes `bind_url` from the port that it is given. With
    the port 0, the net gate picks another one when it binds, and others know it by a url
    with that port.
-/

namespace ZAF

/-! ### Net gates -/

/-- A net gate that has bound its socket. -/
structure BoundGate where
  bind_host : Host
  /-- The port that the constructor is given. -/
  port : UInt16
  bind_port : UInt16
  bind_port_ne_zero : bind_port ≠ 0
  /-- Only if it is 0, another port is picked. -/
  bind_port_eq : port ≠ 0 → bind_port = port

/-- `bind_url`, as the constructor leaves it. -/
def BoundGate.bind_url (gate : BoundGate) : Sized UInt8 := gate_url gate.bind_host gate.port

/-- The routing id of the net gate, up to its suffix: the url for which others connect and
    the key in their `net_gate_connections`. -/
def BoundGate.url (gate : BoundGate) : Sized UInt8 := gate_url gate.bind_host gate.bind_port

/-- The processes with a net gate. No two of them are bound to the same address. -/
structure Network (Gate : Type) where
  gate : Gate → BoundGate
  url_injective : Function.Injective fun g => (gate g).url
  /-- Does `connect` accept `"tcp://" + url`? If not, it throws. -/
  connects : Sized UInt8 → Bool
  connects_url : ∀ g, connects (gate g).url = true

variable {Gate : Type}

namespace Network

theorem url_eq_bind_url_iff (N : Network Gate) {o g : Gate} :
    (N.gate o).url = (N.gate g).bind_url ↔ o = g ∧ (N.gate g).port ≠ 0 := by
  constructor
  -- the port in a routing id is never 0, so `g` has not picked its port
  · intro h
    obtain ⟨hhost, hport⟩ := gate_url_inj h
    have hfixed : (N.gate g).port ≠ 0 := hport ▸ (N.gate o).bind_port_ne_zero
    refine ⟨N.url_injective ?_, hfixed⟩
    show gate_url _ _ = gate_url _ _
    rw [hhost, hport, (N.gate g).bind_port_eq hfixed]
  · rintro ⟨rfl, hfixed⟩
    show gate_url _ _ = gate_url _ _
    rw [(N.gate o).bind_port_eq hfixed]

theorem bind_url_eq_bind_url (N : Network Gate) {s g : Gate} (hfixed : (N.gate s).port ≠ 0)
    (h : (N.gate s).bind_url = (N.gate g).bind_url) : s = g :=
  (N.url_eq_bind_url_iff.mp ((N.url_eq_bind_url_iff.mpr ⟨rfl, hfixed⟩).trans h)).1

end Network

/-! ### Connections -/

/-- `net_gate_connections` of a net gate, with the `net_sender_info` of each. -/
@[ext]
structure Connections (bind_url : Sized UInt8) where
  find : Sized UInt8 → Option NetSenderInfo
  sound : ∀ url info, find url = some info →
    info.local_net_gate_url = bind_url ∧ info.remote_net_gate_url = url

namespace Connections

variable {bind_url : Sized UInt8}

def empty (bind_url : Sized UInt8) : Connections bind_url :=
  ⟨fun _ => none, fun _ _ h => (nomatch h)⟩

/-- The entry that is made together with the sender. -/
def insert (c : Connections bind_url) (url : Sized UInt8) (net_sender : LocalActorHandle) :
    Connections bind_url where
  find := Function.update c.find url (some ⟨net_sender, bind_url, url⟩)
  sound url' info h := by
    by_cases hurl : url' = url
    · subst hurl
      rw [Function.update_self] at h
      cases h
      exact ⟨rfl, rfl⟩
    · rw [Function.update_of_ne hurl] at h
      exact c.sound url' info h

/-- `establish_connection`. The sender that it would spawn is `net_sender`. -/
def establish_connection (c : Connections bind_url) (connects : Sized UInt8 → Bool)
    (net_sender : LocalActorHandle) (url : Sized UInt8) : Option (Connections bind_url) :=
  match c.find url with
  | some _ => some c
  | none => if connects url then some (c.insert url net_sender) else none

theorem find_establish_connection {c c' : Connections bind_url} {connects : Sized UInt8 → Bool}
    {net_sender : LocalActorHandle} {url : Sized UInt8}
    (h : c.establish_connection connects net_sender url = some c') :
    ∃ info, c'.find url = some info := by
  unfold establish_connection at h
  split at h
  · next info hfind =>
    cases h
    exact ⟨info, hfind⟩
  · split at h
    · cases h
      exact ⟨_, Function.update_self ..⟩
    · cases h

theorem establish_connection_of_connects (c : Connections bind_url)
    {connects : Sized UInt8 → Bool} {url : Sized UInt8} (hconnects : connects url = true)
    (net_sender : LocalActorHandle) :
    ∃ c', c.establish_connection connects net_sender url = some c' := by
  unfold establish_connection
  split
  · exact ⟨c, rfl⟩
  · exact ⟨_, if_pos hconnects⟩

end Connections

/-! ### There and back -/

/-- `Actor::to_actor_info` -/
def Actor.to_actor_info (a requester : Actor) : ActorInfo :=
  match a with
  | .local_actor l =>
    match requester with
    | .local_actor _ => ⟨l, no_url⟩
    | .remote_actor r => ⟨l, r.net_sender_info.local_net_gate_url⟩
  | .remote_actor r => ⟨r.remote_actor, r.net_sender_info.remote_net_gate_url⟩

/-- What is read from the bytes that are written for an `ActorInfo`. -/
def ActorInfo.carried (info : ActorInfo) : Option ActorInfo := do
  let s ← Ty.actor_info.serialize no_bodies false info (.make [])
  let (info, _) ← Ty.actor_info.deserialize no_bodies.deserialize no_keys .in_place s.bytes
  return info

theorem ActorInfo.carried_eq (info : ActorInfo) : info.carried = some info := by
  have hserialize := Ty.actor_info.serialize_appends no_bodies false info []
  have hsound : Ty.actor_info.Every (PartSound no_bodies no_keys) .in_place false info :=
    ⟨⟨trivial, trivial, trivial⟩, trivial⟩
  obtain ⟨info', hread, rfl⟩ :=
    Ty.actor_info.deserialize_takes no_bodies no_keys .in_place false info hsound []
  rw [List.append_nil] at hread
  unfold carried
  rw [hserialize]
  simp only [List.nil_append, Option.bind_eq_bind, Option.bind_some, Serializer.bytes_make, hread]
  rfl

/-- What a net gate has done for a `RetrieveActorReq`. -/
structure Retrieval (bind_url : Sized UInt8) where
  actor : Actor
  connections : Connections bind_url
  /-- The url for which a connection has been opened. -/
  opened : Option (Sized UInt8)

namespace Network

/-- The handler of `RetrieveActorReq`. -/
def retrieve_actor (N : Network Gate) (g : Gate) (c : Connections (N.gate g).bind_url)
    (net_sender : LocalActorHandle) (info : ActorInfo) : Option (Retrieval (N.gate g).bind_url) :=
  if info.net_gate_url = (N.gate g).bind_url then some ⟨.local_actor info.actor, c, none⟩
  else do
    let c' ← c.establish_connection N.connects net_sender info.net_gate_url
    let net_sender_info ← c'.find info.net_gate_url
    return {
      actor := .remote_actor ⟨net_sender_info, info.actor⟩
      connections := c'
      opened := if (c.find info.net_gate_url).isNone then some info.net_gate_url else none }

/-- A message that the process `g`, with these connections, sends to `a` reaches the
    actor `x` of the process `o`: its own, or one behind the url of another net gate. -/
inductive Denotes (N : Network Gate) (g : Gate) (c : Connections (N.gate g).bind_url) :
    Actor → Gate → LocalActorHandle → Prop where
  | local_actor (x : LocalActorHandle) : Denotes N g c (.local_actor x) g x
  | remote_actor {o : Gate} {info : NetSenderInfo} (x : LocalActorHandle)
      (hfind : c.find (N.gate o).url = some info) :
      Denotes N g c (.remote_actor ⟨info, x⟩) o x

/-- What `g` is to do when it is asked for the actor `x` of `o`. -/
structure Retrieves (N : Network Gate) (g o : Gate) (x : LocalActorHandle)
    (res : Retrieval (N.gate g).bind_url) : Prop where
  denotes : N.Denotes g res.connections res.actor o x
  local_of_own : o = g → res.actor = .local_actor x
  opened : ∀ url, res.opened = some url →
    url ≠ no_url ∧ url ≠ (N.gate g).bind_url ∧ url ≠ (N.gate g).url

/-- `info` leads `g` to the actor `x` of `o`. -/
def Leads (N : Network Gate) (g : Gate) (c : Connections (N.gate g).bind_url)
    (net_sender : LocalActorHandle) (info : ActorInfo) (o : Gate) (x : LocalActorHandle) : Prop :=
  ∃ res, N.retrieve_actor g c net_sender info = some res ∧ N.Retrieves g o x res

variable {N : Network Gate} {g o : Gate} {c : Connections (N.gate g).bind_url}
  {net_sender : LocalActorHandle} {info : ActorInfo}

/-! ### Which urls lead to the actor -/

theorem leads_own_iff (hurl : info.net_gate_url = (N.gate g).bind_url) :
    N.Leads g c net_sender info o info.actor ↔ o = g := by
  unfold Leads retrieve_actor
  rw [if_pos hurl]
  constructor
  · rintro ⟨res, hres, hretrieves⟩
    cases hres
    -- a local actor is one of the own process
    have hdenotes := hretrieves.denotes
    cases hdenotes
    rfl
  · rintro rfl
    exact ⟨_, rfl, .local_actor _, fun _ => rfl, fun _ h => (nomatch h)⟩

theorem leads_other_iff (hurl : info.net_gate_url ≠ (N.gate g).bind_url) :
    N.Leads g c net_sender info o info.actor ↔ info.net_gate_url = (N.gate o).url ∧ o ≠ g := by
  unfold Leads retrieve_actor
  rw [if_neg hurl]
  constructor
  · rintro ⟨res, hres, hretrieves⟩
    obtain ⟨c', -, hres⟩ := Option.bind_eq_some_iff.mp hres
    obtain ⟨sender_info, hfind, hres⟩ := Option.bind_eq_some_iff.mp hres
    cases hres
    constructor
    · -- the connection of the handle is for one url only
      have hdenotes := hretrieves.denotes
      cases hdenotes with
      | remote_actor _ hfind' =>
        exact (c'.sound _ _ hfind).2.symm.trans (c'.sound _ _ hfind').2
    · intro hown
      cases hretrieves.local_of_own hown
  · rintro ⟨howner, hother⟩
    obtain ⟨c', hc'⟩ := c.establish_connection_of_connects (N.connects_url o) net_sender
    obtain ⟨sender_info, hfind⟩ := Connections.find_establish_connection hc'
    -- a connection is made unless there is one
    refine ⟨⟨.remote_actor ⟨sender_info, info.actor⟩, c',
      if (c.find info.net_gate_url).isNone then some info.net_gate_url else none⟩, ?_, ?_⟩
    · rw [howner]
      simp only [hc', hfind, Option.bind_eq_bind, Option.bind_some]
      rfl
    · refine ⟨.remote_actor _ hfind, fun hown => absurd hown hother, ?_⟩
      intro url hopened
      dsimp only at hopened
      split at hopened
      · cases hopened
        refine ⟨?_, hurl, ?_⟩
        · rw [howner]
          exact gate_url_ne_no_url _ _
        · rw [howner]
          exact fun heq => hother (N.url_injective heq)
      · cases hopened

theorem not_leads_no_url (hurl : info.net_gate_url = no_url) :
    ¬ N.Leads g c net_sender info o info.actor := by
  have hother : info.net_gate_url ≠ (N.gate g).bind_url := by
    rw [hurl]
    exact (gate_url_ne_no_url _ _).symm
  rw [leads_other_iff hother, hurl]
  exact fun h => gate_url_ne_no_url _ _ h.1.symm

/-- The url that the process of the actor has computed for itself. -/
theorem leads_bind_url_iff (hurl : info.net_gate_url = (N.gate o).bind_url) :
    N.Leads g c net_sender info o info.actor ↔ g = o ∨ (N.gate o).port ≠ 0 := by
  by_cases hsame : info.net_gate_url = (N.gate g).bind_url
  · rw [leads_own_iff hsame]
    constructor
    · rintro rfl
      exact .inl rfl
    · rintro (rfl | hfixed)
      · rfl
      · exact N.bind_url_eq_bind_url hfixed (hurl.symm.trans hsame)
  · rw [leads_other_iff hsame, hurl]
    constructor
    · rintro ⟨howner, -⟩
      exact .inr (N.url_eq_bind_url_iff.mp howner.symm).2
    · rintro (rfl | hfixed)
      · exact absurd hurl hsame
      · refine ⟨(N.url_eq_bind_url_iff.mpr ⟨rfl, hfixed⟩).symm, ?_⟩
        rintro rfl
        exact hsame hurl

/-- The url by which others know the process of the actor. -/
theorem leads_url_iff (hurl : info.net_gate_url = (N.gate o).url) :
    N.Leads g c net_sender info o info.actor ↔ (o = g → (N.gate o).port ≠ 0) := by
  by_cases hsame : info.net_gate_url = (N.gate g).bind_url
  -- the url of another net gate is never taken for the own one
  · obtain ⟨rfl, hfixed⟩ := N.url_eq_bind_url_iff.mp (hurl.symm.trans hsame)
    rw [leads_own_iff hsame]
    exact ⟨fun _ _ => hfixed, fun _ => rfl⟩
  · rw [leads_other_iff hsame]
    constructor
    · rintro ⟨-, hother⟩ hown
      exact absurd hown hother
    -- with a port that it has picked, a net gate does not know its own url
    · intro hfixed
      refine ⟨hurl, ?_⟩
      rintro rfl
      exact hsame (hurl.trans (N.url_eq_bind_url_iff.mpr ⟨rfl, hfixed rfl⟩))

/-! ### Which actors survive -/

/-- The handle `a` of the actor `x` of `o` goes to `g` and is made a handle there. -/
def Survives (N : Network Gate) (g o : Gate) (x : LocalActorHandle) (a requester : Actor)
    (c : Connections (N.gate g).bind_url) (net_sender : LocalActorHandle) : Prop :=
  ∃ info, (a.to_actor_info requester).carried = some info ∧ N.Leads g c net_sender info o x

theorem survives_iff_leads {x : LocalActorHandle} {a requester : Actor} :
    N.Survives g o x a requester c net_sender ↔
      N.Leads g c net_sender (a.to_actor_info requester) o x := by
  unfold Survives
  rw [ActorInfo.carried_eq]
  constructor
  · rintro ⟨info, hinfo, hleads⟩
    cases hinfo
    exact hleads
  · exact fun hleads => ⟨_, rfl, hleads⟩

/-- When the process `s` has sent the handle on behalf of the requester. -/
def Travels (N : Network Gate) (s g o : Gate) : (a requester : Actor) → Prop
  | .local_actor _, .local_actor _ => False
  | .local_actor _, .remote_actor _ => g = s ∨ (N.gate s).port ≠ 0
  | .remote_actor _, _ => o = g → (N.gate o).port ≠ 0

/-- **Which actors survive the trip**: those of another process unless they come home to a
    net gate that has picked its port, and those of the own process if the requester is
    remote and the port was given or they come home. -/
theorem survives_iff_travels {s q : Gate} {held : Connections (N.gate s).bind_url}
    {a requester : Actor} {x y : LocalActorHandle} (ha : N.Denotes s held a o x)
    (hrequester : N.Denotes s held requester q y) (c : Connections (N.gate g).bind_url)
    (net_sender : LocalActorHandle) :
    N.Survives g o x a requester c net_sender ↔ N.Travels s g o a requester := by
  rw [survives_iff_leads]
  cases ha with
  | local_actor =>
    cases hrequester with
    | local_actor => exact iff_of_false (not_leads_no_url rfl) id
    | remote_actor _ hfind => exact leads_bind_url_iff (held.sound _ _ hfind).1
  | remote_actor _ hfind => exact leads_url_iff (held.sound _ _ hfind).2

end Network

/-! ### Two net gates -/

/-- `false` has been started with the port 0 and has picked 10001, `true` has been started
    with the port 10002. -/
def two_gates : Network Bool where
  gate g :=
    if g then ⟨loopback, 10002, 10002, by decide, fun _ => rfl⟩
    else ⟨loopback, 0, 10001, by decide, fun h => absurd rfl h⟩
  url_injective := by
    intro g g' h
    have hport := (gate_url_inj h).2
    cases g <;> cases g' <;> first | rfl | exact absurd hport (by decide)
  connects _ := true
  connects_url _ := rfl

/-- An actor of either process. -/
def an_actor : LocalActorHandle := ⟨3, false⟩

/-- The connection of one to the other, whose sender is the actor 7. -/
def connected (g : Bool) : Connections (two_gates.gate g).bind_url :=
  (Connections.empty _).insert (two_gates.gate !g).url ⟨7, false⟩

def other_actor (g : Bool) : Actor :=
  .remote_actor ⟨⟨⟨7, false⟩, (two_gates.gate g).bind_url, (two_gates.gate !g).url⟩, an_actor⟩

theorem denotes_other_actor (g : Bool) :
    two_gates.Denotes g (connected g) (other_actor g) (!g) an_actor :=
  .remote_actor _ (Function.update_self ..)

theorem survives_iff_travels_two_gates :
    two_gates.Survives false true an_actor (.local_actor an_actor) (other_actor true)
      (connected false) ⟨8, false⟩ :=
  (Network.survives_iff_travels (.local_actor an_actor) (denotes_other_actor true) _ _).mpr
    (.inr (by decide))

/-- An actor of `false` does not survive: its url has the port 0. -/
theorem not_survives :
    ¬ ∀ (N : Network Bool) (s g o q : Bool) (held : Connections (N.gate s).bind_url)
        (a requester : Actor) (x y : LocalActorHandle),
      N.Denotes s held a o x → N.Denotes s held requester q y →
      ∀ (c : Connections (N.gate g).bind_url) (net_sender : LocalActorHandle),
        N.Survives g o x a requester c net_sender := by
  intro hall
  have hleads := Network.survives_iff_leads.mp (hall two_gates false true false true
    (connected false) (.local_actor an_actor) (other_actor false) an_actor an_actor
    (.local_actor an_actor) (denotes_other_actor false) (connected true) ⟨8, false⟩)
  rcases (Network.leads_bind_url_iff rfl).mp hleads with heq | hport
  · exact absurd heq (by decide)
  · exact hport rfl

end ZAF
