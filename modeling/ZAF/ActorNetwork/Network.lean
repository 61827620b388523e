import ZAF.ActorBehavior.Matching

/-! # Actors that send messages to each other

    Any number of actors, each one the machine of an `ActorBehavior`, that send messages to
    each other: plain ones at any time, requests and replies when their own code runs. A
    request carries the id that its sender has given it, and a reply to it is a `Response`
    with this id that goes to the sender of the request.

    Messages to an actor that has terminated are lost.
-/

namespace ZAF.ActorNetwork

open LTS ActorBehavior

/-! ### The network -/

/-- Where a message comes from. -/
inductive Origin (Id : Type) where
  | plain (sender : Id)
  /-- The `n`-th request of `sender`. -/
  | request (sender : Id) (n : Nat)
  deriving DecidableEq, Repr

/-- A reply to the `n`-th request of `requester`, which is the message `serial` of `replier`. -/
structure Reply (Id Body : Type) where
  replier : Id
  serial : Nat
  requester : Id
  n : Nat
  body : Body
  deriving DecidableEq, Repr

structure Network (Id Body : Type) where
  actors : Id → State Body 0
  /-- The origins of the messages of each actor, by their serial numbers. -/
  origins : Id → Nat → Option (Origin Id)
  /-- The receivers of the requests of each actor. -/
  requested : Id → List Id
  /-- All replies to requests. -/
  replies : List (Reply Id Body)

inductive NetworkStep (Id Body : Type) where
  /-- A step that `i` makes by itself. -/
  | own (i : Id) (l : Label Body 0)
  /-- A plain message, from a handler or from the delayed messages. -/
  | send (i j : Id)
  | request (i j : Id) (rehash : Bool)
  /-- `reply(msg, ...)` to the message `serial`. -/
  | reply (i : Id) (serial : Nat) (body : Body)

/-- Steps in which no other actor takes part. -/
def own_label {Body : Type} : Label Body 0 → Bool
  | .arrive _ | .push .. | .user (.request _) => false
  | _ => true

namespace Network

variable {Id Body : Type} [DecidableEq Id]

def set_actor (net : Network Id Body) (i : Id) (s : State Body 0) : Network Id Body :=
  { net with actors := Function.update net.actors i s }

/-- A message comes to the socket of `j`. -/
def deliver (net : Network Id Body) (j : Id) (content : Content Body) (origin : Origin Id) :
    Network Id Body :=
  if (net.actors j).terminated then net
  else
    { net.set_actor j ((net.actors j).arrive content) with
      origins := Function.update net.origins j
        (Function.update (net.origins j) (net.actors j).arrived.length (some origin)) }

/-- `request`, before the message is sent. -/
def issue (net : Network Id Body) (i j : Id) (rehash : Bool) : Network Id Body :=
  { net.set_actor i ((net.actors i).request rehash) with
    requested := Function.update net.requested i (net.requested i ++ [j]) }

def log_reply (net : Network Id Body) (r : Reply Id Body) : Network Id Body :=
  { net with replies := net.replies ++ [r] }

/-- Can the handlers of the actor reply to the message? They have been run on it, and it has
    not been deleted. -/
def may_reply (s : State Body 0) (serial : Nat) : Bool :=
  !s.terminated && user_code s.stack && s.dispatched.any (·.serial = serial) &&
    s.released.all (·.serial ≠ serial)

def next (net : Network Id Body) : NetworkStep Id Body → Option (Network Id Body)
  | .own i l => if own_label l then ((net.actors i).next l).map (net.set_actor i) else none
  | .send i j =>
    if (net.actors i).terminated then none else some (net.deliver j .ordinary (.plain i))
  | .request i j rehash =>
    if !(net.actors i).terminated && user_code (net.actors i).stack then
      some ((net.issue i j rehash).deliver j .ordinary (.request i (net.actors i).request_id))
    else none
  | .reply i serial body =>
    if may_reply (net.actors i) serial then
      match net.origins i serial with
      -- `DefaultCodes::Response` with `get_request_id(msg)`
      | some (.request j n) =>
        some ((net.log_reply ⟨i, serial, j, n, body⟩).deliver j
          (.response (request_id_of n) body) (.plain i))
      | some (.plain j) => some (net.deliver j .ordinary (.plain i))
      | none => none
    else none

end Network

/-- All actors start with `launch`. -/
def network (Id Body : Type) [DecidableEq Id] :
    System (Network Id Body) (NetworkStep Id Body) where
  init net := net = ⟨fun _ => start Body 0, fun _ _ => none, fun _ => [], []⟩
  next := Network.next

namespace Network

variable {Id Body : Type} [DecidableEq Id] {net net' : Network Id Body}

/-! ### What a step does -/

/-- The actor that issues a request makes a step of its machine. -/
theorem request_next {s : State Body 0} (rehash : Bool) (hrunning : s.terminated = false)
    (huser : user_code s.stack = true) :
    s.next (.user (.request rehash)) = some (s.request rehash) := by
  simp only [State.next, hrunning, huser]
  rfl

theorem arrive_next {s : State Body 0} (content : Content Body) (hrunning : s.terminated = false) :
    s.next (.arrive content) = some (s.arrive content) := by
  simp only [State.next, hrunning]
  rfl

inductive Stepped (net : Network Id Body) : NetworkStep Id Body → Network Id Body → Prop where
  | own (i : Id) (l : Label Body 0) (s : State Body 0) (hown : own_label l = true)
      (hnext : (net.actors i).next l = some s) : Stepped net (.own i l) (net.set_actor i s)
  | send (i j : Id) (hrunning : (net.actors i).terminated = false) :
      Stepped net (.send i j) (net.deliver j .ordinary (.plain i))
  | request (i j : Id) (rehash : Bool) (hrunning : (net.actors i).terminated = false)
      (huser : user_code (net.actors i).stack = true) :
      Stepped net (.request i j rehash)
        ((net.issue i j rehash).deliver j .ordinary (.request i (net.actors i).request_id))
  | reply (i j : Id) (n serial : Nat) (body : Body)
      (hmay : may_reply (net.actors i) serial = true)
      (horigin : net.origins i serial = some (.request j n)) :
      Stepped net (.reply i serial body) ((net.log_reply ⟨i, serial, j, n, body⟩).deliver j
        (.response (request_id_of n) body) (.plain i))
  | reply_plain (i j : Id) (serial : Nat) (body : Body)
      (hmay : may_reply (net.actors i) serial = true)
      (horigin : net.origins i serial = some (.plain j)) :
      Stepped net (.reply i serial body) (net.deliver j .ordinary (.plain i))

theorem stepped_of_next {step : NetworkStep Id Body} (h : net.next step = some net') :
    Stepped net step net' := by
  cases step with
  | own i l =>
    simp only [Network.next] at h
    split at h
    · next hown =>
      obtain ⟨s, hs, rfl⟩ := Option.map_eq_some_iff.mp h
      exact .own i l s hown hs
    · cases h
  | send i j =>
    simp only [Network.next] at h
    split at h
    · cases h
    · next hrunning =>
      cases h
      exact .send i j (by simpa using hrunning)
  | request i j rehash =>
    simp only [Network.next] at h
    split at h
    · next hmay =>
      obtain ⟨hrunning, huser⟩ := (Bool.and_eq_true _ _).mp hmay
      cases h
      exact .request i j rehash (by simpa using hrunning) huser
    · cases h
  | reply i serial body =>
    simp only [Network.next] at h
    split at h
    · next hmay =>
      split at h
      · next j n horigin =>
        cases h
        exact .reply i j n serial body hmay horigin
      · next j horigin =>
        cases h
        exact .reply_plain i j serial body hmay horigin
      · cases h
    · cases h

theorem user_code_of_may_reply {s : State Body 0} {serial : Nat}
    (h : may_reply s serial = true) : user_code s.stack = true := by
  simp only [may_reply, Bool.and_eq_true] at h
  exact h.1.1.2

theorem dispatched_of_may_reply {s : State Body 0} {serial : Nat}
    (h : may_reply s serial = true) : ∃ m ∈ s.dispatched, m.serial = serial := by
  simp only [may_reply, Bool.and_eq_true] at h
  obtain ⟨m, hm, heq⟩ := List.any_eq_true.mp h.1.2
  exact ⟨m, hm, of_decide_eq_true heq⟩

/-! ### One actor after a step -/

theorem actors_set_actor (net : Network Id Body) (i : Id) (s : State Body 0) (a : Id) :
    (net.set_actor i s).actors a = if a = i then s else net.actors a :=
  Function.update_apply ..

/-- For the other actors, a message that is delivered is nothing. -/
theorem actors_deliver (net : Network Id Body) (j : Id) (content : Content Body)
    (origin : Origin Id) (a : Id) : (net.deliver j content origin).actors a = net.actors a ∨
      a = j ∧ (net.actors j).terminated = false ∧
        (net.deliver j content origin).actors a = (net.actors j).arrive content := by
  by_cases hrunning : (net.actors j).terminated = true
  · rw [deliver, if_pos hrunning]
    exact .inl rfl
  · rw [deliver, if_neg hrunning]
    show (net.set_actor j _).actors a = _ ∨ _ ∧ _ ∧ (net.set_actor j _).actors a = _
    rw [actors_set_actor]
    split
    · next ha => exact .inr ⟨ha, by simpa using hrunning, rfl⟩
    · exact .inl rfl

@[simp] theorem requested_deliver (net : Network Id Body) (j : Id) (content : Content Body)
    (origin : Origin Id) : (net.deliver j content origin).requested = net.requested := by
  unfold deliver
  split <;> rfl

@[simp] theorem replies_deliver (net : Network Id Body) (j : Id) (content : Content Body)
    (origin : Origin Id) : (net.deliver j content origin).replies = net.replies := by
  unfold deliver
  split <;> rfl

/-! ### The runs of one actor -/

/-- The steps of programs that request and wait, each at the actor that makes it. -/
def keeps_replies (net : Network Id Body) : NetworkStep Id Body → Bool
  | .own i l =>
    only_replies (net.actors i) l && ActorBehavior.keeps_replies (net.actors i) l
  | .request i _ rehash => only_replies (net.actors i) (.user (.request rehash))
  | _ => true

/-- A run of one actor in such a network. -/
def ActorReachable (s : State Body 0) : Prop :=
  ReachableVia (system Body 0)
    (fun s l => (only_replies s l && ActorBehavior.keeps_replies s l) = true) s

theorem ActorReachable.arrive {s : State Body 0} (h : ActorReachable s) (content : Content Body)
    (hrunning : s.terminated = false) : ActorReachable (s.arrive content) :=
  .step (.arrive content) h rfl (arrive_next content hrunning)

theorem ActorReachable.deliver (h : ∀ a, ActorReachable (net.actors a)) (j : Id)
    (content : Content Body) (origin : Origin Id) (a : Id) :
    ActorReachable ((net.deliver j content origin).actors a) := by
  rcases net.actors_deliver j content origin a with heq | ⟨-, hrunning, heq⟩
  · exact heq ▸ h a
  · exact heq ▸ (h j).arrive content hrunning

theorem ActorReachable.set_actor (h : ∀ a, ActorReachable (net.actors a)) {i : Id}
    {s : State Body 0} (hs : ActorReachable s) (a : Id) :
    ActorReachable ((net.set_actor i s).actors a) := by
  rw [actors_set_actor]
  split
  · exact hs
  · exact h a

theorem ActorReachable.next (h : ∀ a, ActorReachable (net.actors a)) {step : NetworkStep Id Body}
    (hk : net.keeps_replies step = true) (hnext : net.next step = some net') (a : Id) :
    ActorReachable (net'.actors a) := by
  cases stepped_of_next hnext with
  | own i l s hown hs => exact set_actor h (.step l (h i) hk hs) a
  | send i j hrunning => exact deliver h ..
  | request i j rehash hrunning huser =>
    have hissue : ActorReachable ((net.actors i).request rehash) := by
      refine .step (.user (.request rehash)) (h i) ?_ (request_next rehash hrunning huser)
      -- to issue a request is not to receive a response
      rw [show only_replies (net.actors i) (.user (.request rehash)) = true from hk]
      rfl
    have hissued (a : Id) : ActorReachable ((net.issue i j rehash).actors a) :=
      set_actor h hissue a
    exact deliver hissued ..
  | reply i j n serial body hmay horigin =>
    have hlogged (a : Id) : ActorReachable ((net.log_reply ⟨i, serial, j, n, body⟩).actors a) := h a
    exact deliver hlogged ..
  | reply_plain i j serial body hmay horigin => exact deliver h ..

/-- **Each actor of a network is in a state that it can reach by itself.** -/
theorem actor_reachable
    (h : ReachableVia (network Id Body) (fun net step => net.keeps_replies step = true) net)
    (a : Id) : ActorReachable (net.actors a) := by
  refine h.invariant (fun net => ∀ a, ActorReachable (net.actors a)) ?_ ?_ a
  · intro net hinit a
    rw [hinit]
    exact .init rfl
  · intro net step net' h hk hnext a
    exact ActorReachable.next h hk hnext a

end Network
end ZAF.ActorNetwork
