import ZAF.ActorNetwork.Network

/-! # Requests and replies across actors

    A reply finds its `on_reply` by an id of 32 bits. That the handlers of an `on_reply`
    run on a reply of the actor that was asked, to the very request, takes what is known of
    both actors: the one that has matched the id, and the one that has copied it from the
    request.
-/

namespace ZAF.ActorNetwork

open LTS ActorBehavior

/-! ### A step of one actor -/

section steps

variable {Body : Type} {s s' : State Body 0}

/-- The messages that no handler has been run on. -/
def unhandled (s : State Body 0) : List (Message Body) := s.recv_socket ++ s.pending_messages

/-- What becomes of messages in a step in which nothing arrives. -/
structure Proceeds (s s' : State Body 0) : Prop where
  request_id : s'.request_id = s.request_id
  arrived : s'.arrived = s.arrived
  dispatched : s.dispatched ⊆ s'.dispatched
  subset : unhandled s' ⊆ unhandled s
  received : ∀ x ∈ s'.received, x ∈ s.received ∨ ∃ m ∈ unhandled s,
    ∃ req_id body, m.content = .response req_id body ∧ x = (s.request_id, req_id, body)
  received_of : s.received ⊆ s'.received
  /-- A response is received when it leaves the socket. -/
  responses : ∀ m ∈ s.recv_socket, ∀ req_id body, m.content = .response req_id body →
    m ∈ s'.recv_socket ∨ s'.terminated = true ∨ (s.request_id, req_id, body) ∈ s'.received

/-- A step after which the messages are as before. -/
theorem Proceeds.of_same (hrequest_id : s'.request_id = s.request_id)
    (harrived : s'.arrived = s.arrived) (hdispatched : s'.dispatched = s.dispatched)
    (hsocket : s'.recv_socket = s.recv_socket)
    (hpending : s'.pending_messages ⊆ s.pending_messages) (hreceived : s'.received = s.received) :
    Proceeds s s' := by
  refine ⟨hrequest_id, harrived, hdispatched ▸ List.Subset.refl _, ?_, fun x hx => ?_, ?_, ?_⟩
  · rw [unhandled, hsocket]
    exact List.append_subset.mpr ⟨List.subset_append_left _ _,
      List.Subset.trans hpending (List.subset_append_right _ _)⟩
  · exact .inl (hreceived ▸ hx)
  · exact hreceived ▸ List.Subset.refl _
  · intro m hm req_id body hcontent
    exact .inl (hsocket ▸ hm)

theorem pending_receive_returns (s : State Body 0) (t : Turn Body) :
    (s.receive_returns t).pending_messages ⊆ s.pending_messages := by
  obtain ⟨table, source, m, prev, polls⟩ := t
  cases source with
  | socket => exact List.Subset.refl _
  | pending => exact fun _ => List.mem_of_mem_tail

/-- The message that is received next. -/
theorem mem_unhandled_of_next {source : Source} {m : Message Body}
    (h : s.next_message = some (source, m)) : m ∈ unhandled s := by
  cases source with
  | pending =>
    have hpending := (next_message_pending h).2
    exact List.mem_append_right _ (hpending ▸ List.mem_cons_self)
  | socket =>
    have hsocket := (next_message_socket h).2
    exact List.mem_append_left _ (hsocket ▸ List.mem_cons_self)

theorem socket_take_from (s : State Body 0) (source : Source) :
    (s.take_from source).recv_socket ⊆ s.recv_socket := by
  cases source with
  | pending => exact List.Subset.refl _
  | socket => exact fun _ => List.mem_of_mem_tail

/-- What is in the socket stays there, if it is not the message that is received. -/
theorem mem_take_from {source : Source} {m m' : Message Body}
    (h : s.next_message = some (source, m)) (hm' : m' ∈ s.recv_socket) :
    m' ∈ (s.take_from source).recv_socket ∨ source = .socket ∧ m' = m := by
  cases source with
  | pending => exact .inl hm'
  | socket =>
    rw [(next_message_socket h).2] at hm'
    exact (List.mem_cons.mp hm').symm.imp_right fun heq => ⟨rfl, heq⟩

/-- To take a message is to receive it, if it is a response. -/
theorem Proceeds.of_take {source : Source} {m : Message Body}
    (hnext : s.next_message = some (source, m)) (hrequest_id : s'.request_id = s.request_id)
    (harrived : s'.arrived = s.arrived) (hdispatched : s.dispatched ⊆ s'.dispatched)
    (hsocket : s'.recv_socket = (s.take_from source).recv_socket)
    (hpending : s'.pending_messages ⊆ unhandled s)
    (hreceived : (∀ req_id body, m.content ≠ .response req_id body) ∧
        s'.received = s.received ∨
      ∃ req_id body, m.content = .response req_id body ∧
        s'.received = s.received ++ [(s.request_id, req_id, body)]) :
    Proceeds s s' := by
  have hsub : s'.recv_socket ⊆ s.recv_socket := hsocket ▸ socket_take_from s source
  refine ⟨hrequest_id, harrived, hdispatched, ?_, fun x hx => ?_, ?_, ?_⟩
  · exact List.append_subset.mpr
      ⟨List.Subset.trans hsub (List.subset_append_left _ _), hpending⟩
  · rcases hreceived with ⟨-, heq⟩ | ⟨req_id, body, hcontent, heq⟩
    · exact .inl (heq ▸ hx)
    · rw [heq] at hx
      refine (List.mem_append.mp hx).imp_right fun hx => ?_
      exact ⟨m, mem_unhandled_of_next hnext, req_id, body, hcontent, List.mem_singleton.mp hx⟩
  · rcases hreceived with ⟨-, heq⟩ | ⟨req_id, body, -, heq⟩
    · exact heq ▸ List.Subset.refl _
    · exact heq ▸ List.subset_append_left _ _
  · intro m' hm' req_id body hcontent
    rcases mem_take_from hnext hm' with hmem | ⟨-, rfl⟩
    · exact .inl (hsocket ▸ hmem)
    · rcases hreceived with ⟨hnot, -⟩ | ⟨req_id', body', hcontent', heq⟩
      · exact absurd hcontent (hnot req_id body)
      · cases hcontent.symm.trans hcontent'
        rw [heq]
        exact .inr (.inr (List.mem_append_right _ (List.mem_singleton_self _)))

theorem process_proceeds {source : Source} {m : Message Body}
    (hnext : s.next_message = some (source, m)) (table : Table) (polls : Nat) :
    Proceeds s
      ((s.take_from source).process ⟨table, source, m, s.current_message, polls⟩) := by
  have hpending : s.pending_messages ⊆ unhandled s := List.subset_append_right _ _
  have hprocess :=
    process_cases (s.take_from source) ⟨table, source, m, s.current_message, polls⟩
  generalize (s.take_from source).process _ = s' at hprocess ⊢
  cases hprocess with
  | handled htable hcontent =>
    exact .of_take hnext rfl rfl (List.subset_append_left _ _) rfl hpending (.inl ⟨hcontent, rfl⟩)
  | passed req_id response htable hinner hcontent =>
    exact .of_take hnext rfl rfl (List.subset_append_left _ _) rfl hpending
      (.inr ⟨req_id, response, hcontent, rfl⟩)
  | consumes hcontent hinner =>
    refine .of_take hnext rfl rfl (List.subset_append_left _ _) rfl hpending (.inl ⟨?_, rfl⟩)
    intro req_id body hresponse
    cases hcontent.symm.trans hresponse
  | deferred n htable hcontent =>
    refine .of_take hnext rfl rfl (List.Subset.refl _) rfl ?_ (.inl ⟨hcontent, rfl⟩)
    refine List.Subset.trans (pending_receive_returns _ _) (List.append_subset.mpr ⟨hpending, ?_⟩)
    exact List.cons_subset.mpr ⟨mem_unhandled_of_next hnext, List.nil_subset _⟩
  | stored req_id response hcontent htable =>
    exact .of_take hnext rfl rfl (List.subset_append_left _ _) rfl
      (List.Subset.trans (pending_receive_returns _ _) hpending)
      (.inr ⟨req_id, response, hcontent, rfl⟩)
  | replied n response htable hinner hcontent =>
    exact .of_take hnext rfl rfl (List.subset_append_left _ _) rfl hpending
      (.inr ⟨request_id_of n, response, hcontent, rfl⟩)

theorem proceeds_of_next {l : Label Body 0} (hown : own_label l = true)
    (hnext : s.next l = some s') : Proceeds s s' := by
  have hsame := List.Subset.refl s.pending_messages
  cases (next_cases hnext).2 with
  | arrive content => cases hown
  | push queue content => exact queue.elim0
  | user step huser hstep =>
    cases hstep with
    | request rehash => cases hown
    | process_returns garbage t rest hstack =>
      exact .of_same rfl rfl rfl rfl (pending_receive_returns _ t) rfl
    | terminate_actor hstack =>
      refine ⟨rfl, rfl, List.Subset.refl _, List.nil_subset _, fun x hx => .inl hx,
        List.Subset.refl _, ?_⟩
      intro m hm req_id body hcontent
      exact .inr (.inl rfl)
    | pop_returns garbage queue m rest hstack => exact queue.elim0
    | _ => exact .of_same rfl rfl rfl rfl hsame rfl
  | receives source m hreceives hmessage => exact process_proceeds hmessage _ _
  | pop queue old m rest hstack hqueue => exact queue.elim0
  | _ => exact .of_same rfl rfl rfl rfl hsame rfl

end steps

namespace Network

variable {Id Body : Type} {net net' : Network Id Body}

/-! ### The invariant -/

/-- What is known of requests and replies, wherever they are. -/
structure Tracked (net : Network Id Body) : Prop where
  length : ∀ i, (net.requested i).length = (net.actors i).request_id
  fresh : ∀ j k o, net.origins j k = some o → k < (net.actors j).arrived.length
  /-- A request is at the actor that it has been sent to. -/
  target : ∀ j k i n, net.origins j k = some (.request i n) → (net.requested i)[n]? = some j
  /-- It is one message. -/
  once : ∀ j k k' i n, net.origins j k = some (.request i n) →
    net.origins j k' = some (.request i n) → k = k'
  /-- A reply is to a request that handlers have been run on. -/
  replied : ∀ r ∈ net.replies, net.origins r.replier r.serial = some (.request r.requester r.n) ∧
    ∃ m ∈ (net.actors r.replier).dispatched, m.serial = r.serial
  unhandled : ∀ i, unhandled (net.actors i) ⊆ (net.actors i).arrived
  /-- A response is a reply. -/
  response : ∀ i, ∀ m ∈ (net.actors i).arrived, ∀ req_id body,
    m.content = .response req_id body →
      ∃ r ∈ net.replies, r.requester = i ∧ request_id_of r.n = req_id ∧ r.body = body
  received : ∀ i k req_id body, (k, req_id, body) ∈ (net.actors i).received →
    ∃ r ∈ net.replies, r.requester = i ∧ request_id_of r.n = req_id ∧ r.body = body

/-- The reply is on its way until it is received. -/
def Kept (net : Network Id Body) (r : Reply Id Body) : Prop :=
  (∃ m ∈ (net.actors r.requester).recv_socket,
    m.content = .response (request_id_of r.n) r.body) ∨
  (net.actors r.requester).has_received r.n r.body ∨
  (net.actors r.requester).terminated = true

/-- The `n`-th request of `i` has come to `j`. -/
def Delivered (net : Network Id Body) (i : Id) (n : Nat) (j : Id) : Prop :=
  (∃ k, net.origins j k = some (.request i n)) ∨ (net.actors j).terminated = true

/-- Nothing is lost between actors that run. -/
structure Complete (net : Network Id Body) : Prop where
  delivered : ∀ i n j, (net.requested i)[n]? = some j → net.Delivered i n j
  kept : ∀ r ∈ net.replies, net.Kept r

theorem Tracked.issued (h : net.Tracked) {j i : Id} {k n : Nat}
    (horigin : net.origins j k = some (.request i n)) : n < (net.actors i).request_id := by
  rw [← h.length i]
  exact (List.getElem?_eq_some_iff.mp (h.target j k i n horigin)).1

/-- The next request is nowhere. -/
theorem Tracked.origins_ne (h : net.Tracked) (j i : Id) (k : Nat) :
    net.origins j k ≠ some (.request i (net.actors i).request_id) :=
  fun horigin => Nat.lt_irrefl _ (h.issued horigin)

theorem tracked_init :
    (⟨fun _ => start Body 0, fun _ _ => none, fun _ => [], []⟩ : Network Id Body).Tracked where
  length _ := rfl
  fresh j k o h := by cases h
  target j k i n h := by cases h
  once j k k' i n h := by cases h
  replied r h := by cases h
  unhandled i := List.nil_subset _
  response i m h := by cases h
  received i k req_id body h := by cases h

theorem complete_init :
    (⟨fun _ => start Body 0, fun _ _ => none, fun _ => [], []⟩ : Network Id Body).Complete where
  delivered i n j h := by cases h
  kept r h := by cases h

variable [DecidableEq Id]

/-! ### Fields of the actors and of the network -/

/-- A message that arrives leaves everything but the socket alone. -/
theorem deliver_field {α : Type} (f : State Body 0 → α) (hf : ∀ s c, f (s.arrive c) = f s)
    (net : Network Id Body) (j : Id) (content : Content Body) (origin : Origin Id) (a : Id) :
    f ((net.deliver j content origin).actors a) = f (net.actors a) := by
  rcases net.actors_deliver j content origin a with heq | ⟨rfl, -, heq⟩
  · rw [heq]
  · rw [heq, hf]

theorem issue_field {α : Type} (f : State Body 0 → α) {rehash : Bool}
    (hf : ∀ s, f (s.request rehash) = f s) (net : Network Id Body) (i j a : Id) :
    f ((net.issue i j rehash).actors a) = f (net.actors a) := by
  show f ((net.set_actor i _).actors a) = _
  rw [actors_set_actor]
  split
  · next ha => rw [hf, ha]
  · rfl

theorem mem_socket_deliver {a : Id} {m : Message Body} (hm : m ∈ (net.actors a).recv_socket)
    (j : Id) (content : Content Body) (origin : Origin Id) :
    m ∈ ((net.deliver j content origin).actors a).recv_socket := by
  rcases net.actors_deliver j content origin a with heq | ⟨rfl, -, heq⟩
  · rw [heq]
    exact hm
  · rw [heq]
    exact List.mem_append_left _ hm

/-- The message that arrives is the last one. -/
theorem arrived_deliver {j a : Id} {content : Content Body} {origin : Origin Id}
    {m : Message Body} (hm : m ∈ ((net.deliver j content origin).actors a).arrived) :
    m ∈ (net.actors a).arrived ∨ a = j ∧ m.content = content := by
  rcases net.actors_deliver j content origin a with heq | ⟨rfl, -, heq⟩
  · rw [heq] at hm
    exact .inl hm
  · rw [heq] at hm
    refine (List.mem_append.mp hm).imp_right fun hm => ⟨rfl, ?_⟩
    rw [List.mem_singleton.mp hm]

theorem origins_deliver {j a : Id} {content : Content Body} {origin o : Origin Id} {k : Nat}
    (h : (net.deliver j content origin).origins a k = some o) :
    net.origins a k = some o ∨
      a = j ∧ k = (net.actors j).arrived.length ∧ o = origin ∧
        (net.actors j).terminated = false := by
  by_cases hrunning : (net.actors j).terminated = true
  · rw [deliver, if_pos hrunning] at h
    exact .inl h
  · rw [deliver, if_neg hrunning] at h
    change Function.update net.origins j _ a k = some o at h
    rw [Function.update_apply] at h
    split at h
    · next ha =>
      rw [Function.update_apply] at h
      split at h
      · next hk => exact .inr ⟨ha, hk, (Option.some.inj h).symm, by simpa using hrunning⟩
      · exact .inl (ha ▸ h)
    · exact .inl h

/-- A message that has its origin keeps it. -/
theorem Tracked.origins_deliver (h : net.Tracked) {a : Id} {k : Nat} {o : Origin Id}
    (horigin : net.origins a k = some o) (j : Id) (content : Content Body) (origin : Origin Id) :
    (net.deliver j content origin).origins a k = some o := by
  by_cases hrunning : (net.actors j).terminated = true
  · rw [deliver, if_pos hrunning]
    exact horigin
  · rw [deliver, if_neg hrunning]
    show Function.update net.origins j _ a k = some o
    rw [Function.update_apply]
    split
    · next ha =>
      have hlt := h.fresh a k o horigin
      rw [Function.update_of_ne (by rw [← ha]; omega), ← ha]
      exact horigin
    · exact horigin

/-! ### A step of one actor in the network -/

section own

variable {i : Id} {l : Label Body 0} {s : State Body 0}

/-- The other actors are as before. -/
theorem set_actor_cases (net : Network Id Body) (i : Id) (s : State Body 0) (a : Id) :
    (net.set_actor i s).actors a = net.actors a ∨
      a = i ∧ (net.set_actor i s).actors a = s := by
  rw [actors_set_actor]
  split
  · next ha => exact .inr ⟨ha, rfl⟩
  · exact .inl rfl

theorem Tracked.own (h : net.Tracked) (hown : own_label l = true)
    (hnext : (net.actors i).next l = some s) : (net.set_actor i s).Tracked := by
  have hp := proceeds_of_next hown hnext
  refine ⟨fun a => ?_, fun a k o ho => ?_, h.target, h.once, fun r hr => ?_, fun a => ?_,
    fun a m hm req_id body hcontent => ?_, fun a k req_id body hmem => ?_⟩
  · rcases net.set_actor_cases i s a with heq | ⟨rfl, heq⟩
    · rw [heq]
      exact h.length a
    · rw [heq, hp.request_id]
      exact h.length a
  · rcases net.set_actor_cases i s a with heq | ⟨rfl, heq⟩
    · rw [heq]
      exact h.fresh a k o ho
    · rw [heq, hp.arrived]
      exact h.fresh a k o ho
  · obtain ⟨horigin, m, hm, hserial⟩ := h.replied r hr
    refine ⟨horigin, m, ?_, hserial⟩
    rcases net.set_actor_cases i s r.replier with heq | ⟨heq', heq⟩
    · rw [heq]
      exact hm
    · rw [heq]
      exact hp.dispatched (heq' ▸ hm)
  · rcases net.set_actor_cases i s a with heq | ⟨rfl, heq⟩
    · rw [heq]
      exact h.unhandled a
    · rw [heq, hp.arrived]
      exact List.Subset.trans hp.subset (h.unhandled a)
  · rcases net.set_actor_cases i s a with heq | ⟨rfl, heq⟩
    · rw [heq] at hm
      exact h.response a m hm req_id body hcontent
    · rw [heq, hp.arrived] at hm
      exact h.response a m hm req_id body hcontent
  · rcases net.set_actor_cases i s a with heq | ⟨rfl, heq⟩
    · rw [heq] at hmem
      exact h.received a k req_id body hmem
    · rw [heq] at hmem
      rcases hp.received _ hmem with hmem | ⟨m, hm, req_id', body', hcontent, hx⟩
      · exact h.received a k req_id body hmem
      · cases hx
        exact h.response a m (h.unhandled a hm) req_id body hcontent

theorem Complete.own (hc : net.Complete) (h : net.Tracked) (hown : own_label l = true)
    (hnext : (net.actors i).next l = some s) : (net.set_actor i s).Complete := by
  have hp := proceeds_of_next hown hnext
  have hrunning := (next_cases hnext).1
  refine ⟨fun a n b hn => ?_, fun r hr => ?_⟩
  · refine (hc.delivered a n b hn).imp_right fun hterminated => ?_
    rcases net.set_actor_cases i s b with heq | ⟨rfl, heq⟩
    · rw [heq]
      exact hterminated
    · rw [hrunning] at hterminated
      cases hterminated
  · unfold Kept
    rcases net.set_actor_cases i s r.requester with heq | ⟨heq', heq⟩
    · rw [heq]
      exact hc.kept r hr
    · rw [heq]
      rw [← heq'] at hp hrunning
      rcases hc.kept r hr with ⟨m, hm, hcontent⟩ | ⟨k, hlt, hmem⟩ | hterminated
      · rcases hp.responses m hm _ _ hcontent with hm | hterminated | hmem
        · exact .inl ⟨m, hm, hcontent⟩
        · exact .inr (.inr hterminated)
        · exact .inr (.inl ⟨_, h.issued (h.replied r hr).1, hmem⟩)
      · exact .inr (.inl ⟨k, hlt, hp.received_of hmem⟩)
      · rw [hrunning] at hterminated
        cases hterminated

end own

/-! ### Messages -/

/-- A message that is delivered has been sent by what is recorded. -/
theorem Tracked.deliver (h : net.Tracked) {j : Id} {content : Content Body} {origin : Origin Id}
    (hrequest : ∀ i n, origin = .request i n → (net.requested i)[n]? = some j ∧
      ∀ k, net.origins j k ≠ some (.request i n))
    (hresponse : ∀ req_id body, content = .response req_id body →
      ∃ r ∈ net.replies, r.requester = j ∧ request_id_of r.n = req_id ∧ r.body = body) :
    (net.deliver j content origin).Tracked := by
  refine ⟨fun a => ?_, fun a k o ho => ?_, fun a k i n ho => ?_, fun a k k' i n ho ho' => ?_,
    fun r hr => ?_, fun a => ?_, fun a m hm req_id body hcontent => ?_,
    fun a k req_id body hmem => ?_⟩
  · rw [requested_deliver, deliver_field State.request_id fun _ _ => rfl]
    exact h.length a
  · have hgrow : (net.actors a).arrived.length ≤
        ((net.deliver j content origin).actors a).arrived.length := by
      rcases net.actors_deliver j content origin a with heq | ⟨rfl, -, heq⟩
      · rw [heq]
      · rw [heq]
        exact (List.sublist_append_left _ _).length_le
    rcases Network.origins_deliver ho with ho | ⟨rfl, rfl, -, hrunning⟩
    · exact Nat.lt_of_lt_of_le (h.fresh a k o ho) hgrow
    · rw [Network.deliver, if_neg (by simp [hrunning])]
      show _ < ((net.set_actor a _).actors a).arrived.length
      rw [actors_set_actor, if_pos rfl]
      show _ < ((net.actors a).arrived ++ [_]).length
      rw [List.length_append]
      exact Nat.lt_succ_self _
  · rw [requested_deliver]
    rcases Network.origins_deliver ho with ho | ⟨rfl, rfl, horigin, -⟩
    · exact h.target a k i n ho
    · exact (hrequest i n horigin.symm).1
  · rcases Network.origins_deliver ho with hold | ⟨rfl, rfl, horigin, -⟩
    · rcases Network.origins_deliver ho' with hold' | ⟨rfl, rfl, horigin, -⟩
      · exact h.once a k k' i n hold hold'
      · exact absurd hold ((hrequest i n horigin.symm).2 k)
    · rcases Network.origins_deliver ho' with hold' | ⟨-, rfl, -, -⟩
      · exact absurd hold' ((hrequest i n horigin.symm).2 k')
      · rfl
  · rw [replies_deliver] at hr
    rw [deliver_field State.dispatched fun _ _ => rfl]
    exact ⟨h.origins_deliver (h.replied r hr).1 j content origin, (h.replied r hr).2⟩
  · rcases net.actors_deliver j content origin a with heq | ⟨rfl, -, heq⟩
    · rw [heq]
      exact h.unhandled a
    · rw [heq]
      intro m hm
      have hcases : m ∈ ActorNetwork.unhandled (net.actors a) ∨
          m = ⟨(net.actors a).arrived.length, content⟩ := by
        rcases List.mem_append.mp hm with hm | hm
        · exact (List.mem_append.mp hm).imp (List.mem_append_left _) List.mem_singleton.mp
        · exact .inl (List.mem_append_right _ hm)
      rcases hcases with hm | rfl
      · exact List.mem_append_left _ (h.unhandled a hm)
      · exact List.mem_append_right _ (List.mem_singleton_self _)
  · rw [replies_deliver]
    rcases arrived_deliver hm with hm | ⟨rfl, heq⟩
    · exact h.response a m hm req_id body hcontent
    · exact hresponse req_id body (heq.symm.trans hcontent)
  · rw [deliver_field State.received fun _ _ => rfl] at hmem
    rw [replies_deliver]
    exact h.received a k req_id body hmem

/-- What is delivered is not lost, unless the actor has terminated. -/
theorem Complete.deliver (h : net.Tracked) {j : Id} {content : Content Body} {origin : Origin Id}
    (hdelivered : ∀ i n j', (net.requested i)[n]? = some j' →
      net.Delivered i n j' ∨ j' = j ∧ origin = .request i n)
    (hkept : ∀ r ∈ net.replies, net.Kept r ∨
      r.requester = j ∧ content = .response (request_id_of r.n) r.body) :
    (net.deliver j content origin).Complete := by
  have hterminated (a : Id) : ((net.deliver j content origin).actors a).terminated =
      (net.actors a).terminated := deliver_field State.terminated (fun _ _ => rfl) ..
  refine ⟨fun i n j' hn => ?_, fun r hr => ?_⟩
  · rw [requested_deliver] at hn
    unfold Delivered
    rw [hterminated]
    rcases hdelivered i n j' hn with (⟨k, hk⟩ | hend) | ⟨rfl, rfl⟩
    · exact .inl ⟨k, h.origins_deliver hk j content origin⟩
    · exact .inr hend
    · by_cases hrunning : (net.actors j').terminated = true
      · exact .inr hrunning
      · refine .inl ⟨(net.actors j').arrived.length, ?_⟩
        rw [Network.deliver, if_neg hrunning]
        show Function.update net.origins j' _ j' _ = _
        rw [Function.update_self, Function.update_self]
  · rw [replies_deliver] at hr
    unfold Kept
    rw [hterminated, deliver_field (fun s => s.has_received r.n r.body) fun _ _ => rfl]
    rcases hkept r hr with (⟨m, hm, hcontent⟩ | hrest) | ⟨rfl, rfl⟩
    · exact .inl ⟨m, mem_socket_deliver hm j content origin, hcontent⟩
    · exact .inr hrest
    · rcases net.actors_deliver r.requester _ origin r.requester with heq | ⟨-, -, heq⟩
      · by_cases hrunning : (net.actors r.requester).terminated = true
        · exact .inr (.inr hrunning)
        · rw [Network.deliver, if_neg hrunning] at heq ⊢
          left
          refine ⟨⟨(net.actors r.requester).arrived.length, _⟩, ?_, rfl⟩
          show _ ∈ ((net.set_actor r.requester _).actors r.requester).recv_socket
          rw [actors_set_actor, if_pos rfl]
          exact List.mem_append_right _ (List.mem_singleton_self _)
      · rw [heq]
        exact .inl ⟨_, List.mem_append_right _ (List.mem_singleton_self _), rfl⟩

/-- The request is counted before it is sent. -/
theorem Tracked.issue (h : net.Tracked) (i j : Id) (rehash : Bool) :
    (net.issue i j rehash).Tracked := by
  have hrequested (a : Id) : (net.issue i j rehash).requested a =
      if a = i then net.requested i ++ [j] else net.requested a := Function.update_apply ..
  refine ⟨fun a => ?_, fun a k o ho => ?_, fun a k b n ho => ?_, h.once, fun r hr => ?_,
    fun a => ?_, fun a m hm => ?_, fun a k req_id body hmem => ?_⟩
  · rw [hrequested]
    show _ = ((net.set_actor i _).actors a).request_id
    rw [actors_set_actor]
    split
    · rw [List.length_append, h.length]
      rfl
    · exact h.length a
  · rw [issue_field State.arrived fun _ => rfl]
    exact h.fresh a k o ho
  · rw [hrequested]
    have htarget := h.target a k b n ho
    split
    · next hb =>
      subst hb
      rw [List.getElem?_append_left (List.getElem?_eq_some_iff.mp htarget).1]
      exact htarget
    · exact htarget
  · rw [issue_field State.dispatched fun _ => rfl]
    exact h.replied r hr
  · rw [issue_field ActorNetwork.unhandled fun _ => rfl, issue_field State.arrived fun _ => rfl]
    exact h.unhandled a
  · rw [issue_field State.arrived fun _ => rfl] at hm
    exact h.response a m hm
  · rw [issue_field State.received fun _ => rfl] at hmem
    exact h.received a k req_id body hmem

omit [DecidableEq Id] in
theorem Tracked.log_reply (h : net.Tracked) {r : Reply Id Body}
    (horigin : net.origins r.replier r.serial = some (.request r.requester r.n))
    (hdispatched : ∃ m ∈ (net.actors r.replier).dispatched, m.serial = r.serial) :
    (net.log_reply r).Tracked := by
  refine ⟨h.length, h.fresh, h.target, h.once, fun r' hr' => ?_, h.unhandled,
    fun a m hm req_id body hcontent => ?_, fun a k req_id body hmem => ?_⟩
  · rcases List.mem_append.mp hr' with hr' | hr'
    · exact h.replied r' hr'
    · cases List.mem_singleton.mp hr'
      exact ⟨horigin, hdispatched⟩
  · obtain ⟨r', hr', hof⟩ := h.response a m hm req_id body hcontent
    exact ⟨r', List.mem_append_left _ hr', hof⟩
  · obtain ⟨r', hr', hof⟩ := h.received a k req_id body hmem
    exact ⟨r', List.mem_append_left _ hr', hof⟩

theorem Tracked.deliver_plain (h : net.Tracked) (i j : Id) :
    (net.deliver j .ordinary (.plain i)).Tracked :=
  h.deliver (fun _ _ heq => by cases heq) (fun _ _ heq => by cases heq)

theorem Complete.deliver_plain (hc : net.Complete) (h : net.Tracked) (i j : Id) :
    (net.deliver j .ordinary (.plain i)).Complete :=
  .deliver h (fun a n b hn => .inl (hc.delivered a n b hn)) fun r hr => .inl (hc.kept r hr)

theorem Tracked.next (h : net.Tracked) {step : NetworkStep Id Body}
    (hnext : net.next step = some net') : net'.Tracked := by
  cases stepped_of_next hnext with
  | own i l s hown hs => exact h.own hown hs
  | send i j hrunning => exact h.deliver_plain i j
  | request i j rehash hrunning huser =>
    refine (h.issue i j rehash).deliver (fun a n heq => ?_) fun _ _ heq => by cases heq
    cases heq
    refine ⟨?_, fun k => h.origins_ne j i k⟩
    show (Function.update net.requested i _ i)[_]? = _
    rw [Function.update_self, ← h.length i, List.getElem?_concat_length]
  | reply i j n serial body hmay horigin =>
    have hlog := h.log_reply (r := ⟨i, serial, j, n, body⟩) horigin (dispatched_of_may_reply hmay)
    refine hlog.deliver (fun _ _ heq => by cases heq) fun req_id body' heq => ?_
    cases heq
    exact ⟨_, List.mem_append_right _ (List.mem_singleton_self _), rfl, rfl, rfl⟩
  | reply_plain i j serial body hmay horigin => exact h.deliver_plain i j

theorem Complete.next (hc : net.Complete) (h : net.Tracked) {step : NetworkStep Id Body}
    (hnext : net.next step = some net') : net'.Complete := by
  cases stepped_of_next hnext with
  | own i l s hown hs => exact hc.own h hown hs
  | send i j hrunning => exact hc.deliver_plain h i j
  | request i j rehash hrunning huser =>
    refine .deliver (h.issue i j rehash) (fun a n b hn => ?_) fun r hr => .inl ?_
    · have hterminated : ((net.issue i j rehash).actors b).terminated =
          (net.actors b).terminated := issue_field State.terminated (fun _ => rfl) ..
      unfold Delivered
      rw [hterminated]
      change (Function.update net.requested i _ a)[n]? = some b at hn
      rw [Function.update_apply] at hn
      split at hn
      · next ha =>
        subst ha
        by_cases hlt : n < (net.requested a).length
        · rw [List.getElem?_append_left hlt] at hn
          exact .inl (hc.delivered a n b hn)
        · -- the request that is sent
          obtain ⟨hle, -⟩ := List.getElem?_eq_some_iff.mp hn
          rw [List.length_append, List.length_singleton] at hle
          obtain rfl : n = (net.requested a).length := by omega
          rw [List.getElem?_concat_length] at hn
          cases hn
          exact .inr ⟨rfl, by rw [h.length]⟩
      · exact .inl (hc.delivered a n b hn)
    · unfold Kept
      rw [issue_field State.terminated fun _ => rfl, issue_field State.recv_socket fun _ => rfl,
        issue_field (fun s => s.has_received r.n r.body) fun _ => rfl]
      exact hc.kept r hr
  | reply i j n serial body hmay horigin =>
    have hlog := h.log_reply (r := ⟨i, serial, j, n, body⟩) horigin (dispatched_of_may_reply hmay)
    refine .deliver hlog (fun a m b hm => .inl (hc.delivered a m b hm)) fun r hr => ?_
    rcases List.mem_append.mp hr with hr | hr
    · exact .inl (hc.kept r hr)
    · cases List.mem_singleton.mp hr
      exact .inr ⟨rfl, rfl⟩
  | reply_plain i j serial body hmay horigin => exact hc.deliver_plain h i j

theorem tracked_of_reachable
    {guard : Network Id Body → NetworkStep Id Body → Prop}
    (h : ReachableVia (network Id Body) guard net) : net.Tracked := by
  refine h.invariant Tracked (fun net hinit => ?_) fun _ _ _ h _ hnext => h.next hnext
  rw [hinit]
  exact tracked_init

theorem complete_of_reachable
    {guard : Network Id Body → NetworkStep Id Body → Prop}
    (h : ReachableVia (network Id Body) guard net) : net.Complete := by
  refine h.invariant_of Complete (fun _ => tracked_of_reachable) (fun net hinit => ?_)
    fun _ _ _ h hc _ hnext => hc.next h hnext
  rw [hinit]
  exact complete_init

/-! ### Requests and replies are paired -/

/-- What becomes of the requests of `i`. -/
structure Paired (net : Network Id Body) (i : Id) : Prop where
  /-- The `n`-th request is one message of the actor that it has been sent to. -/
  sent : ∀ n j, (net.requested i)[n]? = some j → (net.actors j).terminated = false →
    ∃! k, net.origins j k = some (.request i n)
  /-- No `on_reply` runs its handlers twice. -/
  once : (net.actors i).answered.Nodup
  /-- An `on_reply` runs them on a reply of that actor to that message. -/
  replied : ∀ n body, (n, body) ∈ (net.actors i).invoked → ∃ r ∈ net.replies,
    r.requester = i ∧ r.n = n ∧ r.body = body ∧ (net.requested i)[n]? = some r.replier ∧
      net.origins r.replier r.serial = some (.request i n) ∧
      ∃ m ∈ (net.actors r.replier).dispatched, m.serial = r.serial
  /-- A reply for which the handler has not been used is on its way, or stored for it. -/
  kept : ∀ r ∈ net.replies, r.requester = i → (net.actors i).terminated = false →
    (net.actors i).handlers r.n = .valid → r.n ∉ (net.actors i).answered →
    (∃ m ∈ (net.actors i).recv_socket, m.content = .response (request_id_of r.n) r.body) ∨
      ∃ inserted, (net.actors i).unfinished_requests (request_id_of r.n) =
        some ⟨inserted, some r.body⟩

/-- **Requests and replies are paired** in every run of actors that request and wait: the
    handlers of an `on_reply` run at most once, on a reply of the actor that was asked, to
    the request that it belongs to; and no reply is lost before they do. -/
theorem paired
    (h : ReachableVia (network Id Body) (fun net step => net.keeps_replies step = true) net)
    (i : Id) : net.Paired i := by
  have ht := tracked_of_reachable h
  have hc := complete_of_reachable h
  have hr : Replies (net.actors i) := Replies.run (actor_reachable h i)
  refine ⟨fun n j hn hrunning => ?_, hr.once, fun n body hmem => ?_,
    fun r hreply hi hrunning hvalid hanswered => ?_⟩
  · rcases hc.delivered i n j hn with ⟨k, hk⟩ | hterminated
    · exact ⟨k, hk, fun k' hk' => ht.once j k' k i n hk' hk⟩
    · rw [hrunning] at hterminated
      cases hterminated
  · obtain ⟨k, hlt, hreceived⟩ := hr.own n body hmem
    obtain ⟨r, hreply, rfl, hid, rfl⟩ := ht.received i k _ body hreceived
    obtain ⟨horigin, hdispatched⟩ := ht.replied r hreply
    -- the ids are those of one request
    have hn : n < (net.actors r.requester).request_id :=
      Nat.lt_of_lt_of_le hlt (hr.received k _ _ hreceived)
    obtain rfl := hr.id_inj (ht.issued horigin) hn hid
    exact ⟨r, hreply, rfl, rfl, rfl, ht.target _ _ _ _ horigin, horigin, hdispatched⟩
  · subst hi
    rcases hc.kept r hreply with hsocket | hreceived | hterminated
    · exact .inl hsocket
    · exact .inr ((hr.kept r.n hvalid hanswered r.body).mp hreceived)
    · rw [hrunning] at hterminated
      cases hterminated

/-- The actor `i` handles its next message, which is a request, and replies. -/
def serves (i serial body : Nat) : List (NetworkStep Nat Nat) :=
  [.own i (.loop 0), .reply i serial body, .own i (.user (.returns fun _ => none))]

/-- Two requests to different actors. The second reply comes while the first is waited for. -/
def two_requests : List (NetworkStep Nat Nat) :=
  [.own 1 (.user .receive), .own 2 (.user .receive), .request 0 1 false, .send 0 2,
    .request 0 2 false, .own 2 (.loop 0), .own 2 (.user (.returns fun _ => none))] ++
  serves 2 1 20 ++ [.own 0 (.user (.on_reply 0)), .own 0 (.loop 0)] ++ serves 1 0 10 ++
  [.own 0 (.loop 0), .own 0 (.user (.returns fun _ => none)), .own 0 (.loop 0),
    .own 0 (.user (.on_reply 1)), .own 0 (.user (.returns fun _ => none))]

theorem paired_two_requests : ∃ net : Network Nat Nat,
    (net.actors 0).invoked = [(0, 10), (1, 20)] ∧ net.Paired 0 := by
  obtain ⟨net, hnet, hobs⟩ := System.reachable_of_exec (network Nat Nat)
    (fun net step => net.keeps_replies step = true) two_requests
    (fun net => (net.actors 0).invoked) (b := [(0, 10), (1, 20)]) rfl (by decide +kernel)
  exact ⟨net, hobs, paired hnet 0⟩

end Network
end ZAF.ActorNetwork
