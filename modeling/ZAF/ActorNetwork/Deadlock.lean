import ZAF.ActorNetwork.Pairing
import ZAF.Framework.WaitFor

/-! # Actors that wait for each other

    While an `on_reply` waits, its actor handles nothing but responses: a request that comes
    in is put off. Actors that wait for each other's replies therefore wait forever. This is
    the only way to get stuck: whoever is not in such a set of actors waits, in the end, for
    an actor that can go on.
-/

namespace ZAF.ActorNetwork

open LTS ActorBehavior

/-! ### An actor that waits -/

section actor

variable {Body : Type} {s s' : State Body 0} {n : Nat}

def Message.responds (req_id : UInt32) (m : Message Body) : Bool :=
  match m.content with
  | .response req_id' _ => req_id' = req_id
  | _ => false

/-- Is there a response to this request in the socket? -/
def has_response (s : State Body 0) (req_id : UInt32) : Bool :=
  s.recv_socket.any (Message.responds req_id)

/-- The `on_reply` of the `n`-th request waits, and there is nothing for it. -/
structure Blocked (s : State Body 0) (n : Nat) : Prop where
  top : top_wait s.stack = some n
  activated : s.activated = true
  response : has_response s (request_id_of n) = false

theorem Message.responds_iff {req_id : UInt32} {m : Message Body} :
    Message.responds req_id m = true ↔ ∃ body, m.content = .response req_id body := by
  obtain ⟨serial, content⟩ := m
  cases content with
  | ordinary => simp [Message.responds]
  | consumption => simp [Message.responds]
  | response req_id' body =>
    simp only [Message.responds, decide_eq_true_eq]
    constructor
    · rintro rfl
      exact ⟨body, rfl⟩
    · rintro ⟨body', heq⟩
      cases heq
      rfl

theorem Blocked.not_response (h : Blocked s n) {m : Message Body} (hm : m ∈ s.recv_socket)
    (body : Body) : m.content ≠ .response (request_id_of n) body := by
  intro hcontent
  have hany : has_response s (request_id_of n) = true :=
    List.any_eq_true.mpr ⟨m, hm, Message.responds_iff.mpr ⟨body, hcontent⟩⟩
  rw [h.response] at hany
  cases hany

/-- Only responses to its own request are of interest to it. -/
theorem Blocked.arrive (h : Blocked s n) {content : Content Body}
    (hcontent : ∀ body, content ≠ .response (request_id_of n) body) :
    Blocked (s.arrive content) n := by
  refine ⟨h.top, h.activated, ?_⟩
  show (s.recv_socket ++ [_]).any _ = false
  rw [List.any_append, Bool.or_eq_false_iff]
  refine ⟨h.response, ?_⟩
  rw [List.any_cons, List.any_nil, Bool.or_false, Bool.eq_false_iff]
  intro hresponds
  obtain ⟨body, heq⟩ := Message.responds_iff.mp hresponds
  exact hcontent body heq

theorem Blocked.take (h : Blocked s n) {m : Message Body}
    (hnext : s.next_message = some (.socket, m)) :
    has_response (s.take_from .socket) (request_id_of n) = false := by
  have hresponse := h.response
  unfold has_response at hresponse ⊢
  rw [(next_message_socket hnext).2, List.any_cons, Bool.or_eq_false_iff] at hresponse
  exact hresponse.2

/-- A message that is put off or stored does not end the wait. -/
theorem Blocked.returns (h : Blocked s n) {m : Message Body}
    (hnext : s.next_message = some (.socket, m)) (hstack : s'.stack = s.stack)
    (hactivated : s'.activated = s.activated)
    (hsocket : s'.recv_socket = (s.take_from .socket).recv_socket) : Blocked s' n := by
  refine ⟨hstack ▸ h.top, hactivated ▸ h.activated, ?_⟩
  unfold has_response
  rw [hsocket]
  exact h.take hnext

/-- **The actor goes on waiting**, whatever it receives. -/
theorem Blocked.own (h : Blocked s n) (hr : Replies s) (hreach : Network.ActorReachable s)
    {l : Label Body 0} (hown : own_label l = true) (hl : only_replies s l = true)
    (hnext : s.next l = some s') :
    Blocked s' n ∧ s'.stack = s.stack ∧ s'.invoked = s.invoked := by
  obtain ⟨cur_act, inner, rest, hwait⟩ := stack_of_top_wait h.top
  have huser : user_code s.stack = false := by rw [hwait]; rfl
  cases (next_cases hnext).2 with
  | arrive content => cases hown
  | push queue content => exact queue.elim0
  | user step huser' hstep =>
    rw [huser] at huser'
    cases huser'
  | @receives _ table polls source m hreceives hmessage =>
    cases hreceives with
    | once polls huser' =>
      rw [huser] at huser'
      cases huser'
    | loop polls rest' hstack hactivated =>
      rw [hstack] at hwait
      cases hwait
    | wait polls n' cur_act' inner' rest' hstack hactivated =>
      have hreceives : Receives s (.loop polls) (.reply n') polls :=
        .wait polls n' cur_act' inner' rest' hstack hactivated
      obtain ⟨hinner, htop, rfl, -⟩ := hr.receives_reply hreceives hl
      obtain rfl := Option.some.inj (htop.symm.trans h.top)
      obtain rfl := source_of_wait (waits_le hreach) hreceives hmessage
      have hmem : m ∈ s.recv_socket := (next_message_socket hmessage).2 ▸ List.mem_cons_self
      have hprocess :=
        process_cases (s.take_from .socket) ⟨.reply n', .socket, m, s.current_message, 0⟩
      generalize (s.take_from .socket).process _ = s' at hprocess hnext ⊢
      cases hprocess with
      | handled htable => cases htable
      | passed req_id response htable => cases htable
      | consumes hcontent hinner' =>
        have hinner'' : s.inner_handlers = true := hinner'
        rw [hinner] at hinner''
        cases hinner''
      | deferred n htable hcontent => exact ⟨h.returns hmessage rfl rfl rfl, rfl, rfl⟩
      | stored req_id response hcontent htable =>
        exact ⟨h.returns hmessage rfl rfl rfl, rfl, rfl⟩
      | replied n response htable hinner' hcontent =>
        cases htable
        exact absurd hcontent (h.not_response hmem response)
  | @polls _ table polls hreceives hmessage =>
    cases hreceives with
    | once polls huser' =>
      rw [huser] at huser'
      cases huser'
    | loop polls rest' hstack hactivated =>
      rw [hstack] at hwait
      cases hwait
    | wait polls n' cur_act' inner' rest' hstack hactivated =>
      -- no callbacks run in the loop of an `on_reply`
      have hzero := (hr.receives_reply
        (.wait _ n' cur_act' inner' rest' hstack hactivated) hl).2.2.1
      cases hzero
  | leave polls rest' hstack hactivated =>
    rw [hstack] at hwait
    cases hwait
  | leave_wait polls n' cur_act' inner' rest' hstack hactivated =>
    rw [h.activated] at hactivated
    cases hactivated
  | pop queue old m rest' hstack hqueue => exact queue.elim0
  | consumed old rest' hstack =>
    rw [hstack] at hwait
    cases hwait

/-- If the actor is in the loop of an `on_reply`, the handlers of the reply have been run, or
    some rounds of the loop lead to them. -/
def CanGoOn (s : State Body 0) : Prop :=
  ∀ n, top_wait s.stack = some n → n ∈ s.answered ∨ ∃ rounds s' body,
    (system Body 0).execVia (fun _ _ => True) s (List.replicate rounds (.loop 0)) = some s' ∧
      s'.invoked = s.invoked ++ [(n, body)]

/-- A response in the socket is found. -/
theorem runs_of_has_response (hm : Matched s) (htop : top_wait s.stack = some n)
    (hanswered : n ∉ s.answered) (hresponse : has_response s (request_id_of n) = true) :
    ∃ rounds s' body,
      (system Body 0).execVia (fun _ _ => True) s (List.replicate rounds (.loop 0)) = some s' ∧
        s'.invoked = s.invoked ++ [(n, body)] := by
  obtain ⟨m, hfind⟩ := Option.isSome_iff_exists.mp
    (List.find?_isSome.mpr (List.any_eq_true.mp hresponse))
  -- the first one
  obtain ⟨hresponds, ms, more, hsocket, hother⟩ := List.find?_eq_some_iff_append.mp hfind
  obtain ⟨body, hcontent⟩ := Message.responds_iff.mp hresponds
  obtain ⟨s', hrun, hinvoked⟩ := hm.delivered n htop hanswered ms m more body hsocket hcontent
    fun m' hm' body' hcontent' => by
      have hnot := hother m' hm'
      rw [Message.responds_iff.mpr ⟨body', hcontent'⟩] at hnot
      cases hnot
  exact ⟨_, s', body, hrun, hinvoked⟩

end actor

namespace Network

variable {Id Body : Type} {net net' : Network Id Body} {D : Set Id}

/-! ### Who waits for whom -/

/-- The actor whose reply `i` waits for. -/
def waits_for (net : Network Id Body) (i : Id) : Option Id :=
  match top_wait (net.actors i).stack with
  | some n =>
    if (net.actors i).activated && !has_response (net.actors i) (request_id_of n) then
      (net.requested i)[n]?
    else none
  | none => none

theorem waits_for_of_blocked {i : Id} {n : Nat} (h : Blocked (net.actors i) n) :
    net.waits_for i = (net.requested i)[n]? := by
  unfold waits_for
  rw [h.top]
  simp only [h.activated, h.response]
  rfl

theorem blocked_of_waits_for {i j : Id} (h : net.waits_for i = some j) :
    ∃ n, Blocked (net.actors i) n ∧ (net.requested i)[n]? = some j := by
  unfold waits_for at h
  split at h
  · next n htop =>
    split at h
    · next hwaits =>
      obtain ⟨hactivated, hresponse⟩ := (Bool.and_eq_true _ _).mp hwaits
      exact ⟨n, ⟨htop, hactivated, by simpa using hresponse⟩, h⟩
    · cases h
  · cases h

/-- For `i` nothing has changed. -/
structure Still (net net' : Network Id Body) (i : Id) : Prop where
  waits_for : net'.waits_for i = net.waits_for i
  stack : (net'.actors i).stack = (net.actors i).stack
  invoked : (net'.actors i).invoked = (net.actors i).invoked

/-- The actors of `D` handle no message and reply to none. -/
structure Frozen (D : Set Id) (net net' : Network Id Body) : Prop where
  still : ∀ i ∈ D, Still net net' i
  replies : ∀ r ∈ net'.replies, r.replier ∈ D → r ∈ net.replies

theorem Still.trans {net'' : Network Id Body} {i : Id} (h : Still net net' i)
    (h' : Still net' net'' i) : Still net net'' i :=
  ⟨h'.waits_for.trans h.waits_for, h'.stack.trans h.stack, h'.invoked.trans h.invoked⟩

theorem Frozen.trans {net'' : Network Id Body} (h : Frozen D net net')
    (h' : Frozen D net' net'') : Frozen D net net'' :=
  ⟨fun i hi => (h.still i hi).trans (h'.still i hi),
    fun r hr hmem => h.replies r (h'.replies r hr hmem) hmem⟩

theorem Frozen.closed (h : Frozen D net net') (hD : WaitFor.Closed net.waits_for D) :
    WaitFor.Closed net'.waits_for D := by
  intro i hi
  obtain ⟨j, hj, heq⟩ := hD i hi
  exact ⟨j, hj, (h.still i hi).waits_for.trans heq⟩

theorem Still.of_same {i : Id} (hactor : net'.actors i = net.actors i)
    (hrequested : net'.requested i = net.requested i) : Still net net' i := by
  refine ⟨?_, by rw [hactor], by rw [hactor]⟩
  unfold Network.waits_for
  rw [hactor, hrequested]

theorem Still.of_blocked {i : Id} {n : Nat} (h : Blocked (net.actors i) n)
    (h' : Blocked (net'.actors i) n) (hrequested : net'.requested i = net.requested i)
    (hstack : (net'.actors i).stack = (net.actors i).stack)
    (hinvoked : (net'.actors i).invoked = (net.actors i).invoked) : Still net net' i :=
  ⟨by rw [waits_for_of_blocked h, waits_for_of_blocked h', hrequested], hstack, hinvoked⟩

variable [DecidableEq Id]

/-- What is no response to its request does not concern an actor that waits. -/
theorem Still.deliver {i j : Id} {n : Nat} {content : Content Body} {origin : Origin Id}
    (h : Blocked (net.actors i) n)
    (hcontent : i = j → ∀ body, content ≠ .response (request_id_of n) body) :
    Still net (net.deliver j content origin) i := by
  have hrequested : (net.deliver j content origin).requested i = net.requested i := by
    rw [requested_deliver]
  rcases net.actors_deliver j content origin i with heq | ⟨rfl, -, heq⟩
  · exact .of_same heq hrequested
  · refine .of_blocked h ?_ hrequested ?_ ?_
    · rw [heq]
      exact h.arrive (hcontent rfl)
    · rw [heq]
      rfl
    · rw [heq]
      rfl

/-! ### Actors that wait for each other -/

omit [DecidableEq Id] in
/-- An actor that runs its own code does not wait. -/
theorem not_mem_of_user_code (hD : WaitFor.Closed net.waits_for D) {k : Id}
    (huser : user_code (net.actors k).stack = true) : k ∉ D := by
  intro hk
  obtain ⟨j, -, heq⟩ := hD k hk
  obtain ⟨n, hblocked, -⟩ := blocked_of_waits_for heq
  cases (top_wait_of_user_code huser).symm.trans hblocked.top

/-- One step, of whoever it is. -/
theorem frozen_next
    (h : ReachableVia (network Id Body) (fun net step => net.keeps_replies step = true) net)
    (hD : WaitFor.Closed net.waits_for D) {step : NetworkStep Id Body}
    (hk : net.keeps_replies step = true) (hnext : net.next step = some net') :
    Frozen D net net' := by
  have ht := tracked_of_reachable h
  have hblocked (i : Id) (hi : i ∈ D) : ∃ n j, j ∈ D ∧ Blocked (net.actors i) n ∧
      (net.requested i)[n]? = some j := by
    obtain ⟨j, hj, heq⟩ := hD i hi
    obtain ⟨n, hn⟩ := blocked_of_waits_for heq
    exact ⟨n, j, hj, hn⟩
  cases stepped_of_next hnext with
  | own k l s hown hs =>
    refine ⟨fun i hi => ?_, fun r hr _ => hr⟩
    obtain ⟨n, j, hj, hb, hn⟩ := hblocked i hi
    rcases net.set_actor_cases k s i with heq | ⟨rfl, heq⟩
    · exact .of_same heq rfl
    · have hreach := actor_reachable h i
      obtain ⟨hb', hstack, hinvoked⟩ := hb.own (Replies.run hreach) hreach hown
        ((Bool.and_eq_true _ _).mp hk).1 hs
      refine .of_blocked hb ?_ rfl ?_ ?_
      · rw [heq]
        exact hb'
      · rw [heq]
        exact hstack
      · rw [heq]
        exact hinvoked
  | send k j hrunning =>
    refine ⟨fun i hi => ?_, fun r hr _ => by simpa using hr⟩
    obtain ⟨n, j, hj, hb, hn⟩ := hblocked i hi
    exact .deliver hb fun _ body heq => by cases heq
  | request k j rehash hrunning huser =>
    have hnot := not_mem_of_user_code hD huser
    have hreplies : ((net.issue k j rehash).deliver j .ordinary
        (.request k (net.actors k).request_id)).replies = net.replies := replies_deliver ..
    refine ⟨fun i hi => ?_, fun r hr _ => hreplies ▸ hr⟩
    have hne : i ≠ k := fun heq => hnot (heq ▸ hi)
    obtain ⟨n, j', hj, hb, hn⟩ := hblocked i hi
    have hactor : (net.issue k j rehash).actors i = net.actors i := Function.update_of_ne hne ..
    have hissue : Still net (net.issue k j rehash) i :=
      .of_same hactor (Function.update_of_ne hne ..)
    refine hissue.trans (.deliver (n := n) ?_ fun _ body heq => by cases heq)
    rw [hactor]
    exact hb
  | reply k j n' serial body hmay horigin =>
    have hnot := not_mem_of_user_code hD (user_code_of_may_reply hmay)
    refine ⟨fun i hi => ?_, fun r hr hmem => ?_⟩
    · obtain ⟨n, j', hj, hb, hn⟩ := hblocked i hi
      have hlog : Still net (net.log_reply ⟨k, serial, j, n', body⟩) i := .of_same rfl rfl
      refine hlog.trans (.deliver hb fun heq body' hcontent => ?_)
      subst heq
      injection hcontent with hid
      -- the reply would be to the request that is waited for, and so from an actor of `D`
      have hr := Replies.run (actor_reachable h i)
      have hissued : n < (net.actors i).request_id := by
        rw [← ht.length i]
        exact (List.getElem?_eq_some_iff.mp hn).1
      obtain rfl := hr.id_inj (ht.issued horigin) hissued hid
      cases (ht.target _ _ _ _ horigin).symm.trans hn
      exact hnot hj
    · rw [replies_deliver] at hr
      rcases List.mem_append.mp hr with hr | hr
      · exact hr
      · cases List.mem_singleton.mp hr
        exact absurd hmem hnot
  | reply_plain k j serial body hmay horigin =>
    refine ⟨fun i hi => ?_, fun r hr _ => by simpa using hr⟩
    obtain ⟨n, j, hj, hb, hn⟩ := hblocked i hi
    exact .deliver hb fun _ body heq => by cases heq

/-- **Actors that wait for each other wait forever.** -/
theorem frozen_of_closed
    (h : ReachableVia (network Id Body) (fun net step => net.keeps_replies step = true) net)
    (hD : WaitFor.Closed net.waits_for D)
    (hrun : ReachableVia ((network Id Body).start_in net)
      (fun net step => net.keeps_replies step = true) net') : Frozen D net net' := by
  induction hrun with
  | init heq =>
    cases heq
    exact ⟨fun i _ => ⟨rfl, rfl, rfl⟩, fun r hr _ => hr⟩
  | step step hrun hk hnext ih =>
    exact ih.trans (frozen_next (h.trans hrun) (ih.closed hD) hk hnext)

/-- An actor that does not wait for another one can go on. -/
theorem can_go_on
    (h : ReachableVia (network Id Body) (fun net step => net.keeps_replies step = true) net)
    {k : Id} (hnone : net.waits_for k = none) : CanGoOn (net.actors k) := by
  intro n htop
  have hreach := actor_reachable h k
  have hr := Replies.run hreach
  by_cases hanswered : n ∈ (net.actors k).answered
  · exact .inl hanswered
  · refine .inr (runs_of_has_response (matched_of_keeps_replies hreach) htop hanswered ?_)
    by_contra hresponse
    -- then it would wait
    have hblocked : Blocked (net.actors k) n :=
      ⟨htop, (hr.nesting.looping n htop).mpr hanswered, by simpa using hresponse⟩
    obtain ⟨cur_act, inner, rest, hstack⟩ := stack_of_top_wait htop
    have hissued : n < (net.actors k).request_id :=
      (hr.table.calls (.wait n cur_act inner) (hstack ▸ List.mem_cons_self)).1
    rw [waits_for_of_blocked hblocked, List.getElem?_eq_none_iff,
      (tracked_of_reachable h).length] at hnone
    omega

/-- The actor is one of some that wait for each other, now and in all that may follow. -/
def Stuck (net : Network Id Body) (i : Id) : Prop :=
  ∃ D, i ∈ D ∧ WaitFor.Closed net.waits_for D ∧ ∀ net',
    ReachableVia ((network Id Body).start_in net)
      (fun net step => net.keeps_replies step = true) net' →
    Frozen D net net' ∧ WaitFor.Closed net'.waits_for D

/-- It waits, in the end, for an actor that can go on. -/
def Free (net : Network Id Body) (i : Id) : Prop :=
  ∃ k, WaitFor.Chain net.waits_for i k ∧ net.waits_for k = none ∧ CanGoOn (net.actors k)

/-- **Waiting in a circle is the only way to get stuck**: in every run, an actor is either one
    of some that wait for each other, which never handle a message or reply again, or it
    waits for an actor that can go on; and not both. -/
theorem stuck_or_free
    (h : ReachableVia (network Id Body) (fun net step => net.keeps_replies step = true) net)
    (i : Id) : (net.Stuck i ∨ net.Free i) ∧ ¬ (net.Stuck i ∧ net.Free i) := by
  constructor
  · rcases WaitFor.closed_or_ends net.waits_for i with ⟨D, hD, hi⟩ | ⟨k, hchain, hnone⟩
    · refine .inl ⟨D, hi, hD, fun net' hrun => ?_⟩
      have hfrozen := frozen_of_closed h hD hrun
      exact ⟨hfrozen, hfrozen.closed hD⟩
    · exact .inr ⟨k, hchain, hnone, can_go_on h hnone⟩
  · rintro ⟨⟨D, hi, hD, -⟩, k, hchain, hnone, -⟩
    exact hD.ne_none hi hchain hnone

/-- Two actors ask each other. -/
def ask_each_other : List (NetworkStep Nat Nat) :=
  [.request 0 1 false, .request 1 0 false, .own 0 (.user (.on_reply 0)),
    .own 1 (.user (.on_reply 0)), .own 0 (.loop 0), .own 1 (.loop 0)]

theorem stuck_or_free_ask_each_other : ∃ net : Network Nat Nat,
    (net.waits_for 0, net.waits_for 1) = (some 1, some 0) ∧
      (net.Stuck 0 ∨ net.Free 0) ∧ ¬ (net.Stuck 0 ∧ net.Free 0) := by
  obtain ⟨net, hnet, hobs⟩ := System.reachable_of_exec (network Nat Nat)
    (fun net step => net.keeps_replies step = true) ask_each_other
    (fun net => (net.waits_for 0, net.waits_for 1)) (b := (some 1, some 0)) rfl
    (by decide +kernel)
  exact ⟨net, hobs, stuck_or_free hnet 0⟩

/-! ### Requests in one direction -/

theorem waited_step {s s' : State Body 0} {l : Label Body 0} (hnext : s.next l = some s') :
    s'.waited = s.waited ∨ ∃ n, l = .user (.on_reply n) ∧ s'.waited = s.waited ++ [n] := by
  cases (next_cases hnext).2 with
  | user step huser hstep =>
    cases hstep with
    | on_reply_waits n inserted hvalid hentry => exact .inr ⟨n, rfl, rfl⟩
    | _ => exact .inl rfl
  | @receives _ table polls source m hreceives hmessage =>
    have hprocess :=
      process_cases (s.take_from source) ⟨table, source, m, s.current_message, polls⟩
    generalize (s.take_from source).process _ = s' at hprocess ⊢
    cases hprocess <;> exact .inl rfl
  | _ => exact .inl rfl

/-- An `on_reply` is only called for a request to a smaller actor. -/
def Descends (r : Id → Id → Prop) (net : Network Id Body) : NetworkStep Id Body → Prop
  | .own i (.user (.on_reply n)) => ∀ j ∈ (net.requested i)[n]?, r j i
  | _ => True

instance (r : Id → Id → Prop) [DecidableRel r] (net : Network Id Body)
    (step : NetworkStep Id Body) : Decidable (net.Descends r step) := by
  unfold Descends
  split <;> infer_instance

/-- All that has been waited for is smaller. -/
def Descending (r : Id → Id → Prop) (net : Network Id Body) : Prop :=
  ∀ i, ∀ n ∈ (net.actors i).waited, ∀ j, (net.requested i)[n]? = some j → r j i

theorem Descending.deliver {r : Id → Id → Prop} (h : net.Descending r) (j : Id)
    (content : Content Body) (origin : Origin Id) :
    (net.deliver j content origin).Descending r := by
  intro i n hn
  rw [deliver_field State.waited fun _ _ => rfl] at hn
  rw [requested_deliver]
  exact h i n hn

theorem Descending.next {r : Id → Id → Prop} (h : net.Descending r) (ht : net.Tracked)
    (hreach : ∀ i, ActorReachable (net.actors i)) {step : NetworkStep Id Body}
    (hk : net.Descends r step) (hnext : net.next step = some net') : net'.Descending r := by
  cases stepped_of_next hnext with
  | own i l s hown hs =>
    intro a n hn j hj
    rcases net.set_actor_cases i s a with heq | ⟨rfl, heq⟩
    · rw [heq] at hn
      exact h a n hn j hj
    · rw [heq] at hn
      rcases waited_step hs with hsame | ⟨n', rfl, hwaited⟩
      · exact h a n (hsame ▸ hn) j hj
      · rw [hwaited] at hn
        rcases List.mem_append.mp hn with hn | hn
        · exact h a n hn j hj
        · cases List.mem_singleton.mp hn
          exact hk j hj
  | send i j hrunning => exact h.deliver _ _ _
  | request i j rehash hrunning huser =>
    refine Descending.deliver (fun a n hn b hb => ?_) _ _ _
    rw [issue_field State.waited fun _ => rfl] at hn
    change (Function.update net.requested i _ a)[n]? = some b at hb
    rw [Function.update_apply] at hb
    split at hb
    · next ha =>
      subst ha
      -- the new request has not been waited for
      have hlt := (Replies.run (hreach a)).table.waited n hn
      rw [List.getElem?_append_left (ht.length a ▸ hlt)] at hb
      exact h a n hn b hb
    · exact h a n hn b hb
  | reply i j n serial body hmay horigin =>
    have hlog : (net.log_reply ⟨i, serial, j, n, body⟩).Descending r := h
    exact hlog.deliver _ _ _
  | reply_plain i j serial body hmay horigin => exact h.deliver _ _ _

/-- An actor asks a smaller one, which asks a smaller one. -/
def ask_smaller : List (NetworkStep Nat Nat) :=
  [.own 1 (.user .receive), .request 2 1 false, .own 2 (.user (.on_reply 0)), .own 1 (.loop 0),
    .request 1 0 false, .own 1 (.user (.on_reply 0))]

end Network
end ZAF.ActorNetwork
