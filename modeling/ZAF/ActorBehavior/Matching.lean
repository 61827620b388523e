import ZAF.ActorBehavior.Replies

/-! # Requests and responses are matched by id

    The run of a program that requests and waits: every `on_reply` runs its
    handlers once, on a response to its own request, and every response for
    another handler is kept for it.
-/

namespace ZAF.ActorBehavior

open LTS

variable {Body : Type} {queues : Nat} {s s' : State Body queues}

/-! ### Receiving -/

/-- A response is stored for its handler, which has none yet. -/
theorem Replies.process_response (h : Replies s) {t : Turn Body} {req_id : UInt32}
    {response : Body}
    (htable : RequestTable
      ((s.receive_response req_id response).process_response t req_id response))
    (hnesting : Nesting
      ((s.receive_response req_id response).process_response t req_id response).stack
      s.inner_handlers s.activated s.answered)
    (hwaited : ∀ n, s.handlers n = .valid → n ∈ s.waited → request_id_of n = req_id →
      n ∈ s.answered)
    (hempty : ∀ entry, s.unfinished_requests req_id = some entry → entry.response = none)
    (hcalls : ∀ f ∈ s.stack,
      f ∈ ((s.receive_response req_id response).process_response t req_id response).stack) :
    Replies ((s.receive_response req_id response).process_response t req_id response) := by
  have hstored : ((s.receive_response req_id response).process_response t req_id
      response).unfinished_requests =
        Function.update s.unfinished_requests req_id ((s.unfinished_requests req_id).map
          fun entry => { entry with response := some response }) :=
    rfl
  have hgrow : ∀ n response', s.has_received n response' →
      ((s.receive_response req_id response).process_response t req_id response).has_received
        n response' :=
    fun n response' ⟨k, hlt, hmem⟩ => ⟨k, hlt, List.mem_append_left _ hmem⟩
  refine ⟨htable, hnesting, h.bound, h.defined, h.once, h.returned, ?_, ?_, ?_, ?_, ?_⟩
  · intro n hn hmem
    obtain ⟨f, hf, hreply⟩ := h.on_stack n hn hmem
    exact ⟨f, hcalls f hf, hreply⟩
  · intro n response' hmem
    exact hgrow n response' (h.own n response' hmem)
  · intro k req_id' response' hmem
    rcases List.mem_append.mp hmem with hmem | hmem
    · exact h.received k req_id' response' hmem
    · cases List.mem_singleton.mp hmem
      exact Nat.le_refl _
  · intro req_id' entry hentry
    rw [hstored, Function.update_apply] at hentry
    split at hentry
    · next hid =>
      obtain ⟨entry', hentry', rfl⟩ := Option.map_eq_some_iff.mp hentry
      rw [hid]
      exact h.entry_id req_id entry' hentry'
    · exact h.entry_id req_id' entry hentry
  · intro n hn hanswered response'
    have hold := h.kept n hn hanswered response'
    rw [hstored, Function.update_apply]
    split
    · next hid =>
      -- The entry is there and empty, so nothing was received for this handler.
      have hnot_waited : n ∉ s.waited := fun hmem => hanswered (hwaited n hn hmem hid)
      cases hentry : s.unfinished_requests req_id with
      | none => exact absurd (hid ▸ hentry) (h.table.entry n hn hanswered hnot_waited)
      | some entry =>
        have hnone := hempty entry hentry
        rw [hid, hentry] at hold
        constructor
        · rintro ⟨k, hlt, hmem⟩
          rcases List.mem_append.mp hmem with hmem | hmem
          · obtain ⟨inserted, heq⟩ := hold.mp ⟨k, hlt, hid ▸ hmem⟩
            cases heq
            cases hnone
          · cases List.mem_singleton.mp hmem
            exact ⟨entry.inserted, rfl⟩
        · rintro ⟨inserted, heq⟩
          cases heq
          refine ⟨s.request_id, h.table.lt_of_valid hn, ?_⟩
          rw [hid]
          exact List.mem_append_right _ (List.mem_singleton_self _)
    · next hid =>
      refine Iff.trans ⟨?_, hgrow n response'⟩ hold
      rintro ⟨k, hlt, hmem⟩
      rcases List.mem_append.mp hmem with hmem | hmem
      · exact ⟨k, hlt, hmem⟩
      · cases List.mem_singleton.mp hmem
        exact absurd rfl hid

/-- The `on_reply` on top gets its response. -/
theorem Replies.process_reply (h : Replies s) {t : Turn Body} {n : Nat} {response : Body}
    (htop : top_wait s.stack = some n) (hanswered : n ∉ s.answered) (htable : t.table = .reply n)
    (hpolls : t.polls = 0)
    (htable' : RequestTable
      ((s.receive_response (request_id_of n) response).process_reply t n response)) :
    Replies ((s.receive_response (request_id_of n) response).process_reply t n response) := by
  obtain ⟨cur_act, inner, rest, hstack⟩ := stack_of_top_wait htop
  have hissued : n < s.request_id :=
    (h.table.calls (.wait n cur_act inner) (by rw [hstack]; exact List.mem_cons_self)).1
  have hanswered' : ((s.receive_response (request_id_of n) response).process_reply t n
    response).answered = s.answered ++ [n] := List.map_append
  have hgrow : ∀ n' ∈ s.answered, n' ∈ s.answered ++ [n] := fun n' => List.mem_append_left [n]
  have hgrow' : ∀ n' response', s.has_received n' response' →
      ((s.receive_response (request_id_of n) response).process_reply t n response).has_received
        n' response' :=
    fun n' response' ⟨k, hlt, hmem⟩ => ⟨k, hlt, List.mem_append_left _ hmem⟩
  refine ⟨htable', ?_, h.bound, h.defined, ?_, ?_, ?_, ?_, ?_, h.entry_id, ?_⟩
  · rw [hanswered']
    exact h.nesting.reply htop htable hpolls
  · rw [hanswered', ← List.concat_eq_append]
    exact h.once.concat hanswered
  · intro n' hn'
    rw [hanswered']
    exact hgrow n' (h.returned n' hn')
  · intro n' hn' hmem
    rw [hanswered'] at hmem
    by_cases heq : n' = n
    · subst heq
      refine ⟨.wait n' cur_act inner, List.mem_cons_of_mem _ ?_, rfl⟩
      show _ ∈ s.stack
      rw [hstack]
      exact List.mem_cons_self
    · have hmem' : n' ∈ s.answered ∨ n' ∈ s.waited :=
        hmem.imp_left fun hmem => mem_of_mem_concat hmem heq
      obtain ⟨f, hf, hreply⟩ := h.on_stack n' hn' hmem'
      exact ⟨f, List.mem_cons_of_mem _ hf, hreply⟩
  · intro n' response' hmem
    rcases List.mem_append.mp hmem with hmem | hmem
    · exact hgrow' n' response' (h.own n' response' hmem)
    · cases List.mem_singleton.mp hmem
      exact ⟨s.request_id, hissued, List.mem_append_right _ (List.mem_singleton_self _)⟩
  · intro k req_id response' hmem
    rcases List.mem_append.mp hmem with hmem | hmem
    · exact h.received k req_id response' hmem
    · cases List.mem_singleton.mp hmem
      exact Nat.le_refl _
  · intro n' hn' hmem response'
    rw [hanswered'] at hmem
    refine Iff.trans ⟨?_, hgrow' n' response'⟩
      (h.kept n' hn' (fun h' => hmem (hgrow n' h')) response')
    rintro ⟨k, hlt, hmem'⟩
    rcases List.mem_append.mp hmem' with hmem' | hmem'
    · exact ⟨k, hlt, hmem'⟩
    · -- The response just received is for the `on_reply` that waits.
      obtain ⟨-, hid, -⟩ := by simpa using List.mem_singleton.mp hmem'
      have heq := h.id_inj (h.table.lt_of_valid hn') hissued hid
      exact absurd (List.mem_append_right _ (List.mem_singleton.mpr heq)) hmem

/-- A message that has been processed leaves the stack as it was, callbacks
    apart. -/
theorem Replies.nesting_after (h : Replies s) {l : Label Body queues} {table : Table}
    {polls : Nat} (hreceives : Receives s l table polls) (hl : only_replies s l = true) :
    Nesting (callbacks polls ++ s.stack) s.inner_handlers s.activated s.answered := by
  cases table with
  | user => exact h.nesting.callbacks (top_wait_of_receives_user hreceives) polls s.activated
  | reply n =>
    obtain ⟨-, -, rfl, -⟩ := h.receives_reply hreceives hl
    exact h.nesting

theorem Replies.process (h : Replies s) {l : Label Body queues} {table : Table} {polls : Nat}
    {source : Source} {m : Message Body} (hreceives : Receives s l table polls)
    (hl : only_replies s l = true) (hk : keeps_replies s l = true)
    (hnext : s.next_message = some (source, m))
    (htable : RequestTable
      ((s.take_from source).process ⟨table, source, m, s.current_message, polls⟩)) :
    Replies ((s.take_from source).process ⟨table, source, m, s.current_message, polls⟩) := by
  have h' : Replies (s.take_from source) := { h with table := { h.table with } }
  have hafter : Nesting (s.receive_returns ⟨table, source, m, s.current_message, polls⟩).stack
      s.inner_handlers s.activated s.answered := by
    cases source with
    | socket => exact h.nesting_after hreceives hl
    | pending => exact h.nesting
  have hcalls : ∀ f ∈ s.stack,
      f ∈ (s.receive_returns ⟨table, source, m, s.current_message, polls⟩).stack := by
    intro f hf
    cases source with
    | socket => exact List.mem_append_right _ hf
    | pending => exact hf
  have hprocess := process_cases (s.take_from source) ⟨table, source, m, s.current_message, polls⟩
  generalize (s.take_from source).process _ = s' at hprocess htable ⊢
  cases hprocess with
  | handled htable' hcontent =>
    cases htable'
    refine h.of_same htable ?_
      ⟨rfl, rfl, rfl, rfl, rfl, rfl, rfl, fun f hf _ => List.mem_cons_of_mem _ hf⟩
    exact h.nesting.push (top_wait_of_receives_user hreceives) rfl
      (fun t heq => by cases heq; rfl) s.activated
  | passed req_id response htable' hinner hcontent =>
    -- The condition excludes that the user's handlers get a response.
    cases htable'
    have hinner' : s.inner_handlers = false := hinner
    obtain ⟨serial, content⟩ := m
    cases hcontent
    simp [keeps_replies, State.passes, hreceives.receiving, hnext, hinner'] at hk
  | consumes hcontent hinner =>
    -- `inner_handlers` know the code, so no `on_reply` is waiting.
    have huser : table = .user := by
      cases table with
      | user => rfl
      | reply n =>
        have hnot := (h.receives_reply hreceives hl).1
        rw [show (s.take_from source).inner_handlers = s.inner_handlers from rfl, hnot] at hinner
        cases hinner
    subst huser
    have hpush := h.nesting.push (f := .process ⟨.user, source, m, s.current_message, polls⟩)
      (top_wait_of_receives_user hreceives) rfl (fun t heq => by cases heq; rfl) s.activated
    refine h.of_same htable ?_ ⟨rfl, rfl, rfl, rfl, rfl, rfl, rfl, fun f hf _ =>
      List.mem_cons_of_mem _ (List.mem_cons_of_mem _ hf)⟩
    exact hpush.push rfl rfl (fun t heq => by cases heq) s.activated
  | deferred n htable' hcontent =>
    exact h.of_same htable hafter ⟨rfl, rfl, rfl, rfl, rfl, rfl, rfl, fun f hf _ => hcalls f hf⟩
  | stored req_id response hcontent htable' =>
    refine h'.process_response htable hafter ?_ ?_ hcalls
    · intro n hn hwaited hid
      exact h.not_waited_of_stores hl hreceives htable' hn hwaited hid
    · intro entry hentry
      have hempty := (Bool.and_eq_true _ _ ▸ (Bool.and_eq_true _ _ ▸ hk).1).1
      rw [hreceives.stores hnext hcontent htable'] at hempty
      have hentry' : s.unfinished_requests req_id = some entry := hentry
      simpa [hentry'] using hempty
  | replied n response htable' hinner hcontent =>
    cases htable'
    obtain ⟨-, htop, hpolls, hanswered⟩ := h.receives_reply hreceives hl
    exact h'.process_reply htop hanswered rfl hpolls htable

/-! ### The steps -/

theorem Replies.user_step (h : Replies s) {step : UserStep Body}
    (hl : only_replies s (.user step : Label Body queues) = true)
    (hk : keeps_replies s (.user step : Label Body queues) = true)
    (huser : user_code s.stack = true) (hstep : UserSteps s step s') (htable : RequestTable s') :
    Replies s' := by
  have htop := top_wait_of_user_code huser
  cases hstep with
  | request rehash => exact h.request (by simpa [only_replies] using hl) htable
  | on_reply_missing n hvalid hentry =>
    exact absurd hentry (h.entry_of_unused hvalid (by simpa [only_replies] using hl)).2.2
  | on_reply_stored n inserted response hvalid hentry =>
    exact h.reply_stored huser hvalid (by simpa [only_replies] using hl) hentry htable
  | on_reply_waits n inserted hvalid hentry =>
    exact h.wait_reply huser hvalid (by simpa [only_replies] using hl) hentry htable
  | destroy n hend =>
    exact h.finish htable h.nesting (h.table.finishes_destroy hend) rfl rfl (.inl rfl)
      fun f hf _ _ => hf
  | overwrite n hend =>
    exact h.finish htable h.nesting (h.table.finishes_overwrite hend) rfl rfl (.inl rfl)
      fun f hf _ _ => hf
  | receive =>
    refine h.of_same htable ?_
      ⟨rfl, rfl, rfl, rfl, rfl, rfl, rfl, fun f hf _ => List.mem_cons_of_mem _ hf⟩
    exact h.nesting.push htop rfl (fun t heq => by cases heq) true
  | set_activated activated =>
    refine h.of_same htable ?_ ⟨rfl, rfl, rfl, rfl, rfl, rfl, rfl, fun f hf _ => hf⟩
    exact h.nesting.callbacks htop 0 activated
  | take_current_message | release_taken | terminate_actor =>
    exact h.of_same htable h.nesting ⟨rfl, rfl, rfl, rfl, rfl, rfl, rfl, fun f hf _ => hf⟩
  | process_returns garbage t rest hstack =>
    have hnesting := h.nesting
    rw [hstack] at hnesting
    refine h.of_same htable ?_ ⟨rfl, rfl, rfl, rfl, rfl, rfl, rfl, fun f hf hreply => ?_⟩
    · obtain ⟨table, source, m, prev, polls⟩ := t
      cases table with
      | user =>
        obtain ⟨hrest, htop'⟩ := hnesting.pop rfl (fun n heq => by cases heq) s.activated
        cases source with
        | socket => exact hrest.callbacks htop' polls s.activated
        | pending => exact hrest
      | reply n =>
        obtain ⟨hpolls, hrest⟩ := hnesting.reply_returns rfl
        cases hpolls
        cases source with
        | socket => exact hrest
        | pending => exact hrest
    · rw [hstack] at hf
      have hmem : f ∈ rest := mem_of_on_reply_ne hf hreply
      obtain ⟨table, source, m, prev, polls⟩ := t
      cases source with
      | socket => exact List.mem_append_right _ hmem
      | pending => exact hmem
  | callback_returns garbage polls rest hstack =>
    have hnesting := h.nesting
    rw [hstack] at hnesting
    obtain ⟨hrest, htop'⟩ := hnesting.pop rfl (fun n heq => heq.elim) s.activated
    refine h.of_same htable (hrest.callbacks htop' polls s.activated)
      ⟨rfl, rfl, rfl, rfl, rfl, rfl, rfl, fun f hf hreply => ?_⟩
    rw [hstack] at hf
    exact List.mem_append_right _ (mem_of_on_reply_ne hf hreply)
  | stored_returns garbage n generation inserted rest hstack =>
    -- `iter` is valid, so `erase` removes the entry of this handler.
    have hiter := (Bool.and_eq_true _ _ ▸ hk).2
    rw [hstack] at hiter
    obtain ⟨hanswered, hfinishes, -⟩ := h.table.finishes_stored hstack hiter garbage
    have hnesting := h.nesting
    rw [hstack] at hnesting
    obtain ⟨hrest, htop'⟩ := hnesting.pop rfl (fun n heq => heq.elim) s.activated
    refine h.finish htable hrest hfinishes rfl ?_ (.inr ⟨rfl, hanswered⟩) fun f hf _ hne => ?_
    · simp [State.stored_returns, show s.iter_valid n generation inserted = true from hiter]
    · rw [hstack] at hf
      exact mem_of_on_reply_ne hf hne
  | pop_returns garbage queue m rest hstack =>
    exact h.end_call htable hstack rfl (fun n heq => heq.elim) rfl rfl rfl rfl
      ⟨rfl, rfl, rfl, rfl, rfl, rfl, rfl, fun f hf _ => hf⟩
  | throws k hdrop => cases hl

/-- Every step of such a program that meets the condition keeps the invariant. -/
theorem Replies.step (h : Replies s) {l : Label Body queues} (hl : only_replies s l = true)
    (hk : keeps_replies s l = true) (hn : s.next l = some s') : Replies s' := by
  have htable : RequestTable s' := h.table.step (h.answers_in_time hl hk hn) hn
  cases (next_cases hn).2 with
  | arrive | push =>
    exact h.of_same htable h.nesting ⟨rfl, rfl, rfl, rfl, rfl, rfl, rfl, fun f hf _ => hf⟩
  | user step huser hstep => exact h.user_step hl hk huser hstep htable
  | receives source m hreceives hnext => exact h.process hreceives hl hk hnext htable
  | polls hreceives hnext =>
    refine h.of_same htable (h.nesting_after hreceives hl)
      ⟨rfl, rfl, rfl, rfl, rfl, rfl, rfl, fun f hf _ => List.mem_cons_of_mem _ hf⟩
  | leave polls rest hstack hactivated =>
    exact h.end_call htable hstack rfl (fun n heq => heq.elim) rfl rfl rfl rfl
      ⟨rfl, rfl, rfl, rfl, rfl, rfl, rfl, fun f hf _ => hf⟩
  | leave_wait polls n cur_act inner rest hstack hactivated =>
    have hnesting := h.nesting
    rw [hstack, hactivated] at hnesting
    obtain ⟨hanswered, hrest⟩ := hnesting.leave (cur_act || s.activated)
    obtain ⟨-, hfinishes⟩ := h.table.finishes_wait hstack
    refine h.finish htable hrest hfinishes rfl rfl (.inr ⟨rfl, hanswered⟩) fun f hf _ hne => ?_
    rw [hstack] at hf
    exact mem_of_on_reply_ne hf hne
  | pop queue old m rest hstack hqueue =>
    refine h.of_same htable ?_
      ⟨rfl, rfl, rfl, rfl, rfl, rfl, rfl, fun f hf _ => List.mem_cons_of_mem _ hf⟩
    exact h.nesting.push (by rw [hstack]; rfl) rfl (fun t heq => by cases heq) s.activated
  | consumed old rest hstack =>
    exact h.end_call htable hstack rfl (fun n heq => heq.elim) rfl rfl rfl rfl
      ⟨rfl, rfl, rfl, rfl, rfl, rfl, rfl, fun f hf _ => hf⟩

/-- **The invariant holds throughout every run of such a program.** -/
theorem Replies.run (hs : ReachableVia (system Body queues)
    (fun s l => (only_replies s l && keeps_replies s l) = true) s) : Replies s := by
  apply hs.invariant Replies
  · intro s hinit
    rw [hinit]
    exact replies_start
  · intro s l s' h hl hn
    rw [Bool.and_eq_true] at hl
    exact h.step hl.1 hl.2 hn

/-! ### An `on_reply` that waits gets its response -/

/-- The loop of the `on_reply` of the `n`-th request is to receive. -/
structure Waits (s : State Body queues) (n : Nat) : Prop where
  stack : ∃ cur_act inner rest, s.stack = .wait n cur_act inner :: rest
  activated : s.activated = true
  inner : s.inner_handlers = false
  waiting : s.waiting_for_response ≠ 0
  running : s.terminated = false

/-- Its next message is the first in the socket. -/
theorem Waits.next (h : Waits s n) {m : Message Body} {ms : List (Message Body)}
    (hsocket : s.recv_socket = m :: ms) :
    s.next (.loop 0) =
      some ((s.take_from .socket).process ⟨.reply n, .socket, m, s.current_message, 0⟩) := by
  obtain ⟨cur_act, inner, rest, hstack⟩ := h.stack
  have hnext : s.next_message = some (.socket, m) := by
    unfold State.next_message
    split
    · next hzero hpending => exact absurd hzero h.waiting
    · rw [hsocket]
      rfl
  simp only [State.next, h.running, State.loop, hstack, h.activated, State.receive_once, hnext]
  rfl

/-- Another message does not end the wait. -/
theorem Waits.skip (h : Waits s n) {m : Message Body} {ms : List (Message Body)}
    (hsocket : s.recv_socket = m :: ms)
    (hother : ∀ response, m.content ≠ .response (request_id_of n) response) :
    ∃ s', s.next (.loop 0) = some s' ∧ Waits s' n ∧ s'.recv_socket = ms ∧
      s'.invoked = s.invoked := by
  refine ⟨_, h.next hsocket, ?_⟩
  have htail : (s.take_from .socket).recv_socket = ms := by
    show s.recv_socket.tail = ms
    rw [hsocket, List.tail_cons]
  have hprocess := process_cases (s.take_from .socket)
    ⟨.reply n, .socket, m, s.current_message, 0⟩
  generalize (s.take_from .socket).process _ = s' at hprocess ⊢
  cases hprocess with
  | handled htable => cases htable
  | passed req_id response htable => cases htable
  | consumes hcontent hinner =>
    rw [show (s.take_from .socket).inner_handlers = s.inner_handlers from rfl, h.inner] at hinner
    cases hinner
  | deferred n' htable hcontent =>
    exact ⟨⟨h.stack, h.activated, h.inner, h.waiting, h.running⟩, htail, rfl⟩
  | stored req_id response hcontent htable =>
    exact ⟨⟨h.stack, h.activated, h.inner, h.waiting, h.running⟩, htail, rfl⟩
  | replied n' response htable hinner hcontent =>
    cases htable
    exact absurd hcontent (hother response)

/-- The response starts the handlers. -/
theorem Waits.reply (h : Waits s n) {m : Message Body} {ms : List (Message Body)}
    {response : Body} (hsocket : s.recv_socket = m :: ms)
    (hm : m.content = .response (request_id_of n) response) :
    ∃ s', s.next (.loop 0) = some s' ∧ s'.invoked = s.invoked ++ [(n, response)] := by
  refine ⟨_, h.next hsocket, ?_⟩
  have hinner : (s.take_from .socket).inner_handlers = false := h.inner
  simp only [State.process, hm, hinner]
  rfl

/-- However many messages come before it. -/
theorem Waits.run (h : Waits s n) {ms : List (Message Body)} {m : Message Body}
    {more : List (Message Body)} {response : Body} (hsocket : s.recv_socket = ms ++ m :: more)
    (hm : m.content = .response (request_id_of n) response)
    (hother : ∀ m' ∈ ms, ∀ response', m'.content ≠ .response (request_id_of n) response') :
    ∃ s', (system Body queues).execVia (fun _ _ => True) s
      (List.replicate (ms.length + 1) (.loop 0)) = some s' ∧
        s'.invoked = s.invoked ++ [(n, response)] := by
  -- Each message before the response is stored or deferred.
  induction ms generalizing s with
  | nil =>
    obtain ⟨s', hn, hinvoked⟩ := h.reply hsocket hm
    refine ⟨s', ?_, hinvoked⟩
    have hn' : (system Body queues).next s (.loop 0) = some s' := hn
    simp only [List.length_nil, List.replicate, System.execVia, if_true, hn']
  | cons m' ms ih =>
    obtain ⟨s₁, hn, hwaits, hsocket', hinvoked⟩ := h.skip hsocket (hother m' List.mem_cons_self)
    obtain ⟨s', hrun, hinvoked'⟩ :=
      ih hwaits hsocket' fun m hm => hother m (List.mem_cons_of_mem _ hm)
    refine ⟨s', ?_, by rw [hinvoked', hinvoked]⟩
    have hn' : (system Body queues).next s (.loop 0) = some s₁ := hn
    rw [List.length_cons, List.replicate_succ, System.execVia]
    simp only [if_true, hn']
    exact hrun

/-! ### Matching -/

/-- Requests and responses are matched. -/
structure Matched (s : State Body queues) : Prop where
  defined : s.undefined = false
  /-- No `on_reply` runs its handlers twice. -/
  once : s.answered.Nodup
  /-- An `on_reply` that has returned has run them. -/
  returned : ∀ n, s.handlers n = .invalid → n ∈ s.answered
  /-- It ran them on a response to its own request. -/
  own : ∀ n response, (n, response) ∈ s.invoked → s.has_received n response
  /-- A response received for a handler is kept for its `on_reply`. -/
  kept : ∀ n, s.handlers n = .valid → n ∉ s.answered → ∀ response, s.has_received n response →
    ∃ inserted, s.unfinished_requests (request_id_of n) = some ⟨inserted, some response⟩
  /-- An `on_reply` that waits runs its handlers on the first response to its
      request that comes in, whatever comes before. -/
  delivered : ∀ n, top_wait s.stack = some n → n ∉ s.answered → ∀ ms m more response,
    s.recv_socket = ms ++ m :: more → m.content = .response (request_id_of n) response →
    (∀ m' ∈ ms, ∀ response', m'.content ≠ .response (request_id_of n) response') →
    ∃ s', (system Body queues).execVia (fun _ _ => True) s
      (List.replicate (ms.length + 1) (.loop 0)) = some s' ∧
        s'.invoked = s.invoked ++ [(n, response)]

/-- **Requests and responses are matched by id, in any order, in every run that
    meets the condition.** -/
theorem matched_of_keeps_replies (hs : ReachableVia (system Body queues)
    (fun s l => (only_replies s l && keeps_replies s l) = true) s) : Matched s := by
  have h := Replies.run hs
  refine ⟨h.defined, h.once, h.returned, h.own, ?_, ?_⟩
  · intro n hn hanswered response hreceived
    exact (h.kept n hn hanswered response).mp hreceived
  · intro n htop hanswered ms m more response hsocket hm hother
    obtain ⟨cur_act, inner, rest, hstack⟩ := stack_of_top_wait htop
    have hwaits : Waits s n := by
      refine ⟨⟨cur_act, inner, rest, hstack⟩, (h.nesting.looping n htop).mpr hanswered, ?_, ?_, ?_⟩
      · rw [h.nesting.inner, hstack]
        rfl
      · have hle := waits_le hs
        rw [hstack, List.countP_cons_of_pos rfl] at hle
        omega
      · cases hterminated : s.terminated with
        | false => rfl
        | true =>
          rw [stack_of_terminated hs hterminated] at hstack
          cases hstack
    exact hwaits.run hsocket hm hother

/-- Three requests. The reply to the second comes first and is stored while the
    first is waited for; the reply handler of the first calls `on_reply` of the
    second, whose handler waits for the third. -/
def unordered_requests : List (Label Nat 0) :=
  [.user (.request false), .user (.request false), .user (.request false),
    .arrive (.response 1 11), .user (.on_reply 0), .loop 0, .arrive .ordinary,
    .arrive (.response 0 10), .loop 0, .loop 0, .user (.on_reply 1), .user (.on_reply 2),
    .arrive (.response 2 12), .loop 0, .user (.returns fun _ => none), .loop 0,
    .user (.returns fun _ => none)]

theorem matched_of_keeps_replies_run :
    ∃ s : State Nat 0, (s.invoked, s.stack.length) = ([(0, 10), (1, 11), (2, 12)], 2) ∧
      Matched s := by
  obtain ⟨s, hs, hobs⟩ := System.reachable_of_exec
    (system Nat 0) (fun s l => (only_replies s l && keeps_replies s l) = true) unordered_requests
    (fun s => (s.invoked, s.stack.length))
    (s := start Nat 0) (b := ([(0, 10), (1, 11), (2, 12)], 2)) rfl (by decide +kernel)
  exact ⟨s, hobs, matched_of_keeps_replies hs⟩

/-- Both replies are stored. The reply handler of the first issues a request that
    makes `unfinished_requests` grow, and the iterator of `on_reply` is invalid
    when it is used to erase the entry. -/
def request_in_reply_handler : List (Label Nat 0) :=
  [.user (.request false), .user (.request false), .arrive (.response 0 10),
    .arrive (.response 1 11), .user (.receive_once 0), .user (.receive_once 0),
    .user (.on_reply 0), .user (.request true), .user (.returns fun _ => none)]

/-- The behaviour is undefined: the response to the second request may be lost. -/
theorem not_matched :
    ¬ ∀ s : State Nat 0,
      ReachableVia (system Nat 0) (fun s l => only_replies s l = true) s → Matched s := by
  intro hall
  obtain ⟨s, hs, hobs⟩ := System.reachable_of_exec
    (system Nat 0) (fun s l => only_replies s l = true) request_in_reply_handler
    (fun s => ((s.handlers 1, s.answered), (s.received, (s.unfinished_requests 1).isNone)))
    (s := start Nat 0) (b := ((.valid, [0]), ([(2, 0, 10), (2, 1, 11)], true)))
    rfl (by decide +kernel)
  obtain ⟨⟨hvalid, hanswered⟩, hreceived, hnone⟩ := by simpa only [Prod.mk.injEq] using hobs
  have hkept := (hall s hs).kept 1 hvalid (by rw [hanswered]; simp) 11
    ⟨2, Nat.one_lt_two, by rw [hreceived]; simp [request_id_of]⟩
  obtain ⟨inserted, hentry⟩ := hkept
  have hnone' : s.unfinished_requests (request_id_of 1) = none := Option.isNone_iff_eq_none.mp hnone
  rw [hnone'] at hentry
  cases hentry

end ZAF.ActorBehavior
