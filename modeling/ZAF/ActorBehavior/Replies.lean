import ZAF.ActorBehavior.Nesting

/-! # Every reply reaches its handler

    Responses arrive in any order: before their `on_reply`, during it, or while
    another `on_reply` waits. Each is stored for its handler or processed by the
    `on_reply` that waits for it.
-/

namespace ZAF.ActorBehavior

open LTS

variable {Body : Type} {queues : Nat}

/-- Does a step give a response to the user's handlers, while `inner_handlers`
    are moved away? -/
def State.passes (s : State Body queues) (l : Label Body queues) : Bool :=
  match s.receiving l, s.next_message with
  | some .user, some (_, ⟨_, .response ..⟩) => !s.inner_handlers
  | _, _ => false

/-- 1. No response is stored in the place of another. 2. None is given to a
    `receive` or `receive_once` of the user that runs while an `on_reply` waits.
    3. When the handlers of a stored response return, the iterator of `on_reply`
    is still valid. -/
def keeps_replies (s : State Body queues) (l : Label Body queues) : Bool :=
  (match s.stores l with
    | some req_id => (s.unfinished_requests req_id).all (·.response.isNone)
    | none => true) && !s.passes l &&
  (match l, s.stack with
    | .user (.returns _), .stored n generation inserted :: _ => s.iter_valid n generation inserted
    | _, _ => true)

/-- A response to the `n`-th request, received after the request was issued. -/
def State.has_received (s : State Body queues) (n : Nat) (response : Body) : Prop :=
  ∃ k, n < k ∧ (k, request_id_of n, response) ∈ s.received

/-! ### The invariant -/

structure Replies (s : State Body queues) : Prop where
  table : RequestTable s
  nesting : Nesting s.stack s.inner_handlers s.activated s.answered
  bound : s.request_id ≤ 2 ^ 32
  defined : s.undefined = false
  once : s.answered.Nodup
  returned : ∀ n, s.handlers n = .invalid → n ∈ s.answered
  /-- A handler stays valid until its `on_reply` returns. -/
  on_stack : ∀ n, s.handlers n = .valid → n ∈ s.answered ∨ n ∈ s.waited →
    ∃ f ∈ s.stack, f.on_reply = some n
  own : ∀ n response, (n, response) ∈ s.invoked → s.has_received n response
  received : ∀ k req_id response, (k, req_id, response) ∈ s.received → k ≤ s.request_id
  entry_id : ∀ req_id entry, s.unfinished_requests req_id = some entry →
    request_id_of entry.inserted = req_id
  /-- What is received for a handler is stored for it, and nothing else is. -/
  kept : ∀ n, s.handlers n = .valid → n ∉ s.answered → ∀ response,
    s.has_received n response ↔
      ∃ inserted, s.unfinished_requests (request_id_of n) = some ⟨inserted, some response⟩

theorem replies_start : Replies (start Body queues) where
  table := requestTable_start
  nesting := nesting_nil true []
  bound := Nat.zero_le _
  defined := rfl
  once := List.nodup_nil
  returned n h := by cases h
  on_stack n h := by cases h
  own n response h := by cases h
  received k req_id response h := by cases h
  entry_id req_id entry h := by cases h
  kept n h := by cases h

theorem mem_of_mem_concat {l : List Nat} {n n' : Nat} (hmem : n' ∈ l ++ [n]) (hne : n' ≠ n) :
    n' ∈ l := by
  rcases List.mem_append.mp hmem with hmem | hmem
  · exact hmem
  · exact absurd (List.mem_singleton.mp hmem) hne

/-- Fewer than 2^32 requests have different ids. -/
theorem request_id_of_inj {n n' : Nat} (hn : n < 2 ^ 32) (hn' : n' < 2 ^ 32)
    (h : request_id_of n = request_id_of n') : n = n' := by
  have heq := congrArg UInt32.toNat h
  rw [request_id_of, request_id_of, UInt32.toNat_ofNat', UInt32.toNat_ofNat'] at heq
  omega

section steps

variable {s s' : State Body queues}

/-- An id whose handler has not been waited on is in the table. -/
theorem Replies.entry_of_unused (h : Replies s) {n : Nat} (hvalid : s.handlers n = .valid)
    (hcalls : ∀ f ∈ s.stack, f.on_reply ≠ some n) :
    n ∉ s.answered ∧ n ∉ s.waited ∧ s.unfinished_requests (request_id_of n) ≠ none := by
  have hanswered : n ∉ s.answered := by
    intro hmem
    obtain ⟨f, hf, hreply⟩ := h.on_stack n hvalid (.inl hmem)
    exact hcalls f hf hreply
  have hwaited : n ∉ s.waited := by
    intro hmem
    obtain ⟨f, hf, hreply⟩ := h.on_stack n hvalid (.inr hmem)
    exact hcalls f hf hreply
  exact ⟨hanswered, hwaited, h.table.entry n hvalid hanswered hwaited⟩

/-- A handler whose `on_reply` waits and has no reply yet is the one on top. -/
theorem Replies.top_of_waited (h : Replies s) {n : Nat} (hvalid : s.handlers n = .valid)
    (hwaited : n ∈ s.waited) (hanswered : n ∉ s.answered) : top_wait s.stack = some n := by
  obtain ⟨f, hf, hreply⟩ := h.on_stack n hvalid (.inr hwaited)
  have hopen := h.table.calls f hf
  cases f with
  | wait n' cur_act inner =>
    cases hreply
    exact (h.nesting.top_or_answered hf).resolve_right hanswered
  | stored n' generation inserted =>
    cases hreply
    exact absurd hopen.2.2.1 hanswered
  | _ => cases hreply

/-- A loop whose handlers are the user's is not that of an `on_reply`. -/
theorem top_wait_of_receives_user {l : Label Body queues} {polls : Nat}
    (hreceives : Receives s l .user polls) : top_wait s.stack = none := by
  cases hreceives with
  | once polls huser => exact top_wait_of_user_code huser
  | loop polls rest hstack hactivated => rw [hstack]; rfl

/-- The loop of an `on_reply` runs without callbacks, until it has its reply. -/
theorem Replies.receives_reply (h : Replies s) {l : Label Body queues} {n polls : Nat}
    (hreceives : Receives s l (.reply n) polls) (hl : only_replies s l = true) :
    s.inner_handlers = false ∧ top_wait s.stack = some n ∧ polls = 0 ∧ n ∉ s.answered := by
  cases hreceives with
  | wait polls n cur_act inner rest hstack hactivated =>
    have htop : top_wait s.stack = some n := by rw [hstack]; rfl
    have hinner : s.inner_handlers = false := by
      rw [h.nesting.inner, hstack]
      rfl
    refine ⟨hinner, htop, ?_, (h.nesting.looping n htop).mp hactivated⟩
    simpa [only_replies, htop] using hl

/-- A response that is stored is not the one that an `on_reply` waits for. -/
theorem Replies.not_waited_of_stores (h : Replies s) {l : Label Body queues} {req_id : UInt32}
    (hl : only_replies s l = true) {table : Table} {polls : Nat}
    (hreceives : Receives s l table polls)
    (htable : s.inner_handlers = true ∨ ∃ n, table = .reply n ∧ req_id ≠ request_id_of n)
    {n : Nat} (hvalid : s.handlers n = .valid) (hwaited : n ∈ s.waited)
    (hid : request_id_of n = req_id) : n ∈ s.answered := by
  by_contra hanswered
  -- Then its loop is the one that receives, and it recognises its own id.
  have htop := h.top_of_waited hvalid hwaited hanswered
  cases table with
  | user =>
    rw [top_wait_of_receives_user hreceives] at htop
    cases htop
  | reply n' =>
    obtain ⟨hinner, htop', -, -⟩ := h.receives_reply hreceives hl
    rw [htop'] at htop
    cases htop
    rcases htable with htable | ⟨n', heq, hne⟩
    · rw [hinner] at htable
      cases htable
    · cases heq
      exact hne hid.symm

/-- Under this invariant nobody waits for a response that is stored, so that the
    table is right. -/
theorem Replies.answers_in_time (h : Replies s) {l : Label Body queues}
    (hl : only_replies s l = true) (hk : keeps_replies s l = true) (hn : s.next l = some s') :
    answers_in_time s l = true := by
  unfold ActorBehavior.answers_in_time
  rw [Bool.and_eq_true]
  constructor
  · -- A handler with this id that has waited was destroyed, or has its reply.
    split
    · next req_id hstores =>
      obtain ⟨table, polls, hreceives, htable⟩ := receives_of_stores hn hstores
      rw [List.all_eq_true]
      intro n hwaited
      have hanswered : request_id_of n = req_id → s.handlers n ≠ .destroyed → n ∈ s.answered := by
        intro hid hdestroyed
        cases hhandler : s.handlers n with
        | unissued =>
          have hle := (h.table.issued n).mp hhandler
          have hlt := h.table.waited n hwaited
          omega
        | destroyed => exact absurd hhandler hdestroyed
        | invalid => exact h.returned n hhandler
        | valid => exact h.not_waited_of_stores hl hreceives htable hhandler hwaited hid
      by_cases hid : request_id_of n = req_id
      · by_cases hdestroyed : s.handlers n = .destroyed
        · simp [hdestroyed]
        · simp [hanswered hid hdestroyed]
      · simp [hid]
    · rfl
  · have hreturns := (Bool.and_eq_true _ _ ▸ hk).2
    split
    · -- Ids do not repeat below 2^32.
      next rehash =>
      have hbound : s.request_id < 2 ^ 32 := by simpa [only_replies] using hl
      rw [List.all_eq_true]
      intro n hn'
      have hlt := List.mem_range.mp hn'
      have hne : request_id_of n ≠ request_id_of s.request_id := by
        intro hid
        have heq := request_id_of_inj (by omega) hbound hid
        omega
      simp [hne]
    · next hstack =>
      rw [hstack] at hreturns
      exact hreturns
    · rfl

/-- A step after which the requests are as before. -/
structure SameReplies (s s' : State Body queues) : Prop where
  request_id : s'.request_id = s.request_id
  handlers : s'.handlers = s.handlers
  waited : s'.waited = s.waited
  invoked : s'.invoked = s.invoked
  received : s'.received = s.received
  table : s'.unfinished_requests = s.unfinished_requests
  undefined : s'.undefined = s.undefined
  calls : ∀ f ∈ s.stack, f.on_reply ≠ none → f ∈ s'.stack

theorem Replies.of_same (h : Replies s) (htable : RequestTable s')
    (hnesting : Nesting s'.stack s'.inner_handlers s'.activated s.answered)
    (hsame : SameReplies s s') : Replies s' := by
  have hanswered : s'.answered = s.answered := by rw [State.answered, hsame.invoked]; rfl
  have hreceived : s'.has_received = s.has_received := by
    unfold State.has_received
    rw [hsame.received]
  refine ⟨htable, ?_, ?_, ?_, ?_, ?_, ?_, ?_, ?_, ?_, ?_⟩
  · rw [hanswered]
    exact hnesting
  · rw [hsame.request_id]
    exact h.bound
  · rw [hsame.undefined]
    exact h.defined
  · rw [hanswered]
    exact h.once
  · rw [hanswered, hsame.handlers]
    exact h.returned
  · rw [hanswered, hsame.handlers, hsame.waited]
    intro n hn hmem
    obtain ⟨f, hf, hreply⟩ := h.on_stack n hn hmem
    exact ⟨f, hsame.calls f hf (by rw [hreply]; simp), hreply⟩
  · rw [hsame.invoked, hreceived]
    exact h.own
  · rw [hsame.received, hsame.request_id]
    exact h.received
  · rw [hsame.table]
    exact h.entry_id
  · rw [hanswered, hsame.handlers, hreceived, hsame.table]
    exact h.kept

/-- A call ends that is not that of an `on_reply`. -/
theorem Replies.end_call (h : Replies s) (htable : RequestTable s') {f : Frame Body queues}
    {rest : List (Frame Body queues)} (hstack : s.stack = f :: rest) (hf : f.is_wait = false)
    (hreplies : ∀ n, ¬ f.replies n) (hcall : f.on_reply = none) (hrest : s'.stack = rest)
    (hinner : s'.inner_handlers = s.inner_handlers) (hactivated : s'.activated = s.activated)
    (hsame : SameReplies { s with stack := rest } s') : Replies s' := by
  have hnesting := h.nesting
  rw [hstack] at hnesting
  obtain ⟨hafter, -⟩ := hnesting.pop hf hreplies s.activated
  refine h.of_same htable (by rwa [hrest, hinner, hactivated])
    { hsame with calls := fun f hf hreply => hsame.calls f ?_ hreply }
  rw [hstack] at hf
  exact mem_of_on_reply_ne hf (hcall ▸ hreply)

theorem Replies.answered_lt (h : Replies s) {n : Nat} (hn : n ∈ s.answered) :
    n < s.request_id := by
  obtain ⟨⟨n', response⟩, hmem, rfl⟩ := List.mem_map.mp hn
  obtain ⟨k, hlt, hreceived⟩ := h.own n' response hmem
  exact Nat.lt_of_lt_of_le hlt (h.received k _ _ hreceived)

/-- Two requests issued so far have different ids. -/
theorem Replies.id_inj (h : Replies s) {n n' : Nat} (hn : n < s.request_id)
    (hn' : n' < s.request_id) (hid : request_id_of n = request_id_of n') : n = n' :=
  request_id_of_inj (Nat.lt_of_lt_of_le hn h.bound) (Nat.lt_of_lt_of_le hn' h.bound) hid

/-! ### Requests and the end of handlers -/

/-- The id of a new request is not in the table. -/
theorem Replies.request (h : Replies s) {rehash : Bool} (hbound : s.request_id < 2 ^ 32)
    (htable : RequestTable (s.request rehash)) : Replies (s.request rehash) := by
  -- An entry of this id would have been inserted by an earlier request, which
  -- has another id.
  have hnone : s.unfinished_requests (request_id_of s.request_id) = none := by
    cases hentry : s.unfinished_requests (request_id_of s.request_id) with
    | none => rfl
    | some entry =>
      have hlt := h.table.inserted _ entry hentry
      have heq := request_id_of_inj (by omega) hbound (h.entry_id _ entry hentry)
      omega
  have htable' : (s.request rehash).unfinished_requests =
      Function.update s.unfinished_requests (request_id_of s.request_id)
        (some ⟨s.request_id, none⟩) := by
    rw [request_table, hnone]
    rfl
  refine ⟨htable, h.nesting, hbound, h.defined, h.once, ?_, ?_, h.own, ?_, ?_, ?_⟩
  · intro n hn
    rw [request_handlers, Function.update_apply] at hn
    split at hn
    · cases hn
    · exact h.returned n hn
  · intro n hn hmem
    rw [request_handlers, Function.update_apply] at hn
    split at hn
    · next heq =>
      subst heq
      rcases hmem with hmem | hmem
      · exact absurd (h.answered_lt hmem) (Nat.lt_irrefl _)
      · exact absurd (h.table.waited _ hmem) (Nat.lt_irrefl _)
    · exact h.on_stack n hn hmem
  · intro k req_id response hmem
    exact Nat.le_succ_of_le (h.received k req_id response hmem)
  · intro req_id entry hentry
    rw [htable', Function.update_apply] at hentry
    split at hentry
    · next hid =>
      cases hentry
      exact hid.symm
    · exact h.entry_id req_id entry hentry
  · intro n hn hanswered response
    rw [request_handlers, Function.update_apply] at hn
    rw [htable']
    split at hn
    · next heq =>
      subst heq
      rw [Function.update_self]
      constructor
      · rintro ⟨k, hlt, hmem⟩
        have hle := h.received k _ response hmem
        omega
      · rintro ⟨inserted, hentry⟩
        cases hentry
    · next hne =>
      have hid : request_id_of n ≠ request_id_of s.request_id := by
        have hlt := h.table.lt_of_valid hn
        exact fun hid => hne (request_id_of_inj (by omega) hbound hid)
      rw [Function.update_of_ne hid]
      exact h.kept n hn hanswered response

/-- `on_reply` finds a response. It is one that was received for this request. -/
theorem Replies.reply_stored (h : Replies s) {n inserted : Nat} {response : Body}
    (huser : user_code s.stack = true) (hvalid : s.handlers n = .valid)
    (hcalls : ∀ f ∈ s.stack, f.on_reply ≠ some n)
    (hentry : s.unfinished_requests (request_id_of n) = some ⟨inserted, some response⟩)
    (htable : RequestTable (s.reply_stored n inserted response)) :
    Replies (s.reply_stored n inserted response) := by
  obtain ⟨hanswered, -, -⟩ := h.entry_of_unused hvalid hcalls
  have hanswered' : (s.reply_stored n inserted response).answered = s.answered ++ [n] :=
    List.map_append
  have hgrow : ∀ n' ∈ s.answered, n' ∈ s.answered ++ [n] := fun n' => List.mem_append_left [n]
  refine ⟨htable, ?_, h.bound, h.defined, ?_, ?_, ?_, ?_, h.received, h.entry_id, ?_⟩
  · have htop := top_wait_of_user_code huser
    have hnesting : Nesting s.stack s.inner_handlers s.activated (s.answered ++ [n]) := by
      refine ⟨h.nesting.inner, h.nesting.shape, ?_, fun n' hn' => ?_⟩
      · exact fun f hf n' hreplies => hgrow n' (h.nesting.replying f hf n' hreplies)
      · rw [htop] at hn'
        cases hn'
    rw [hanswered']
    exact hnesting.push htop rfl (fun t h' => by cases h') s.activated
  · rw [hanswered', ← List.concat_eq_append]
    exact h.once.concat hanswered
  · intro n' hn'
    rw [hanswered']
    exact hgrow n' (h.returned n' hn')
  · intro n' hn' hmem
    by_cases heq : n' = n
    · exact ⟨_, List.mem_cons_self, by rw [heq]; rfl⟩
    · rw [hanswered'] at hmem
      have hmem' : n' ∈ s.answered ∨ n' ∈ s.waited :=
        hmem.imp_left fun hmem => mem_of_mem_concat hmem heq
      obtain ⟨f, hf, hreply⟩ := h.on_stack n' hn' hmem'
      exact ⟨f, List.mem_cons_of_mem _ hf, hreply⟩
  · intro n' response' hmem
    rcases List.mem_append.mp hmem with hmem | hmem
    · exact h.own n' response' hmem
    · cases List.mem_singleton.mp hmem
      exact (h.kept n hvalid hanswered response).mpr ⟨inserted, hentry⟩
  · intro n' hn' hmem
    rw [hanswered'] at hmem
    exact h.kept n' hn' fun h' => hmem (hgrow n' h')

/-- `on_reply` finds no response: none has been received for this request. -/
theorem Replies.wait_reply (h : Replies s) {n inserted : Nat} (huser : user_code s.stack = true)
    (hvalid : s.handlers n = .valid) (hcalls : ∀ f ∈ s.stack, f.on_reply ≠ some n)
    (hentry : s.unfinished_requests (request_id_of n) = some ⟨inserted, none⟩)
    (htable : RequestTable (s.wait_reply n)) : Replies (s.wait_reply n) := by
  obtain ⟨hanswered, -, -⟩ := h.entry_of_unused hvalid hcalls
  have htable' : (s.wait_reply n).unfinished_requests =
    Function.update s.unfinished_requests (request_id_of n) none := rfl
  refine ⟨htable, ?_, h.bound, h.defined, h.once, h.returned, ?_, h.own, h.received, ?_, ?_⟩
  · exact h.nesting.wait (top_wait_of_user_code huser) hanswered s.activated
  · intro n' hn' hmem
    by_cases heq : n' = n
    · exact ⟨_, List.mem_cons_self, by rw [heq]; rfl⟩
    · have hmem' : n' ∈ s.answered ∨ n' ∈ s.waited :=
        hmem.imp_right fun hmem => mem_of_mem_concat hmem heq
      obtain ⟨f, hf, hreply⟩ := h.on_stack n' hn' hmem'
      exact ⟨f, List.mem_cons_of_mem _ hf, hreply⟩
  · intro req_id entry hsome
    rw [htable', Function.update_apply] at hsome
    split at hsome
    · cases hsome
    · exact h.entry_id req_id entry hsome
  · intro n' hn' hanswered' response
    have hold := h.kept n' hn' hanswered' response
    rw [htable']
    by_cases heq : n' = n
    · subst heq
      rw [hentry] at hold
      rw [Function.update_self]
      refine hold.trans ⟨?_, ?_⟩
      · rintro ⟨inserted', h'⟩
        cases h'
      · rintro ⟨inserted', h'⟩
        cases h'
    · rw [Function.update_of_ne fun hid => heq (h.table.unique n' n hn' hvalid hid)]
      exact hold

/-- The end of a handler does not concern the others. -/
theorem Replies.finish (h : Replies s) {n : Nat} {state : RequestHandler}
    (htable : RequestTable s')
    (hnesting : Nesting s'.stack s'.inner_handlers s'.activated s.answered)
    (hfinish : Finishes s s' n state) (hreceived : s'.received = s.received)
    (hundefined : s'.undefined = s.undefined)
    (hstate : state = .destroyed ∨ state = .invalid ∧ n ∈ s.answered)
    (hcalls : ∀ f ∈ s.stack, f.on_reply ≠ none → f.on_reply ≠ some n → f ∈ s'.stack) :
    Replies s' := by
  have hanswered : s'.answered = s.answered := by rw [State.answered, hfinish.invoked]; rfl
  have hreceived' : s'.has_received = s.has_received := by
    unfold State.has_received
    rw [hreceived]
  have hold : ∀ n', s'.handlers n' = .valid → n' ≠ n ∧ s.handlers n' = .valid := by
    intro n' hn'
    rw [hfinish.handlers, Function.update_apply] at hn'
    split at hn'
    · rcases hstate with rfl | ⟨rfl, -⟩ <;> cases hn'
    · next hne => exact ⟨hne, hn'⟩
  refine ⟨htable, ?_, ?_, ?_, ?_, ?_, ?_, ?_, ?_, ?_, ?_⟩
  · rw [hanswered]
    exact hnesting
  · rw [hfinish.request_id]
    exact h.bound
  · rw [hundefined]
    exact h.defined
  · rw [hanswered]
    exact h.once
  · intro n' hn'
    rw [hanswered]
    rw [hfinish.handlers, Function.update_apply] at hn'
    split at hn'
    · next heq =>
      rcases hstate with rfl | ⟨-, hmem⟩
      · cases hn'
      · rwa [heq]
    · exact h.returned n' hn'
  · intro n' hn' hmem
    obtain ⟨hne, hvalid⟩ := hold n' hn'
    rw [hanswered, hfinish.waited] at hmem
    obtain ⟨f, hf, hreply⟩ := h.on_stack n' hvalid hmem
    refine ⟨f, hcalls f hf (by rw [hreply]; simp) ?_, hreply⟩
    rw [hreply]
    exact fun heq => hne (Option.some.inj heq)
  · rw [hfinish.invoked, hreceived']
    exact h.own
  · rw [hreceived, hfinish.request_id]
    exact h.received
  · intro req_id entry hentry
    exact h.entry_id req_id entry (hfinish.less req_id entry hentry)
  · intro n' hn' hmem response
    obtain ⟨hne, hvalid⟩ := hold n' hn'
    rw [hanswered] at hmem
    rw [hreceived', hfinish.kept n' hne hvalid]
    exact h.kept n' hvalid hmem response

end steps

end ZAF.ActorBehavior
