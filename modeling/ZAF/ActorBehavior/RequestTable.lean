import ZAF.ActorBehavior.Step

/-! # The table of unfinished requests

    An id is in `unfinished_requests` from the request until its handler is
    destroyed or the reply is processed, and `on_reply` takes it out when it
    starts to wait. This module shows that these are all the reasons for an id
    not to be there.
-/

namespace ZAF.ActorBehavior

open LTS

variable {Body : Type} {queues : Nat}

/-- The requests that have processed a reply. -/
def State.answered (s : State Body queues) : List Nat := s.invoked.map Prod.fst

/-! ### When an id is in the table -/

/-- 1. No response is passed to `store_response` that is for an `on_reply` whose
    id has been taken out and that has not processed a reply. 2. No id is issued
    again that a valid handler has. 3. When the handlers of a stored response
    return, the iterator of `on_reply` is still valid. -/
def answers_in_time (s : State Body queues) (l : Label Body queues) : Bool :=
  (match s.stores l with
    | some req_id => s.waited.all fun n =>
        request_id_of n != req_id || s.handlers n = .destroyed || s.answered.contains n
    | none => true) &&
  (match l, s.stack with
    | .user (.request _), _ => (List.range s.request_id).all fun n =>
        request_id_of n != request_id_of s.request_id || s.handlers n != .valid
    | .user (.returns _), .stored n generation inserted :: _ => s.iter_valid n generation inserted
    | _, _ => true)

/-! ### The invariant -/

/-- What is known of an `on_reply` that has not returned. -/
def State.OpenCall (s : State Body queues) : Frame Body queues → Prop
  | .wait n _ _ => n < s.request_id ∧ s.handlers n ≠ .destroyed ∧ n ∈ s.waited
  | .stored n _ inserted =>
    n < s.request_id ∧ s.handlers n ≠ .destroyed ∧ n ∈ s.answered ∧ inserted < s.request_id ∧
      ((s.handlers n = .valid ∧ n ∉ s.waited) ∨
        ∀ entry, s.unfinished_requests (request_id_of n) = some entry → entry.inserted ≠ inserted)
  | _ => True

/-- Which ids are in the table, by the state of their handlers. -/
structure RequestTable (s : State Body queues) : Prop where
  issued : ∀ n, s.handlers n = .unissued ↔ s.request_id ≤ n
  waited : ∀ n ∈ s.waited, n < s.request_id
  /-- Two valid handlers have different ids. -/
  unique : ∀ n n', s.handlers n = .valid → s.handlers n' = .valid →
    request_id_of n = request_id_of n' → n = n'
  /-- An `on_reply` that has returned has waited or processed a reply. -/
  returned : ∀ n, s.handlers n = .invalid → n ∈ s.answered ∨ n ∈ s.waited
  /-- The id of a handler stays in the table until its `on_reply`. -/
  entry : ∀ n, s.handlers n = .valid → n ∉ s.answered → n ∉ s.waited →
    s.unfinished_requests (request_id_of n) ≠ none
  /-- An `on_reply` that waits has taken it out. -/
  taken_out : ∀ n, s.handlers n = .valid → n ∈ s.waited →
    s.unfinished_requests (request_id_of n) = none
  inserted : ∀ req_id entry, s.unfinished_requests req_id = some entry →
    entry.inserted < s.request_id
  calls : ∀ f ∈ s.stack, s.OpenCall f

/-- Nothing has been issued. -/
theorem requestTable_start : RequestTable (start Body queues) where
  issued n := by simp [start]
  waited n h := by cases h
  unique n n' h := by cases h
  returned n h := by cases h
  entry n h := by cases h
  taken_out n h := by cases h
  inserted req_id entry h := by cases h
  calls f h := by cases h

/-! ### Steps that do not concern the table -/

/-- The requests are as they were, but for responses stored and processed. -/
structure SameRequests (s s' : State Body queues) : Prop where
  request_id : s'.request_id = s.request_id
  handlers : s'.handlers = s.handlers
  waited : s'.waited = s.waited
  answered : ∀ n ∈ s.answered, n ∈ s'.answered
  table : ∀ req_id, (s'.unfinished_requests req_id).map Entry.inserted =
    (s.unfinished_requests req_id).map Entry.inserted
  calls : ∀ f ∈ s'.stack, f.on_reply = none ∨ f ∈ s.stack

/-- Such a step keeps the invariant. -/
theorem RequestTable.of_same {s s' : State Body queues} (h : RequestTable s)
    (hsame : SameRequests s s') : RequestTable s' := by
  have hnone : ∀ req_id, s'.unfinished_requests req_id = none ↔
      s.unfinished_requests req_id = none := by
    intro req_id
    rw [← Option.map_eq_none_iff (f := Entry.inserted), hsame.table, Option.map_eq_none_iff]
  have hsome : ∀ req_id entry, s'.unfinished_requests req_id = some entry →
      ∃ entry', s.unfinished_requests req_id = some entry' ∧ entry'.inserted = entry.inserted := by
    intro req_id entry hentry
    have htable := hsame.table req_id
    rw [hentry, Option.map_some, eq_comm] at htable
    exact Option.map_eq_some_iff.mp htable
  refine ⟨?_, ?_, ?_, ?_, ?_, ?_, ?_, ?_⟩
  · rw [hsame.handlers, hsame.request_id]
    exact h.issued
  · rw [hsame.waited, hsame.request_id]
    exact h.waited
  · rw [hsame.handlers]
    exact h.unique
  · rw [hsame.handlers, hsame.waited]
    intro n hn
    exact (h.returned n hn).imp_left (hsame.answered n)
  · rw [hsame.handlers, hsame.waited]
    intro n hn hanswered hwaited
    rw [ne_eq, hnone]
    exact h.entry n hn (fun h' => hanswered (hsame.answered n h')) hwaited
  · rw [hsame.handlers, hsame.waited]
    intro n hn hwaited
    rw [hnone]
    exact h.taken_out n hn hwaited
  · intro req_id entry hentry
    obtain ⟨entry', hentry', heq⟩ := hsome req_id entry hentry
    rw [hsame.request_id, ← heq]
    exact h.inserted req_id entry' hentry'
  · intro f hf
    rcases hsame.calls f hf with hreply | hmem
    · -- Nothing is asked of a call that is not an `on_reply`.
      cases f with
      | wait | stored => cases hreply
      | _ => trivial
    · have hopen := h.calls f hmem
      cases f with
      | wait n cur_act inner =>
        rw [State.OpenCall, hsame.request_id, hsame.handlers, hsame.waited]
        exact hopen
      | stored n generation inserted =>
        obtain ⟨hn, hdestroyed, hanswered, hinserted, hentry⟩ := hopen
        rw [State.OpenCall, hsame.request_id, hsame.handlers, hsame.waited]
        refine ⟨hn, hdestroyed, hsame.answered n hanswered, hinserted, ?_⟩
        refine hentry.imp_right fun hentry entry hsome' => ?_
        obtain ⟨entry', hentry', heq⟩ := hsome _ entry hsome'
        rw [← heq]
        exact hentry entry' hentry'
      | _ => trivial

/-- A step that only changes the stack, by calls other than `on_reply`. -/
theorem SameRequests.of_stack {s s' : State Body queues}
    (hrequest_id : s'.request_id = s.request_id) (hhandlers : s'.handlers = s.handlers)
    (hwaited : s'.waited = s.waited) (hinvoked : s'.invoked = s.invoked)
    (htable : s'.unfinished_requests = s.unfinished_requests)
    (hcalls : ∀ f ∈ s'.stack, f.on_reply = none ∨ f ∈ s.stack) : SameRequests s s' where
  request_id := hrequest_id
  handlers := hhandlers
  waited := hwaited
  answered n hn := by
    rw [State.answered, hinvoked]
    exact hn
  table req_id := by rw [htable]
  calls := hcalls

/-- Callbacks of `recv_poll` are no `on_reply`. -/
theorem mem_callbacks_append {polls : Nat} {stack : List (Frame Body queues)}
    {f : Frame Body queues} (hf : f ∈ callbacks polls ++ stack) :
    f.on_reply = none ∨ f ∈ stack := by
  cases polls with
  | zero => exact .inr hf
  | succ polls =>
    rcases List.mem_cons.mp hf with rfl | hf
    · exact .inl rfl
    · exact .inr hf

theorem mem_receive_returns {s : State Body queues} {t : Turn Body} {f : Frame Body queues}
    (hf : f ∈ (s.receive_returns t).stack) : f.on_reply = none ∨ f ∈ s.stack := by
  obtain ⟨table, source, m, prev, polls⟩ := t
  cases source with
  | socket => exact mem_callbacks_append hf
  | pending => exact .inr hf

/-- A call of another `on_reply` is further down. -/
theorem mem_of_on_reply_ne {g f : Frame Body queues} {stack : List (Frame Body queues)}
    (hf : f ∈ g :: stack) (hne : f.on_reply ≠ g.on_reply) : f ∈ stack := by
  rcases List.mem_cons.mp hf with rfl | hf
  · exact absurd rfl hne
  · exact hf

theorem mem_cons_of_on_reply {g f : Frame Body queues} {stack : List (Frame Body queues)}
    (hg : g.on_reply = none) (hf : f ∈ g :: stack) : f.on_reply = none ∨ f ∈ stack := by
  rcases List.mem_cons.mp hf with rfl | hf
  · exact .inl hg
  · exact .inr hf

/-- A response that is stored does not change which ids are in the table. -/
theorem store_response_table (s : State Body queues) (req_id : UInt32) (response : Body)
    (req_id' : UInt32) :
    ((s.store_response req_id response).unfinished_requests req_id').map Entry.inserted =
      (s.unfinished_requests req_id').map Entry.inserted := by
  simp only [State.store_response, Function.update_apply]
  split
  · next hid => rw [hid, Option.map_map]; rfl
  · rfl

/-- A message is handled, passed, put off or stored, or runs the handlers of an `on_reply`; no id
    enters or leaves the table by this. -/
theorem SameRequests.process (s : State Body queues) (t : Turn Body) :
    SameRequests s (s.process t) := by
  have hprocess := process_cases s t
  generalize s.process t = s' at hprocess ⊢
  cases hprocess with
  | handled | passed => exact .of_stack rfl rfl rfl rfl rfl fun f => mem_cons_of_on_reply rfl
  | consumes hcontent hinner =>
    refine .of_stack rfl rfl rfl rfl rfl fun f hf => ?_
    exact (mem_cons_of_on_reply rfl hf).elim .inl (mem_cons_of_on_reply rfl)
  | deferred n htable hcontent =>
    exact .of_stack rfl rfl rfl rfl rfl fun f hf => mem_receive_returns hf
  | stored req_id response hcontent htable =>
    exact {
      request_id := rfl
      handlers := rfl
      waited := rfl
      answered := fun n hn => hn
      table := store_response_table s req_id response
      calls := fun f hf => mem_receive_returns hf }
  | replied n response htable hinner hcontent =>
    exact {
      request_id := rfl
      handlers := rfl
      waited := rfl
      answered := fun n hn => by
        show n ∈ (s.invoked ++ [_]).map Prod.fst
        rw [List.map_append]
        exact List.mem_append_left _ hn
      table := fun _ => rfl
      calls := fun f => mem_cons_of_on_reply rfl }

/-! ### Requests and replies -/

section steps

variable {s : State Body queues}

theorem request_handlers (rehash : Bool) :
    (s.request rehash).handlers = Function.update s.handlers s.request_id .valid := rfl

/-- An entry that is there already stays, with its stored response. -/
theorem request_table (rehash : Bool) :
    (s.request rehash).unfinished_requests =
      Function.update s.unfinished_requests (request_id_of s.request_id)
        (some ((s.unfinished_requests (request_id_of s.request_id)).getD ⟨s.request_id, none⟩)) :=
  rfl

theorem RequestTable.lt_of_issued (h : RequestTable s) {n : Nat}
    (hn : s.handlers n ≠ .unissued) : n < s.request_id := by
  rw [ne_eq, h.issued] at hn
  omega

theorem RequestTable.lt_of_valid (h : RequestTable s) {n : Nat} (hn : s.handlers n = .valid) :
    n < s.request_id := h.lt_of_issued (by rw [hn]; simp)

/-- A new request has an id that no valid handler has. -/
theorem RequestTable.request (h : RequestTable s) {rehash : Bool}
    (hnew : ∀ n < s.request_id, request_id_of n = request_id_of s.request_id →
      s.handlers n ≠ .valid) : RequestTable (s.request rehash) := by
  have hfresh : ∀ n, s.handlers n = .valid → request_id_of n ≠ request_id_of s.request_id :=
    fun n hn hid => hnew n (h.lt_of_valid hn) hid hn
  have hother : ∀ n, s.handlers n = .valid →
      (s.request rehash).unfinished_requests (request_id_of n) =
        s.unfinished_requests (request_id_of n) :=
    fun n hn => Function.update_of_ne (hfresh n hn) _ _
  have hold : ∀ n, (s.request rehash).handlers n = .valid → n ≠ s.request_id →
      s.handlers n = .valid := by
    intro n hn hne
    rwa [request_handlers, Function.update_of_ne hne] at hn
  refine ⟨?_, fun n hn => Nat.lt_succ_of_lt (h.waited n hn), ?_, ?_, ?_, ?_, ?_, ?_⟩
  · intro n
    show _ ↔ s.request_id + 1 ≤ n
    rw [request_handlers, Function.update_apply]
    split
    · next heq => exact ⟨fun h' => (by cases h'), fun h' => (by omega)⟩
    · next hne =>
      rw [h.issued n]
      omega
  · -- Of two handlers with one id at most one could be the new one.
    intro n n' hn hn' hid
    by_cases hnew : n = s.request_id
    · by_cases hnew' : n' = s.request_id
      · rw [hnew, hnew']
      · rw [hnew] at hid
        exact absurd hid.symm (hfresh n' (hold n' hn' hnew'))
    · by_cases hnew' : n' = s.request_id
      · rw [hnew'] at hid
        exact absurd hid (hfresh n (hold n hn hnew))
      · exact h.unique n n' (hold n hn hnew) (hold n' hn' hnew') hid
  · intro n hn
    rw [request_handlers, Function.update_apply] at hn
    split at hn
    · cases hn
    · exact h.returned n hn
  · intro n hn hanswered hwaited
    by_cases hnew : n = s.request_id
    · subst hnew
      rw [request_table, Function.update_self]
      exact Option.some_ne_none _
    · rw [hother n (hold n hn hnew)]
      exact h.entry n (hold n hn hnew) hanswered hwaited
  · intro n hn hwaited
    have hlt := h.waited n hwaited
    have hvalid := hold n hn (Nat.ne_of_lt hlt)
    rw [hother n hvalid]
    exact h.taken_out n hvalid hwaited
  · intro req_id entry hentry
    show entry.inserted < s.request_id + 1
    rw [request_table, Function.update_apply] at hentry
    split at hentry
    · cases hentry
      cases hold' : s.unfinished_requests (request_id_of s.request_id) with
      | none => exact Nat.lt_succ_self _
      | some entry => exact Nat.lt_succ_of_lt (h.inserted _ entry hold')
    · exact Nat.lt_succ_of_lt (h.inserted req_id entry hentry)
  · intro f hf
    have hopen := h.calls f hf
    cases f with
    | wait n cur_act inner =>
      obtain ⟨hn, hdestroyed, hwaited⟩ := hopen
      refine ⟨Nat.lt_succ_of_lt hn, ?_, hwaited⟩
      rw [request_handlers, Function.update_of_ne (Nat.ne_of_lt hn)]
      exact hdestroyed
    | stored n generation inserted =>
      obtain ⟨hn, hdestroyed, hanswered, hinserted, hentry⟩ := hopen
      have hhandler : (s.request rehash).handlers n = s.handlers n :=
        Function.update_of_ne (Nat.ne_of_lt hn) _ _
      refine ⟨Nat.lt_succ_of_lt hn, by rwa [hhandler], hanswered, Nat.lt_succ_of_lt hinserted, ?_⟩
      rw [hhandler]
      refine hentry.imp_right fun hentry entry hsome => ?_
      rw [request_table, Function.update_apply] at hsome
      split at hsome
      · next hid =>
        -- `emplace` inserts a new entry, or keeps one that is not this call's.
        cases hsome
        cases hold' : s.unfinished_requests (request_id_of s.request_id) with
        | none => exact (Nat.ne_of_lt hinserted).symm
        | some entry =>
          rw [hid] at hentry
          exact hentry entry hold'
      · exact hentry entry hsome
    | _ => trivial

/-- `on_reply` on a stored response. -/
theorem RequestTable.reply_stored (h : RequestTable s) {n inserted : Nat} {response : Body}
    (hvalid : s.handlers n = .valid)
    (hentry : s.unfinished_requests (request_id_of n) = some ⟨inserted, some response⟩) :
    RequestTable (s.reply_stored n inserted response) := by
  have hgrow : ∀ n' ∈ s.answered, n' ∈ (s.reply_stored n inserted response).answered := by
    intro n' hn'
    show n' ∈ (s.invoked ++ [_]).map Prod.fst
    rw [List.map_append]
    exact List.mem_append_left _ hn'
  -- The entry of a handler that waits has been taken out.
  have hwaited : n ∉ s.waited := by
    intro hmem
    rw [h.taken_out n hvalid hmem] at hentry
    cases hentry
  refine { h with returned := ?_, entry := ?_, calls := ?_ }
  · intro n' hn'
    exact (h.returned n' hn').imp_left (hgrow n')
  · intro n' hn' hanswered
    exact h.entry n' hn' fun h' => hanswered (hgrow n' h')
  · intro f hf
    rcases List.mem_cons.mp hf with rfl | hf
    · refine ⟨h.lt_of_valid hvalid, ?_, ?_, h.inserted _ _ hentry, .inl ⟨hvalid, hwaited⟩⟩
      · show s.handlers n ≠ .destroyed
        rw [hvalid]
        simp
      · show n ∈ (s.invoked ++ [_]).map Prod.fst
        simp
    · have hopen := h.calls f hf
      cases f with
      | wait n' cur_act inner => exact hopen
      | stored n' generation inserted' =>
        obtain ⟨hn', hdestroyed, hanswered, hrest⟩ := hopen
        exact ⟨hn', hdestroyed, hgrow n' hanswered, hrest⟩
      | _ => trivial

/-- `on_reply` starts to wait. -/
theorem RequestTable.wait_reply (h : RequestTable s) {n : Nat} (hvalid : s.handlers n = .valid) :
    RequestTable (s.wait_reply n) := by
  have htable : (s.wait_reply n).unfinished_requests =
    Function.update s.unfinished_requests (request_id_of n) none := rfl
  have hless : ∀ req_id entry, (s.wait_reply n).unfinished_requests req_id = some entry →
      s.unfinished_requests req_id = some entry := by
    intro req_id entry hentry
    rw [htable, Function.update_apply] at hentry
    split at hentry
    · cases hentry
    · exact hentry
  have hgrow : ∀ n' ∈ s.waited, n' ∈ s.waited ++ [n] := fun n' => List.mem_append_left [n]
  refine ⟨h.issued, ?_, h.unique, ?_, ?_, ?_, ?_, ?_⟩
  · intro n' hn'
    rcases List.mem_append.mp hn' with hn' | hn'
    · exact h.waited n' hn'
    · rw [List.mem_singleton.mp hn']
      exact h.lt_of_valid hvalid
  · intro n' hn'
    exact (h.returned n' hn').imp_right (hgrow n')
  · intro n' hn' hanswered hwaited
    have hne : n' ≠ n := by
      rintro rfl
      exact hwaited (List.mem_append_right _ (List.mem_singleton_self _))
    rw [htable, Function.update_of_ne fun hid => hne (h.unique n' n hn' hvalid hid)]
    exact h.entry n' hn' hanswered fun h' => hwaited (hgrow n' h')
  · intro n' hn' hwaited
    rw [htable, Function.update_apply]
    split
    · rfl
    · next hid =>
      rcases List.mem_append.mp hwaited with hwaited | hwaited
      · exact h.taken_out n' hn' hwaited
      · exact absurd (congrArg request_id_of (List.mem_singleton.mp hwaited)) hid
  · intro req_id entry hentry
    exact h.inserted req_id entry (hless req_id entry hentry)
  · intro f hf
    rcases List.mem_cons.mp hf with rfl | hf
    · refine ⟨h.lt_of_valid hvalid, ?_, List.mem_append_right _ (List.mem_singleton_self n)⟩
      show s.handlers n ≠ .destroyed
      rw [hvalid]
      simp
    · have hopen := h.calls f hf
      cases f with
      | wait n' cur_act inner =>
        exact ⟨hopen.1, hopen.2.1, hgrow n' hopen.2.2⟩
      | stored n' generation inserted =>
        obtain ⟨hn', hdestroyed, hanswered, hinserted, hentry⟩ := hopen
        refine ⟨hn', hdestroyed, hanswered, hinserted, ?_⟩
        by_cases heq : n' = n
        · -- From here on no entry of this id is the one that `iter` points to.
          subst heq
          right
          intro entry hentry
          rw [htable, Function.update_self] at hentry
          cases hentry
        · rcases hentry with ⟨hvalid', hwaited'⟩ | hentry
          · left
            refine ⟨hvalid', fun hmem => ?_⟩
            rcases List.mem_append.mp hmem with hmem | hmem
            · exact hwaited' hmem
            · exact heq (List.mem_singleton.mp hmem)
          · right
            intro entry hsome
            exact hentry entry (hless _ entry hsome)
      | _ => trivial

/-- The end of a handler: it becomes invalid or is destroyed, and its entry may
    go. -/
structure Finishes (s s' : State Body queues) (n : Nat) (state : RequestHandler) : Prop where
  issued : n < s.request_id
  request_id : s'.request_id = s.request_id
  handlers : s'.handlers = Function.update s.handlers n state
  waited : s'.waited = s.waited
  invoked : s'.invoked = s.invoked
  calls : ∀ f ∈ s'.stack, f ∈ s.stack
  /-- No entry is new, and those of other handlers are kept. -/
  less : ∀ req_id entry, s'.unfinished_requests req_id = some entry →
    s.unfinished_requests req_id = some entry
  kept : ∀ n', n' ≠ n → s.handlers n' = .valid →
    s'.unfinished_requests (request_id_of n') = s.unfinished_requests (request_id_of n')

/-- A handler is destroyed when no `on_reply` of it is running, or its `on_reply` is over: it has
    waited, or processed a stored reply and erased the entry. -/
theorem RequestTable.finish (h : RequestTable s) {s' : State Body queues} {n : Nat}
    {state : RequestHandler} (hfinish : Finishes s s' n state)
    (hstate : (state = .destroyed ∧ ∀ f ∈ s.stack, f.on_reply ≠ some n) ∨
      (state = .invalid ∧
        (n ∈ s.waited ∨ n ∈ s.answered ∧ s'.unfinished_requests (request_id_of n) = none))) :
    RequestTable s' := by
  have hstate_ne : state ≠ .unissued ∧ state ≠ .valid := by
    rcases hstate with ⟨rfl, -⟩ | ⟨rfl, -⟩ <;> simp
  have hold : ∀ n', s'.handlers n' = .valid → n' ≠ n ∧ s.handlers n' = .valid := by
    intro n' hn'
    rw [hfinish.handlers, Function.update_apply] at hn'
    split at hn'
    · exact absurd hn' hstate_ne.2
    · next hne => exact ⟨hne, hn'⟩
  have hanswered : s'.answered = s.answered := by rw [State.answered, hfinish.invoked]; rfl
  have hopen_ne : ∀ n', s.handlers n' ≠ .destroyed → (∃ f ∈ s.stack, f.on_reply = some n') →
      s'.handlers n' ≠ .destroyed := by
    intro n' hdestroyed hcall
    rw [hfinish.handlers, Function.update_apply]
    split
    · next heq =>
      rcases hstate with ⟨rfl, hcalls⟩ | ⟨rfl, -⟩
      · obtain ⟨f, hf, hreply⟩ := hcall
        exact absurd (heq ▸ hreply) (hcalls f hf)
      · simp
    · exact hdestroyed
  refine ⟨?_, ?_, ?_, ?_, ?_, ?_, ?_, ?_⟩
  · intro n'
    rw [hfinish.handlers, hfinish.request_id, Function.update_apply]
    split
    · next heq =>
      have hlt := hfinish.issued
      exact ⟨fun h' => absurd h' hstate_ne.1, fun h' => by omega⟩
    · exact h.issued n'
  · rw [hfinish.waited, hfinish.request_id]
    exact h.waited
  · intro n₁ n₂ hn₁ hn₂ hid
    exact h.unique n₁ n₂ (hold n₁ hn₁).2 (hold n₂ hn₂).2 hid
  · intro n' hn'
    rw [hanswered, hfinish.waited]
    rw [hfinish.handlers, Function.update_apply] at hn'
    split at hn'
    · next heq =>
      rw [heq]
      rcases hstate with ⟨rfl, -⟩ | ⟨-, hdone⟩
      · cases hn'
      · exact hdone.elim .inr fun hdone => .inl hdone.1
    · exact h.returned n' hn'
  · intro n' hn' hanswered' hwaited
    obtain ⟨hne, hvalid⟩ := hold n' hn'
    rw [hfinish.kept n' hne hvalid]
    rw [hanswered] at hanswered'
    rw [hfinish.waited] at hwaited
    exact h.entry n' hvalid hanswered' hwaited
  · intro n' hn' hwaited
    obtain ⟨hne, hvalid⟩ := hold n' hn'
    rw [hfinish.kept n' hne hvalid]
    rw [hfinish.waited] at hwaited
    exact h.taken_out n' hvalid hwaited
  · intro req_id entry hentry
    rw [hfinish.request_id]
    exact h.inserted req_id entry (hfinish.less req_id entry hentry)
  · intro f hf
    have hmem := hfinish.calls f hf
    have hopen := h.calls f hmem
    cases f with
    | wait n' cur_act inner =>
      obtain ⟨hlt, hdestroyed, hwaited⟩ := hopen
      rw [State.OpenCall, hfinish.request_id, hfinish.waited]
      exact ⟨hlt, hopen_ne n' hdestroyed ⟨_, hmem, rfl⟩, hwaited⟩
    | stored n' generation inserted =>
      obtain ⟨hlt, hdestroyed, hanswered', hinserted, hentry⟩ := hopen
      rw [State.OpenCall, hfinish.request_id, hfinish.waited, hanswered]
      refine ⟨hlt, hopen_ne n' hdestroyed ⟨_, hmem, rfl⟩, hanswered', hinserted, ?_⟩
      have hless : (∀ entry, s.unfinished_requests (request_id_of n') = some entry →
          entry.inserted ≠ inserted) → ∀ entry,
          s'.unfinished_requests (request_id_of n') = some entry → entry.inserted ≠ inserted :=
        fun hall entry hsome => hall entry (hfinish.less _ entry hsome)
      rcases hentry with ⟨hvalid, hwaited⟩ | hentry
      · by_cases heq : n' = n
        · -- The handler of this call ends under it: it cannot be destroyed, it
          -- has not waited, so its entry has been erased.
          subst heq
          rcases hstate with ⟨-, hcalls⟩ | ⟨-, hwaited' | ⟨-, hnone⟩⟩
          · exact absurd rfl (hcalls _ hmem)
          · exact absurd hwaited' hwaited
          · right
            intro entry hsome
            rw [hnone] at hsome
            cases hsome
        · left
          rw [hfinish.handlers, Function.update_of_ne heq]
          exact ⟨hvalid, hwaited⟩
      · exact .inr (hless hentry)
    | _ => trivial

/-- A handler may be destroyed when no `on_reply` of it is on the stack. -/
theorem may_end_iff {n : Nat} : s.may_end n = true ↔
    (s.handlers n = .valid ∨ s.handlers n = .invalid) ∧ ∀ f ∈ s.stack, f.on_reply ≠ some n := by
  simp [State.may_end]

/-- The destructor erases the entry of a handler that is still valid. -/
theorem RequestTable.finishes_destroy (h : RequestTable s) {n : Nat} (hend : s.may_end n = true) :
    Finishes s (s.destroy n) n .destroyed := by
  have hhandler := (may_end_iff.mp hend).1
  have hissued : n < s.request_id := h.lt_of_issued (by rcases hhandler with h' | h' <;> simp [h'])
  refine ⟨hissued, rfl, rfl, rfl, rfl, fun f hf => hf, ?_, ?_⟩
  · intro req_id entry hentry
    simp only [State.destroy] at hentry
    split at hentry
    · rw [Function.update_apply] at hentry
      split at hentry
      · cases hentry
      · exact hentry
    · exact hentry
  · intro n' hne hvalid
    simp only [State.destroy]
    split
    · next hn => exact Function.update_of_ne (fun hid => hne (h.unique n' n hvalid hn hid)) _ _
    · rfl

/-- What is assigned to a handler that has a request: the entry of the old one is not erased. -/
theorem RequestTable.finishes_overwrite (h : RequestTable s) {n : Nat}
    (hend : s.may_end n = true) : Finishes s (s.overwrite n) n .destroyed := by
  have hhandler := (may_end_iff.mp hend).1
  have hissued : n < s.request_id := h.lt_of_issued (by rcases hhandler with h' | h' <;> simp [h'])
  exact ⟨hissued, rfl, rfl, rfl, rfl, fun f hf => hf, fun _ _ h' => h', fun _ _ _ => rfl⟩

/-- `on_reply` returns after a stored response, `iter` being valid. -/
theorem RequestTable.finishes_stored (h : RequestTable s) {n generation inserted : Nat}
    {rest : List (Frame Body queues)} (hstack : s.stack = .stored n generation inserted :: rest)
    (hiter : s.iter_valid n generation inserted = true)
    (garbage : UInt32 → Option (Entry Body)) :
    n ∈ s.answered ∧ Finishes s (s.stored_returns n generation inserted rest garbage) n .invalid ∧
      (s.stored_returns n generation inserted rest garbage).unfinished_requests
        (request_id_of n) = none := by
  have htable : (s.stored_returns n generation inserted rest garbage).unfinished_requests =
      Function.update s.unfinished_requests (request_id_of n) none := by
    simp only [State.stored_returns, hiter, if_true]
  obtain ⟨hissued, -, hanswered, -, hentry⟩ :=
    h.calls (.stored n generation inserted) (by rw [hstack]; exact List.mem_cons_self)
  -- The entry that `iter` points to is still there, so it is this handler's.
  have hvalid : s.handlers n = .valid := by
    rcases hentry with ⟨hvalid, -⟩ | hentry
    · exact hvalid
    · simp only [State.iter_valid, Bool.and_eq_true, Option.any_eq_true, decide_eq_true_eq] at hiter
      obtain ⟨-, entry, hsome, heq⟩ := hiter
      exact absurd heq (hentry entry hsome)
  refine ⟨hanswered, ⟨hissued, rfl, rfl, rfl, rfl, fun f hf => ?_, ?_, ?_⟩, ?_⟩
  · rw [hstack]
    exact List.mem_cons_of_mem _ hf
  · intro req_id entry hentry
    rw [htable, Function.update_apply] at hentry
    split at hentry
    · cases hentry
    · exact hentry
  · intro n' hne hvalid'
    rw [htable, Function.update_of_ne fun hid => hne (h.unique n' n hvalid' hvalid hid)]
  · rw [htable, Function.update_self]

/-- `on_reply` returns after its loop. -/
theorem RequestTable.finishes_wait (h : RequestTable s) {n : Nat} {cur_act inner : Bool}
    {rest : List (Frame Body queues)} (hstack : s.stack = .wait n cur_act inner :: rest) :
    n ∈ s.waited ∧ Finishes s (s.reply_returns n cur_act inner rest) n .invalid := by
  obtain ⟨hissued, -, hwaited⟩ :=
    h.calls (.wait n cur_act inner) (by rw [hstack]; exact List.mem_cons_self)
  refine ⟨hwaited, hissued, rfl, rfl, rfl, rfl, fun f hf => ?_, fun _ _ h' => h', fun _ _ _ => rfl⟩
  rw [hstack]
  exact List.mem_cons_of_mem _ hf

/-! ### The steps -/

/-- The steps of the code of an actor, one case for each. -/
theorem RequestTable.user_step {s' : State Body queues} (h : RequestTable s)
    {step : UserStep Body} (hl : answers_in_time s (.user step : Label Body queues) = true)
    (hstep : UserSteps s step s') : RequestTable s' := by
  have hl := (Bool.and_eq_true _ _ ▸ hl).2
  cases hstep with
  | request rehash =>
    refine h.request fun n hn hid => ?_
    have hall := List.all_eq_true.mp hl n (List.mem_range.mpr hn)
    simpa [hid] using hall
  | on_reply_stored n inserted response hvalid hentry => exact h.reply_stored hvalid hentry
  | on_reply_waits n inserted hvalid hentry => exact h.wait_reply hvalid
  | destroy n hend =>
    exact h.finish (h.finishes_destroy hend) (.inl ⟨rfl, (may_end_iff.mp hend).2⟩)
  | overwrite n hend =>
    exact h.finish (h.finishes_overwrite hend) (.inl ⟨rfl, (may_end_iff.mp hend).2⟩)
  | stored_returns garbage n generation inserted rest hstack =>
    rw [hstack] at hl
    obtain ⟨hanswered, hfinishes, hnone⟩ := h.finishes_stored hstack hl garbage
    exact h.finish hfinishes (.inr ⟨rfl, .inr ⟨hanswered, hnone⟩⟩)
  | on_reply_missing | set_activated | take_current_message | release_taken | terminate_actor =>
    exact h.of_same (.of_stack rfl rfl rfl rfl rfl fun f hf => .inr hf)
  | receive =>
    exact h.of_same (.of_stack rfl rfl rfl rfl rfl fun f => mem_cons_of_on_reply rfl)
  | process_returns garbage t rest hstack =>
    refine h.of_same (.of_stack rfl rfl rfl rfl rfl fun f hf => ?_)
    rw [hstack]
    exact (mem_receive_returns hf).imp_right (List.mem_cons_of_mem _)
  | callback_returns garbage polls rest hstack =>
    refine h.of_same (.of_stack rfl rfl rfl rfl rfl fun f hf => ?_)
    rw [hstack]
    exact (mem_callbacks_append hf).imp_right (List.mem_cons_of_mem _)
  | pop_returns garbage queue m rest hstack =>
    refine h.of_same (.of_stack rfl rfl rfl rfl rfl fun f hf => .inr ?_)
    rw [hstack]
    exact List.mem_cons_of_mem _ hf
  | throws k huser =>
    exact h.of_same (.of_stack rfl rfl rfl rfl rfl fun f hf => .inr (List.mem_of_mem_drop hf))

/-- Every step that meets the condition keeps the invariant. -/
theorem RequestTable.step {s' : State Body queues} {l : Label Body queues} (h : RequestTable s)
    (hl : answers_in_time s l = true) (hn : s.next l = some s') : RequestTable s' := by
  cases (next_cases hn).2 with
  | arrive | push => exact h.of_same (.of_stack rfl rfl rfl rfl rfl fun f hf => .inr hf)
  | user step huser hstep => exact h.user_step hl hstep
  | receives source m hreceives hnext =>
    have h' : RequestTable (s.take_from source) := { h with }
    exact h'.of_same (.process _ _)
  | polls hreceives hnext =>
    exact h.of_same (.of_stack rfl rfl rfl rfl rfl fun f => mem_cons_of_on_reply rfl)
  | leave polls rest hstack hactivated =>
    refine h.of_same (.of_stack rfl rfl rfl rfl rfl fun f hf => .inr ?_)
    rw [hstack]
    exact List.mem_cons_of_mem _ hf
  | leave_wait polls n cur_act inner rest hstack hactivated =>
    obtain ⟨hwaited, hfinishes⟩ := h.finishes_wait hstack
    exact h.finish hfinishes (.inr ⟨rfl, .inl hwaited⟩)
  | pop queue old m rest hstack hqueue =>
    exact h.of_same (.of_stack rfl rfl rfl rfl rfl fun f => mem_cons_of_on_reply rfl)
  | consumed old rest hstack =>
    refine h.of_same (.of_stack rfl rfl rfl rfl rfl fun f hf => .inr ?_)
    rw [hstack]
    exact List.mem_cons_of_mem _ hf

end steps

/-- **The invariant holds throughout every run that meets the condition.** -/
theorem RequestTable.run {s : State Body queues}
    (hs : ReachableVia (system Body queues) (fun s l => answers_in_time s l = true) s) :
    RequestTable s := by
  apply hs.invariant RequestTable
  · intro s hinit
    rw [hinit]
    exact requestTable_start
  · intro s l s' h hl hn
    exact h.step hl hn

end ZAF.ActorBehavior
