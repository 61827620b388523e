import ZAF.ActorBehavior.RequestTable

/-! # Responses that nobody wants

    `store_response` throws a response away when its id is not in
    `unfinished_requests`. That is right when its handler has been destroyed or
    has processed a reply. It is wrong when an `on_reply` waits for it further
    down the stack.
-/

namespace ZAF.ActorBehavior

open LTS

variable {Body : Type} {queues : Nat}

/-- Somebody wants a response with this id: a handler that exists and has not
    processed a reply. -/
def State.wants (s : State Body queues) (req_id : UInt32) : Prop :=
  ∃ n < s.request_id, request_id_of n = req_id ∧ s.handlers n ≠ .destroyed ∧ n ∉ s.answered

theorem discarded_store_of_some {s : State Body queues} {req_id : UInt32} {entry : Entry Body}
    (hentry : s.unfinished_requests req_id = some entry) (response : Body) :
    (s.store_response req_id response).discarded = s.discarded := by
  rw [State.store_response, hentry]

theorem discarded_store_of_none {s : State Body queues} {req_id : UInt32}
    (hentry : s.unfinished_requests req_id = none) (response : Body) :
    (s.store_response req_id response).discarded = s.discarded ++ [req_id] := by
  rw [State.store_response, hentry]

/-- A response is discarded only when its id is not in the table. -/
theorem discarded_step {s s' : State Body queues} {l : Label Body queues}
    (hn : s.next l = some s') : s'.discarded = s.discarded ∨
      ∃ req_id, s.stores l = some req_id ∧ s.unfinished_requests req_id = none ∧
        s'.discarded = s.discarded ++ [req_id] := by
  cases (next_cases hn).2 with
  | user step huser hstep => cases hstep <;> exact .inl rfl
  | @receives _ table polls source m hreceives hnext =>
    have hprocess :=
      process_cases (s.take_from source) ⟨table, source, m, s.current_message, polls⟩
    generalize (s.take_from source).process _ = s' at hprocess ⊢
    cases hprocess with
    | stored req_id response hcontent htable =>
      cases hentry : s.unfinished_requests req_id with
      | some entry => exact .inl (discarded_store_of_some hentry response)
      | none =>
        right
        refine ⟨req_id, hreceives.stores hnext hcontent htable, hentry, ?_⟩
        exact discarded_store_of_none hentry response
    | _ => exact .inl rfl
  | _ => exact .inl rfl

/-- Nobody can want the response that is thrown away. -/
structure DiscardsUnwanted (s : State Body queues) (req_id : UInt32) : Prop where
  /-- Its handler has been destroyed or has processed a reply. -/
  unwanted : ¬ s.wants req_id
  /-- In particular no `on_reply` on the stack waits for it. -/
  not_waiting : ∀ n cur_act inner, .wait n cur_act inner ∈ s.stack → request_id_of n = req_id →
    n ∈ s.answered

/-- **A response is thrown away only when nobody can want it, in every run that
    meets the condition.** -/
theorem discards_unwanted_of_answers_in_time {s s' : State Body queues} {l : Label Body queues}
    (hs : ReachableVia (system Body queues) (fun s l => answers_in_time s l = true) s)
    (hl : answers_in_time s l = true) (hn : s.next l = some s') {req_id : UInt32}
    (hdiscarded : s'.discarded = s.discarded ++ [req_id]) : DiscardsUnwanted s req_id := by
  have h := RequestTable.run hs
  obtain ⟨hstores, hnone⟩ : s.stores l = some req_id ∧ s.unfinished_requests req_id = none := by
    rcases discarded_step hn with heq | ⟨req_id', hstores, hnone, heq⟩
    · rw [heq] at hdiscarded
      simp at hdiscarded
    · rw [heq] at hdiscarded
      obtain rfl : req_id' = req_id := by simpa using hdiscarded
      exact ⟨hstores, hnone⟩
  have hwaited : ∀ n ∈ s.waited, request_id_of n = req_id → s.handlers n ≠ .destroyed →
      n ∈ s.answered := by
    intro n hmem hid hdestroyed
    have hall := (Bool.and_eq_true _ _ ▸ hl).1
    rw [hstores] at hall
    simpa [hid, hdestroyed] using List.all_eq_true.mp hall n hmem
  refine ⟨?_, ?_⟩
  · rintro ⟨n, hissued, hid, hdestroyed, hanswered⟩
    cases hhandler : s.handlers n with
    | unissued => exact absurd hissued (Nat.not_lt.mpr ((h.issued n).mp hhandler))
    | destroyed => exact hdestroyed hhandler
    | invalid =>
      rcases h.returned n hhandler with hmem | hmem
      · exact hanswered hmem
      · exact hanswered (hwaited n hmem hid hdestroyed)
    | valid =>
      by_cases hmem : n ∈ s.waited
      · exact hanswered (hwaited n hmem hid hdestroyed)
      · exact h.entry n hhandler hanswered hmem (hid ▸ hnone)
  · intro n cur_act inner hcall hid
    obtain ⟨-, hdestroyed, hmem⟩ := h.calls _ hcall
    exact hwaited n hmem hid hdestroyed

/-- The first request has its reply; its handler waits for the second. Then a
    second response to the first request comes in. -/
def late_response : List (Label Nat 0) :=
  [.user (.request false), .user (.request false), .user (.on_reply 0), .arrive (.response 0 10),
    .loop 0, .user (.on_reply 1), .arrive (.response 0 12)]

theorem discards_unwanted_of_answers_in_time_run :
    ∃ s s' : State Nat 0, s.next (.loop 0) = some s' ∧ s'.discarded = [0] ∧
      DiscardsUnwanted s 0 := by
  obtain ⟨s, hs, hobs⟩ := System.reachable_of_exec
    (system Nat 0) (fun s l => answers_in_time s l = true) late_response
    (fun s => (s.discarded, answers_in_time s (.loop 0), (s.next (.loop 0)).map (·.discarded)))
    (s := start Nat 0) (b := ([], true, some [0])) rfl (by decide +kernel)
  obtain ⟨hbefore, hl, hafter⟩ := by simpa only [Prod.mk.injEq] using hobs
  obtain ⟨s', hn, hdiscarded⟩ := Option.map_eq_some_iff.mp hafter
  exact ⟨s, s', hn, hdiscarded,
    discards_unwanted_of_answers_in_time hs hl hn (by rw [hdiscarded, hbefore]; rfl)⟩

/-- While an `on_reply` waits, a callback of `add_recv_poll` issues a request and
    waits for its reply. Then the response to the first request arrives. -/
def callback_waits : List (Label Nat 0) :=
  [.user (.request false), .user (.on_reply 0), .loop 1, .user (.request false),
    .user (.on_reply 1), .arrive (.response 0 10)]

/-- The inner wait throws away the response for which the outer one waits. -/
theorem not_discards_unwanted :
    ¬ ∀ (s s' : State Nat 0) (l : Label Nat 0) (req_id : UInt32),
      Reachable (system Nat 0) s → s.next l = some s' →
      s'.discarded = s.discarded ++ [req_id] → DiscardsUnwanted s req_id := by
  intro hall
  obtain ⟨s, hs, hobs⟩ := System.reachable_of_exec (system Nat 0) (fun _ _ => True) callback_waits
    (fun s => ((s.request_id, s.handlers 0, s.answered),
      (s.discarded, (s.next (.loop 0)).map (·.discarded))))
    (s := start Nat 0) (b := ((2, .valid, []), ([], some [0]))) rfl (by decide +kernel)
  obtain ⟨⟨hissued, hvalid, hanswered⟩, hbefore, hafter⟩ := by
    simpa only [Prod.mk.injEq] using hobs
  obtain ⟨s', hn, hdiscarded⟩ := Option.map_eq_some_iff.mp hafter
  refine (hall s s' (.loop 0) 0 hs hn (by rw [hdiscarded, hbefore]; rfl)).unwanted ?_
  refine ⟨0, by rw [hissued]; exact Nat.zero_lt_succ 1, rfl, ?_, ?_⟩
  · rw [hvalid]
    simp
  · rw [hanswered]
    simp

end ZAF.ActorBehavior
