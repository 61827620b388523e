import ZAF.ActorBehavior.Timing

/-! # Exceptions that leave `on_reply`

    `on_reply` changes the actor before it waits, and `receive_once` before it processes a
    message. Both restore what they have changed when they return; an exception passes
    through them and nothing is restored.

    The machine knows whether `inner_handlers` hold their handlers. Here they have a child
    table as well, which every `receive_once` sets and removes again.
-/

namespace ZAF.ActorBehavior

open LTS

/-! ### The child of `inner_handlers` -/

/-- A child table. Those of the user's code are told apart by numbers. -/
inductive Child where
  | user (handlers : Nat)
  | reply (n : Nat)
  deriving DecidableEq

structure WithChild (Body : Type) (queues : Nat) where
  state : State Body queues
  child : Option Child
  /-- The children in the `current_inner_handlers` of the waits on the stack, the innermost
      first. -/
  saved : List (Option Child)

structure ChildLabel (Body : Type) (queues : Nat) where
  label : Label Body queues
  /-- The table that the user's code has passed to a call of `receive` or `receive_once`. -/
  handlers : Nat

variable {Body : Type} {queues : Nat}

def Table.child (handlers : Nat) : Table → Child
  | .user => .user handlers
  | .reply n => .reply n

/-- Have handlers been started by this step? -/
def handlers_run (s s' : State Body queues) : Bool :=
  s.stack.length < s'.stack.length &&
    match s'.stack with
    | .callback _ :: _ => false
    | _ => true

namespace WithChild

/-- The child and the saved children after a step to `s'`. -/
def touch (c : WithChild Body queues) (l : ChildLabel Body queues) (s' : State Body queues) :
    Option Child × List (Option Child) :=
  match l.label with
  | .user (.receive_once _) | .loop _ =>
    match c.state.receiving l.label, c.state.next_message with
    -- `remove_child_handlers` follows at once unless handlers run
    | some table, some _ =>
      (if handlers_run c.state s' then some (table.child l.handlers) else none, c.saved)
    | some _, none => (c.child, c.saved)
    | none, _ =>
      match c.state.stack with
      | .wait .. :: _ => (c.saved.head?.join, c.saved.tail)
      | _ => (c.child, c.saved)
  | .user (.on_reply _) =>
    match s'.stack with
    -- `std::move` leaves `inner_handlers` without a child
    | .wait .. :: _ => (none, c.child :: c.saved)
    | _ => (c.child, c.saved)
  | .user (.returns _) =>
    match c.state.stack with
    | .process _ :: _ => (none, c.saved)
    | _ => (c.child, c.saved)
  | .user (.throws k) => (c.child, c.saved.drop ((c.state.stack.take k).countP Frame.is_wait))
  | _ => (c.child, c.saved)

def next (c : WithChild Body queues) (l : ChildLabel Body queues) :
    Option (WithChild Body queues) :=
  (c.state.next l.label).map fun s' => ⟨s', (c.touch l s').1, (c.touch l s').2⟩

/-- An actor at the start of `launch`. -/
def system (Body : Type) (queues : Nat) :
    System (WithChild Body queues) (ChildLabel Body queues) where
  init c := c = ⟨start Body queues, none, []⟩
  next := next

/-- The messages that have been deferred since `c`, apart from those that have been
    dispatched by now. -/
def deferred_since (c c' : WithChild Body queues) : List (Message Body) :=
  (c'.state.deferred.drop c.state.deferred.length).filter fun m =>
    c'.state.dispatched.all fun d => d.serial != m.serial

end WithChild

/-! ### A usable actor -/

/-- The actor is in `c'` as it was in `c` when the `on_reply` of the `n`-th request was
    called, but for the entry of the request and the messages that have been deferred. -/
structure Usable (n : Nat) (c c' : WithChild Body queues) : Prop where
  waiting_for_response : c'.state.waiting_for_response = c.state.waiting_for_response
  inner_handlers : c'.state.inner_handlers = c.state.inner_handlers
  child : c'.child = c.child
  activated : c'.state.activated = c.state.activated
  current_message : c'.state.current_message = c.state.current_message
  entry : c'.state.unfinished_requests (request_id_of n) = none
  /-- When nothing waits, `pending_messages` are received from the front. -/
  deferred : (c.deferred_since c').Sublist c'.state.pending_messages

/-- What happens within a call, by steps that meet `guard`: the frame of the call stays on
    the stack. -/
inductive Within (guard : State Body queues → Label Body queues → Prop)
    (call : List (Frame Body queues)) (c : WithChild Body queues) :
    WithChild Body queues → Prop where
  | start : c.state.stack = call → Within guard call c c
  | step {c' c'' : WithChild Body queues} (l : ChildLabel Body queues) : Within guard call c c' →
      guard c'.state l.label → c'.next l = some c'' → call <:+ c''.state.stack →
      Within guard call c c''

/-- A call of the `on_reply` of the `n`-th request in `c`: an exception is thrown in `thrown`
    and leaves the call in `left`. -/
inductive EscapesVia (guard : State Body queues → Label Body queues → Prop) (n : Nat)
    (c : WithChild Body queues) : WithChild Body queues → WithChild Body queues → Prop where
  | intro {c₁ thrown left : WithChild Body queues} {f : Frame Body queues}
      {k handlers handlers' : Nat}
      (call : c.next ⟨.user (.on_reply n), handlers⟩ = some c₁)
      (frame : c₁.state.stack = f :: c.state.stack)
      (within : Within guard (f :: c.state.stack) c₁ thrown)
      (throws : thrown.next ⟨.user (.throws k), handlers'⟩ = some left)
      (stack : left.state.stack = c.state.stack) : EscapesVia guard n c thrown left

/-- ... whatever the handlers do before. -/
abbrev Escapes (n : Nat) (c thrown left : WithChild Body queues) : Prop :=
  EscapesVia (fun _ _ => True) n c thrown left

/-- The response has been stored when `on_reply` is called. -/
def Stored (n : Nat) (s : State Body queues) : Prop :=
  ∃ inserted response,
    s.unfinished_requests (request_id_of n) = some ⟨inserted, some response⟩

/-! ### What is left on the way -/

variable {guard : State Body queues → Label Body queues → Prop}
  {c c' c₁ c₂ c₃ : WithChild Body queues} {n : Nat}

theorem state_next {l : ChildLabel Body queues} (h : c.next l = some c') :
    c.state.next l.label = some c'.state := by
  obtain ⟨s', hs', rfl⟩ := Option.map_eq_some_iff.mp h
  exact hs'

theorem Within.suffix {call : List (Frame Body queues)} (h : Within guard call c c') :
    call <:+ c'.state.stack := by
  cases h with
  | start hstack => exact hstack ▸ List.suffix_refl _
  | step l _ _ _ hsuffix => exact hsuffix

/-- The waits that are over within a call are no longer counted, and no others. -/
theorem Within.waits_le {call : List (Frame Body queues)} (h : Within guard call c c') :
    c.state.waiting_for_response + c'.state.stack.countP Frame.is_wait ≤
      c'.state.waiting_for_response + c.state.stack.countP Frame.is_wait := by
  induction h with
  | start _ => exact Nat.le_refl _
  | step l _ _ hnext _ ih =>
    have hstep := waits_step (state_next hnext)
    omega

/-- An exception changes nothing but the stack. -/
theorem next_throws {k handlers : Nat} (h : c.next ⟨.user (.throws k), handlers⟩ = some c') :
    c'.state = { c.state with stack := c.state.stack.drop k } ∧ c'.child = c.child := by
  obtain ⟨s', hs', rfl⟩ := Option.map_eq_some_iff.mp h
  refine ⟨?_, rfl⟩
  cases (next_cases hs').2 with
  | user _ huser hstep =>
    cases hstep with
    | throws k huser => rfl
  | receives source m hreceives hnext => cases hreceives
  | polls hreceives hnext => cases hreceives

theorem usable_throws_iff {k handlers : Nat}
    (h : c₂.next ⟨.user (.throws k), handlers⟩ = some c₃) : Usable n c c₃ ↔ Usable n c c₂ := by
  obtain ⟨hstate, hchild⟩ := next_throws h
  have hdeferred : c.deferred_since c₃ = c.deferred_since c₂ := by
    rw [WithChild.deferred_since, WithChild.deferred_since, hstate]
  constructor <;> intro husable
  · obtain ⟨hwaiting, hinner, hc, hactivated, hcurrent, hentry, hpending⟩ := husable
    rw [hdeferred] at hpending
    rw [hstate] at hwaiting hinner hactivated hcurrent hentry hpending
    exact ⟨hwaiting, hinner, hchild.symm.trans hc, hactivated, hcurrent, hentry, hpending⟩
  · obtain ⟨hwaiting, hinner, hc, hactivated, hcurrent, hentry, hpending⟩ := husable
    rw [← hdeferred] at hpending
    refine ⟨?_, ?_, hchild.trans hc, ?_, ?_, ?_, ?_⟩ <;> rw [hstate] <;> assumption

/-- A wait that is on the stack is counted. -/
theorem not_usable_of_wait {cur_act inner : Bool}
    (hstack : c₁.state.stack = .wait n cur_act inner :: c.state.stack)
    (hwaiting : c₁.state.waiting_for_response = c.state.waiting_for_response + 1)
    (hwithin : Within guard (.wait n cur_act inner :: c.state.stack) c₁ c₂) : ¬ Usable n c c₂ := by
  intro husable
  have hwaits := hwithin.waits_le
  have hsuffix := hwithin.suffix.sublist.countP_le (p := Frame.is_wait)
  rw [hstack] at hwaits
  rw [husable.waiting_for_response, hwaiting] at hwaits
  omega

/-- `on_reply` runs the handlers on a stored response, or starts to wait. -/
theorem on_reply_calls {f : Frame Body queues} {handlers : Nat}
    (h : c.next ⟨.user (.on_reply n), handlers⟩ = some c₁)
    (hframe : c₁.state.stack = f :: c.state.stack) :
    Stored n c.state ∨ ¬ Stored n c.state ∧
      c₁.state.waiting_for_response = c.state.waiting_for_response + 1 ∧
        ∃ cur_act inner, f = .wait n cur_act inner := by
  have hnext := state_next h
  generalize c₁.state = s at hnext hframe ⊢
  cases (next_cases hnext).2 with
  | user _ huser hstep =>
    cases hstep with
    | on_reply_missing _ hvalid hentry => exact absurd hframe (List.cons_ne_self _ _).symm
    | on_reply_stored _ inserted response hvalid hentry => exact .inl ⟨inserted, response, hentry⟩
    | on_reply_waits _ inserted hvalid hentry =>
      refine .inr ⟨?_, rfl, _, _, (List.cons.inj hframe).1.symm⟩
      rintro ⟨inserted', response, hentry'⟩
      cases hentry.symm.trans hentry'
  | receives source m hreceives hmessage => cases hreceives
  | polls hreceives hmessage => cases hreceives

/-- **An exception leaves the actor usable exactly when the response had been stored, and
    the handlers have left the actor so before they throw.** -/
theorem usable_iff {thrown left : WithChild Body queues} (h : EscapesVia guard n c thrown left) :
    Usable n c left ↔ Stored n c.state ∧ Usable n c thrown := by
  obtain ⟨hcall, hframe, hwithin, hthrows, hleft⟩ := h
  rw [usable_throws_iff hthrows]
  rcases on_reply_calls hcall hframe with hstored | ⟨hstored, hwaiting, cur_act, inner, rfl⟩
  · exact (and_iff_right hstored).symm
  · have hnot := not_usable_of_wait hframe hwaiting hwithin
    exact iff_of_false hnot fun h => hstored h.1

/-! ### The entry of the request -/

/-- A step does not take an entry with the id of the `n`-th request out of
    `unfinished_requests`: it is no `on_reply` of a request with this id, nor the end of one,
    nor the end of a `RequestHandler` with this id, nor undefined. -/
def LeavesEntry (n : Nat) (s : State Body queues) : Label Body queues → Prop
  | .user (.on_reply m) => request_id_of m ≠ request_id_of n
  | .user (.destroy m) => request_id_of m ≠ request_id_of n
  | .user (.returns _) => ∀ m generation inserted rest,
    s.stack = .stored m generation inserted :: rest →
      s.iter_valid m generation inserted = true ∧ request_id_of m ≠ request_id_of n
  | _ => True

theorem process_entry (s : State Body queues) (t : Turn Body) (req_id : UInt32)
    (h : s.unfinished_requests req_id ≠ none) :
    (s.process t).unfinished_requests req_id ≠ none := by
  have hprocess := process_cases s t
  generalize s.process t = s' at hprocess ⊢
  cases hprocess with
  | stored req_id' response hcontent htable =>
    show Function.update s.unfinished_requests req_id' _ req_id ≠ none
    rcases eq_or_ne req_id req_id' with rfl | hne
    · rw [Function.update_self]
      exact fun hnone => h (Option.map_eq_none_iff.mp hnone)
    · rwa [Function.update_of_ne hne]
  | _ => exact h

theorem entry_step {s s' : State Body queues} {l : Label Body queues} (hn : s.next l = some s')
    (hleaves : LeavesEntry n s l) (h : s.unfinished_requests (request_id_of n) ≠ none) :
    s'.unfinished_requests (request_id_of n) ≠ none := by
  cases (next_cases hn).2 with
  | user step huser hstep =>
    cases hstep with
    | request rehash =>
      show Function.update s.unfinished_requests (request_id_of s.request_id) _ _ ≠ none
      rcases eq_or_ne (request_id_of n) (request_id_of s.request_id) with heq | hne
      · rw [heq, Function.update_self]
        exact nofun
      · rwa [Function.update_of_ne hne]
    | on_reply_waits m inserted hvalid hentry =>
      show Function.update s.unfinished_requests (request_id_of m) none _ ≠ none
      rwa [Function.update_of_ne (Ne.symm hleaves)]
    | destroy m hend =>
      show (if s.handlers m = .valid then
        Function.update s.unfinished_requests (request_id_of m) none
          else s.unfinished_requests) (request_id_of n) ≠ none
      split
      · rwa [Function.update_of_ne (Ne.symm hleaves)]
      · exact h
    | stored_returns garbage m generation inserted rest hstack =>
      obtain ⟨hvalid, hne⟩ := hleaves m generation inserted rest hstack
      show (if s.iter_valid m generation inserted = true then
        Function.update s.unfinished_requests (request_id_of m) none else garbage) _ ≠ none
      rwa [if_pos hvalid, Function.update_of_ne (Ne.symm hne)]
    | _ => exact h
  | receives source m hreceives hmessage => exact process_entry _ _ _ h
  | _ => exact h

theorem Within.entry {call : List (Frame Body queues)} (h : Within (LeavesEntry n) call c c')
    (hentry : c.state.unfinished_requests (request_id_of n) ≠ none) :
    c'.state.unfinished_requests (request_id_of n) ≠ none := by
  induction h with
  | start _ => exact hentry
  | step l _ hleaves hnext _ ih => exact entry_step (state_next hnext) hleaves ih

/-- The state of the table in which the handlers of a stored response start. -/
theorem entry_of_stored {f : Frame Body queues} {handlers : Nat}
    (h : c.next ⟨.user (.on_reply n), handlers⟩ = some c₁)
    (hframe : c₁.state.stack = f :: c.state.stack) (hstored : Stored n c.state) :
    c₁.state.unfinished_requests (request_id_of n) ≠ none := by
  obtain ⟨inserted, response, hentry⟩ := hstored
  have hnext := state_next h
  generalize c₁.state = s at hnext hframe ⊢
  cases (next_cases hnext).2 with
  | user _ huser hstep =>
    cases hstep with
    | on_reply_missing _ hvalid hentry' => cases hentry.symm.trans hentry'
    | on_reply_stored _ inserted' response' hvalid hentry' =>
      show c.state.unfinished_requests (request_id_of n) ≠ none
      rw [hentry]
      exact nofun
    | on_reply_waits _ inserted' hvalid hentry' => cases hentry.symm.trans hentry'
  | receives source m hreceives hmessage => cases hreceives
  | polls hreceives hmessage => cases hreceives

/-- Handlers that leave the entry of their own request alone never leave the actor usable. -/
theorem not_usable_of_leaves_entry {thrown left : WithChild Body queues}
    (h : EscapesVia (LeavesEntry n) n c thrown left) : ¬ Usable n c left := by
  rw [usable_iff h]
  rintro ⟨hstored, husable⟩
  obtain ⟨hcall, hframe, hwithin, hthrows, hleft⟩ := h
  exact hwithin.entry (entry_of_stored hcall hframe hstored) husable.entry

/-! ### A request in the handler of a message -/

/-- The handler of message 0 has made request 0. -/
def calling_with_child : WithChild Unit 0 := ⟨calling, some (.user 0), []⟩

theorem reachable_calling_with_child :
    Reachable (WithChild.system Unit 0) calling_with_child := by
  have h0 : Reachable (WithChild.system Unit 0) ⟨start Unit 0, none, []⟩ := .init rfl
  apply h0.exec [⟨.user .receive, 0⟩, ⟨.arrive .ordinary, 0⟩, ⟨.loop 0, 0⟩,
    ⟨.user (.request false), 0⟩]
  rfl

/-- The response has been stored, and the handler calls `on_reply` once more before it
    throws. -/
theorem usable_iff_twice :
    ∃ (c thrown left : WithChild Unit 0), Escapes 0 c thrown left ∧ Usable 0 c left := by
  let c : WithChild Unit 0 :=
    ⟨calling.store_response (request_id_of 0) (), some (.user 0), []⟩
  have hescapes : ∃ thrown left, Escapes 0 c thrown left ∧ Usable 0 c thrown := by
    refine ⟨_, _, .intro (rfl : c.next ⟨.user (.on_reply 0), 0⟩ = _) rfl
      (.step ⟨.user (.returns fun _ => none), 0⟩
        (.step ⟨.user (.on_reply 0), 0⟩ (.start rfl) trivial rfl (List.suffix_cons _ _)) trivial
        rfl (List.suffix_refl _)) (rfl : WithChild.next _ ⟨.user (.throws 1), 0⟩ = _) rfl, ?_⟩
    exact ⟨rfl, rfl, rfl, rfl, rfl, rfl, List.nil_sublist _⟩
  obtain ⟨thrown, left, hescapes, husable⟩ := hescapes
  exact ⟨c, thrown, left, hescapes, (usable_iff hescapes).mpr ⟨⟨0, (), rfl⟩, husable⟩⟩

/-- The response arrives while `on_reply` waits, and the handler throws. -/
theorem not_usable :
    ¬ ∀ (n : Nat) (c thrown left : WithChild Unit 0),
      Reachable (WithChild.system Unit 0) c → Escapes n c thrown left → Usable n c left := by
  intro hall
  have hescapes : ∃ thrown left, Escapes 0 calling_with_child thrown left ∧
      left.state.waiting_for_response = 1 :=
    ⟨_, _, .intro (rfl : calling_with_child.next ⟨.user (.on_reply 0), 0⟩ = _) rfl
      (.step ⟨.loop 0, 0⟩
        (.step ⟨.arrive (.response 0 ()), 0⟩ (.start rfl) trivial rfl (List.suffix_refl _)) trivial
        rfl (List.suffix_cons _ _)) (rfl : WithChild.next _ ⟨.user (.throws 2), 0⟩ = _) rfl, rfl⟩
  obtain ⟨thrown, left, hescapes, hwaiting⟩ := hescapes
  have husable := hall 0 _ thrown left reachable_calling_with_child hescapes
  cases hwaiting.symm.trans husable.waiting_for_response

end ZAF.ActorBehavior
