import ZAF.ActorBehavior.Nesting
import ZAF.NetGate.Handle

/-! # Early and late responses

    Whether `on_reply` finds its response in `unfinished_requests` or has to wait for it is
    a race with the responder. In the first case the handler of the reply runs inside the
    message that is being processed; in the second case it runs inside the response, and
    `on_reply` restores `activated` behind it.

    The handler is any program of operations that depend on `current_message` or change
    `activated`.
-/

namespace ZAF.ActorBehavior

open LTS

/-! ### Handlers of replies -/

/-- What a handler does; how it goes on may depend on the sender that it is shown. -/
inductive ReplyHandler where
  | returns
  | activate (rest : ReplyHandler)
  | deactivate (rest : ReplyHandler)
  | get_current_sender_actor (rest : Actor → ReplyHandler)
  | reply (rest : ReplyHandler)

/-- What can be told from outside or by the handler. -/
inductive Observation where
  | shown (sender : Actor)
  | replied (receiver : Actor)
  /-- "Attempt to get null message." -/
  | threw
  deriving DecidableEq

/-- `Actor{}` -/
def null_actor : Actor := .local_actor ⟨0, false⟩

namespace ReplyHandler

/-- What is observed while `current_message` is from this sender, or null. -/
def observations (current_sender : Option Actor) : ReplyHandler → List Observation
  | returns => []
  | activate rest => rest.observations current_sender
  | deactivate rest => rest.observations current_sender
  | get_current_sender_actor rest =>
    let sender := current_sender.getD null_actor
    .shown sender :: (rest sender).observations current_sender
  | reply rest =>
    match current_sender with
    | none => [.threw]
    | some sender => .replied sender :: rest.observations current_sender

/-- What it does to the state of the actor. -/
def steps {Body : Type} (current_sender : Option Actor) : ReplyHandler → List (UserStep Body)
  | returns => []
  | activate rest => .set_activated true :: rest.steps current_sender
  | deactivate rest => .set_activated false :: rest.steps current_sender
  | get_current_sender_actor rest =>
    (rest (current_sender.getD null_actor)).steps current_sender
  | reply rest =>
    match current_sender with
    | none => []
    | some _ => rest.steps current_sender

/-- `is_activated()` at its end, if it was `activated` before. -/
def activation (current_sender : Option Actor) : ReplyHandler → Bool → Bool
  | returns, activated => activated
  | activate rest, _ => rest.activation current_sender true
  | deactivate rest, _ => rest.activation current_sender false
  | get_current_sender_actor rest, activated =>
    (rest (current_sender.getD null_actor)).activation current_sender activated
  | reply rest, activated =>
    match current_sender with
    | none => activated
    | some _ => rest.activation current_sender activated

/-- Does it ask for the sender or reply? -/
def asks : ReplyHandler → Bool
  | returns => false
  | activate rest => rest.asks
  | deactivate rest => rest.asks
  | get_current_sender_actor _ => true
  | reply _ => true

/-- Does it reply, if it is shown this sender? -/
def replies (sender : Actor) : ReplyHandler → Bool
  | returns => false
  | activate rest => rest.replies sender
  | deactivate rest => rest.replies sender
  | get_current_sender_actor rest => (rest sender).replies sender
  | reply _ => true

/-- The handler leaves `activated` as it was when the message is from the responder; and if
    it asks who the sender is, the current message is from the responder as well. -/
def Indifferent (handler : ReplyHandler) (current_sender : Option Actor) (responder : Actor)
    (activated : Bool) : Prop :=
  handler.activation (some responder) activated = activated ∧
    (handler.asks = true → current_sender.getD null_actor = responder) ∧
    (handler.replies responder = true → current_sender ≠ none)

/-- The same is observed exactly if whoever is asked for is the same. -/
theorem observations_eq_iff (handler : ReplyHandler) (current_sender : Option Actor)
    (responder : Actor) :
    handler.observations current_sender = handler.observations (some responder) ↔
      (handler.asks = true → current_sender.getD null_actor = responder) ∧
        (handler.replies responder = true → current_sender ≠ none) := by
  cases current_sender with
  | some sender =>
    simp only [Option.getD_some, ne_eq, reduceCtorEq, not_false_eq_true, implies_true, and_true]
    constructor
    · intro h hasks
      induction handler with
      | returns => cases hasks
      | activate rest ih => exact ih h hasks
      | deactivate rest ih => exact ih h hasks
      | get_current_sender_actor rest ih =>
        simp only [observations, Option.getD_some, List.cons.injEq, Observation.shown.injEq] at h
        exact h.1
      | reply rest ih =>
        simp only [observations, List.cons.injEq, Observation.replied.injEq] at h
        exact h.1
    · intro h
      by_cases hasks : handler.asks = true
      · rw [h hasks]
      -- a handler that does not ask shows nothing
      clear h
      induction handler with
      | returns => rfl
      | activate rest ih => exact ih hasks
      | deactivate rest ih => exact ih hasks
      | get_current_sender_actor rest ih => exact absurd rfl hasks
      | reply rest ih => exact absurd rfl hasks
  | none =>
    simp only [Option.getD_none, ne_eq, not_true_eq_false, imp_false, Bool.not_eq_true]
    induction handler with
    | returns => simp [observations, asks, replies]
    | activate rest ih => exact ih
    | deactivate rest ih => exact ih
    | get_current_sender_actor rest ih =>
      simp only [observations, Option.getD_none, Option.getD_some, List.cons.injEq,
        Observation.shown.injEq, asks, forall_const, replies]
      constructor
      · rintro ⟨rfl, hrest⟩
        exact ⟨rfl, ((ih null_actor).mp hrest).2⟩
      · rintro ⟨rfl, hreplies⟩
        exact ⟨rfl, (ih null_actor).mpr ⟨fun _ => rfl, hreplies⟩⟩
    | reply rest ih => simp [observations, asks, replies]

/-- ... and then `activated` is the same as well. -/
theorem activation_eq {handler : ReplyHandler} {current_sender : Option Actor} {responder : Actor}
    (hasks : handler.asks = true → current_sender.getD null_actor = responder)
    (hreplies : handler.replies responder = true → current_sender ≠ none) (activated : Bool) :
    handler.activation current_sender activated =
      handler.activation (some responder) activated := by
  induction handler generalizing activated with
  | returns => rfl
  | activate rest ih => exact ih hasks hreplies true
  | deactivate rest ih => exact ih hasks hreplies false
  | get_current_sender_actor rest ih =>
    have heq := hasks rfl
    simp only [activation, heq, Option.getD_some]
    exact ih responder (fun _ => heq) hreplies activated
  | reply rest ih =>
    cases current_sender with
    | none => exact absurd rfl (hreplies rfl)
    | some sender =>
      cases hasks rfl
      rfl

end ReplyHandler

/-! ### The two runs -/

variable {Body : Type} {queues : Nat}

/-- Operations of the user's code, one after the other. -/
def State.perform (s : State Body queues) (steps : List (UserStep Body)) :
    Option (State Body queues) :=
  steps.foldlM (fun s step => s.next (.user step)) s

/-- How a handler ends: it returns, or an exception leaves `on_reply`. -/
inductive Ends (observations : List Observation) : UserStep Body → Prop where
  | returned (garbage : UInt32 → Option (Entry Body)) :
      .threw ∉ observations → Ends observations (.returns garbage)
  | threw : .threw ∈ observations → Ends observations (.throws 1)

/-- What may happen while `on_reply` waits: messages arrive, and are deferred or stored. -/
def quiet : Label Body queues → Bool
  | .arrive _ | .push _ _ | .loop 0 => true
  | _ => false

/-- The `on_reply` of the `n`-th request waits all the time. -/
inductive Waiting (n : Nat) (s : State Body queues) : State Body queues → Prop where
  | start : top_wait s.stack = some n → Waiting n s s
  | step {s' s'' : State Body queues} (l : Label Body queues) : Waiting n s s' →
      quiet l = true → s'.next l = some s'' → top_wait s''.stack = some n → Waiting n s s''

section runs

variable (sender : Message Body → Actor) (n : Nat) (handler : ReplyHandler)

/-- A call of `on_reply` that finds a response: the state in which it is left, and what has
    been observed. -/
inductive EarlyRun (s : State Body queues) : State Body queues → List Observation → Prop where
  | intro {s₁ s₂ s' : State Body queues} {step : UserStep Body} {generation inserted : Nat}
      (on_reply : s.next (.user (.on_reply n)) = some s₁)
      (stored : s₁.stack = .stored n generation inserted :: s.stack)
      (performed : s₁.perform (handler.steps (s₁.current_message.map sender)) = some s₂)
      (ends : Ends (handler.observations (s₁.current_message.map sender)) step)
      (left : s₂.next (.user step) = some s') :
      EarlyRun s s' (handler.observations (s₁.current_message.map sender))

/-- A call of `on_reply` that waits until the response arrives in the message `t.message`. -/
inductive LateRun (response : Body) (s : State Body queues) :
    Message Body → State Body queues → List Observation → Prop where
  | intro {s₁ s₂ s₃ s₄ s₅ s' : State Body queues} {t : Turn Body}
      {garbage : UInt32 → Option (Entry Body)}
      (on_reply : s.next (.user (.on_reply n)) = some s₁)
      (waits : Waiting n s₁ s₂)
      (received : s₂.next (.loop 0) = some s₃)
      (processing : s₃.stack = .process t :: s₂.stack)
      (content : t.message.content = .response (request_id_of n) response)
      (performed : s₃.perform (handler.steps (s₃.current_message.map sender)) = some s₄)
      (returned : s₄.next (.user (.returns garbage)) = some s₅)
      (left : s₅.next (.loop 0) = some s') :
      LateRun response s t.message s' (handler.observations (s₃.current_message.map sender))

end runs

/-! ### What they leave -/

theorem user_next_eq {s : State Body queues} (hterminated : s.terminated = false)
    (huser : user_code s.stack = true) (step : UserStep Body) :
    s.next (.user step) = s.user_next step := by
  simp [State.next, hterminated, huser]

/-- The operations of a handler change nothing but `activated`. -/
theorem perform_handler (handler : ReplyHandler) (current_sender : Option Actor)
    {s : State Body queues} (hterminated : s.terminated = false)
    (huser : user_code s.stack = true) :
    s.perform (handler.steps current_sender) =
      some { s with activated := handler.activation current_sender s.activated } := by
  induction handler generalizing s with
  | returns => rfl
  | activate rest ih | deactivate rest ih =>
    simp only [State.perform, ReplyHandler.steps, List.foldlM_cons]
    rw [user_next_eq hterminated huser]
    exact ih hterminated huser
  | get_current_sender_actor rest ih => exact ih _ hterminated huser
  | reply rest ih =>
    cases current_sender with
    | none => rfl
    | some sender => exact ih hterminated huser

variable {sender : Message Body → Actor} {n : Nat} {handler : ReplyHandler}

/-- The handler runs as if it were called directly. -/
theorem EarlyRun.leaves {s s' : State Body queues} {observations : List Observation}
    (h : EarlyRun sender n handler s s' observations) :
    s'.activated = handler.activation (s.current_message.map sender) s.activated ∧
      observations = handler.observations (s.current_message.map sender) := by
  cases h with
  | @intro s₁ s₂ _ step generation inserted on_reply stored performed ends left =>
    obtain ⟨hterminated, hsteps⟩ := next_cases on_reply
    have hs₁ : s₁.terminated = s.terminated ∧ s₁.activated = s.activated ∧
        s₁.current_message = s.current_message := by
      cases hsteps with
      | user _ huser hstep =>
        cases hstep with
        | on_reply_missing _ hvalid hentry => exact ⟨rfl, rfl, rfl⟩
        | on_reply_stored _ inserted response hvalid hentry => exact ⟨rfl, rfl, rfl⟩
        | on_reply_waits _ inserted hvalid hentry => cases stored
      | receives source m hreceives hnext => cases hreceives
      | polls hreceives hnext => cases hreceives
    obtain ⟨hterminated₁, hactivated, hcurrent⟩ := hs₁
    have huser : user_code s₁.stack = true := by
      rw [stored]
      rfl
    rw [perform_handler _ _ (hterminated₁.trans hterminated) huser] at performed
    cases performed
    refine ⟨?_, by rw [hcurrent]⟩
    rw [← hcurrent, ← hactivated]
    cases (next_cases left).2 with
    | user _ _ hstep =>
      cases ends with
      | returned garbage _ =>
        cases hstep with
        | process_returns _ t rest hstack => cases stored.symm.trans hstack
        | callback_returns _ polls rest hstack => cases stored.symm.trans hstack
        | stored_returns _ n generation inserted rest hstack => rfl
        | pop_returns _ queue m rest hstack => cases stored.symm.trans hstack
      | threw _ =>
        cases hstep with
        | throws k huser => rfl
    | receives source m hreceives hnext => cases ends <;> cases hreceives
    | polls hreceives hnext => cases ends <;> cases hreceives

/-- What an `on_reply` that waits makes of a message: it goes on waiting, or the message is
    its response. -/
theorem Processes.of_wait {s s' : State Body queues} {source : Source} {m : Message Body} {n : Nat}
    (h : Processes (s.take_from source) ⟨.reply n, source, m, s.current_message, 0⟩ s')
    (hinner : s.inner_handlers = false) :
    s'.activated = s.activated ∧ s'.inner_handlers = s.inner_handlers ∧
      s'.terminated = s.terminated ∧
      (s'.stack = s.stack ∧ s'.current_message = s.current_message ∨
        s'.stack = .process ⟨.reply n, source, m, s.current_message, 0⟩ :: s.stack ∧
          s'.current_message = some m) := by
  cases h with
  | handled htable hcontent => cases htable
  | passed req_id response htable _ hcontent => cases htable
  | consumes hcontent hinner' => cases hinner.symm.trans hinner'
  | deferred n htable hcontent =>
    refine ⟨rfl, rfl, rfl, .inl ⟨?_, rfl⟩⟩
    cases source <;> rfl
  | stored req_id response hcontent htable =>
    refine ⟨rfl, rfl, rfl, .inl ⟨?_, rfl⟩⟩
    cases source <;> rfl
  | replied n response htable _ hcontent => exact ⟨rfl, rfl, rfl, .inr ⟨rfl, rfl⟩⟩

theorem Waiting.top_start {s s' : State Body queues} (h : Waiting n s s') :
    top_wait s.stack = some n := by
  induction h with
  | start htop => exact htop
  | step l _ _ _ _ ih => exact ih

/-- What does not change while `on_reply` waits. -/
theorem Waiting.keeps {s s' : State Body queues} (h : Waiting n s s')
    (hactivated : s.activated = true) (hinner : s.inner_handlers = false) :
    s'.stack = s.stack ∧ s'.activated = true ∧ s'.inner_handlers = false ∧
      s'.current_message = s.current_message := by
  induction h with
  | start htop => exact ⟨rfl, hactivated, hinner, rfl⟩
  | @step s₁ s₂ l hwaiting hquiet hnext htop ih =>
    obtain ⟨hstack, hactivated, hinner, hcurrent⟩ := ih
    -- the loop of `on_reply` is on top, and goes on
    have hwait : top_wait s₁.stack = some n := by
      cases hwaiting with
      | start htop => exact htop
      | step _ _ _ _ htop => exact htop
    obtain ⟨cur_act, inner, rest, hwait⟩ := stack_of_top_wait hwait
    cases (next_cases hnext).2 with
    | arrive content => exact ⟨hstack, hactivated, hinner, hcurrent⟩
    | push queue content => exact ⟨hstack, hactivated, hinner, hcurrent⟩
    | user step huser hstep => cases hquiet
    | pop queue old m rest hstack hqueue => cases hquiet
    | consumed old rest hstack => cases hquiet
    | leave polls rest hleave hactivated' => cases hwait.symm.trans hleave
    | leave_wait polls n cur_act inner rest hleave hactivated' =>
      cases hactivated.symm.trans hactivated'
    | polls hreceives hnone =>
      cases hreceives with
      | once polls huser => cases hquiet
      | loop polls rest hloop => cases hquiet
      | wait polls n cur_act inner rest hloop => cases hquiet
    | @receives l table polls source m hreceives hmessage =>
      cases hreceives with
      | once polls huser => cases hquiet
      | loop polls rest hloop => cases hwait.symm.trans hloop
      | wait polls n' cur_act inner rest hloop =>
        cases polls with
        | succ polls => cases hquiet
        | zero =>
          obtain ⟨hactivated', hinner', -, hcase⟩ := (process_cases _ _).of_wait hinner
          rcases hcase with ⟨hstack', hcurrent'⟩ | ⟨hstack', -⟩
          · exact ⟨hstack'.trans hstack, hactivated'.trans hactivated, hinner'.trans hinner,
              hcurrent'.trans hcurrent⟩
          · -- the handlers run, and nothing waits on top
            rw [hstack'] at htop
            cases htop

/-- The loop of `on_reply` receives a message whose handlers run. -/
theorem wait_receives {s s' : State Body queues} {cur_act inner : Bool}
    {rest : List (Frame Body queues)} (hstack : s.stack = .wait n cur_act inner :: rest)
    (hactivated : s.activated = true) (hinner : s.inner_handlers = false)
    (hnext : s.next (.loop 0) = some s') {t : Turn Body}
    (hprocessing : s'.stack = .process t :: s.stack) :
    s'.activated = true ∧ s'.terminated = false ∧ s'.current_message = some t.message ∧
      t.table = .reply n ∧ t.polls = 0 := by
  obtain ⟨hterminated, hsteps⟩ := next_cases hnext
  cases hsteps with
  | leave polls rest hleave hactivated' => cases hstack.symm.trans hleave
  | leave_wait polls n cur_act inner rest hleave hactivated' =>
    cases hactivated.symm.trans hactivated'
  | polls hreceives hnone => cases hreceives
  | receives source m hreceives hmessage =>
    cases hreceives with
    | loop polls rest hloop => cases hstack.symm.trans hloop
    | wait polls n' cur_act inner rest hloop =>
      obtain ⟨hactivated', -, hterminated', hcase⟩ := (process_cases _ _).of_wait hinner
      rcases hcase with ⟨hstack', -⟩ | ⟨hstack', hcurrent⟩
      · exact absurd (hstack'.symm.trans hprocessing).symm (List.cons_ne_self _ _)
      · cases (List.cons.inj (hstack'.symm.trans hprocessing)).1
        cases hstack.symm.trans hloop
        exact ⟨hactivated'.trans hactivated, hterminated'.trans hterminated, hcurrent, rfl, rfl⟩

/-- `on_reply` finds no response. -/
theorem next_on_reply_of_waits {s s' : State Body queues}
    (hnext : s.next (.user (.on_reply n)) = some s') (htop : top_wait s'.stack = some n) :
    s' = s.wait_reply n := by
  cases (next_cases hnext).2 with
  | user _ huser hstep =>
    cases hstep with
    | on_reply_missing _ hvalid hentry =>
      -- no loop of an `on_reply` is on top while the user's code runs
      cases (top_wait_of_user_code huser).symm.trans htop
    | on_reply_stored _ inserted response hvalid hentry => cases htop
    | on_reply_waits _ inserted hvalid hentry => rfl
  | receives source m hreceives hmessage => cases hreceives
  | polls hreceives hmessage => cases hreceives

/-- The handlers of the reply return to a loop. -/
theorem next_returns_of_process {s s' : State Body queues} {t : Turn Body}
    {garbage : UInt32 → Option (Entry Body)} {rest : List (Frame Body queues)}
    (hstack : s.stack = .process t :: rest)
    (hnext : s.next (.user (.returns garbage)) = some s') : s' = s.process_returns t rest := by
  cases (next_cases hnext).2 with
  | user _ huser hstep =>
    cases hstep with
    | process_returns _ t rest hstack' =>
      cases hstack.symm.trans hstack'
      rfl
    | callback_returns _ polls rest hstack' => cases hstack.symm.trans hstack'
    | stored_returns _ n generation inserted rest hstack' => cases hstack.symm.trans hstack'
    | pop_returns _ queue m rest hstack' => cases hstack.symm.trans hstack'
  | receives source m hreceives hmessage => cases hreceives
  | polls hreceives hmessage => cases hreceives

theorem activated_process_returns (s : State Body queues) {t : Turn Body}
    (htable : t.table = .reply n) (rest : List (Frame Body queues)) :
    (s.process_returns t rest).activated = false := by
  simp [State.process_returns, State.receive_returns, htable]

theorem stack_process_returns (s : State Body queues) {t : Turn Body} (hpolls : t.polls = 0)
    (rest : List (Frame Body queues)) : (s.process_returns t rest).stack = rest := by
  simp only [State.process_returns, State.receive_returns, hpolls]
  cases t.source <;> rfl

/-- The loop ends. -/
theorem next_loop_of_wait {s s' : State Body queues} {cur_act inner : Bool}
    {rest : List (Frame Body queues)} (hstack : s.stack = .wait n cur_act inner :: rest)
    (hactivated : s.activated = false) (hnext : s.next (.loop 0) = some s') :
    s' = s.reply_returns n cur_act inner rest := by
  cases (next_cases hnext).2 with
  | leave polls rest hleave hactivated' => cases hstack.symm.trans hleave
  | leave_wait polls n cur_act inner rest hleave hactivated' =>
    cases hstack.symm.trans hleave
    rfl
  | polls hreceives hnone => cases hreceives
  | receives source m hreceives hmessage =>
    cases hreceives with
    | loop polls rest hloop => cases hstack.symm.trans hloop
    | wait polls n' cur_act inner rest hloop hactivated' =>
      cases hactivated.symm.trans hactivated'

/-- `on_reply` restores `activated` behind the handler. -/
theorem LateRun.leaves {response : Body} {s s' : State Body queues} {m : Message Body}
    {observations : List Observation}
    (h : LateRun sender n handler response s m s' observations) :
    s'.activated = s.activated ∧ observations = handler.observations (some (sender m)) := by
  cases h with
  | @intro s₁ s₂ s₃ s₄ s₅ _ t garbage on_reply waits received processing content performed
      returned left =>
    -- `on_reply` starts to wait
    cases next_on_reply_of_waits on_reply waits.top_start
    obtain ⟨hstack₂, hactivated₂, hinner₂, hcurrent₂⟩ := waits.keeps rfl rfl
    -- the handler runs in the response
    obtain ⟨hactivated₃, hterminated₃, hcurrent₃, htable, hpolls⟩ :=
      wait_receives hstack₂ hactivated₂ hinner₂ received processing
    have huser : user_code s₃.stack = true := by
      rw [processing]
      rfl
    rw [perform_handler _ _ hterminated₃ huser] at performed
    refine ⟨?_, by rw [hcurrent₃, Option.map_some]⟩
    have hstack₄ : s₄.stack = .process t :: s₂.stack := by
      cases performed
      exact processing
    -- it returns to the loop, which it has deactivated
    have hs₅ := next_returns_of_process hstack₄ returned
    have hactivated₅ : s₅.activated = false := hs₅ ▸ activated_process_returns s₄ htable s₂.stack
    have hstack₅ : s₅.stack = s₂.stack := hs₅ ▸ stack_process_returns s₄ hpolls s₂.stack
    rw [next_loop_of_wait (hstack₅.trans hstack₂) hactivated₅ left]
    show (s.activated || s₅.activated) = s.activated
    rw [hactivated₅, Bool.or_false]

/-- **Early and late responses come to the same exactly when the handler is indifferent.** -/
theorem same_iff_indifferent {response : Body} {s early late : State Body queues}
    {m : Message Body} {observed observed' : List Observation}
    (hearly :
      EarlyRun sender n handler (s.store_response (request_id_of n) response) early observed)
    (hlate : LateRun sender n handler response s m late observed') :
    early.activated = late.activated ∧ observed = observed' ↔
      handler.Indifferent (s.current_message.map sender) (sender m) s.activated := by
  obtain ⟨hactivated, hobserved⟩ := hearly.leaves
  obtain ⟨hactivated', hobserved'⟩ := hlate.leaves
  rw [hactivated, hactivated', hobserved, hobserved']
  show handler.activation (s.current_message.map sender) s.activated = s.activated ∧
    handler.observations (s.current_message.map sender) = _ ↔ _
  rw [ReplyHandler.observations_eq_iff, ReplyHandler.Indifferent]
  apply and_congr_left
  rintro ⟨hasks, hreplies⟩
  rw [ReplyHandler.activation_eq hasks hreplies]

/-! ### A request in the handler of a message -/

/-- The handler of message 0 has made request 0. -/
def calling : State Unit 0 :=
  { start Unit 0 with
    current_message := some ⟨0, .ordinary⟩
    request_id := 1
    unfinished_requests := Function.update (fun _ => none) 0 (some ⟨0, none⟩)
    stack := [.process ⟨.user, .socket, ⟨0, .ordinary⟩, none, 0⟩, .receive]
    handlers := Function.update (fun _ => .unissued) 0 .valid
    arrived := [⟨0, .ordinary⟩]
    dispatched := [⟨0, .ordinary⟩] }

theorem reachable_calling : Reachable (system Unit 0) calling := by
  have h0 : Reachable (system Unit 0) (start Unit 0) := .init rfl
  apply h0.exec [.user .receive, .arrive .ordinary, .loop 0, .user (.request false)]
  rfl

theorem threw_notMem (handler : ReplyHandler) (sender : Actor) :
    .threw ∉ handler.observations (some sender) := by
  induction handler with
  | returns => exact nofun
  | activate rest ih | deactivate rest ih => exact ih
  | get_current_sender_actor rest ih => simpa [ReplyHandler.observations] using ih sender
  | reply rest ih => simpa [ReplyHandler.observations] using ih

/-- Both runs exist for every handler. -/
theorem exists_runs (sender : Message Unit → Actor) (handler : ReplyHandler) :
    ∃ early observed late observed',
      EarlyRun sender 0 handler (calling.store_response (request_id_of 0) ()) early observed ∧
        LateRun sender 0 handler () calling ⟨1, .response 0 ()⟩ late observed' := by
  have hearly : ∃ early observed,
      EarlyRun sender 0 handler (calling.store_response (request_id_of 0) ()) early observed :=
    ⟨_, _, .intro rfl rfl (perform_handler handler _ rfl rfl)
      (.returned (fun _ => none) (threw_notMem handler _)) rfl⟩
  have hwaits : Waiting 0 (calling.wait_reply 0)
      ((calling.wait_reply 0).arrive (.response 0 ())) :=
    .step (.arrive (.response 0 ())) (.start rfl) rfl rfl rfl
  have hlate : ∃ late observed,
      LateRun sender 0 handler () calling ⟨1, .response 0 ()⟩ late observed :=
    ⟨_, _, .intro rfl hwaits rfl rfl rfl (perform_handler handler _ rfl rfl)
      (rfl : State.next _ (.user (.returns fun _ => none)) = _) rfl⟩
  obtain ⟨early, observed, hearly⟩ := hearly
  obtain ⟨late, observed', hlate⟩ := hlate
  exact ⟨early, observed, late, observed', hearly, hlate⟩

/-- A handler that activates the actor, which is activated already. -/
theorem same_iff_indifferent_activate :
    ∃ (early late : State Unit 0) (observed observed' : List Observation),
      EarlyRun (fun _ => null_actor) 0 (.activate .returns)
          (calling.store_response (request_id_of 0) ()) early observed ∧
        early.activated = late.activated ∧ observed = observed' := by
  obtain ⟨early, observed, late, observed', hearly, hlate⟩ :=
    exists_runs (fun _ => null_actor) (.activate .returns)
  refine ⟨early, late, observed, observed', hearly, (same_iff_indifferent hearly hlate).mpr ?_⟩
  exact ⟨rfl, by decide, by decide⟩

/-- A `deactivate()` of the handler lasts if the response was early, and is undone if it was
    late. -/
theorem not_same :
    ¬ ∀ (sender : Message Unit → Actor) (n : Nat) (handler : ReplyHandler) (response : Unit)
      (s early late : State Unit 0) (m : Message Unit) (observed observed' : List Observation),
      Reachable (system Unit 0) s →
      EarlyRun sender n handler (s.store_response (request_id_of n) response) early observed →
      LateRun sender n handler response s m late observed' →
      early.activated = late.activated ∧ observed = observed' := by
  intro hall
  obtain ⟨early, observed, late, observed', hearly, hlate⟩ :=
    exists_runs (fun _ => null_actor) (.deactivate .returns)
  have hsame := (hall _ _ _ _ _ _ _ _ _ _ reachable_calling hearly hlate).1
  rw [hearly.leaves.1, hlate.leaves.1] at hsame
  exact absurd hsame (by decide)

end ZAF.ActorBehavior
