import ZAF.Message.Handler

/-! # Dispatch of a message, by transport

    A message reaches the handlers of an `ActorBehaviorX` in one of two ways. One
    from the ZMQ socket is processed by `inner_handlers`, which handle requests,
    responses and the codes of the SWSR queues themselves and have the user's
    table as child. One from an SWSR queue is processed by the child table alone.

    The second way therefore never unpacks a request and never stores a response.
-/

namespace ZAF

/-! ### Codes and tables -/

namespace DefaultCodes

/-- `size_t(~0u) << 32` -/
def ZAFCodeBase : UInt64 := (0xffffffff : UInt64) <<< (32 : UInt64)

def ForwardMessage : UInt64 := ZAFCodeBase + 1
def SWSRMsgQueueRegistration : UInt64 := ZAFCodeBase + 2
def SWSRMsgQueueNotification : UInt64 := ZAFCodeBase + 3
def SWSRMsgQueueConsumption : UInt64 := ZAFCodeBase + 5
def Request : UInt64 := ZAFCodeBase + 6
def Response : UInt64 := ZAFCodeBase + 7

end DefaultCodes

namespace MessageHandlers

/-- A table of the user's handlers. -/
def UserOnly : MessageHandlers → Prop
  | ⟨handlers, _, child⟩ =>
    (∀ p ∈ handlers, ∃ n, p.2.callable = .user n) ∧
      match child with
      | some c => c.UserOnly
      | none => True

end MessageHandlers

/-- The tables that a user can build: the callables that `ActorBehavior` installs
    are out of reach. -/
structure UserHandlers where
  table : MessageHandlers
  user_only : table.UserOnly

/-- The handlers that the constructors of `ActorBehavior` and `ActorBehaviorX`
    install. -/
def installed_handlers : List (UInt64 × TypedMessageHandler) :=
  [(DefaultCodes.Request, ⟨.request, [.unsigned, .message_body]⟩),
   (DefaultCodes.Response, ⟨.response, [.unsigned, .message_body]⟩),
   (DefaultCodes.SWSRMsgQueueRegistration, ⟨.swsr_registration, [.swsr_queue]⟩),
   (DefaultCodes.SWSRMsgQueueNotification, ⟨.swsr_notification, []⟩),
   (DefaultCodes.SWSRMsgQueueConsumption, ⟨.swsr_consumption, []⟩)]

/-- `inner_handlers` while `receive_once` has given them the user's table. -/
def inner_handlers (user : UserHandlers) : MessageHandlers where
  handlers := installed_handlers
  child := some user.table

/-! ### The effect of a message -/

/-- What processing a message comes to. -/
inductive Effect where
  /-- A handler of the user runs on a body. -/
  | invoked (handler : Nat) (body : MessageBody)
  /-- The user's default handler runs on a message. -/
  | invoked_default (handler : Nat) (m : Message)
  /-- `store_response` -/
  | stored (req_id : UInt32) (response : Option MessageBody)
  /-- `register_swsr_queue` -/
  | registered (sender queue : Nat)
  /-- `notify_swsr_queue` -/
  | notified (sender : Nat)
  /-- `consume_swsr_recv_queues` -/
  | consumed
  | threw (e : ZAFException)
  /-- Elements of other types are taken for the arguments, bytes are read behind
      the end of a buffer, or a null body is processed. -/
  | undefined

namespace Effect

/-- Wrap an exception, if there is one. -/
def wrap (f : ZAFException → ZAFException) : Effect → Effect
  | threw e => threw (f e)
  | effect => effect

@[simp] theorem wrap_threw (f : ZAFException → ZAFException) (e : ZAFException) :
    (threw e).wrap f = threw (f e) := rfl

/-- Wrapping does not hide whether a user's handler runs. -/
theorem wrap_eq_invoked {f : ZAFException → ZAFException} {effect : Effect} {n : Nat}
    {b : MessageBody} (h : effect.wrap f = invoked n b) : effect = invoked n b := by
  cases effect <;> first | exact h | cases h

theorem wrap_eq_invoked_default {f : ZAFException → ZAFException} {effect : Effect} {n : Nat}
    {m : Message} (h : effect.wrap f = invoked_default n m) : effect = invoked_default n m := by
  cases effect <;> first | exact h | cases h

theorem wrap_eq_threw {f : ZAFException → ZAFException} {effect : Effect} {e : ZAFException}
    (h : effect.wrap f = threw e) : ∃ cause, e = f cause := by
  cases effect with
  | threw cause =>
    cases h
    exact ⟨cause, rfl⟩
  | _ => cases h

/-- Wrappers by one function are equal on equal effects only. -/
theorem wrap_inj {f : ZAFException → ZAFException} (hf : Function.Injective f)
    {x y : Effect} : x.wrap f = y.wrap f ↔ x = y := by
  constructor
  · intro h
    cases x <;> cases y <;> simp_all [wrap]
    exact hf h
  · rintro rfl
    rfl

end Effect

section dispatch

variable (t : TypeTraits) (user : UserHandlers)

/-- Run a callable that has been found for a body. The handler of a request
    processes the body in the request with the inner handlers. -/
def perform (sender : Nat) (callable : Callable) (b : MessageBody) : Effect :=
  match callable with
  | .user n => .invoked n b
  | .raw n => .invoked_default n ⟨sender, b⟩
  | .swsr_registration =>
    match b.queue_content with
    | some queue => .registered sender queue
    | none => .undefined
  | .swsr_notification => .notified sender
  | .swsr_consumption => .consumed
  | .response =>
    match b.request_content with
    | some (req_id, response) => .stored req_id response
    | none => .undefined
  | .request =>
    match _h : b.request_content with
    | some (_, some request) =>
      let effect :=
        match (inner_handlers user).process_body t request with
        | .ok inner => perform sender inner request
        | .error e => .threw e
      effect.wrap (.in_handler b.is_serialized b.get_code)
    | _ => .undefined
termination_by b.weight
decreasing_by exact MessageBody.request_content_weight _h

@[simp] theorem perform_user (sender n : Nat) (b : MessageBody) :
    perform t user sender (.user n) b = .invoked n b := by
  rw [perform]

@[simp] theorem perform_raw (sender n : Nat) (b : MessageBody) :
    perform t user sender (.raw n) b = .invoked_default n ⟨sender, b⟩ := by
  rw [perform]

/-- What a lookup that may have failed comes to. -/
def perform_found (m : Message) (found : Except ZAFException Callable) : Effect :=
  match found with
  | .ok callable => perform t user m.sender callable m.body
  | .error e => .threw e

/-- The handler of a request goes on with the body in the request. -/
theorem perform_request {b r : MessageBody} {req_id : UInt32} (sender : Nat)
    (h : b.request_content = some (req_id, some r)) :
    perform t user sender .request b =
      (perform_found t user ⟨sender, r⟩ ((inner_handlers user).process_body t r)).wrap
        (.in_handler b.is_serialized b.get_code) := by
  rw [perform]
  split
  · next hr =>
    rw [h] at hr
    cases hr
    rfl
  · next hr => exact absurd h (hr _ _)

/-- The callback of `receive_once`: a message from the ZMQ socket. -/
def receive_once_process (m : Message) : Effect :=
  (perform_found t user m ((inner_handlers user).process t m)).wrap
    (.in_processing m.body.get_code)

/-- The pop handler of `consume_swsr_recv_queues`, called with the child table of
    the inner handlers: a message from an SWSR queue. -/
def consume_swsr_process (m : Message) : Effect :=
  (perform_found t user m (user.table.process t m)).wrap (.in_processing m.body.get_code)

end dispatch

/-! ### The two ways compared -/

/-- What a successful lookup returns stands in the list. -/
theorem mem_of_lookup {α : Type} [BEq α] [LawfulBEq α] {β : Type} {xs : List (α × β)} {a : α}
    {b : β} (h : xs.lookup a = some b) : (a, b) ∈ xs := by
  induction xs with
  | nil => cases h
  | cons p xs ih =>
    rw [List.lookup_cons] at h
    split at h
    · next heq =>
      cases h
      rw [eq_of_beq heq]
      exact List.mem_cons_self
    · exact List.mem_cons_of_mem _ (ih h)

namespace MessageHandlers

/-- A table of the user's handlers finds only those. -/
theorem UserOnly.find_handler {code : UInt64} {h : TypedMessageHandler} :
    ∀ {hs : MessageHandlers}, hs.UserOnly → hs.find_handler code = some h →
      ∃ n, h.callable = .user n
  | ⟨handlers, default_handler, none⟩, hu, hfind => by
    rw [MessageHandlers.find_handler] at hfind
    cases hl : handlers.lookup code with
    | none =>
      rw [hl] at hfind
      cases hfind
    | some h' =>
      rw [hl] at hfind
      cases hfind
      exact hu.1 _ (mem_of_lookup hl)
  | ⟨handlers, default_handler, some c⟩, hu, hfind => by
    rw [MessageHandlers.find_handler] at hfind
    cases hl : handlers.lookup code with
    | none =>
      rw [hl] at hfind
      exact UserOnly.find_handler hu.2 hfind
    | some h' =>
      rw [hl] at hfind
      cases hfind
      exact hu.1 _ (mem_of_lookup hl)

end MessageHandlers

/-- The callables of the installed handlers. -/
def Callable.Installed : Callable → Prop
  | .user _ => False
  | .raw _ => False
  | _ => True

theorem installed_callable {code : UInt64} {h : TypedMessageHandler}
    (hl : installed_handlers.lookup code = some h) : h.callable.Installed := by
  have hmem := mem_of_lookup hl
  simp only [installed_handlers, List.mem_cons, List.not_mem_nil, or_false, Prod.mk.injEq] at hmem
  rcases hmem with ⟨-, rfl⟩ | ⟨-, rfl⟩ | ⟨-, rfl⟩ | ⟨-, rfl⟩ | ⟨-, rfl⟩ <;> trivial

variable {t : TypeTraits} {user : UserHandlers}

/-- The inner handlers find an installed handler, or else one of the user's. -/
theorem inner_find_handler (code : UInt64) :
    (inner_handlers user).find_handler code =
      (installed_handlers.lookup code).or (user.table.find_handler code) := by
  rw [inner_handlers, MessageHandlers.find_handler]
  cases installed_handlers.lookup code <;> rfl

/-- A body processed by the inner handlers never reaches a handler of messages. -/
theorem inner_process_body_ok {b : MessageBody} {c : Callable}
    (hok : (inner_handlers user).process_body t b = .ok c) :
    c.Installed ∨ ∃ n, c = .user n := by
  rw [MessageHandlers.process_body, MessageHandlers.try_process_body_eq, inner_find_handler] at hok
  cases hl : installed_handlers.lookup b.get_code with
  | some h =>
    rw [hl] at hok
    rw [TypedMessageHandler.process_body_ok hok]
    exact .inl (installed_callable hl)
  | none =>
    rw [hl, Option.none_or] at hok
    cases hu : user.table.find_handler b.get_code with
    | none =>
      rw [hu] at hok
      cases hok
    | some h =>
      rw [hu] at hok
      rw [TypedMessageHandler.process_body_ok hok]
      exact .inr (user.user_only.find_handler hu)

/-- What the installed handlers bring about: a handler of the user gets a lighter
    body, the default handler gets nothing, and every exception is wrapped. -/
structure Unpacks (weight : Nat) (effect : Effect) : Prop where
  invoked : ∀ n b, effect = .invoked n b → b.weight < weight
  not_default : ∀ n m, effect ≠ .invoked_default n m
  threw : ∀ e, effect = .threw e → ∃ serialized code cause, e = .in_handler serialized code cause

theorem unpacks_threw {weight : Nat} {serialized : Bool} {code : UInt64} {e : ZAFException} :
    Unpacks weight (.threw (.in_handler serialized code e)) := by
  refine ⟨?_, ?_, ?_⟩
  · intro n b h
    cases h
  · intro n m h
    cases h
  · intro e' h
    cases h
    exact ⟨_, _, _, rfl⟩

/-- The effect of an installed handler, by recursion into the request. -/
theorem perform_installed (sender : Nat) {c : Callable} (b : MessageBody) (hc : c.Installed) :
    Unpacks b.weight (perform t user sender c b) := by
  cases c with
  | user n => exact hc.elim
  | raw n => exact hc.elim
  | swsr_registration =>
    rw [perform]
    split <;> constructor <;> simp
  | swsr_notification =>
    rw [perform]
    constructor <;> simp
  | swsr_consumption =>
    rw [perform]
    constructor <;> simp
  | response =>
    rw [perform]
    split <;> constructor <;> simp
  | request =>
    rw [perform]
    split
    · next id r hr =>
      have hlt := MessageBody.request_content_weight hr
      cases hp : (inner_handlers user).process_body t r with
      | error e => exact unpacks_threw
      | ok inner =>
        rcases inner_process_body_ok hp with hi | ⟨n, rfl⟩
        · -- the request contains a request, or a code of the queues
          have ih := perform_installed sender r hi
          refine ⟨?_, ?_, ?_⟩
          · intro n b' h
            exact lt_trans (ih.invoked n b' (Effect.wrap_eq_invoked h)) hlt
          · intro n m h
            exact ih.not_default n m (Effect.wrap_eq_invoked_default h)
          · intro e h
            obtain ⟨cause, rfl⟩ := Effect.wrap_eq_threw h
            exact ⟨_, _, cause, rfl⟩
        · -- the request is for a handler of the user
          simp only [perform_user]
          refine ⟨?_, ?_, ?_⟩
          · intro n' b' h
            cases h
            exact hlt
          · intro n' m h
            cases h
          · intro e h
            cases h
    · constructor <;> simp
termination_by b.weight

/-- Without an installed handler for the code, both ways look it up in the user's
    table. -/
theorem inner_process_not_installed {m : Message}
    (hl : installed_handlers.lookup m.body.get_code = none) :
    (inner_handlers user).process t m = user.table.process t m := by
  rw [MessageHandlers.process, MessageHandlers.process, inner_handlers,
    MessageHandlers.try_process, hl]
  simp

/-- With an installed handler for the code, that one is asked. -/
theorem inner_process_installed {m : Message} {h : TypedMessageHandler}
    (hl : installed_handlers.lookup m.body.get_code = some h) :
    (inner_handlers user).process t m = h.process_body t m.body := by
  have hfind : (inner_handlers user).find_handler m.body.get_code = some h := by
    rw [inner_find_handler, hl, Option.some_or]
  rw [MessageHandlers.process, MessageHandlers.try_process_found t hfind, Option.getD_some]

/-- The condition under which the transport makes no difference: the code has no
    installed handler, or the user has registered it as well and both handlers
    reject the body alike. -/
def TransportFree (t : TypeTraits) (user : UserHandlers) (m : Message) : Prop :=
  ∀ h, installed_handlers.lookup m.body.get_code = some h →
    ∃ u, user.table.find_handler m.body.get_code = some u ∧
      TypedMessageHandler.SameRejection t h u m.body

/-- The user's table alone fails like an installed handler only by a rejection of
    both. -/
theorem same_rejection_of_eq {m : Message} {h : TypedMessageHandler}
    (hinstalled : h.callable.Installed)
    (heq : perform_found t user m (user.table.process t m) =
      perform_found t user m (h.process_body t m.body)) :
    ∃ u, user.table.find_handler m.body.get_code = some u ∧
      TypedMessageHandler.SameRejection t h u m.body := by
  cases hp : h.process_body t m.body with
  | ok c =>
    -- the installed handler runs, and nothing in the user's table does the same
    have hunpacks := @perform_installed t user m.sender _ m.body hinstalled
    rw [hp, TypedMessageHandler.process_body_ok hp] at heq
    rw [show perform t user m.sender h.callable m.body =
      perform_found t user m (.ok h.callable) from rfl, ← heq] at hunpacks
    -- What it does is never what a user's handler does with this same body, and
    -- never an exception of the lookup.
    cases hfind : user.table.find_handler m.body.get_code with
    | none =>
      rw [MessageHandlers.process] at hunpacks
      rcases MessageHandlers.try_process_not_found t hfind with hnone | ⟨d, hd⟩
      · rw [hnone] at hunpacks
        obtain ⟨_, _, _, hcontra⟩ := hunpacks.threw _ rfl
        cases hcontra
      · rw [hd] at hunpacks
        exact absurd (perform_raw t user _ _ _) (hunpacks.not_default _ _)
    | some u =>
      rw [MessageHandlers.process, MessageHandlers.try_process_found t hfind,
        Option.getD_some] at hunpacks
      cases hu : u.process_body t m.body with
      | error e =>
        rw [hu] at hunpacks
        obtain ⟨_, _, _, rfl⟩ := hunpacks.threw _ rfl
        rcases TypedMessageHandler.process_body_error hu with ⟨_, _, hcontra⟩ | hcontra <;>
          cases hcontra
      | ok c' =>
        obtain ⟨n, hn⟩ := user.user_only.find_handler hfind
        rw [hu, TypedMessageHandler.process_body_ok hu, hn] at hunpacks
        exact absurd (hunpacks.invoked _ _ (perform_user t user _ _ _)) (lt_irrefl _)
  | error e =>
    -- the installed handler rejects the body
    rw [hp] at heq
    cases hfind : user.table.find_handler m.body.get_code with
    | none =>
      -- the user's table throws another exception, or runs its default handler
      rw [MessageHandlers.process] at heq
      rcases MessageHandlers.try_process_not_found t hfind with hnone | ⟨d, hd⟩
      · rw [hnone] at heq
        cases heq
        rcases TypedMessageHandler.process_body_error hp with ⟨_, _, hcontra⟩ | hcontra <;>
          cases hcontra
      · rw [hd] at heq
        simp [perform_found] at heq
    | some u =>
      rw [MessageHandlers.process, MessageHandlers.try_process_found t hfind,
        Option.getD_some] at heq
      cases hu : u.process_body t m.body with
      | error e' =>
        rw [hu] at heq
        cases heq
        exact ⟨u, rfl, (TypedMessageHandler.same_rejection_iff t h u m.body).mpr ⟨e, hp, hu⟩⟩
      | ok c' =>
        obtain ⟨n, hn⟩ := user.user_only.find_handler hfind
        rw [hu, TypedMessageHandler.process_body_ok hu, hn] at heq
        simp [perform_found] at heq

/-- **Processing a message from an SWSR queue and from the ZMQ socket come to the
    same exactly when the transport is free.** -/
theorem consume_swsr_eq_receive_once_iff (t : TypeTraits) (user : UserHandlers) (m : Message) :
    consume_swsr_process t user m = receive_once_process t user m ↔ TransportFree t user m := by
  have hinj : Function.Injective (ZAFException.in_processing m.body.get_code) := by
    intro x y h
    cases h
    rfl
  -- Both ways wrap an exception in the same text.
  rw [consume_swsr_process, receive_once_process, Effect.wrap_inj hinj]
  cases hl : installed_handlers.lookup m.body.get_code with
  | none =>
    rw [inner_process_not_installed hl]
    constructor
    · intro _ h hsome
      rw [hl] at hsome
      cases hsome
    · intro _
      rfl
  | some h =>
    rw [inner_process_installed hl]
    constructor
    · intro heq h' hsome
      rw [hl] at hsome
      cases hsome
      exact same_rejection_of_eq (installed_callable hl) heq
    · intro hfree
      obtain ⟨u, hfind, hsame⟩ := hfree h hl
      obtain ⟨e, hh, hu⟩ := (TypedMessageHandler.same_rejection_iff t h u m.body).mp hsame
      rw [MessageHandlers.process, MessageHandlers.try_process_found t hfind, Option.getD_some,
        hu, hh]

/-- A request for code `0` without arguments, as the receiver of a net gate
    forwards it: the request id, the presence of a body, and the body with its
    code, its types hash and its size. -/
def forwarded_request (t : TypeTraits) : MessageBody :=
  .serialized DefaultCodes.Request (t.types_hash_code [.unsigned, .message_body])
    ([7, 0, 0, 0] ++ [1] ++ List.replicate 8 0 ++ List.replicate 8 0 ++ List.replicate 4 0)

/-- A table with one handler without arguments, for code `0`. -/
def one_handler : UserHandlers where
  table := { handlers := [(0, ⟨.user 0, []⟩)] }
  user_only := by simp [MessageHandlers.UserOnly]

/-- A request of actor `3`, forwarded by the receiver of a net gate. -/
def forwarded_message : Message := ⟨3, forwarded_request TypedMessageHandler.numbered_types⟩

/-- From the socket, the request in the message reaches the user's handler; from
    an SWSR queue, the user's table has no handler for requests. -/
theorem consume_swsr_ne_receive_once :
    ¬ ∀ (t : TypeTraits) (user : UserHandlers) (m : Message),
      consume_swsr_process t user m = receive_once_process t user m := by
  intro hall
  have heq := hall TypedMessageHandler.numbered_types one_handler forwarded_message
  have hfound : (inner_handlers one_handler).process TypedMessageHandler.numbered_types
      forwarded_message = .ok .request := rfl
  have hcontent : forwarded_message.body.request_content =
      some (7, some (.serialized 0 0 [])) := rfl
  have hinner : (inner_handlers one_handler).process_body TypedMessageHandler.numbered_types
      (.serialized 0 0 []) = .ok (.user 0) := rfl
  have hzmq : receive_once_process TypedMessageHandler.numbered_types one_handler
      forwarded_message = .invoked 0 (.serialized 0 0 []) := by
    rw [receive_once_process, hfound, perform_found, perform_request _ _ _ hcontent, hinner,
      perform_found, perform_user]
    rfl
  have hswsr : consume_swsr_process TypedMessageHandler.numbered_types one_handler
      forwarded_message = .threw (.in_processing DefaultCodes.Request
        (.handler_not_found_from DefaultCodes.Request 3)) := rfl
  rw [hzmq, hswsr] at heq
  cases heq

end ZAF
