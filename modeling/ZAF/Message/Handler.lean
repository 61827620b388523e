import ZAF.Message.Body

/-! # Message handlers and handler tables

    A `TypedMessageHandler` knows the types of its arguments, but it gets the
    elements of a body as bare addresses or bytes. The one thing that keeps it
    from taking them for something else is the comparison of two hash codes.

    `MessageHandlers` maps codes to handlers. A code that is not found is looked
    up in the child table, and at last given to the default handler.
-/

namespace ZAF

/-! ### Handlers -/

/-- What a handler runs. -/
inductive Callable where
  /-- The handlers that `ActorBehavior` installs. -/
  | request | response
  /-- The handlers that `ActorBehaviorX` installs. -/
  | swsr_registration | swsr_notification | swsr_consumption
  /-- The user's handlers. -/
  | user (n : Nat)
  /-- The user's handlers of whole messages. -/
  | raw (n : Nat)
  deriving DecidableEq, Repr

/-- The exceptions of message handling, with the values in their texts. -/
inductive ZAFException where
  /-- "The hash code of the message content types does not match with the
      argument types of the message handler." -/
  | hash_mismatch (expected actual : UInt64)
  /-- "The TypedMessageHandler contains non-serializable argument(s) but receives
      a serialized message." -/
  | non_serializable
  /-- "Handler for code ... not found." -/
  | handler_not_found (code : UInt64)
  /-- "Handler for code ... not found. Message is from ..." -/
  | handler_not_found_from (code : UInt64) (sender : Nat)
  /-- "Exception caught ... when handling typed (or serialized) message with code
      ...", around another exception. -/
  | in_handler (serialized : Bool) (code : UInt64) (cause : ZAFException)
  /-- "Exception caught when processing a message with code ...", around another
      exception. -/
  | in_processing (code : UInt64) (cause : ZAFException)
  deriving DecidableEq, Repr

/-- A handler and its argument types. -/
structure TypedMessageHandler where
  callable : Callable
  args : List ElementType

namespace TypedMessageHandler

/-- `ArgumentsSignature::hash_code` of the handler. -/
def hash_code (t : TypeTraits) (h : TypedMessageHandler) : UInt64 := t.types_hash_code h.args

/-- `process_body`: the check of a body, then the call of the handler. -/
def process_body (t : TypeTraits) (h : TypedMessageHandler) :
    MessageBody → Except ZAFException Callable
  | .memory code content =>
    let body := MessageBody.memory code content
    if body.get_type_hash_code t ≠ h.hash_code t then
      .error (.hash_mismatch (h.hash_code t) (body.get_type_hash_code t))
    else .ok h.callable
  | .serialized code types_hash bytes =>
    let body := MessageBody.serialized code types_hash bytes
    if body.get_type_hash_code t ≠ h.hash_code t then
      .error (.hash_mismatch (h.hash_code t) (body.get_type_hash_code t))
    else if t.all_serializable h.args then .ok h.callable
    else .error .non_serializable

/-- The two overloads are one check. -/
theorem process_body_eq (t : TypeTraits) (h : TypedMessageHandler) (b : MessageBody) :
    h.process_body t b =
      if b.get_type_hash_code t ≠ h.hash_code t then
        .error (.hash_mismatch (h.hash_code t) (b.get_type_hash_code t))
      else if b.is_serialized = true ∧ t.all_serializable h.args = false then
        .error .non_serializable
      else .ok h.callable := by
  cases b with
  | memory code content => simp [process_body, MessageBody.is_serialized]
  | serialized code types_hash bytes =>
    cases hser : t.all_serializable h.args <;>
      simp [process_body, MessageBody.is_serialized, hser]

/-- A handler that is called is the one that was asked. -/
theorem process_body_ok {t : TypeTraits} {h : TypedMessageHandler} {b : MessageBody}
    {c : Callable} (hok : h.process_body t b = .ok c) : c = h.callable := by
  rw [process_body_eq] at hok
  split at hok
  · cases hok
  · split at hok <;> cases hok
    rfl

/-- Two handlers reject a body by the same check, with the same text. -/
def SameRejection (t : TypeTraits) (h u : TypedMessageHandler) (b : MessageBody) : Prop :=
  u.hash_code t = h.hash_code t ∧
    (b.get_type_hash_code t ≠ h.hash_code t ∨
      b.is_serialized = true ∧ t.all_serializable h.args = false ∧
        t.all_serializable u.args = false)

theorem same_rejection_iff (t : TypeTraits) (h u : TypedMessageHandler) (b : MessageBody) :
    SameRejection t h u b ↔
      ∃ e, h.process_body t b = .error e ∧ u.process_body t b = .error e := by
  rw [process_body_eq, process_body_eq]
  -- The text of a mismatch shows the handler's code, so equal texts mean equal
  -- codes; a rejection of the arguments comes after the codes have matched.
  constructor
  · rintro ⟨heq, hne | ⟨hb, hh, hu⟩⟩
    · exact ⟨_, if_pos hne, by rw [heq, if_pos hne]⟩
    · rw [heq]
      split
      · exact ⟨_, rfl, rfl⟩
      · exact ⟨_, if_pos ⟨hb, hh⟩, if_pos ⟨hb, hu⟩⟩
  · rintro ⟨e, hh, hu⟩
    split at hh
    · next hne =>
      cases hh
      split at hu
      · simp only [Except.error.injEq, ZAFException.hash_mismatch.injEq] at hu
        exact ⟨hu.1, .inl hne⟩
      · split at hu <;> cases hu
    · next heq =>
      split at hh
      · next hser =>
        cases hh
        split at hu
        · cases hu
        · next heq' =>
          split at hu
          · next hser' =>
            have hcodes := (not_not.mp heq').symm.trans (not_not.mp heq)
            exact ⟨hcodes, .inr ⟨hser.1, hser.2, hser'.2⟩⟩
          · cases hu
      · cases hh

/-- The exceptions of the checks. -/
theorem process_body_error {t : TypeTraits} {h : TypedMessageHandler} {b : MessageBody}
    {e : ZAFException} (herr : h.process_body t b = .error e) :
    (∃ expected actual, e = .hash_mismatch expected actual) ∨ e = .non_serializable := by
  rw [process_body_eq] at herr
  split at herr
  · cases herr
    exact .inl ⟨_, _, rfl⟩
  · split at herr <;> cases herr
    exact .inr rfl

/-- The handler is kept from bodies with the given element types. -/
structure Rejects (t : TypeTraits) (h : TypedMessageHandler) (types : List ElementType) :
    Prop where
  hash_ne : t.types_hash_code types ≠ h.hash_code t
  /-- `process_body(MemoryMessageBody&)` throws. -/
  memory : ∀ code content, content.map Element.type = types →
    ∃ e, h.process_body t (.memory code content) = .error e
  /-- `process_body(SerializedMessageBody&)` throws. -/
  serialized : ∀ code bytes,
    ∃ e, h.process_body t (.serialized code (t.types_hash_code types) bytes) = .error e

/-- Different hash codes are all it takes. -/
theorem rejects_of_hash_ne {t : TypeTraits} {h : TypedMessageHandler}
    {types : List ElementType} (hne : t.types_hash_code types ≠ h.hash_code t) :
    Rejects t h types where
  hash_ne := hne
  memory := by
    rintro code content rfl
    exact ⟨_, if_pos hne⟩
  serialized := fun code bytes => ⟨_, if_pos hne⟩

/-- **A handler is kept from the bodies of another ordering of its argument types
    exactly when the last types of the two have different marks.** -/
theorem rejects_permuted_iff (t : TypeTraits) (h : TypedMessageHandler)
    {types : List ElementType} (hperm : types.Perm h.args) :
    Rejects t h types ↔ t.last_mark types ≠ t.last_mark h.args := by
  constructor
  · intro hrej heq
    exact hrej.hash_ne ((t.types_hash_code_perm_eq_iff hperm).mpr heq)
  · intro hmark
    exact rejects_of_hash_ne fun heq => hmark ((t.types_hash_code_perm_eq_iff hperm).mp heq)

/-- Types whose hash codes are small numbers, with an identity `std::hash`. -/
def numbered_types : TypeTraits where
  hash_code
    | .unsigned => 1
    | .message_body => 2
    | .swsr_queue => 3
    | .user n => 4 + UInt64.ofNat n
  std_hash := id
  user_serializable := fun _ => true

/-- Two arguments exchanged: the bodies are rejected. -/
theorem rejects_permuted_iff_two :
    Rejects numbered_types ⟨.user 0, [.user 0, .user 1]⟩ [.user 1, .user 0] :=
  (rejects_permuted_iff numbered_types ⟨.user 0, [.user 0, .user 1]⟩
    (List.Perm.swap (ElementType.user 0) (.user 1) [])).mpr (by decide)

/-- Three arguments with the first two exchanged are taken for each other. -/
theorem not_rejects_permuted :
    ¬ ∀ (t : TypeTraits) (h : TypedMessageHandler) (types : List ElementType),
      (∀ x ∈ types, ∀ y ∈ types, t.hash_code x = t.hash_code y → x = y) →
      types.Perm h.args → types ≠ h.args → Rejects t h types := by
  intro hall
  have hrej := hall numbered_types ⟨.user 0, [.user 0, .user 1, .user 2]⟩
    [.user 1, .user 0, .user 2] (by decide) (.swap _ _ _) (by decide)
  exact hrej.hash_ne (by decide)

end TypedMessageHandler

/-! ### Handler tables -/

/-- A `MessageHandlers`: the handlers by code, the default handler and the child
    table. -/
structure MessageHandlers where
  handlers : List (UInt64 × TypedMessageHandler) := []
  default_handler : Option Nat := none
  child : Option MessageHandlers := none

namespace MessageHandlers

/-- `handlers.find(code)` in the table and then in its children: the typed handler
    that a message of the code gets to. -/
def find_handler : MessageHandlers → UInt64 → Option TypedMessageHandler
  | ⟨handlers, _, child⟩, code =>
    match handlers.lookup code with
    | some h => some h
    | none =>
      match child with
      | some c => c.find_handler code
      | none => none

/-- `try_process_body`; `none` when no handler is found. -/
def try_process_body (t : TypeTraits) :
    MessageHandlers → MessageBody → Option (Except ZAFException Callable)
  | ⟨handlers, _, child⟩, b =>
    match handlers.lookup b.get_code with
    | some h => some (h.process_body t b)
    | none =>
      match child with
      | some c => c.try_process_body t b
      | none => none

/-- `try_process`; `none` when no handler is found. -/
def try_process (t : TypeTraits) :
    MessageHandlers → Message → Option (Except ZAFException Callable)
  | ⟨handlers, default_handler, child⟩, m =>
    match handlers.lookup m.body.get_code with
    | some h => some (h.process_body t m.body)
    | none =>
      -- the child first, with its own default handler
      Option.or
        (match child with
        | some c => c.try_process t m
        | none => none)
        (default_handler.map fun d => .ok (.raw d))

/-- `process_body` -/
def process_body (t : TypeTraits) (hs : MessageHandlers) (b : MessageBody) :
    Except ZAFException Callable :=
  (hs.try_process_body t b).getD (.error (.handler_not_found b.get_code))

/-- `process` -/
def process (t : TypeTraits) (hs : MessageHandlers) (m : Message) :
    Except ZAFException Callable :=
  (hs.try_process t m).getD (.error (.handler_not_found_from m.body.get_code m.sender))

/-! ### Lookups -/

/-- `try_process_body` asks the handler that is found. -/
theorem try_process_body_eq (t : TypeTraits) (b : MessageBody) :
    ∀ hs : MessageHandlers,
      hs.try_process_body t b = (hs.find_handler b.get_code).map (·.process_body t b)
  | ⟨handlers, default_handler, none⟩ => by
    rw [try_process_body, find_handler]
    cases handlers.lookup b.get_code <;> rfl
  | ⟨handlers, default_handler, some c⟩ => by
    rw [try_process_body, find_handler]
    cases handlers.lookup b.get_code with
    | none => exact try_process_body_eq t b c
    | some h => rfl

/-- `try_process` asks the handler that is found. -/
theorem try_process_found (t : TypeTraits) {m : Message} {h : TypedMessageHandler} :
    ∀ {hs : MessageHandlers}, hs.find_handler m.body.get_code = some h →
      hs.try_process t m = some (h.process_body t m.body)
  | ⟨handlers, default_handler, none⟩, hfind => by
    rw [find_handler] at hfind
    rw [try_process]
    cases hl : handlers.lookup m.body.get_code with
    | none =>
      rw [hl] at hfind
      cases hfind
    | some h' =>
      rw [hl] at hfind
      cases hfind
      rfl
  | ⟨handlers, default_handler, some c⟩, hfind => by
    rw [find_handler] at hfind
    rw [try_process]
    cases hl : handlers.lookup m.body.get_code with
    | none =>
      rw [hl] at hfind
      have ih := try_process_found t hfind
      simp [ih]
    | some h' =>
      rw [hl] at hfind
      cases hfind
      rfl

/-- Without a handler for the code, only a default handler is left. -/
theorem try_process_not_found (t : TypeTraits) {m : Message} :
    ∀ {hs : MessageHandlers}, hs.find_handler m.body.get_code = none →
      hs.try_process t m = none ∨ ∃ d, hs.try_process t m = some (.ok (.raw d))
  | ⟨handlers, default_handler, none⟩, hfind => by
    rw [find_handler] at hfind
    rw [try_process]
    cases hl : handlers.lookup m.body.get_code with
    | none =>
      cases default_handler with
      | none => exact .inl rfl
      | some d => exact .inr ⟨d, rfl⟩
    | some h' =>
      rw [hl] at hfind
      cases hfind
  | ⟨handlers, default_handler, some c⟩, hfind => by
    rw [find_handler] at hfind
    rw [try_process]
    cases hl : handlers.lookup m.body.get_code with
    | none =>
      rw [hl] at hfind
      -- The child's default handler goes before this table's.
      rcases try_process_not_found t hfind with ih | ⟨d, ih⟩
      · cases default_handler with
        | none => exact .inl (by simp [ih])
        | some d => exact .inr ⟨d, by simp [ih]⟩
      · exact .inr ⟨d, by simp [ih]⟩
    | some h' =>
      rw [hl] at hfind
      cases hfind

end MessageHandlers
end ZAF
