import ZAF.Message.Dispatch
import ZAF.Message.Encoding

/-! # A message in memory and the same message serialized

    A handler gets the elements of a body in memory through their addresses, and the
    arguments of a serialized body from its bytes. Whether the two come to the same
    depends on the codecs of the elements, and on the hash codes, which must not mistake
    other elements for the arguments.

    The handler of a request processes the body in the request; its arguments are
    compared as well, level by level.
-/

namespace ZAF

open Wire

/-! ### Handler tables -/

namespace MessageHandlers

/-- The handler that `try_process` calls: a typed one, or a default one. -/
def select : MessageHandlers → UInt64 → Option (TypedMessageHandler ⊕ Nat)
  | ⟨handlers, default_handler, child⟩, code =>
    match handlers.lookup code with
    | some h => some (.inl h)
    | none =>
      Option.or
        (match child with
        | some c => c.select code
        | none => none)
        (default_handler.map .inr)

/-- What `try_process_body` calls. -/
def select_body (hs : MessageHandlers) (code : UInt64) : Option (TypedMessageHandler ⊕ Nat) :=
  (hs.find_handler code).map .inl

end MessageHandlers

/-! ### Calls -/

/-- What the processing of a message comes to. -/
inductive Outcome (codecs : Codecs) (β : Type) where
  | invoked (callable : Callable) (args : List (TypedElement codecs β))
  /-- The default handler, which gets the message as a whole. -/
  | invoked_default (handler : Nat)
  | threw (e : ZAFException)
  /-- Elements are taken for what they are not, or bytes are read that are not there. -/
  | undefined

section calls

variable {codecs : Codecs} {β : Type} (containers : KeyedContainers)

/-- The call of what is selected. -/
def Outcome.of_selected (run : TypedMessageHandler → Outcome codecs β) (missing : ZAFException) :
    Option (TypedMessageHandler ⊕ Nat) → Outcome codecs β
  | some (.inl h) => run h
  | some (.inr d) => .invoked_default d
  | none => .threw missing

/-- The hash code of the types of elements. -/
def content_hash (content : List (TypedElement codecs β)) : UInt64 :=
  codecs.types_hash_code (content.map TypedElement.type)

/-- `deserialize_content` -/
def deserialize_content : List ElementType → Reader (List (TypedElement codecs DecodedBody))
  | [] => pure []
  | type :: types =>
    match h : codecs.codec type with
    | some ty => do
      let x ← ty.deserialize deserialize_message_body containers .returned
      let args ← deserialize_content types
      pure (⟨type, ty, h, x⟩ :: args)
    | none => failure

namespace TypedMessageHandler

variable (h : TypedMessageHandler)

/-- `process_body(MemoryMessageBody&)`: the addresses of the elements are cast to the
    types of the arguments. -/
def process_memory (content : List (TypedElement codecs β)) : Outcome codecs β :=
  let expected := h.hash_code codecs.toTypeTraits
  if content_hash content ≠ expected then .threw (.hash_mismatch expected (content_hash content))
  else if content.map TypedElement.type = h.args then .invoked h.callable content
  else .undefined

/-- `process_body(SerializedMessageBody&)` -/
def process_serialized (b : SerializedBody) : Outcome codecs DecodedBody :=
  let expected := h.hash_code codecs.toTypeTraits
  if b.types_hash ≠ expected then .threw (.hash_mismatch expected b.types_hash)
  else if codecs.all_serializable h.args then
    match deserialize_content containers h.args b.content with
    | some (args, _) => .invoked h.callable args
    | none => .undefined
  else .threw .non_serializable

end TypedMessageHandler

/-- The body in an element that points to one. -/
def TypedElement.body : TypedElement codecs β → Option β
  | ⟨_, .message_body, _, b⟩ => b
  | _ => none

/-- The body in the arguments of the handler of a request. -/
def request_in : List (TypedElement codecs β) → Option β
  | [_, arg] => arg.body
  | _ => none

/-- The body that the handler of a request goes on with. -/
def Outcome.request_body : Outcome codecs β → Option β
  | .invoked .request args => request_in args
  | _ => none

/-- `get_request_id` of a message in memory: the exception carries the code of a message
    that is no request, `none` is undefined. -/
def get_request_id_memory (code : UInt64) (content : List (TypedElement codecs β)) :
    Except UInt64 (Option UInt32) :=
  if code ≠ DefaultCodes.Request then .error code
  else .ok (match content with
    | [⟨.unsigned, .pod 4, _, x⟩] => some (UInt32.ofNat (little_endian x.1))
    | [⟨.unsigned, .pod 4, _, x⟩, _] => some (UInt32.ofNat (little_endian x.1))
    | _ => none)

/-- `get_request_id` of a serialized message. -/
def get_request_id_serialized (b : SerializedBody) : Except UInt64 (Option UInt32) :=
  if b.code ≠ DefaultCodes.Request then .error b.code
  else .ok ((read_uint 4 b.content).map fun p => UInt32.ofNat p.1)

end calls

/-! ### Equal calls -/

section equal

variable {codecs : Codecs} {β β' : Type} (R : β → β' → Prop)

/-- Equal arguments, of the same type. -/
inductive TypedElement.Equal : TypedElement codecs β → TypedElement codecs β' → Prop where
  | intro (type : ElementType) (ty : Ty) (has_codec : codecs.codec type = some ty) {x : ty.Val β}
      {y : ty.Val β'} : ty.Equal R x y → Equal ⟨type, ty, has_codec, x⟩ ⟨type, ty, has_codec, y⟩

/-- The same handler with equal arguments in the same positions, or the same failure. -/
inductive SameCall : Outcome codecs β → Outcome codecs β' → Prop where
  | invoked (callable : Callable) {args : List (TypedElement codecs β)}
      {args' : List (TypedElement codecs β')} :
      List.Forall₂ (TypedElement.Equal R) args args' →
      SameCall (.invoked callable args) (.invoked callable args')
  | invoked_default (handler : Nat) : SameCall (.invoked_default handler) (.invoked_default handler)
  | threw (e : ZAFException) : SameCall (.threw e) (.threw e)

variable {R}

/-- Equal arguments have equal bodies. -/
theorem TypedElement.Equal.body {x : TypedElement codecs β} {y : TypedElement codecs β'}
    (h : TypedElement.Equal R x y) : Option.Rel R x.body y.body := by
  cases h with
  | intro type ty has_codec h =>
    cases ty with
    | message_body => exact h
    | _ => exact .none

/-- The same calls go on with equal bodies. -/
theorem SameCall.request_body {x : Outcome codecs β} {y : Outcome codecs β'}
    (h : SameCall R x y) : Option.Rel R x.request_body y.request_body := by
  cases h with
  | invoked_default handler => exact .none
  | threw e => exact .none
  | invoked callable hargs =>
    cases callable with
    | request =>
      cases hargs with
      | nil => exact .none
      | cons _ hargs =>
        cases hargs with
        | nil => exact .none
        | cons h hargs =>
          cases hargs with
          | nil => exact h.body
          | cons _ _ => exact .none
    | _ => exact .none

end equal

/-! ### One level -/

section level

variable {codecs : Codecs} {β : Type} (bodies : BodyCodec β DecodedBody)
  (containers : KeyedContainers)

/-- All parts of an element have a property. -/
def TypedElement.Every (P : PartProperty β) (e : TypedElement codecs β) : Prop :=
  e.ty.Every P .returned true e.value

/-- The bytes of elements. -/
def elements_bytes (content : List (TypedElement codecs β)) : List UInt8 :=
  content.flatMap fun e => e.ty.bytes bodies true e.value

theorem deserialize_content_cons {type : ElementType} {ty : Ty}
    (h : codecs.codec type = some ty) (types : List ElementType) :
    deserialize_content containers (type :: types) =
      (ty.deserialize deserialize_message_body containers .returned >>= fun x =>
        deserialize_content containers types >>= fun args => pure (⟨type, ty, h, x⟩ :: args)) := by
  rw [deserialize_content]
  split
  · next ty' h' =>
    cases Option.some.inj (h.symm.trans h')
    rfl
  · next h' => cases h.symm.trans h'

/-- Sound elements are rebuilt. -/
theorem deserialize_content_takes (hbodies : bodies.deserialize = deserialize_message_body)
    (content : List (TypedElement codecs β))
    (hsound : ∀ e ∈ content, e.Every (PartSound bodies containers)) :
    (deserialize_content containers (content.map TypedElement.type)).Takes
      (elements_bytes bodies content) (List.Forall₂ (TypedElement.Equal bodies.same) content) := by
  induction content with
  | nil => exact Reader.takes_pure .nil
  | cons e content ih =>
    obtain ⟨type, ty, has_codec, x⟩ := e
    have hx := ty.deserialize_takes bodies containers .returned true x
      (hsound _ List.mem_cons_self)
    rw [hbodies] at hx
    rw [List.map_cons, deserialize_content_cons containers has_codec, elements_bytes,
      List.flatMap_cons]
    apply hx.bind
    intro y hy
    apply (ih fun e he => hsound e (List.mem_cons_of_mem _ he)).bind_nil
    intro args hargs
    exact Reader.takes_pure (.cons (.intro type ty has_codec hy) hargs)

/-- Only sound elements are rebuilt, when every `std::tuple<>` is `const`. -/
theorem sound_of_rebuilt (hbodies : bodies.deserialize = deserialize_message_body)
    (content : List (TypedElement codecs β))
    (hkeys : ∀ e ∈ content, e.Every (KeysDiffer containers))
    (hconst : ∀ e ∈ content, e.Every EmptyTupleConst)
    {args : List (TypedElement codecs DecodedBody)} {rest : List UInt8}
    (hread : deserialize_content containers (content.map TypedElement.type)
      (elements_bytes bodies content) = some (args, rest))
    (heq : List.Forall₂ (TypedElement.Equal bodies.same) content args) :
    ∀ e ∈ content, e.Every (PartSound bodies containers) := by
  induction content generalizing args with
  | nil => simp
  | cons e content ih =>
    obtain ⟨type, ty, has_codec, x⟩ := e
    rw [List.map_cons, deserialize_content_cons containers has_codec, elements_bytes,
      List.flatMap_cons, Reader.bind_apply] at hread
    obtain ⟨⟨y, s⟩, hx, hread⟩ := Option.bind_eq_some_iff.mp hread
    rw [Reader.bind_apply] at hread
    obtain ⟨⟨args, s'⟩, hargs, hpure⟩ := Option.bind_eq_some_iff.mp hread
    cases hpure
    obtain ⟨hy, hcontent⟩ := List.forall₂_cons.mp heq
    cases hy with
    | intro _ _ _ hy =>
    have hsound : ty.Every (PartSound bodies containers) .returned true x := by
      rw [← hbodies] at hx
      exact Ty.sound_of_equal bodies containers (hkeys _ List.mem_cons_self)
        (hconst _ List.mem_cons_self) hx hy
    -- the sound element has taken its own bytes, so the others are read from theirs
    obtain ⟨y', hx', -⟩ := ty.deserialize_takes bodies containers .returned true x hsound
      (elements_bytes bodies content)
    rw [hbodies] at hx'
    obtain ⟨-, rfl⟩ := Prod.mk.inj (Option.some.inj (hx.symm.trans hx'))
    intro e he
    rcases List.mem_cons.mp he with rfl | he
    · exact hsound
    · exact ih (fun e he => hkeys e (List.mem_cons_of_mem _ he))
        (fun e he => hconst e (List.mem_cons_of_mem _ he)) hargs hcontent e he

theorem all_serializable_content (content : List (TypedElement codecs β)) :
    codecs.all_serializable (content.map TypedElement.type) = true := by
  rw [TypeTraits.all_serializable, List.all_map, List.all_eq_true]
  intro e _
  show codecs.serializable e.type = true
  rw [codecs.serializable_eq, e.has_codec]
  rfl

/-- The handler that is selected is not mistaken about the elements, and they are
    sound. -/
def Accepts (selected : Option (TypedMessageHandler ⊕ Nat))
    (content : List (TypedElement codecs β)) : Prop :=
  ∀ h, selected = some (.inl h) → content_hash content = h.hash_code codecs.toTypeTraits →
    content.map TypedElement.type = h.args ∧
      ∀ e ∈ content, e.Every (PartSound bodies containers)

section call

variable {content : List (TypedElement codecs β)} {b : SerializedBody}
  {selected : Option (TypedMessageHandler ⊕ Nat)} (missing : ZAFException)

theorem same_call_of_accepts (hbodies : bodies.deserialize = deserialize_message_body)
    (hhash : b.types_hash = content_hash content)
    (hcontent : b.content = elements_bytes bodies content)
    (h : Accepts bodies containers selected content) :
    SameCall bodies.same (Outcome.of_selected (·.process_memory content) missing selected)
      (Outcome.of_selected (·.process_serialized containers b) missing selected) := by
  rcases selected with _ | h' | d
  · exact .threw missing
  -- both compare the hash code with the expected one before they look at the elements
  · simp only [Outcome.of_selected, TypedMessageHandler.process_memory,
      TypedMessageHandler.process_serialized, hhash]
    split
    · exact .threw _
    next heq =>
    obtain ⟨htypes, hsound⟩ := h h' rfl (not_not.mp heq)
    obtain ⟨args, hread, hargs⟩ :=
      deserialize_content_takes bodies containers hbodies content hsound []
    rw [List.append_nil] at hread
    rw [if_pos htypes, ← htypes, if_pos (all_serializable_content content), hcontent, hread]
    exact .invoked _ hargs
  · exact .invoked_default d

theorem accepts_of_same_call (hbodies : bodies.deserialize = deserialize_message_body)
    (hhash : b.types_hash = content_hash content)
    (hcontent : b.content = elements_bytes bodies content)
    (hkeys : ∀ e ∈ content, e.Every (KeysDiffer containers))
    (hconst : ∀ e ∈ content, e.Every EmptyTupleConst)
    (h : SameCall bodies.same (Outcome.of_selected (·.process_memory content) missing selected)
      (Outcome.of_selected (·.process_serialized containers b) missing selected)) :
    Accepts bodies containers selected content := by
  rintro h' rfl heq
  simp only [Outcome.of_selected, TypedMessageHandler.process_memory,
    TypedMessageHandler.process_serialized, hhash, heq, ne_eq, not_true_eq_false, if_false] at h
  split at h
  · next htypes =>
    refine ⟨htypes, ?_⟩
    rw [← htypes, if_pos (all_serializable_content content), hcontent] at h
    split at h
    · next args rest hread =>
      cases h with
      | invoked _ hargs =>
        exact sound_of_rebuilt bodies containers hbodies content hkeys hconst hread hargs
    · cases h
  · cases h

end call
end level

/-! ### All levels -/

section levels

variable {codecs : Codecs} (containers : KeyedContainers) (handlers : MessageHandlers)

theorem nested_codec_deserialize (n : Nat) :
    (nested_codec codecs n).deserialize = deserialize_message_body := by
  cases n <;> rfl

/-- The elements of a body have a property, and those of the bodies that they point to. -/
def Body.All (P : {β : Type} → TypedElement codecs β → Prop) :
    (n : Nat) → Body codecs (NestedBody codecs n) → Prop
  | _, .serialized _ => True
  | 0, .memory _ content => ∀ e ∈ content, P e
  | n + 1, .memory _ content => ∀ e ∈ content, P e ∧ ∀ b, e.body = some b → Body.All P n b

/-- A body and its serialized form come to the same call; when it is the call of the
    handler of requests, so do the bodies in them. -/
def Agrees : (n : Nat) → Option (TypedMessageHandler ⊕ Nat) → ZAFException →
    Body codecs (NestedBody codecs n) → SerializedBody → Prop
  | _, selected, missing, .serialized b, b' =>
    (Outcome.of_selected (·.process_serialized containers b) missing selected :
        Outcome codecs DecodedBody) =
      Outcome.of_selected (·.process_serialized containers b') missing selected
  | 0, selected, missing, .memory _ content, b' =>
    SameCall (nested_codec codecs 0).same
      (Outcome.of_selected (·.process_memory content) missing selected)
      (Outcome.of_selected (·.process_serialized containers b') missing selected)
  | n + 1, selected, missing, .memory _ content, b' =>
    let call := Outcome.of_selected (·.process_memory content) missing selected
    let call' := Outcome.of_selected (·.process_serialized containers b') missing selected
    SameCall (nested_codec codecs (n + 1)).same call call' ∧
      ∀ r r', call.request_body = some r → call'.request_body = some r' →
        Agrees n (handlers.select_body r.get_code) (.handler_not_found r.get_code) r r'.1

/-- The handlers of a body and of the requests in it accept the elements. -/
def Deliverable : (n : Nat) → Option (TypedMessageHandler ⊕ Nat) →
    Body codecs (NestedBody codecs n) → Prop
  | _, _, .serialized _ => True
  | 0, selected, .memory _ content => Accepts (nested_codec codecs 0) containers selected content
  | n + 1, selected, .memory _ content =>
    Accepts (nested_codec codecs (n + 1)) containers selected content ∧
      ∀ h r, selected = some (.inl h) → content_hash content = h.hash_code codecs.toTypeTraits →
        h.callable = .request → request_in content = some r →
        Deliverable n (handlers.select_body r.get_code) r

/-- Where the body of a request comes from. -/
theorem request_body_memory {β : Type} {content : List (TypedElement codecs β)}
    {selected : Option (TypedMessageHandler ⊕ Nat)} {missing : ZAFException} {r : β}
    (h : (Outcome.of_selected (·.process_memory content) missing selected).request_body = some r) :
    ∃ h, selected = some (.inl h) ∧ content_hash content = h.hash_code codecs.toTypeTraits ∧
      h.callable = .request ∧ request_in content = some r := by
  rcases selected with _ | h' | d
  · cases h
  · simp only [Outcome.of_selected, TypedMessageHandler.process_memory] at h
    split at h
    · cases h
    next heq =>
    split at h
    · unfold Outcome.request_body at h
      split at h
      · next hinvoked =>
        obtain ⟨hcallable, rfl⟩ := Outcome.invoked.inj hinvoked
        exact ⟨h', rfl, not_not.mp heq, hcallable, h⟩
      · cases h
    · cases h
  · cases h

/-- The body of a request, when its handler accepts the elements. -/
theorem request_body_of_accepts {β : Type} {bodies : BodyCodec β DecodedBody}
    {content : List (TypedElement codecs β)} {h : TypedMessageHandler} (missing : ZAFException)
    {r : β} (haccepts : Accepts bodies containers (some (.inl h)) content)
    (hhash : content_hash content = h.hash_code codecs.toTypeTraits)
    (hcallable : h.callable = .request) (hr : request_in content = some r) :
    (Outcome.of_selected (·.process_memory content) missing (some (.inl h))).request_body =
      some r := by
  have htypes := (haccepts h rfl hhash).1
  simp only [Outcome.of_selected, TypedMessageHandler.process_memory, hhash, ne_eq,
    not_true_eq_false, if_false, if_pos htypes, hcallable]
  exact hr

theorem mem_of_request_in {β : Type} {content : List (TypedElement codecs β)} {r : β}
    (h : request_in content = some r) : ∃ e ∈ content, e.body = some r := by
  unfold request_in at h
  split at h
  · next e arg => exact ⟨arg, by simp, h⟩
  · cases h

variable {containers handlers}

/-- **What is deliverable agrees**, level by level. -/
theorem agrees_of_deliverable (n : Nat) {selected : Option (TypedMessageHandler ⊕ Nat)}
    {missing : ZAFException} {b : Body codecs (NestedBody codecs n)} {b' : SerializedBody}
    (hhash : b'.types_hash = b.get_type_hash_code)
    (hcontent : b'.content = b.content_bytes (nested_codec codecs n))
    (h : Deliverable containers handlers n selected b) :
    Agrees containers handlers n selected missing b b' := by
  induction n generalizing selected missing b' with
  | zero =>
    cases b with
    | serialized b =>
      unfold Agrees Outcome.of_selected TypedMessageHandler.process_serialized
      rw [hhash, hcontent]
      rfl
    | memory code content =>
      exact same_call_of_accepts _ containers missing (nested_codec_deserialize 0) hhash hcontent h
  | succ n ih =>
    cases b with
    | serialized b =>
      unfold Agrees Outcome.of_selected TypedMessageHandler.process_serialized
      rw [hhash, hcontent]
      rfl
    | memory code content =>
      obtain ⟨haccepts, hrequest⟩ := h
      have hcall := same_call_of_accepts _ containers missing (nested_codec_deserialize (n + 1))
        hhash hcontent haccepts
      refine ⟨hcall, ?_⟩
      intro r r' hr hr'
      obtain ⟨h, hselected, hhash, hcallable, hin⟩ := request_body_memory hr
      have hsame := hcall.request_body
      rw [hr, hr'] at hsame
      -- the body in the request is written like the one around it
      cases hsame with
      | some hsame =>
        exact ih hsame.2.1 hsame.2.2 (hrequest h r hselected hhash hcallable hin)

theorem Body.All.elements {P : {β : Type} → TypedElement codecs β → Prop} {n : Nat}
    {code : UInt64} {content : List (TypedElement codecs (NestedBody codecs n))}
    (h : Body.All P n (.memory code content)) : ∀ e ∈ content, P e := by
  cases n with
  | zero => exact h
  | succ n => exact fun e he => (h e he).1

/-- **What agrees is deliverable**, when every `std::tuple<>` is `const`. -/
theorem deliverable_of_agrees (n : Nat) {selected : Option (TypedMessageHandler ⊕ Nat)}
    {missing : ZAFException} {b : Body codecs (NestedBody codecs n)} {b' : SerializedBody}
    (hhash : b'.types_hash = b.get_type_hash_code)
    (hcontent : b'.content = b.content_bytes (nested_codec codecs n))
    (hkeys : b.All (·.Every (KeysDiffer containers)) n) (hconst : b.All (·.Every EmptyTupleConst) n)
    (h : Agrees containers handlers n selected missing b b') :
    Deliverable containers handlers n selected b := by
  induction n generalizing selected missing b' with
  | zero =>
    cases b with
    | serialized b => trivial
    | memory code content =>
      exact accepts_of_same_call _ containers missing (nested_codec_deserialize 0) hhash hcontent
        hkeys.elements hconst.elements h
  | succ n ih =>
    cases b with
    | serialized b => trivial
    | memory code content =>
      obtain ⟨hcall, hrequest⟩ := h
      have haccepts := accepts_of_same_call _ containers missing (nested_codec_deserialize (n + 1))
        hhash hcontent hkeys.elements hconst.elements hcall
      refine ⟨haccepts, ?_⟩
      rintro h r rfl hmatch hcallable hin
      have hr := request_body_of_accepts containers missing haccepts hmatch hcallable hin
      have hsame := hcall.request_body
      rw [hr] at hsame
      obtain ⟨e, he, hbody⟩ := mem_of_request_in hin
      -- so the serialized message has a body to go on with as well
      generalize hcall' : Outcome.request_body _ = decoded at hsame
      cases hsame with
      | @some _ r' hsame =>
        exact ih hsame.2.1 hsame.2.2 ((hkeys e he).2 r hbody) ((hconst e he).2 r hbody)
          (hrequest r r' hr hcall')

end levels

/-! ### Messages -/

section messages

variable {codecs : Codecs} {containers : KeyedContainers} {n : Nat}

/-- A message in memory, all of whose elements are serializable. Sets and maps in it have
    no two equivalent keys. -/
structure MemoryMessage (codecs : Codecs) (containers : KeyedContainers) (n : Nat) where
  sender : Nat
  code : UInt64
  content : List (TypedElement codecs (NestedBody codecs n))
  keys_differ : (Body.memory code content).All (·.Every (KeysDiffer containers)) n

namespace MemoryMessage

variable (m : MemoryMessage codecs containers n) (handlers : MessageHandlers)

def body : Body codecs (NestedBody codecs n) := .memory m.code m.content

/-- `get_request_id` of the two forms of a request. -/
def SameRequestId (b : SerializedBody) : Prop :=
  m.code = DefaultCodes.Request → m.content.map TypedElement.type = [.unsigned, .message_body] →
    ∃ id, get_request_id_memory m.code m.content = .ok (some id) ∧
      get_request_id_serialized b = .ok (some id)

/-- `process` of a message and of `make_serialized_message` of it come to the same. -/
def Transparent : Prop :=
  ∃ b, m.body.new_serialized_message_body (nested_codec codecs n) = some b ∧
    Agrees containers handlers n (handlers.select m.code) (.handler_not_found_from m.code m.sender)
      m.body b ∧
    m.SameRequestId b

theorem same_request_id {b : SerializedBody} (hcode : b.code = m.code)
    (hcontent : b.content = elements_bytes (nested_codec codecs n) m.content) :
    m.SameRequestId b := by
  intro hrequest htypes
  obtain ⟨⟨type, ty, has_codec, x⟩, rest, hm, rfl, hrest⟩ := List.map_eq_cons_iff.mp htypes
  obtain ⟨arg, rest, rfl, -, hnil⟩ := List.map_eq_cons_iff.mp hrest
  cases List.map_eq_nil_iff.mp hnil
  cases has_codec
  obtain ⟨bytes, hlen⟩ := x
  refine ⟨UInt32.ofNat (little_endian bytes), ?_, ?_⟩
  · rw [hm, hrequest]
    rfl
  · have hread : read_uint 4 b.content =
        some (little_endian bytes, arg.ty.bytes (nested_codec codecs n) true arg.value) := by
      obtain ⟨_, htake, rfl⟩ :=
        takes_chars bytes (arg.ty.bytes (nested_codec codecs n) true arg.value)
      rw [hlen] at htake
      rw [hcontent, hm, elements_bytes, List.flatMap_cons, List.flatMap_singleton, read_uint,
        read_pod]
      exact congrArg (Option.map _) htake
    rw [get_request_id_serialized, if_neg (not_not.mpr (hcode.trans hrequest)), hread]
    rfl

/-- A user type `std::pair<int*, int>`. -/
def pair_codecs : Codecs where
  hash_code _ := 0
  std_hash h := h
  user_serializable _ := true
  user_codec _ := some (.pair (.pointer (.pod 4)) (.pod 4))
  user_serializable_eq _ := rfl

/-- A message with a `std::pair<int*, int>`. -/
def pair_message : MemoryMessage pair_codecs no_keys 0 where
  sender := 3
  code := 1
  content := [⟨.user 0, .pair (.pointer (.pod 4)) (.pod 4), rfl, pointer_and_int⟩]
  keys_differ := by
    intro e he
    rw [List.mem_singleton.mp he]
    exact ⟨trivial, ⟨trivial, trivial⟩, trivial⟩

end MemoryMessage
end messages
end ZAF
