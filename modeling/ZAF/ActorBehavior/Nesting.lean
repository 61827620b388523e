import Mathlib.Algebra.Group.Nat.Defs
import ZAF.Framework.Stack
import ZAF.ActorBehavior.RequestTable

/-! # Nested waits

    An `on_reply` waits in a loop of its own, with `inner_handlers` moved away and
    `activated` set. Only the handlers of its own reply run on top of that loop;
    they may wait again, and at their end they clear `activated`, so that the loop
    ends. This module describes the stacks that arise so.
-/

namespace ZAF.ActorBehavior

open LTS

variable {Body : Type} {queues : Nat}

/-! ### The stack -/

/-- The `on_reply` whose loop is between two messages. -/
def top_wait : List (Frame Body queues) → Option Nat
  | .wait n _ _ :: _ => some n
  | _ => none

/-- The programs of this and the following modules: fewer than 2^32 requests are
    issued, each handler is waited on at most once, nothing throws, and the
    callbacks of `add_recv_poll` do not run in the loop of an `on_reply`.
    Responses come in at the socket. -/
def only_replies (s : State Body queues) : Label Body queues → Bool
  | .push _ (.response ..) | .user (.throws _) => false
  | .user (.request _) => s.request_id < 2 ^ 32
  | .user (.on_reply n) => s.stack.all (·.on_reply != some n)
  | .loop polls => (top_wait s.stack).isNone || polls = 0
  | _ => true

/-- Are these the handlers of the reply to the `n`-th request? -/
def Frame.replies (n : Nat) : Frame Body queues → Prop
  | .process t => t.table = .reply n
  | _ => False

/-- What may be called where. -/
def Frame.Nested (f : Frame Body queues) (rest : List (Frame Body queues)) : Prop :=
  (∀ n, top_wait rest = some n → f.replies n) ∧
    match f with
    | .wait _ _ inner => inner = !rest.any Frame.is_wait
    | .process t => ∀ n, t.table = .reply n → top_wait rest = some n ∧ t.polls = 0
    | _ => True

structure Nesting (stack : List (Frame Body queues)) (inner_handlers activated : Bool)
    (answered : List Nat) : Prop where
  /-- `inner_handlers` is moved away exactly while an `on_reply` waits. -/
  inner : inner_handlers = !stack.any Frame.is_wait
  shape : Stacked Frame.Nested stack
  /-- The handlers of a reply run when it has been counted as processed. -/
  replying : ∀ f ∈ stack, ∀ n, f.replies n → n ∈ answered
  /-- The loop of an `on_reply` runs until the reply has been processed. -/
  looping : ∀ n, top_wait stack = some n → (activated = true ↔ n ∉ answered)

theorem nesting_nil (activated : Bool) (answered : List Nat) :
    Nesting ([] : List (Frame Body queues)) true activated answered where
  inner := rfl
  shape := trivial
  replying f h := by cases h
  looping n h := by cases h

/-- The frame that `top_wait` finds. -/
theorem stack_of_top_wait {stack : List (Frame Body queues)} {n : Nat}
    (h : top_wait stack = some n) :
    ∃ cur_act inner rest, stack = .wait n cur_act inner :: rest := by
  unfold top_wait at h
  split at h
  · next n' cur_act inner rest =>
    cases h
    exact ⟨cur_act, inner, rest, rfl⟩
  · cases h

theorem top_wait_of_user_code {stack : List (Frame Body queues)} (h : user_code stack = true) :
    top_wait stack = none := by
  unfold top_wait
  split
  · cases h
  · rfl

section calls

variable {stack rest : List (Frame Body queues)} {inner activated : Bool} {answered : List Nat}
  {f : Frame Body queues}

/-- A call that is not an `on_reply` starts while no loop of an `on_reply` is
    between two messages. -/
theorem Nesting.push (h : Nesting stack inner activated answered) (htop : top_wait stack = none)
    (hf : f.is_wait = false) (huser : ∀ t, f = .process t → t.table = .user) (activated' : Bool) :
    Nesting (f :: stack) inner activated' answered := by
  refine ⟨?_, ⟨⟨?_, ?_⟩, h.shape⟩, ?_, ?_⟩
  · rw [List.any_cons, hf, Bool.false_or]
    exact h.inner
  · intro n hn
    rw [htop] at hn
    cases hn
  · cases f with
    | wait n cur_act inner => cases hf
    | process t =>
      intro n hn
      rw [huser t rfl] at hn
      cases hn
    | _ => trivial
  · intro g hg n hreplies
    rcases List.mem_cons.mp hg with rfl | hg
    · cases g with
      | process t =>
        have htable : t.table = .reply n := hreplies
        rw [huser t rfl] at htable
        cases htable
      | _ => exact hreplies.elim
    · exact h.replying g hg n hreplies
  · intro n hn
    cases f with
    | wait n cur_act inner => cases hf
    | _ => cases hn

/-- It returns, and again no loop of an `on_reply` is there. -/
theorem Nesting.pop (h : Nesting (f :: rest) inner activated answered)
    (hf : f.is_wait = false) (hreplies : ∀ n, ¬ f.replies n) (activated' : Bool) :
    Nesting rest inner activated' answered ∧ top_wait rest = none := by
  -- Only the handlers of its reply are called by the loop of an `on_reply`.
  have htop : top_wait rest = none := by
    cases htop : top_wait rest with
    | none => rfl
    | some n => exact absurd (h.shape.1.1 n htop) (hreplies n)
  refine ⟨⟨?_, h.shape.2, ?_, ?_⟩, htop⟩
  · have hinner := h.inner
    rwa [List.any_cons, hf, Bool.false_or] at hinner
  · exact fun g hg => h.replying g (List.mem_cons_of_mem _ hg)
  · intro n hn
    rw [htop] at hn
    cases hn

theorem Nesting.callbacks (h : Nesting stack inner activated answered)
    (htop : top_wait stack = none) (polls : Nat) (activated' : Bool) :
    Nesting (callbacks polls ++ stack) inner activated' answered := by
  cases polls with
  | zero =>
    refine ⟨h.inner, h.shape, h.replying, fun n hn => ?_⟩
    have hn : top_wait stack = some n := hn
    rw [htop] at hn
    cases hn
  | succ polls => exact h.push htop rfl (fun t h' => by cases h') activated'

/-- An `on_reply` starts to wait. -/
theorem Nesting.wait (h : Nesting stack inner activated answered) (htop : top_wait stack = none)
    {n : Nat} (hn : n ∉ answered) (cur_act : Bool) :
    Nesting (.wait n cur_act inner :: stack) false true answered := by
  refine ⟨rfl, ⟨⟨?_, h.inner⟩, h.shape⟩, ?_, ?_⟩
  · intro n' hn'
    rw [htop] at hn'
    cases hn'
  · intro g hg n' hreplies
    rcases List.mem_cons.mp hg with rfl | hg
    · exact hreplies.elim
    · exact h.replying g hg n' hreplies
  · intro n' hn'
    cases hn'
    exact ⟨fun _ => hn, fun _ => rfl⟩

/-- Its loop ends when the reply has been processed. -/
theorem Nesting.leave {n : Nat} {cur_act current : Bool}
    (h : Nesting (.wait n cur_act current :: rest) inner false answered) (activated' : Bool) :
    n ∈ answered ∧ Nesting rest current activated' answered := by
  -- `activated` is clear, and the loop runs as long as the reply is missing.
  have hn : n ∈ answered := by
    by_contra hn
    have hactivated := (h.looping n rfl).mpr hn
    cases hactivated
  have htop : top_wait rest = none := by
    cases htop : top_wait rest with
    | none => rfl
    | some n => exact (h.shape.1.1 n htop).elim
  refine ⟨hn, h.shape.1.2, h.shape.2, ?_, ?_⟩
  · exact fun g hg => h.replying g (List.mem_cons_of_mem _ hg)
  · intro n hn
    rw [htop] at hn
    cases hn

/-- The handlers of the reply start. -/
theorem Nesting.reply {t : Turn Body} {n : Nat} (h : Nesting stack inner activated answered)
    (htop : top_wait stack = some n) (htable : t.table = .reply n) (hpolls : t.polls = 0) :
    Nesting (.process t :: stack) inner activated (answered ++ [n]) := by
  refine ⟨h.inner, ⟨⟨?_, ?_⟩, h.shape⟩, ?_, ?_⟩
  · intro n' hn'
    rw [htop] at hn'
    cases hn'
    exact htable
  · intro n' hn'
    rw [htable] at hn'
    cases hn'
    exact ⟨htop, hpolls⟩
  · intro g hg n' hreplies
    rcases List.mem_cons.mp hg with rfl | hg
    · have htable' : t.table = .reply n' := hreplies
      rw [htable] at htable'
      cases htable'
      exact List.mem_append_right _ (List.mem_singleton_self n)
    · exact List.mem_append_left _ (h.replying g hg n' hreplies)
  · intro n' hn'
    cases hn'

/-- They return to the loop, which then ends. -/
theorem Nesting.reply_returns {t : Turn Body} {n : Nat}
    (h : Nesting (.process t :: rest) inner activated answered) (htable : t.table = .reply n) :
    t.polls = 0 ∧ Nesting rest inner false answered := by
  obtain ⟨htop, hpolls⟩ := h.shape.1.2 n htable
  have hn : n ∈ answered := h.replying _ List.mem_cons_self n htable
  refine ⟨hpolls, h.inner, h.shape.2, ?_, ?_⟩
  · exact fun g hg => h.replying g (List.mem_cons_of_mem _ hg)
  · intro n' hn'
    rw [htop] at hn'
    cases hn'
    exact ⟨fun h' => (by cases h'), fun h' => absurd hn h'⟩

/-- An `on_reply` that waits and is not on top has processed its reply. -/
theorem Nesting.top_or_answered {n : Nat} {cur_act current : Bool}
    (h : Nesting stack inner activated answered) (hwait : .wait n cur_act current ∈ stack) :
    top_wait stack = some n ∨ n ∈ answered := by
  obtain ⟨hshape, hreplying⟩ : Stacked Frame.Nested stack ∧
    ∀ f ∈ stack, ∀ n, f.replies n → n ∈ answered := ⟨h.shape, h.replying⟩
  clear h
  induction stack with
  | nil => cases hwait
  | cons g rest ih =>
    rcases List.mem_cons.mp hwait with rfl | hwait
    · exact .inl rfl
    · -- A call that stands directly on the wait is the handlers of its reply.
      right
      rcases ih hwait hshape.2 (fun f hf => hreplying f (List.mem_cons_of_mem _ hf)) with htop | hn
      · exact hreplying g List.mem_cons_self n (hshape.1.1 n htop)
      · exact hn

end calls

end ZAF.ActorBehavior
