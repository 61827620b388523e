import Mathlib.Logic.Function.Basic
import ZAF.Framework.System

/-! # A desk that merges requests

    Requests of the same key wait together. The first one asks for an answer elsewhere, the
    others join it, and when the answer comes all of them get it. Requests are taken one
    after the other, and one may stay in hand for a while.

    Nothing is lost and nothing is answered twice, and for each key at most one question is
    open.
-/

namespace Desk

open LTS

/-! ### The system -/

@[ext]
structure State (Key : Type u) (Req : Type v) (Ans : Type w) where
  queued : List Req
  hand : Option Req
  waiting : Key → List Req
  arrived : List Req
  answered : List (Req × Key × Ans)
  /-- How often an answer has been asked for. -/
  opened : Key → Nat
  /-- How many answers have come. -/
  closed : Key → Nat

inductive Label (Key : Type u) (Req : Type v) (Ans : Type w) where
  | arrive (r : Req)
  /-- The first request in the queue is taken in hand. -/
  | take
  /-- The request in hand joins those that wait. -/
  | file
  /-- The first request in the queue joins those that wait. -/
  | serve
  | answer (k : Key) (a : Ans)

variable {Key : Type u} {Req : Type v} {Ans : Type w} [DecidableEq Key] (key : Req → Key)

/-- A request joins those that wait, and asks if there are none. -/
def State.wait (s : State Key Req Ans) (r : Req) : State Key Req Ans :=
  { s with
    waiting := Function.update s.waiting (key r) (s.waiting (key r) ++ [r])
    opened :=
      if (s.waiting (key r)).isEmpty then
        Function.update s.opened (key r) (s.opened (key r) + 1)
      else s.opened }

/-- All that wait get the answer. -/
def State.answer (s : State Key Req Ans) (k : Key) (a : Ans) : State Key Req Ans :=
  { s with
    waiting := Function.update s.waiting k []
    answered := s.answered ++ (s.waiting k).map fun r => (r, k, a)
    closed := Function.update s.closed k (s.closed k + 1) }

def next (s : State Key Req Ans) : Label Key Req Ans → Option (State Key Req Ans)
  | .arrive r => some { s with queued := s.queued ++ [r], arrived := s.arrived ++ [r] }
  | .take =>
    match s.hand, s.queued with
    | none, r :: queued => some { s with queued, hand := some r }
    | _, _ => none
  | .file => s.hand.map fun r => { s with hand := none }.wait key r
  | .serve =>
    match s.queued with
    | r :: queued => some ({ s with queued }.wait key r)
    | [] => none
  | .answer k a => if (s.waiting k).isEmpty then none else some (s.answer k a)

def system : System (State Key Req Ans) (Label Key Req Ans) where
  init s := s = ⟨[], none, fun _ => [], [], [], fun _ => 0, fun _ => 0⟩
  next := next key

/-! ### Where a request is -/

variable [DecidableEq Req]

/-- How often a request is somewhere. -/
def State.places (s : State Key Req Ans) (r : Req) : Nat :=
  s.queued.count r + s.hand.toList.count r + (s.waiting (key r)).count r +
    (s.answered.map Prod.fst).count r

structure Sound (s : State Key Req Ans) : Prop where
  /-- A request is where it has come to, once. -/
  once : ∀ r, s.places key r = s.arrived.count r
  waiting : ∀ k, ∀ r ∈ s.waiting k, key r = k
  answered : ∀ p ∈ s.answered, key p.1 = p.2.1
  opened : ∀ k, s.opened k = s.closed k + if (s.waiting k).isEmpty then 0 else 1

variable {key} {s s' : State Key Req Ans}

omit [DecidableEq Key] in
theorem sound_empty :
    Sound key (⟨[], none, fun _ => [], [], [], fun _ => 0, fun _ => 0⟩ : State Key Req Ans) where
  once _ := rfl
  waiting _ _ h := nomatch h
  answered _ h := nomatch h
  opened _ := rfl

/-! ### Its steps -/

theorem places_wait (s : State Key Req Ans) (r r' : Req) :
    (s.wait key r).places key r' = s.places key r' + [r].count r' := by
  show s.queued.count r' + s.hand.toList.count r' +
    (Function.update s.waiting (key r) (s.waiting (key r) ++ [r]) (key r')).count r' + _ = _
  unfold State.places
  by_cases hkey : key r' = key r
  · rw [hkey, Function.update_self, List.count_append]
    show _ + (_ + _) + (s.answered.map Prod.fst).count r' = _
    omega
  · have hne : [r].count r' = 0 :=
      List.count_eq_zero.mpr fun hmem => hkey (by rw [List.mem_singleton.mp hmem])
    rw [Function.update_of_ne hkey, hne]
    rfl

omit [DecidableEq Req] in
theorem opened_wait (s : State Key Req Ans) (r : Req) (k : Key) :
    (s.wait key r).opened k =
      s.opened k + if k = key r ∧ (s.waiting (key r)).isEmpty = true then 1 else 0 := by
  unfold State.wait
  dsimp only
  split
  · next hempty =>
    by_cases hk : k = key r
    · rw [hk, Function.update_self, if_pos ⟨rfl, hempty⟩]
    · rw [Function.update_of_ne hk, if_neg fun hand => hk hand.1, Nat.add_zero]
  · next hnonempty => rw [if_neg fun hand => hnonempty hand.2, Nat.add_zero]

/-- A request leaves the queue or the hand, and waits. -/
theorem Sound.wait (h : Sound key s) {queued : List Req} {hand : Option Req} {r : Req}
    (hr : ∀ r', queued.count r' + hand.toList.count r' + [r].count r' =
      s.queued.count r' + s.hand.toList.count r') :
    Sound key ({ s with queued, hand }.wait key r) where
  once r' := by
    have honce := h.once r'
    have hmoved := hr r'
    rw [places_wait]
    unfold State.places at honce ⊢
    show _ = s.arrived.count r'
    dsimp only
    omega
  waiting k r' hr' := by
    change r' ∈ Function.update s.waiting (key r) (s.waiting (key r) ++ [r]) k at hr'
    by_cases hk : k = key r
    · subst hk
      rw [Function.update_self] at hr'
      rcases List.mem_append.mp hr' with hr' | hr'
      · exact h.waiting _ r' hr'
      · rw [List.mem_singleton.mp hr']
    · rw [Function.update_of_ne hk] at hr'
      exact h.waiting k r' hr'
  answered := h.answered
  opened k := by
    rw [opened_wait]
    show s.opened k + _ = s.closed k +
      if (Function.update s.waiting (key r) (s.waiting (key r) ++ [r]) k).isEmpty then 0 else 1
    have hopened := h.opened k
    by_cases hk : k = key r
    · -- the first one that waits opens a question
      subst hk
      have hpush : (s.waiting (key r) ++ [r]).isEmpty = false :=
        List.isEmpty_eq_false_iff.mpr (List.append_ne_nil_of_right_ne_nil _ nofun)
      rw [Function.update_self, hpush]
      simp only [Bool.false_eq_true, if_false, true_and]
      split at hopened
      · next hempty => rw [if_pos hempty, hopened]
      · next hnonempty => rw [if_neg hnonempty, hopened]
    · rw [if_neg fun hand => hk hand.1, Function.update_of_ne hk, hopened]
      rfl

theorem Sound.answer (h : Sound key s) {k : Key} (hk : ¬ (s.waiting k).isEmpty = true) (a : Ans) :
    Sound key (s.answer k a) where
  once r := by
    refine Eq.trans ?_ (h.once r)
    show s.queued.count r + s.hand.toList.count r +
      (Function.update s.waiting k [] (key r)).count r +
        ((s.answered ++ (s.waiting k).map fun r => (r, k, a)).map Prod.fst).count r = _
    have hmap : ((s.waiting k).map fun r => (r, k, a)).map Prod.fst = s.waiting k := by
      rw [List.map_map]
      exact List.map_id _
    rw [List.map_append, hmap, List.count_append]
    unfold State.places
    by_cases heq : key r = k
    · rw [heq, Function.update_self, List.count_nil]
      omega
    -- a request of another key does not wait here
    · have hzero : (s.waiting k).count r = 0 :=
        List.count_eq_zero.mpr fun hmem => heq (h.waiting k r hmem)
      rw [Function.update_of_ne heq, hzero, Nat.add_zero]
  waiting k' r hr := by
    change r ∈ Function.update s.waiting k [] k' at hr
    by_cases heq : k' = k
    · rw [heq, Function.update_self] at hr
      cases hr
    · rw [Function.update_of_ne heq] at hr
      exact h.waiting k' r hr
  answered p hp := by
    rcases List.mem_append.mp hp with hp | hp
    · exact h.answered p hp
    · obtain ⟨r, hr, rfl⟩ := List.mem_map.mp hp
      exact h.waiting k r hr
  opened k' := by
    show s.opened k' = Function.update s.closed k (s.closed k + 1) k' +
      if (Function.update s.waiting k [] k').isEmpty then 0 else 1
    have hopened := h.opened k'
    by_cases heq : k' = k
    · subst heq
      rw [if_neg hk] at hopened
      rw [Function.update_self, Function.update_self]
      exact hopened
    · rw [Function.update_of_ne heq, Function.update_of_ne heq]
      exact hopened

theorem Sound.next (h : Sound key s) (l : Label Key Req Ans) (hnext : next key s l = some s') :
    Sound key s' := by
  cases l with
  | arrive r =>
    cases hnext
    refine ⟨fun r' => ?_, h.waiting, h.answered, h.opened⟩
    have honce := h.once r'
    unfold State.places at honce ⊢
    simp only [List.count_append]
    omega
  | take =>
    simp only [Desk.next] at hnext
    split at hnext
    · next r queued hhand hqueued =>
      cases hnext
      refine ⟨fun r' => ?_, h.waiting, h.answered, h.opened⟩
      have honce := h.once r'
      unfold State.places at honce ⊢
      rw [hhand, hqueued, List.count_cons] at honce
      simp only [Option.toList_some, Option.toList_none, List.count_nil, List.count_singleton]
        at honce ⊢
      omega
    · cases hnext
  | file =>
    obtain ⟨r, hhand, rfl⟩ := Option.map_eq_some_iff.mp hnext
    refine h.wait fun r' => ?_
    rw [hhand]
    simp only [Option.toList_none, List.count_nil, Option.toList_some, Nat.add_zero]
  | serve =>
    simp only [Desk.next] at hnext
    split at hnext
    · next r queued hqueued =>
      cases hnext
      refine h.wait fun r' => ?_
      have hcons : ([r] ++ queued).count r' = [r].count r' + queued.count r' :=
        List.count_append
      rw [List.singleton_append] at hcons
      rw [hqueued]
      omega
    · cases hnext
  | answer k a =>
    simp only [Desk.next] at hnext
    split at hnext
    · cases hnext
    · next hk =>
      cases hnext
      exact h.answer hk a

omit [DecidableEq Req] in
/-- What a step puts on record. -/
theorem records_next {l : Label Key Req Ans} (hnext : next key s l = some s') :
    s'.arrived = s.arrived ∧ s'.answered = s.answered ∨
      (∃ r, l = .arrive r ∧ s'.arrived = s.arrived ++ [r] ∧ s'.answered = s.answered) ∨
      ∃ k a, l = .answer k a ∧ s'.arrived = s.arrived ∧
        s'.answered = s.answered ++ (s.waiting k).map fun r => (r, k, a) := by
  cases l with
  | arrive r =>
    cases hnext
    exact .inr (.inl ⟨r, rfl, rfl, rfl⟩)
  | take =>
    simp only [Desk.next] at hnext
    split at hnext <;> cases hnext
    exact .inl ⟨rfl, rfl⟩
  | file =>
    obtain ⟨r, -, rfl⟩ := Option.map_eq_some_iff.mp hnext
    exact .inl ⟨rfl, rfl⟩
  | serve =>
    simp only [Desk.next] at hnext
    split at hnext <;> cases hnext
    exact .inl ⟨rfl, rfl⟩
  | answer k a =>
    simp only [Desk.next] at hnext
    split at hnext <;> cases hnext
    exact .inr (.inr ⟨k, a, rfl, rfl, rfl⟩)

theorem sound_of_reachable (h : Reachable (system key) s) : Sound key s := by
  refine h.invariant (Sound key) ?_ fun _ l _ hs _ hnext => hs.next l hnext
  rintro _ rfl
  exact sound_empty

/-! ### What is known of a sound desk -/

omit [DecidableEq Key] in
/-- Nothing is answered more often than it has arrived. -/
theorem Sound.count_answered_le (h : Sound key s) (r : Req) :
    (s.answered.map Prod.fst).count r ≤ s.arrived.count r := by
  have honce := h.once r
  unfold State.places at honce
  omega

omit [DecidableEq Key] in
/-- At most one question is open. -/
theorem Sound.opened_le (h : Sound key s) (k : Key) : s.opened k ≤ s.closed k + 1 := by
  rw [h.opened k]
  split <;> omega

omit [DecidableEq Key] in
/-- Once nothing is in the queue or in hand and nobody waits, all has been answered. -/
theorem Sound.mem_answered (h : Sound key s) (hqueued : s.queued = []) (hhand : s.hand = none)
    {r : Req} (hwaiting : s.waiting (key r) = []) (hr : r ∈ s.arrived) :
    r ∈ s.answered.map Prod.fst := by
  have honce := h.once r
  have hpos := List.count_pos_iff.mpr hr
  unfold State.places at honce
  rw [hqueued, hhand, hwaiting] at honce
  apply List.count_pos_iff.mp
  simp only [List.count_nil, Option.toList_none] at honce
  omega

end Desk
