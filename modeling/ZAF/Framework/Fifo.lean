import ZAF.Framework.System

/-! # A queue, seen from outside

    What goes in comes out, once each and in order. This is what the queues of a
    program are for, whatever their buffers, counters and threads; a program's
    queue is compared with it by a simulation.
-/

namespace Fifo

open LTS

/-! ### The system -/

/-- What has gone in, what is in the queue, and what has come out. -/
structure State (Item : Type u) where
  sent : List Item
  content : List Item
  delivered : List Item

inductive Label (Item : Type u) where
  | put (x : Item)
  | take

variable {Item : Type u}

/-- `room n` says whether a queue of `n` items takes another one. -/
def next (room : Nat → Bool) (s : State Item) : Label Item → Option (State Item)
  | .put x =>
    if room s.content.length then
      some { s with sent := s.sent ++ [x], content := s.content ++ [x] }
    else none
  | .take =>
    match s.content with
    | [] => none
    | x :: xs => some { s with content := xs, delivered := s.delivered ++ [x] }

def system (Item : Type u) (room : Nat → Bool) : System (State Item) (Label Item) where
  init s := s = ⟨[], [], []⟩
  next := next room

/-! ### Its steps, on given lists -/

theorem next_put {room : Nat → Bool} {sent content delivered : List Item}
    (h : room content.length = true) (x : Item) :
    next room ⟨sent, content, delivered⟩ (.put x) =
      some ⟨sent ++ [x], content ++ [x], delivered⟩ := by
  unfold next
  exact if_pos h

theorem next_take {room : Nat → Bool} {sent content delivered : List Item} (x : Item) :
    next room ⟨sent, x :: content, delivered⟩ .take = some ⟨sent, content, delivered ++ [x]⟩ :=
  rfl

/-! ### Its runs -/

/-- Something goes in, or the first item comes out. -/
theorem next_cases {room : Nat → Bool} {s s' : State Item} {l : Label Item}
    (hn : (system Item room).next s l = some s') :
    (∃ x, room s.content.length = true ∧
      s' = { s with sent := s.sent ++ [x], content := s.content ++ [x] }) ∨
    (∃ x xs, s.content = x :: xs ∧
      s' = { s with content := xs, delivered := s.delivered ++ [x] }) := by
  cases l with
  | put x =>
    simp only [system, next, Option.ite_none_right_eq_some, Option.some.injEq] at hn
    exact .inl ⟨x, hn.1, hn.2.symm⟩
  | take =>
    simp only [system, next] at hn
    split at hn
    · cases hn
    · next x xs hcontent =>
      cases hn
      exact .inr ⟨x, xs, hcontent, rfl⟩

/-- Nothing is lost, duplicated or reordered. -/
theorem sent_eq {room : Nat → Bool} {s : State Item} (hs : Reachable (system Item room) s) :
    s.sent = s.delivered ++ s.content := by
  apply hs.invariant fun s => s.sent = s.delivered ++ s.content
  · intro s hinit
    rw [hinit]
    rfl
  · intro s l s' h _ hn
    rcases next_cases hn with ⟨x, -, rfl⟩ | ⟨x, xs, hcontent, rfl⟩
    · rw [h, List.append_assoc]
    · rw [h, hcontent, List.append_assoc]
      rfl

/-- A bounded queue keeps its bound. -/
theorem content_length_le {cap : Nat} {s : State Item}
    (hs : Reachable (system Item fun n => decide (n < cap)) s) : s.content.length ≤ cap := by
  apply hs.invariant fun s => s.content.length ≤ cap
  · intro s hinit
    rw [hinit]
    exact Nat.zero_le cap
  · intro s l s' h _ hn
    rcases next_cases hn with ⟨x, hroom, rfl⟩ | ⟨x, xs, hcontent, rfl⟩
    · rw [List.length_append]
      exact of_decide_eq_true hroom
    · rw [hcontent] at h
      exact Nat.le_of_succ_le h

end Fifo
