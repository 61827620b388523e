import ZAF.Framework.Fifo
import ZAF.SWSR.Concurrent
import ZAF.SWSR.SelfQueue

/-! # The ring buffer is a queue

    Seen from outside, the delivery queue between two threads is a queue of
    bounded capacity: publishing an item puts it in, and the return of its handler
    takes it out. All other steps are invisible. The self queue is one without a
    bound, as long as it grows aligned.
-/

namespace ZAF

open LTS

variable {Item : Type} [Inhabited Item]

/-! ### Two threads -/

namespace Concurrent

/-- What the two threads have done, as a queue. -/
def State.fifo (s : State Item) : Fifo.State Item :=
  ⟨s.accepted, s.queue.readable, s.returned⟩

theorem Inv.fifo_eq {k : Nat} {s : State Item} {unread : List Item} (h : Inv k s unread) :
    s.fifo = ⟨s.returned ++ unread, unread, s.returned⟩ := by
  rw [State.fifo, h.accepted_eq, h.content.readable_eq]

omit [Inhabited Item] in
theorem writer_next_returned {s s' : State Item} (hn : writer_next s = some s') :
    s'.returned = s.returned := by
  simp only [writer_next] at hn
  split at hn
  · cases hn
  · split at hn
    · split at hn <;> cases hn <;> rfl
    · cases hn
      rfl
  · split at hn <;> cases hn <;> rfl
  · cases hn
    rfl
  · cases hn
    rfl

theorem reader_next_accepted {s s' : State Item} (hn : reader_next s = some s') :
    s'.accepted = s.accepted := by
  simp only [reader_next] at hn
  split at hn
  · cases hn
  · cases hn
    rfl
  · split at hn <;> cases hn <;> rfl
  · cases hn
    rfl

/-- Every step is one of the queue, or invisible. -/
theorem fifo_step {k : Nat} {s s' : State Item} {unread : List Item} (h : Inv k s unread)
    {l : Label Item} (hn : next s l = some s') :
    s'.fifo = s.fifo ∨
      ∃ l', Fifo.next (fun n => decide (n < 2 ^ k)) s.fifo l' = some s'.fifo := by
  cases l with
  | push x strategy =>
    obtain ⟨-, rfl⟩ := next_push hn
    exact .inl rfl
  | pop_some max =>
    obtain ⟨-, rfl⟩ := next_pop_some hn
    exact .inl rfl
  | pop_one =>
    simp only [next] at hn
    split at hn
    · split at hn
      · cases hn
      · cases hn
        exact .inl rfl
    · cases hn
  | stop_pop_some =>
    simp only [next] at hn
    split at hn
    · cases hn
      exact .inl rfl
    · cases hn
  | writer =>
    have hreturned := writer_next_returned hn
    rcases inv_writer_next h hn with ⟨h', -⟩ | ⟨x, h', -⟩
    · left
      rw [h'.fifo_eq, h.fifo_eq, hreturned]
    · right
      -- With the new item the queue still fits its buffer.
      have hroom : unread.length < 2 ^ k := by
        have hle := h'.content.length_le
        rw [List.length_append] at hle
        exact hle
      refine ⟨.put x, ?_⟩
      rw [h'.fifo_eq, h.fifo_eq, hreturned, Fifo.next_put (decide_eq_true hroom),
        List.append_assoc]
  | reader =>
    have haccepted := reader_next_accepted hn
    rcases inv_reader_next h hn with h' | ⟨x, xs, rfl, h'⟩
    · left
      have hreturned : s'.returned = s.returned := by
        rw [h'.accepted_eq, h.accepted_eq] at haccepted
        exact List.append_cancel_right haccepted
      rw [h'.fifo_eq, h.fifo_eq, hreturned]
    · right
      have hreturned : s'.returned = s.returned ++ [x] := by
        rw [h'.accepted_eq, h.accepted_eq, List.append_cons] at haccepted
        exact List.append_cancel_right haccepted
      refine ⟨.take, ?_⟩
      rw [h'.fifo_eq, h.fifo_eq, hreturned, Fifo.next_take, List.append_assoc]
      rfl

/-- **The two threads implement a queue of bounded capacity.** -/
def simulation (scale : Nat) (hscale : scale ≤ 31) :
    Simulation (system Item scale) (fun _ _ => True)
      (Fifo.system Item fun n => decide (n < 2 ^ scale))
      (fun s => ∃ unread, Inv scale s unread) where
  image := State.fifo
  image_init s hinit := by
    subst hinit
    exact (inv_start hscale).fifo_eq
  image_step s l s' hinv _ hn := by
    obtain ⟨unread, h⟩ := hinv
    exact fifo_step h hn

theorem fifo_reachable {scale : Nat} (hscale : scale ≤ 31) {s : State Item}
    (hs : Reachable (system Item scale) s) :
    Reachable (Fifo.system Item fun n => decide (n < 2 ^ scale)) s.fifo :=
  (simulation scale hscale).reachable (fun _ hs => inv_reachable hscale hs) hs

end Concurrent

/-! ### One thread -/

namespace SelfQueue

/-- What the thread has done, as a queue. -/
def State.fifo (s : State Item) : Fifo.State Item :=
  ⟨s.pushed, s.queue.readable, s.returned⟩

theorem Inv.fifo_eq {s : State Item} {k : Nat} {unread : List Item} (h : Inv s k unread) :
    s.fifo = ⟨s.returned ++ unread, unread, s.returned⟩ := by
  rw [State.fifo, h.pushed_eq, h.content.readable_eq]

/-- Calling a handler is invisible. -/
theorem pop_some_loop_fifo (s : State Item) (w r num_read max_messages_read : UInt32) :
    (pop_some_loop s w r num_read max_messages_read).fifo = s.fifo := by
  unfold pop_some_loop
  split <;> rfl

/-- The release of the oldest item takes it out. -/
theorem take_release_item {s : State Item} {k : Nat} {unread : List Item} (h : Inv s k unread)
    {item : Item} (hhead : unread.head? = some item) (room : Nat → Bool) :
    Fifo.next room s.fifo .take = some (release_item s item).fifo := by
  obtain ⟨xs, rfl⟩ : ∃ xs, unread = item :: xs := List.head?_eq_some_iff.mp hhead
  obtain ⟨hcontent, hpushed⟩ := inv_release h.content h.pushed_eq
  rw [h.fifo_eq, Fifo.next_take, State.fifo, hpushed, hcontent.readable_eq]
  show some (Fifo.State.mk _ _ (s.returned ++ [item])) =
    some ⟨(s.returned ++ [item]) ++ xs, xs, s.returned ++ [item]⟩
  rw [List.append_assoc]
  rfl

/-- Every step whose growth is aligned is one of an unbounded queue, or
    invisible. -/
theorem fifo_step {k : Nat} {s s' : State Item} {unread : List Item} (h : Inv s k unread)
    {l : Label Item} (hb : bounded s l) (ha : aligned s l) (hn : next s l = some s') :
    s'.fifo = s.fifo ∨ ∃ l', Fifo.next (fun _ => true) s.fifo l' = some s'.fifo := by
  cases l with
  | push x =>
    right
    obtain ⟨k', h'⟩ := inv_push h hb ha hn
    have hreturned : s'.returned = s.returned := by
      simp only [next] at hn
      split at hn
      · cases hn
        rfl
      · cases hn
    refine ⟨.put x, ?_⟩
    rw [h'.fifo_eq, h.fifo_eq, hreturned, Fifo.next_put rfl, List.append_assoc]
  | pop_one =>
    simp only [next] at hn
    split at hn
    · split at hn
      · cases hn
      · cases hn
        exact .inl rfl
    · cases hn
  | pop_some max =>
    simp only [next] at hn
    split at hn
    · cases hn
      exact .inl (pop_some_loop_fifo _ _ _ _ _)
    · cases hn
  | stop_pop_some =>
    cases hn
    exact .inl rfl
  | handler_returns =>
    have hc := h.control
    simp only [next] at hn
    split at hn
    · cases hn
    · next item hctl =>
      rw [hctl] at hc
      cases hn
      exact .inr ⟨.take, take_release_item h hc _⟩
    · next item w r num_read max hctl =>
      rw [hctl] at hc
      cases hn
      right
      refine ⟨.take, ?_⟩
      rw [pop_some_loop_fifo]
      exact take_release_item h hc.1 _

/-- **The self queue implements an unbounded queue, as long as it grows
    aligned.** -/
def simulation (scale : Nat) (hscale : scale ≤ 31) :
    Simulation (system Item scale) (fun s l => bounded s l ∧ aligned s l)
      (Fifo.system Item fun _ => true) (fun s => ∃ k unread, Inv s k unread) where
  image := State.fifo
  image_init s hinit := by
    subst hinit
    exact (inv_start hscale).fifo_eq
  image_step s l s' hinv hguard hn := by
    obtain ⟨k, unread, h⟩ := hinv
    exact fifo_step h hguard.1 hguard.2 hn

theorem fifo_reachable {scale : Nat} (hscale : scale ≤ 31) {s : State Item}
    (hs : ReachableVia (system Item scale) (fun s l => bounded s l ∧ aligned s l) s) :
    Reachable (Fifo.system Item fun _ => true) s.fifo :=
  (simulation scale hscale).reachable (fun _ hs => inv_reachable hscale hs) hs

end SelfQueue
end ZAF
