import ZAF.ActorEngine.ServiceRound

/-! # Exceptions of hosted actors

    `launch` catches what hosted code throws and deactivates the actor at the current index.
    That is the actor which has thrown, as long as its own turn has come: the `start` and the
    `behavior` of a new actor run in the turn of the executor, which deactivates itself.
-/

namespace ZAF.Servicing

open SwapRemove

/-! ### The property -/

/-- What the vectors hold of an actor. -/
structure Entry where
  actor : Nat
  handlers : MessageHandlers
  poll_item : PollItem
  deriving DecidableEq

def Executor.entries (x : Executor) : List Entry :=
  List.zipWith (fun a (h, item) => ⟨a, h, item⟩) x.actors (x.handlers.zip x.poll_items)

/-- The actor whose code is running. -/
def Executor.running (x : Executor) : Option Nat :=
  match x.point with
  | .starting a => some a
  | .getting_behavior a => some a
  | .receiving i => if i = 0 then none else x.actors[i]?
  | _ => none

/-- Between `s` and `s'`, actor `a` alone has been deactivated, stopped, deleted and removed
    from executor `e`. -/
structure Isolated (s s' : Engine) (e a : Nat) : Prop where
  activated : s'.activated = Function.update s.activated a false
  executor : s'.activated e = s.activated e
  stopped : s'.stopped = s.stopped ++ [a]
  deleted : s'.deleted = s.deleted ++ [a]
  removed : ∀ x x', s.executors[e]? = some x → s'.executors[e]? = some x' →
    x'.entries.Perm (x.entries.filter fun entry => entry.actor ≠ a)
  others : ∀ e', e' ≠ e → s'.executors[e']? = s.executors[e']?

/-- The turn of a hosted actor has come: its message handler is running. -/
def Executor.own_turn (x : Executor) : Prop :=
  match x.point with
  | .receiving _ => True
  | _ => False

/-! ### Entries -/

section entries

variable {e : Nat} {x : Executor}

/-- The entries of aligned vectors are known from the poll items. -/
theorem Aligned.entries_eq (h : Aligned e x) :
    x.entries = x.poll_items.map fun item => ⟨item.socket_of, ⟨item.socket_of⟩, item⟩ := by
  have hhandlers : x.handlers = x.poll_items.map fun item => ⟨item.socket_of⟩ := by
    have hown := congrArg (List.map MessageHandlers.mk) (h.handlers_eq.trans h.poll_items_eq.symm)
    simpa [List.map_map, Function.comp_def] using hown
  rw [Executor.entries, hhandlers, ← h.poll_items_eq]
  generalize x.poll_items = items
  induction items with
  | nil => rfl
  | cons item items ih => exact congrArg (_ :: ·) ih

/-- The entries after a removal. -/
theorem entries_remove (h : Aligned e x) (hnodup : x.actors.Nodup) {i a : Nat} (h0 : i ≠ 0)
    (ha : x.actors[i]? = some a) :
    (x.remove i).entries.Perm (x.entries.filter fun entry => entry.actor ≠ a) := by
  have hi := (List.getElem?_eq_some_iff.mp ha).1
  obtain ⟨a', item, ha', -, hitem, hsocket⟩ := h.entry hi
  obtain rfl : a = a' := Option.some.inj (ha.symm.trans ha')
  rw [(h.remove h0 hi).entries_eq, h.entries_eq, List.filter_map]
  refine List.Perm.map _ ?_
  rw [← h.poll_items_eq] at hnodup
  rw [← hsocket]
  exact swap_remove_filter hitem hnodup

end entries

/-! ### The exception -/

/-- An exception in the turn of a hosted actor. -/
theorem throws_own_turn {i a : Nat} {x : Executor} (hpoint : x.point = .receiving i)
    (h0 : i ≠ 0) (ha : x.actors[i]? = some a) (activated : Bool) :
    x.step activated .throws = some ({ x.remove i with point := .scanning i },
      { flag := some (a, false), finish := some a }) := by
  simp [Executor.step, hpoint, h0, Executor.leave, ha]

/-- An exception in the turn of the executor. -/
theorem throws_other_turn {e : Nat} {x : Executor} (h : Aligned e x) {a : Nat}
    (hpoint : x.point = .starting a ∨ x.point = .getting_behavior a) (activated : Bool) :
    x.step activated .throws =
      some ({ x with point := .scanning 1 }, { flag := some (e, false) }) := by
  have hhead : x.actors[0]? = some e := by rw [← List.head?_eq_getElem?, h.head_eq]
  rcases hpoint with hpoint | hpoint <;>
    simp [Executor.step, hpoint, Executor.leave, hhead]

/-- **The exception of a hosted actor is isolated just in its own turn.** In all runs of an
    engine, after `launch` has caught what the code of a hosted actor has thrown, that actor
    alone has been deactivated, stopped, deleted and removed exactly if the exception came
    from its message handler, and not from its `start` or `behavior`. -/
theorem isolated_iff {s s' : Engine} (hs : LTS.Reachable Engine.system s) {e a : Nat}
    {x : Executor} (hx : s.executors[e]? = some x) (ha : x.running = some a)
    (hnext : s.next (.executor e .throws) = some s') : Isolated s s' e a ↔ x.own_turn := by
  have hsound := Engine.sound_of_reachable hs
  have hnodup := hsound.nodup hx
  have hlt := (List.getElem?_eq_some_iff.mp hx).1
  simp only [Engine.next, hx, Executor.Step.receives] at hnext
  obtain ⟨⟨x', effect⟩, hstep, rfl⟩ := Option.map_eq_some_iff.mp hnext
  have h := (hsound.executors e x hx).aligned (Engine.running_step hstep)
  constructor
  · intro hisolated
    -- in the turn of the executor nobody is stopped
    have hown {b : Nat} (hpoint : x.point = .starting b ∨ x.point = .getting_behavior b) :
        False := by
      rw [throws_other_turn h hpoint] at hstep
      cases hstep
      have hstopped := hisolated.stopped
      simp [Engine.apply] at hstopped
    cases hpoint : x.point with
    | receiving i => simp [Executor.own_turn, hpoint]
    | starting b => exact (hown (.inl hpoint)).elim
    | getting_behavior b => exact (hown (.inr hpoint)).elim
    | _ => simp [Executor.running, hpoint] at ha
  · intro hturn
    cases hpoint : x.point with
    | receiving i =>
      simp only [Executor.running, hpoint] at ha
      split at ha
      · cases ha
      · next h0 =>
        rw [throws_own_turn hpoint h0 ha] at hstep
        cases hstep
        have hne : e ≠ a := by
          rintro rfl
          have hhead : x.actors[0]? = some e := by rw [← List.head?_eq_getElem?, h.head_eq]
          exact h0 ((List.getElem?_inj h.pos hnodup).mp (hhead.trans ha.symm)).symm
        refine ⟨rfl, Function.update_of_ne hne _ _, rfl, rfl, ?_, ?_⟩
        · intro y y' hy hy'
          obtain rfl : x = y := Option.some.inj (hx.symm.trans hy)
          simp only [Engine.apply, List.getElem?_set_self hlt, Option.some.injEq] at hy'
          subst hy'
          exact entries_remove h hnodup h0 ha
        · intro e' he'
          exact List.getElem?_set_ne he'.symm
    | _ => simp [Executor.own_turn, hpoint] at hturn

/-- An executor hosts an actor. -/
def hosting : List EngineStep :=
  [.spawn, .executor 0 (.poll [true]), .executor 0 .look, .receive 0 0 0,
    .executor 0 (.returns true), .executor 0 (.returns true), .executor 0 .look,
    .executor 0 .look]

/-- A message handler throws. -/
theorem isolated_iff_handler : ∃ s s', LTS.Reachable Engine.system s ∧
    s.next (.executor 0 .throws) = some s' ∧ Isolated s s' 0 1 := by
  obtain ⟨s, hs, hobs⟩ := Engine.system.reachable_of_exec (fun _ _ => True)
    (hosting ++ [.executor 0 (.poll [false, true]), .executor 0 .look, .executor 0 .look])
    (fun s => (s.executors[0]?, (s.next (.executor 0 .throws)).isSome)) (b := (some {
      actors := [0, 1], handlers := [⟨0⟩, ⟨1⟩], poll_items := [⟨0, false⟩, ⟨1, true⟩],
      num_poll_items := 2, point := .receiving 1, readable := [1], served := [(1, ⟨1⟩)],
      sent := [] }, true)) ⟨1, rfl⟩ (by decide)
  simp only [Prod.mk.injEq] at hobs
  obtain ⟨s', hnext⟩ := Option.isSome_iff_exists.mp hobs.2
  exact ⟨s, s', hs, hnext, (isolated_iff hs hobs.1 rfl hnext).mpr trivial⟩

/-- While an actor is hosted, the `start` of another one throws. The executor ends, and the
    hosted actor is stopped and deleted with it. -/
theorem not_isolated : ∃ s s', LTS.Reachable Engine.system s ∧
    (s.executors[0]?.bind Executor.running) = some 2 ∧
    s.next (.executor 0 .throws) = some s' ∧ ¬ Isolated s s' 0 2 ∧
    ((Engine.system.execVia (fun _ _ => True) s' [.executor 0 .look, .executor 0 .look,
      .executor 0 .stop]).map Engine.deleted) = some [1] := by
  obtain ⟨s, hs, hobs⟩ := Engine.system.reachable_of_exec (fun _ _ => True)
    (hosting ++ [.spawn, .executor 0 (.poll [true, false]), .executor 0 .look, .receive 0 0 0])
    (fun s => (s.executors[0]?.bind Executor.running, s.stopped,
      (s.next (.executor 0 .throws)).map Engine.stopped,
      ((s.next (.executor 0 .throws)).bind fun s' => Engine.system.execVia (fun _ _ => True) s'
        [.executor 0 .look, .executor 0 .look, .executor 0 .stop]).map Engine.deleted))
    (b := (some 2, [], some [], some [1])) ⟨1, rfl⟩ (by decide)
  simp only [Prod.mk.injEq] at hobs
  obtain ⟨hrunning, hbefore, hafter, hend⟩ := hobs
  obtain ⟨s', hnext, hstopped⟩ := Option.map_eq_some_iff.mp hafter
  rw [hnext] at hend
  refine ⟨s, s', hs, hrunning, hnext, ?_, hend⟩
  intro hisolated
  have h := hisolated.stopped
  rw [hstopped, hbefore] at h
  cases h

end ZAF.Servicing
