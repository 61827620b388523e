import ZAF.Framework.System

/-! # What can still be reached

    A run that has come to a state may go on in many ways. `CanReach` says that one of them
    comes to a goal. To show this, steps and detours are put together, or a measure goes down
    with each detour.
-/

namespace LTS

variable {State : Type u} {Label : Type v}

/-- Some continuation, with steps that all meet the guard, comes to the goal. -/
def System.CanReach (sys : System State Label) (guard : State → Label → Prop) (s : State)
    (goal : State → Prop) : Prop :=
  ∃ s', ReachableVia (sys.start_in s) guard s' ∧ goal s'

variable {sys : System State Label} {guard : State → Label → Prop} {s s' : State}
  {goal goal' inv : State → Prop}

theorem System.can_reach_here (h : goal s) : sys.CanReach guard s goal := ⟨s, .init rfl, h⟩

/-- A detour, and then the rest. -/
theorem System.CanReach.bind (h : sys.CanReach guard s goal)
    (hrest : ∀ s', goal s' → sys.CanReach guard s' goal') : sys.CanReach guard s goal' := by
  obtain ⟨s₁, hs₁, hgoal⟩ := h
  obtain ⟨s₂, hs₂, hgoal'⟩ := hrest s₁ hgoal
  exact ⟨s₂, hs₁.trans hs₂, hgoal'⟩

theorem System.CanReach.mono (h : sys.CanReach guard s goal) (himp : ∀ s', goal s' → goal' s') :
    sys.CanReach guard s goal' :=
  h.bind fun s' hs' => System.can_reach_here (himp s' hs')

theorem System.can_reach_next (l : Label) (hguard : guard s l) (hnext : sys.next s l = some s')
    (hgoal : goal s') : sys.CanReach guard s goal :=
  ⟨s', .step l (.init rfl) hguard hnext, hgoal⟩

theorem System.can_step (l : Label) (hguard : guard s l) (hnext : sys.next s l = some s') :
    sys.CanReach guard s (· = s') :=
  System.can_reach_next l hguard hnext rfl

/-- The goal is reached by a continuation, so what all continuations keep holds there. -/
theorem System.CanReach.continues (h : sys.CanReach guard s goal) :
    sys.CanReach guard s fun s' => Reachable (sys.start_in s) s' ∧ goal s' := by
  obtain ⟨s', hs', hgoal⟩ := h
  exact ⟨s', hs', hs'.mono fun _ _ _ => trivial, hgoal⟩

/-- **Measure rule**: unless the goal has been reached, some detour makes the measure
    smaller. -/
theorem System.can_reach_of_measure (inv : State → Prop) (measure : State → Nat)
    (hdetour : ∀ s, inv s → ¬ goal s →
      sys.CanReach guard s fun s' => inv s' ∧ measure s' < measure s)
    (hs : inv s) : sys.CanReach guard s fun s' => inv s' ∧ goal s' := by
  induction hn : measure s using Nat.strongRecOn generalizing s with
  | ind n ih =>
    by_cases hgoal : goal s
    · exact System.can_reach_here ⟨hs, hgoal⟩
    · refine (hdetour s hs hgoal).bind fun s' ⟨hs', hlt⟩ => ?_
      exact ih (measure s') (hn ▸ hlt) hs' rfl

end LTS
