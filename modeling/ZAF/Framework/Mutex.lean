import Mathlib.Logic.Function.Basic

/-! # A mutex and those who hold it

    A mutex knows who has locked it. The others know from where they are in their own code
    whether they hold it. `Held` says that the two agree, so that nobody holds it together
    with another. A step of one of them that locks, unlocks or leaves the mutex alone keeps
    this.
-/

namespace Mutex

variable {α : Type u} {mtx mtx' : Option α} {holds : α → Bool} {a b : α} {before after : Bool}

/-- The one who has locked the mutex, and no other, is where it holds the mutex. -/
def Held (mtx : Option α) (holds : α → Bool) : Prop := ∀ a, holds a = true ↔ mtx = some a

/-- A step of `a`, who holds the mutex `before` or `after` it, as the case may be. -/
inductive Access (a : α) : Option α → Bool → Bool → Option α → Prop where
  | pass (mtx : Option α) (holds : Bool) : Access a mtx holds holds mtx
  | lock : Access a none false true (some a)
  | unlock (mtx : Option α) : Access a mtx true false none

theorem Held.exclusive (h : Held mtx holds) (ha : holds a = true) (hb : holds b = true) :
    a = b := by
  have heq := (h a).mp ha
  rw [(h b).mp hb, Option.some.injEq] at heq
  exact heq.symm

theorem held_free (hnone : ∀ a, holds a = false) : Held none holds := by
  intro a
  rw [hnone a]
  exact ⟨nofun, nofun⟩

/-- **Steps of those who use the mutex keep it.** -/
theorem Held.access [DecidableEq α] (h : Held mtx holds)
    (haccess : Access a mtx (holds a) after mtx') : Held mtx' (Function.update holds a after) := by
  generalize hbefore : holds a = before at haccess
  cases haccess with
  | pass =>
    rw [← hbefore, Function.update_eq_self]
    exact h
  | lock =>
    intro b
    by_cases hb : b = a
    · subst hb
      rw [Function.update_self]
      exact ⟨fun _ => rfl, fun _ => rfl⟩
    · rw [Function.update_of_ne hb, h b, Option.some.injEq]
      exact ⟨nofun, fun heq => absurd heq.symm hb⟩
  | unlock =>
    have hmtx := (h a).mp hbefore
    intro b
    by_cases hb : b = a
    · subst hb
      rw [Function.update_self]
      exact ⟨nofun, nofun⟩
    · rw [Function.update_of_ne hb, h b, hmtx, Option.some.injEq]
      exact ⟨fun heq => absurd heq.symm hb, nofun⟩

end Mutex
