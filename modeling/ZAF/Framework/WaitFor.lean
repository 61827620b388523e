import Mathlib.Data.Set.Basic
import Mathlib.Logic.Relation
import Mathlib.Order.WellFounded

/-! # Who waits for whom

    Each member of a system waits for at most one other. Following who waits for whom, one
    comes to a member that does not wait, or one never leaves a set of members that all wait
    for each other. An order in which members only wait for smaller ones excludes the
    second.
-/

namespace WaitFor

variable {α : Type u} (f : α → Option α)

/-- From the first to the second by following who waits for whom. -/
def Chain : α → α → Prop := Relation.ReflTransGen fun a b => f a = some b

/-- Each of them waits for another one of them. -/
def Closed (D : Set α) : Prop := ∀ a ∈ D, ∃ b ∈ D, f a = some b

variable {f} {D : Set α} {a b : α}

theorem Closed.chain (h : Closed f D) (ha : a ∈ D) (hchain : Chain f a b) : b ∈ D := by
  induction hchain with
  | refl => exact ha
  | tail _ hstep ih =>
    obtain ⟨c, hc, heq⟩ := h _ ih
    cases heq.symm.trans hstep
    exact hc

/-- A chain does not end in such a set. -/
theorem Closed.ne_none (h : Closed f D) (ha : a ∈ D) (hchain : Chain f a b) : f b ≠ none := by
  obtain ⟨c, -, heq⟩ := h b (h.chain ha hchain)
  rw [heq]
  exact Option.some_ne_none c

/-- What can be reached is such a set, if no chain ends. -/
theorem closed_of_ne_none (h : ∀ b, Chain f a b → f b ≠ none) : Closed f {b | Chain f a b} := by
  intro b hb
  obtain ⟨c, hc⟩ := Option.ne_none_iff_exists'.mp (h b hb)
  exact ⟨c, hb.tail hc, hc⟩

/-- **A member is in a set whose members all wait for each other, or its chain ends.** -/
theorem closed_or_ends (f : α → Option α) (a : α) :
    (∃ D, Closed f D ∧ a ∈ D) ∨ ∃ b, Chain f a b ∧ f b = none := by
  by_cases h : ∃ b, Chain f a b ∧ f b = none
  · exact .inr h
  · refine .inl ⟨_, closed_of_ne_none fun b hb hnone => h ⟨b, hb, hnone⟩, ?_⟩
    exact Relation.ReflTransGen.refl

/-- Members that wait for smaller ones only do not wait for each other. -/
theorem Closed.not_mem_of_lt {r : α → α → Prop} (hwf : WellFounded r) (h : Closed f D)
    (hlt : ∀ a ∈ D, ∀ b, f a = some b → r b a) (a : α) : a ∉ D := by
  induction a using hwf.induction with
  | _ a ih =>
    intro ha
    obtain ⟨b, hb, heq⟩ := h a ha
    exact ih b (hlt a ha b heq) hb

end WaitFor
