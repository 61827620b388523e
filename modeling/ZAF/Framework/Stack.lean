/-! # Stacks of calls

    A call on a stack is constrained by the calls below it: what may have called
    it. `Stacked` states such a constraint for every call of a stack.
-/

namespace LTS

/-- Every entry of the stack, together with what is below it, meets `P`. The
    top is the head of the list. -/
def Stacked (P : α → List α → Prop) : List α → Prop
  | [] => True
  | f :: rest => P f rest ∧ Stacked P rest

@[simp] theorem stacked_nil (P : α → List α → Prop) : Stacked P [] := trivial

@[simp] theorem stacked_cons (P : α → List α → Prop) (f : α) (rest : List α) :
    Stacked P (f :: rest) ↔ P f rest ∧ Stacked P rest := Iff.rfl

/-- Calls that end by an exception leave the others as they were. -/
theorem Stacked.drop {P : α → List α → Prop} {stack : List α} (hs : Stacked P stack) (k : Nat) :
    Stacked P (stack.drop k) := by
  induction stack generalizing k with
  | nil => rw [List.drop_nil]; trivial
  | cons f rest ih =>
    cases k with
    | zero => exact hs
    | succ k => exact ih hs.2 k

end LTS
