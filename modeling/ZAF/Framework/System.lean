/-! # Labelled systems and their runs

    A `System` is a set of initial states with a partial step function: the
    label of a step resolves every choice (whose turn it is, what the
    environment supplies), so that a list of labels determines a run and a run
    can be evaluated.

    This module collects what every development over such systems needs:

    * `ReachableVia guard`: the states reached by runs whose steps all meet
      `guard`; `Reachable` is the unguarded case;
    * `execVia`: evaluation of a list of labels, and its link to reachability;
    * the invariant rule, also in the form that strengthens one invariant by
      another;
    * `Run`: a run with its steps, and the rule for a property that holds all along
      a run exactly when every step of it meets a condition;
    * forward simulations between two systems, with stuttering.
-/

namespace LTS

/-- A labelled system. `next s l = none` means that `l` is not enabled in `s`. -/
structure System (State : Type u) (Label : Type v) where
  /-- The states a run may start in. -/
  init : State → Prop
  /-- The step taken under a label, when there is one. -/
  next : State → Label → Option State

variable {State : Type u} {Label : Type v}

/-! ### Runs -/

/-- The states reached by runs of `sys` in which every step meets `guard`. -/
inductive ReachableVia (sys : System State Label) (guard : State → Label → Prop) :
    State → Prop where
  | init {s : State} : sys.init s → ReachableVia sys guard s
  | step {s s' : State} (l : Label) :
      ReachableVia sys guard s → guard s l → sys.next s l = some s' →
      ReachableVia sys guard s'

/-- The states reached by any run. -/
abbrev Reachable (sys : System State Label) : State → Prop :=
  ReachableVia sys (fun _ _ => True)

/-- A run whose steps meet a guard meets a weaker one. -/
theorem ReachableVia.mono {sys : System State Label} {guard guard' : State → Label → Prop}
    (hguard : ∀ s l, guard s l → guard' s l) {s : State} (h : ReachableVia sys guard s) :
    ReachableVia sys guard' s := by
  induction h with
  | init h0 => exact .init h0
  | step l _ hg hn ih => exact .step l ih (hguard _ l hg) hn

/-! ### Continuations -/

/-- The same system, started in `s`: its runs are the continuations of a run to `s`. -/
def System.start_in (sys : System State Label) (s : State) : System State Label :=
  { sys with init := (· = s) }

theorem ReachableVia.trans {sys : System State Label} {guard : State → Label → Prop}
    {s s' : State} (h : ReachableVia sys guard s)
    (h' : ReachableVia (sys.start_in s) guard s') : ReachableVia sys guard s' := by
  induction h' with
  | init heq => exact heq ▸ h
  | step l _ hg hn ih => exact .step l ih hg hn

/-! ### Evaluation -/

/-- Run a list of labels, giving up at the first step that is not enabled or
    does not meet the guard. -/
def System.execVia (sys : System State Label) (guard : State → Label → Prop)
    [∀ s l, Decidable (guard s l)] : State → List Label → Option State
  | s, [] => some s
  | s, l :: ls =>
    if guard s l then
      match sys.next s l with
      | some s' => sys.execVia guard s' ls
      | none => none
    else none

/-- A run that evaluates reaches its last state. -/
theorem ReachableVia.exec {sys : System State Label} {guard : State → Label → Prop}
    [∀ s l, Decidable (guard s l)] {s s' : State} (h : ReachableVia sys guard s)
    (ls : List Label) (he : sys.execVia guard s ls = some s') :
    ReachableVia sys guard s' := by
  induction ls generalizing s with
  | nil =>
    simp only [System.execVia, Option.some.injEq] at he
    exact he ▸ h
  | cons l ls ih =>
    simp only [System.execVia] at he
    split at he
    · next hg =>
      split at he
      · next s₁ hn => exact ih (.step l h hg hn) he
      · cases he
    · cases he

/-- A run from an initial state that evaluates reaches a state with the
    evaluated observations. -/
theorem System.reachable_of_exec (sys : System State Label) (guard : State → Label → Prop)
    [∀ s l, Decidable (guard s l)] (ls : List Label) (obs : State → β) {s : State} {b : β}
    (h0 : sys.init s) (h : (sys.execVia guard s ls).map obs = some b) :
    ∃ s', ReachableVia sys guard s' ∧ obs s' = b := by
  obtain ⟨s', hs', hobs⟩ := Option.map_eq_some_iff.mp h
  exact ⟨s', (ReachableVia.init h0).exec ls hs', hobs⟩

/-! ### Invariants -/

/-- **Invariant rule**: what holds initially and is preserved by every guarded
    step holds in every state a guarded run reaches. -/
theorem ReachableVia.invariant {sys : System State Label} {guard : State → Label → Prop}
    (inv : State → Prop) (hinit : ∀ s, sys.init s → inv s)
    (hstep : ∀ s l s', inv s → guard s l → sys.next s l = some s' → inv s')
    {s : State} (h : ReachableVia sys guard s) : inv s := by
  induction h with
  | init h0 => exact hinit _ h0
  | step l _ hg hn ih => exact hstep _ l _ ih hg hn

/-- **Relative invariant rule**: the step may assume an invariant that is
    already established. -/
theorem ReachableVia.invariant_of {sys : System State Label}
    {guard : State → Label → Prop} {known : State → Prop} (inv : State → Prop)
    (hknown : ∀ s, ReachableVia sys guard s → known s)
    (hinit : ∀ s, sys.init s → inv s)
    (hstep : ∀ s l s', known s → inv s → guard s l → sys.next s l = some s' → inv s')
    {s : State} (h : ReachableVia sys guard s) : inv s := by
  induction h with
  | init h0 => exact hinit _ h0
  | step l hr hg hn ih => exact hstep _ l _ (hknown _ hr) ih hg hn

/-! ### Runs with their steps -/

/-- A run, with the state in which each step is taken and the label of the step. -/
inductive Run (sys : System State Label) (s₀ : State) : List (State × Label) → State → Prop where
  | nil : Run sys s₀ [] s₀
  | snoc {steps : List (State × Label)} {s s' : State} (l : Label) :
      Run sys s₀ steps s → sys.next s l = some s' → Run sys s₀ (steps ++ [(s, l)]) s'

/-- The states that a run passes. -/
def passes (steps : List (State × Label)) (s : State) : List State := steps.map Prod.fst ++ [s]

theorem Run.reachable {sys : System State Label} {s₀ s : State} {steps : List (State × Label)}
    (h : Run sys s₀ steps s) (h0 : sys.init s₀) : Reachable sys s := by
  induction h with
  | nil => exact .init h0
  | snoc l _ hnext ih => exact .step l ih trivial hnext

theorem mem_passes_last (steps : List (State × Label)) (s : State) : s ∈ passes steps s := by
  simp [passes]

theorem forall_passes_snoc {p : State → Prop} {steps : List (State × Label)} {s s' : State}
    {l : Label} : (∀ t ∈ passes (steps ++ [(s, l)]) s', p t) ↔
      (∀ t ∈ passes steps s, p t) ∧ p s' := by
  have hsplit : passes (steps ++ [(s, l)]) s' = passes steps s ++ [s'] := by simp [passes]
  rw [hsplit, List.forall_mem_append, List.forall_mem_singleton]

/-- A condition on each step of a run and the steps before it. -/
theorem forall_prefix_snoc {α : Type u} {p : List α → α → Prop} {steps : List α} {step : α} :
    (∀ before x, before ++ [x] <+: steps ++ [step] → p before x) ↔
      (∀ before x, before ++ [x] <+: steps → p before x) ∧ p steps step := by
  constructor
  · intro h
    exact ⟨fun before x hx => h before x (hx.trans (List.prefix_append _ _)),
      h steps step (List.prefix_refl _)⟩
  · rintro ⟨h, hstep⟩ before x hx
    rcases List.prefix_concat_iff.mp hx with heq | hx
    · obtain ⟨rfl, hlast⟩ := List.append_inj' heq rfl
      rw [List.singleton_inj.mp hlast]
      exact hstep
    · exact h before x hx

theorem forall_prefix_nil {α : Type u} {p : List α → α → Prop} :
    ∀ before x, before ++ [x] <+: [] → p before x := by
  intro before x hx
  cases List.append_eq_nil_iff.mp (List.prefix_nil.mp hx) |>.2

/-- Every step of a run leads from one of the states that the run passes to another. -/
theorem Run.forall_steps {sys : System State Label} {s₀ s : State} {steps : List (State × Label)}
    (h : Run sys s₀ steps s) {p : State → Prop} (hall : ∀ t ∈ passes steps s, p t) :
    ∀ step ∈ steps, ∃ s', sys.next step.1 step.2 = some s' ∧ p step.1 ∧ p s' := by
  induction h with
  | nil => exact nofun
  | @snoc steps s s' l _ hnext ih =>
    obtain ⟨hall, hs'⟩ := forall_passes_snoc.mp hall
    refine List.forall_mem_append.mpr ⟨ih hall, List.forall_mem_singleton.mpr ?_⟩
    exact ⟨s', hnext, hall s (mem_passes_last steps s), hs'⟩

/-- What is known of the states that a run passes as long as it has a property. -/
theorem Run.forall_known {sys : System State Label} {s₀ s : State} {steps : List (State × Label)}
    (h : Run sys s₀ steps s) {p known : State → Prop} (hinit : known s₀)
    (hknown : ∀ s l s', known s → p s → p s' → sys.next s l = some s' → known s')
    (hall : ∀ t ∈ passes steps s, p t) : ∀ t ∈ passes steps s, known t := by
  induction h with
  | nil => simpa [passes] using hinit
  | @snoc steps s s' l _ hnext ih =>
    obtain ⟨hall, hs'⟩ := forall_passes_snoc.mp hall
    have hlast := mem_passes_last steps s
    exact forall_passes_snoc.mpr
      ⟨ih hall, hknown s l s' (ih hall s hlast) (hall s hlast) hs' hnext⟩

/-- **Condition rule**: if a step out of a state with the property reaches one with the
    property exactly when it meets the condition, a run has the property all along exactly
    when all its steps meet the condition. The step may use what is known as long as the
    property holds. -/
theorem Run.forall_iff_of {sys : System State Label} {s₀ s : State} {steps : List (State × Label)}
    (h : Run sys s₀ steps s) (p : State → Prop) {known : State → Prop}
    (condition : State → Label → Prop) (hinit : p s₀) (hknown₀ : known s₀)
    (hknown : ∀ s l s', known s → p s → p s' → sys.next s l = some s' → known s')
    (hstep : ∀ s l s', known s → p s → sys.next s l = some s' → (p s' ↔ condition s l)) :
    (∀ t ∈ passes steps s, p t) ↔ ∀ step ∈ steps, condition step.1 step.2 := by
  induction h with
  | nil => simpa [passes] using hinit
  | @snoc steps s s' l hrun hnext ih =>
    have hlast := mem_passes_last steps s
    rw [forall_passes_snoc, List.forall_mem_append, List.forall_mem_singleton, ← ih]
    refine and_congr_right fun hall => ?_
    exact hstep s l s' (hrun.forall_known hknown₀ hknown hall s hlast) (hall s hlast) hnext

/-- The condition rule for a step that may use that its state can be reached. -/
theorem Run.forall_iff {sys : System State Label} {s₀ s : State} {steps : List (State × Label)}
    (h : Run sys s₀ steps s) (h0 : sys.init s₀) (p : State → Prop)
    (condition : State → Label → Prop) (hinit : p s₀)
    (hstep : ∀ s l s', Reachable sys s → p s → sys.next s l = some s' → (p s' ↔ condition s l)) :
    (∀ t ∈ passes steps s, p t) ↔ ∀ step ∈ steps, condition step.1 step.2 :=
  h.forall_iff_of p condition hinit (.init h0) (fun _ l _ hs _ _ hnext => .step l hs trivial hnext)
    hstep

/-- A list of labels that evaluates is a run. -/
theorem System.run_of_exec (sys : System State Label) (guard : State → Label → Prop)
    [∀ s l, Decidable (guard s l)] (ls : List Label) (obs : State → β) {s : State} {b : β}
    (h : (sys.execVia guard s ls).map obs = some b) :
    ∃ steps s', Run sys s steps s' ∧ (∀ step ∈ steps, guard step.1 step.2) ∧ obs s' = b := by
  obtain ⟨s', hs', hobs⟩ := Option.map_eq_some_iff.mp h
  -- a run may be extended at its end
  suffices hext : ∀ (steps : List (State × Label)) (t : State), Run sys s steps t →
      (∀ step ∈ steps, guard step.1 step.2) → sys.execVia guard t ls = some s' →
      ∃ steps', Run sys s steps' s' ∧ ∀ step ∈ steps', guard step.1 step.2 by
    obtain ⟨steps, hrun, hguard⟩ := hext [] s .nil (by simp) hs'
    exact ⟨steps, s', hrun, hguard, hobs⟩
  clear h hs' hobs
  induction ls with
  | nil =>
    intro steps t hrun hguard hexec
    cases hexec
    exact ⟨steps, hrun, hguard⟩
  | cons l ls ih =>
    intro steps t hrun hguard hexec
    simp only [System.execVia] at hexec
    split at hexec
    · next hg =>
      split at hexec
      · next t' hnext =>
        apply ih (steps ++ [(t, l)]) t' (.snoc l hrun hnext) _ hexec
        exact List.forall_mem_append.mpr ⟨hguard, List.forall_mem_singleton.mpr hg⟩
      · cases hexec
    · cases hexec

/-! ### Simulations -/

/-- A forward simulation: under `inv`, every guarded step of the concrete system
    is matched by a step of the abstract one or leaves the image unchanged. -/
structure Simulation {State' : Type u'} {Label' : Type v'}
    (conc : System State Label) (guard : State → Label → Prop) (abs : System State' Label')
    (inv : State → Prop) where
  /-- The abstract state that a concrete state stands for. -/
  image : State → State'
  image_init : ∀ s, conc.init s → abs.init (image s)
  image_step : ∀ s l s', inv s → guard s l → conc.next s l = some s' →
    image s' = image s ∨ ∃ l', abs.next (image s) l' = some (image s')

/-- A simulated run ends in a state whose image is reachable. -/
theorem Simulation.reachable {State' : Type u'} {Label' : Type v'}
    {conc : System State Label} {guard : State → Label → Prop} {abs : System State' Label'}
    {inv : State → Prop} (sim : Simulation conc guard abs inv)
    (hinv : ∀ s, ReachableVia conc guard s → inv s)
    {s : State} (h : ReachableVia conc guard s) : Reachable abs (sim.image s) := by
  induction h with
  | init h0 => exact .init (sim.image_init _ h0)
  | step l hr hg hn ih =>
    rcases sim.image_step _ l _ (hinv _ hr) hg hn with heq | ⟨l', hl'⟩
    · exact heq ▸ ih
    · exact .step l' ih trivial hl'

end LTS
