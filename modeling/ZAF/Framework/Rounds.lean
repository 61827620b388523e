import Mathlib.Logic.Function.Basic
import ZAF.Framework.SwapRemove
import ZAF.Framework.System

/-! # A reader that works in rounds

    A reader serves many sources. Each source has a flag that it shares with the reader:
    who raises it has to send a wake-up, and until it is cleared nobody sends another one.
    The reader lists the sources that have woken it up and works in rounds over the list.
    At the end of a round it schedules the next one if the list is not empty; a wake-up
    that finds the list empty schedules a round as well.

    A source makes itself known before its first wake-up, and what it sends arrives in
    order. So exactly one round is scheduled while the list is not empty, and a source is
    in the list at most once.
-/

namespace Rounds

open LTS SwapRemove

/-! ### The system -/

/-- What a source sends. -/
inductive Signal where
  | announce
  | wake
  deriving DecidableEq, Repr

/-- Where the reader is. -/
inductive Phase where
  | outside
  /-- In a round. -/
  | inside
  /-- In a round, with the flag of the `i`-th source of the list cleared. -/
  | cleared (i : Nat)
  deriving DecidableEq, Repr

@[ext]
structure State (Id : Type u) where
  flag : Id → Bool
  /-- Has the source raised the flag and not yet sent the wake-up? -/
  owes : Id → Bool
  on_way : Id → List Signal
  /-- Has the source made itself known? -/
  connected : Id → Bool
  /-- Does the reader know the source? -/
  known : Id → Bool
  active : List Id
  /-- The rounds that are scheduled. -/
  rounds : Nat
  phase : Phase
  /-- The wake-ups of sources that the reader did not know. -/
  missed : Nat

inductive Label (Id : Type u) where
  | connect (a : Id)
  /-- The source raises its flag; it owes a wake-up. -/
  | raise (a : Id)
  | wake (a : Id)
  /-- Both in one. -/
  | call (a : Id)
  /-- The reader gets the first signal of the source. -/
  | hear (a : Id)
  | begin
  | clear (i : Nat)
  | drop
  | finish

variable {Id : Type u} [DecidableEq Id]

/-- A signal is sent. -/
def State.signal (s : State Id) (a : Id) (signal : Signal) : State Id :=
  { s with on_way := Function.update s.on_way a (s.on_way a ++ [signal]) }

/-- A round is scheduled unless the list says that there is one. -/
def State.woken (s : State Id) (a : Id) : State Id :=
  let s := if s.active.isEmpty then { s with rounds := s.rounds + 1 } else s
  if s.known a then { s with active := s.active ++ [a] } else { s with missed := s.missed + 1 }

def State.heard (s : State Id) (a : Id) : Signal → State Id
  | .announce => { s with known := Function.update s.known a true }
  | .wake => s.woken a

def next (s : State Id) : Label Id → Option (State Id)
  | .connect a =>
    if s.connected a then none
    else some ({ s with connected := Function.update s.connected a true }.signal a .announce)
  | .raise a =>
    if s.connected a && !s.flag a && !s.owes a then
      some { s with
        flag := Function.update s.flag a true
        owes := Function.update s.owes a true }
    else none
  | .wake a =>
    if s.owes a then some ({ s with owes := Function.update s.owes a false }.signal a .wake)
    else none
  | .call a =>
    if s.connected a && !s.flag a then
      some ({ s with flag := Function.update s.flag a true }.signal a .wake)
    else none
  | .hear a =>
    match s.phase, s.on_way a with
    | .outside, signal :: rest =>
      some ({ s with on_way := Function.update s.on_way a rest }.heard a signal)
    | _, _ => none
  | .begin =>
    match s.phase, s.rounds with
    | .outside, rounds + 1 => some { s with rounds, phase := .inside }
    | _, _ => none
  | .clear i =>
    match s.phase, s.active[i]? with
    | .inside, some a =>
      some { s with flag := Function.update s.flag a false, phase := .cleared i }
    | _, _ => none
  | .drop =>
    match s.phase with
    | .cleared i => some { s with active := swap_remove s.active i, phase := .inside }
    | _ => none
  | .finish =>
    match s.phase with
    | .inside =>
      some { s with
        rounds := if s.active.isEmpty then s.rounds else s.rounds + 1
        phase := .outside }
    | _ => none

theorem next_hear {s : State Id} {a : Id} {signal : Signal} {rest : List Signal}
    (hphase : s.phase = .outside) (hway : s.on_way a = signal :: rest) :
    next s (.hear a) =
      some ({ s with on_way := Function.update s.on_way a rest }.heard a signal) := by
  simp only [next, hphase, hway]

/-- At the start the reader knows some sources. -/
def start (known : Id → Bool) : State Id where
  flag _ := false
  owes _ := false
  on_way _ := []
  connected := known
  known := known
  active := []
  rounds := 0
  phase := .outside
  missed := 0

def system (known : Id → Bool) : System (State Id) (Label Id) where
  init s := s = start known
  next := next

/-! ### The invariant -/

/-- Has the flag been cleared for the source, which is still in the list? -/
def State.cleared (s : State Id) (a : Id) : Bool :=
  match s.phase with
  | .cleared i => s.active[i]? == some a
  | _ => false

/-- Every wake-up on the way comes after an announcement, unless the source is known. -/
def Announced (known : Bool) (on_way : List Signal) : Prop :=
  ∀ before after, on_way = before ++ .wake :: after → known = true ∨ .announce ∈ before

structure Sound (s : State Id) : Prop where
  /-- Who is bound to look at a source is counted by its flag. -/
  token : ∀ a, (s.on_way a).count .wake + (s.owes a).toNat + s.active.count a =
    (s.flag a).toNat + (s.cleared a).toNat
  entry : ∀ i, s.phase = .cleared i → i < s.active.length
  connected : ∀ a, s.connected a = true → s.known a = true ∨ .announce ∈ s.on_way a
  owes : ∀ a, s.owes a = true → s.connected a = true
  announced : ∀ a, Announced (s.known a) (s.on_way a)
  nodup : s.active.Nodup
  active : ∀ a ∈ s.active, s.known a = true
  rounds : s.rounds = if s.phase = .outside ∧ s.active ≠ [] then 1 else 0
  missed : s.missed = 0

variable {s s' : State Id}

/-! ### Signals in order -/

theorem Announced.snoc {known : Bool} {l : List Signal} (h : Announced known l) (signal : Signal)
    (hwake : signal = .wake → known = true ∨ .announce ∈ l) : Announced known (l ++ [signal]) := by
  intro before after heq
  rcases List.eq_nil_or_concat' after with rfl | ⟨after, last, rfl⟩
  · -- the wake-up is the last signal
    obtain ⟨rfl, hlast⟩ := List.append_inj' heq rfl
    exact hwake (List.singleton_inj.mp hlast)
  · rw [← List.cons_append, ← List.append_assoc] at heq
    obtain ⟨hinit, -⟩ := List.append_inj' heq rfl
    exact h before after hinit

theorem Announced.known {l : List Signal} {known : Bool} (h : Announced known (.wake :: l)) :
    known = true := by
  rcases h [] l rfl with hknown | hmem
  · exact hknown
  · cases hmem

theorem announced_of_known (l : List Signal) : Announced true l := fun _ _ _ => .inl rfl

/-! ### The flags and the rounds -/

/-- While no flag is cleared, the flag of a source says whether somebody is bound to look
    at it. -/
theorem Sound.token_eq (h : Sound s) (hphase : ∀ i, s.phase ≠ .cleared i) (a : Id) :
    (s.on_way a).count .wake + (s.owes a).toNat + s.active.count a = (s.flag a).toNat := by
  rw [h.token a]
  unfold State.cleared
  split
  · next i hi => exact absurd hi (hphase i)
  · rfl

/-- In a round none is scheduled. -/
theorem Sound.rounds_eq_zero (h : Sound s) (hphase : s.phase ≠ .outside) : s.rounds = 0 := by
  rw [h.rounds, if_neg fun hboth => hphase hboth.1]

/-! ### The sources -/

theorem sound_start (known : Id → Bool) : Sound (start known) where
  token _ := rfl
  entry _ h := nomatch h
  connected _ h := .inl h
  owes _ h := nomatch h
  announced _ before after h := by simp [start] at h
  nodup := List.nodup_nil
  active _ h := nomatch h
  rounds := rfl
  missed := rfl

/-- A signal is sent; the new flags and debts make up for it. -/
theorem Sound.signal (h : Sound s) (a : Id) (signal : Signal) (flag owes connected : Id → Bool)
    (hconnected : ∀ b, connected b = true → s.connected b = true ∨ b = a ∧ signal = .announce)
    (hwake : signal = .wake → s.connected a = true)
    (howes : ∀ b, owes b = true → connected b = true)
    (htoken : ∀ b, (s.on_way b).count .wake + (if b = a then [signal].count .wake else 0) +
      (owes b).toNat + s.active.count b = (flag b).toNat + (s.cleared b).toNat) :
    Sound ({ s with flag, owes, connected }.signal a signal) where
  token b := by
    show (Function.update s.on_way a (s.on_way a ++ [signal]) b).count .wake + _ + _ = _
    refine Eq.trans ?_ (htoken b)
    by_cases hb : b = a
    · subst hb
      rw [Function.update_self, List.count_append, if_pos rfl]
      rfl
    · rw [Function.update_of_ne hb, if_neg hb]
      rfl
  entry := h.entry
  connected b hb := by
    show s.known b = true ∨ .announce ∈ Function.update s.on_way a (s.on_way a ++ [signal]) b
    have hold : s.connected b = true →
        s.known b = true ∨ .announce ∈ Function.update s.on_way a (s.on_way a ++ [signal]) b := by
      intro hb
      refine (h.connected b hb).imp_right fun hmem => ?_
      by_cases heq : b = a
      · subst heq
        rw [Function.update_self]
        exact List.mem_append_left _ hmem
      · rw [Function.update_of_ne heq]
        exact hmem
    rcases hconnected b hb with hb | ⟨rfl, rfl⟩
    · exact hold hb
    · right
      rw [Function.update_self]
      exact List.mem_append_right _ (List.mem_singleton_self _)
  owes := howes
  announced b := by
    show Announced (s.known b) (Function.update s.on_way a (s.on_way a ++ [signal]) b)
    by_cases heq : b = a
    · subst heq
      rw [Function.update_self]
      exact (h.announced b).snoc signal fun hsignal => h.connected b (hwake hsignal)
    · rw [Function.update_of_ne heq]
      exact h.announced b
  nodup := h.nodup
  active := h.active
  rounds := h.rounds
  missed := h.missed

theorem Sound.connect (h : Sound s) (a : Id) :
    Sound ({ s with connected := Function.update s.connected a true }.signal a .announce) := by
  refine h.signal a .announce s.flag s.owes _ ?_ nofun ?_ ?_
  · intro b hb
    by_cases heq : b = a
    · exact .inr ⟨heq, rfl⟩
    · rw [Function.update_of_ne heq] at hb
      exact .inl hb
  · intro b hb
    by_cases heq : b = a
    · rw [heq, Function.update_self]
    · rw [Function.update_of_ne heq]
      exact h.owes b hb
  · intro b
    rw [← h.token b]
    split <;> rfl

theorem Sound.raise (h : Sound s) {a : Id} (hconnected : s.connected a = true)
    (hflag : s.flag a = false) (howes : s.owes a = false) :
    Sound { s with
      flag := Function.update s.flag a true
      owes := Function.update s.owes a true } where
  token b := by
    show _ + (Function.update s.owes a true b).toNat + _ =
      (Function.update s.flag a true b).toNat + (s.cleared b).toNat
    have htoken := h.token b
    by_cases hb : b = a
    · subst hb
      rw [hflag, howes] at htoken
      simp only [Function.update_self, Bool.toNat_true, Bool.toNat_false] at htoken ⊢
      omega
    · rw [Function.update_of_ne hb, Function.update_of_ne hb]
      exact htoken
  entry := h.entry
  connected := h.connected
  owes b hb := by
    change Function.update s.owes a true b = true at hb
    by_cases heq : b = a
    · rw [heq]
      exact hconnected
    · rw [Function.update_of_ne heq] at hb
      exact h.owes b hb
  announced := h.announced
  nodup := h.nodup
  active := h.active
  rounds := h.rounds
  missed := h.missed

theorem Sound.wake (h : Sound s) {a : Id} (howes : s.owes a = true) :
    Sound ({ s with owes := Function.update s.owes a false }.signal a .wake) := by
  refine h.signal a .wake s.flag _ s.connected (fun b hb => .inl hb) (fun _ => h.owes a howes) ?_ ?_
  · intro b hb
    by_cases heq : b = a
    · rw [heq, Function.update_self] at hb
      cases hb
    · rw [Function.update_of_ne heq] at hb
      exact h.owes b hb
  · intro b
    have htoken := h.token b
    by_cases hb : b = a
    · subst hb
      rw [howes] at htoken
      rw [Function.update_self, if_pos rfl, List.count_singleton_self]
      simp only [Bool.toNat_true, Bool.toNat_false] at htoken ⊢
      omega
    · rw [Function.update_of_ne hb, if_neg hb]
      exact htoken

theorem Sound.call (h : Sound s) {a : Id} (hconnected : s.connected a = true)
    (hflag : s.flag a = false) :
    Sound ({ s with flag := Function.update s.flag a true }.signal a .wake) := by
  refine h.signal a .wake _ s.owes s.connected (fun b hb => .inl hb) (fun _ => hconnected) h.owes ?_
  intro b
  have htoken := h.token b
  by_cases hb : b = a
  · subst hb
    rw [hflag] at htoken
    rw [Function.update_self, if_pos rfl, List.count_singleton_self]
    simp only [Bool.toNat_true, Bool.toNat_false] at htoken ⊢
    omega
  · rw [Function.update_of_ne hb, if_neg hb]
    exact htoken

/-! ### The reader -/

/-- The first signal of a source is taken. -/
theorem Sound.hear_announce (h : Sound s) {a : Id} {rest : List Signal}
    (hway : s.on_way a = .announce :: rest) :
    Sound ({ s with on_way := Function.update s.on_way a rest }.heard a .announce) where
  token b := by
    show (Function.update s.on_way a rest b).count .wake + _ + _ = _
    refine Eq.trans ?_ (h.token b)
    by_cases hb : b = a
    · subst hb
      rw [Function.update_self, hway]
      rfl
    · rw [Function.update_of_ne hb]
      rfl
  entry := h.entry
  connected b hb := by
    show Function.update s.known a true b = true ∨ .announce ∈ Function.update s.on_way a rest b
    by_cases heq : b = a
    · rw [heq, Function.update_self]
      exact .inl rfl
    · rw [Function.update_of_ne heq, Function.update_of_ne heq]
      exact h.connected b hb
  owes := h.owes
  announced b := by
    show Announced (Function.update s.known a true b) (Function.update s.on_way a rest b)
    by_cases heq : b = a
    · rw [heq, Function.update_self]
      exact announced_of_known _
    · rw [Function.update_of_ne heq, Function.update_of_ne heq]
      exact h.announced b
  nodup := h.nodup
  active b hb := by
    show Function.update s.known a true b = true
    by_cases heq : b = a
    · rw [heq, Function.update_self]
    · rw [Function.update_of_ne heq]
      exact h.active b hb
  rounds := h.rounds
  missed := h.missed

/-- A source that is heard to wake the reader up is known and not in the list. -/
theorem Sound.known_of_wake (h : Sound s) {a : Id} {rest : List Signal}
    (hphase : s.phase = .outside) (hway : s.on_way a = .wake :: rest) :
    s.known a = true ∧ s.active.count a = 0 := by
  have hannounced := h.announced a
  have htoken := h.token_eq (by rw [hphase]; exact nofun) a
  have hle : (s.flag a).toNat ≤ 1 := Bool.toNat_le _
  rw [hway] at hannounced htoken
  rw [List.count_cons_self] at htoken
  exact ⟨hannounced.known, by omega⟩

/-- The source joins the list, and one round is scheduled. -/
theorem Sound.woken_eq (h : Sound s) {a : Id} (hphase : s.phase = .outside)
    (hknown : s.known a = true) (on_way : Id → List Signal) :
    { s with on_way }.woken a = { s with on_way, active := s.active ++ [a], rounds := 1 } := by
  have hrounds := h.rounds
  unfold State.woken
  cases hactive : s.active with
  | nil =>
    rw [hactive] at hrounds
    simp [hknown, hrounds]
  | cons b bs =>
    rw [hactive, hphase, if_pos ⟨rfl, nofun⟩] at hrounds
    simp [hknown, hrounds]

theorem Sound.hear_wake (h : Sound s) {a : Id} {rest : List Signal} (hphase : s.phase = .outside)
    (hway : s.on_way a = .wake :: rest) :
    Sound ({ s with on_way := Function.update s.on_way a rest }.heard a .wake) := by
  obtain ⟨hknown, hcount⟩ := h.known_of_wake hphase hway
  show Sound (State.woken _ a)
  rw [h.woken_eq hphase hknown]
  refine ⟨fun b => ?_, fun i hi => ?_, fun b hb => ?_, h.owes, fun b => ?_, ?_, fun b hb => ?_, ?_,
    h.missed⟩
  · have hoff : State.cleared { s with
        on_way := Function.update s.on_way a rest
        active := s.active ++ [a]
        rounds := 1 } b = s.cleared b := by
      unfold State.cleared
      simp only [hphase]
    rw [hoff, ← h.token b]
    show (Function.update s.on_way a rest b).count .wake + (s.owes b).toNat +
      (s.active ++ [a]).count b = _
    by_cases hb : b = a
    · subst hb
      rw [Function.update_self, hway, List.count_append, List.count_singleton_self,
        List.count_cons_self]
      omega
    · rw [Function.update_of_ne hb, List.count_append, List.count_singleton,
        if_neg fun heq => hb (beq_iff_eq.mp heq).symm, Nat.add_zero]
  · rw [show s.phase = .cleared i from hi] at hphase
    cases hphase
  · show s.known b = true ∨ .announce ∈ Function.update s.on_way a rest b
    by_cases heq : b = a
    · rw [heq]
      exact .inl hknown
    · rw [Function.update_of_ne heq]
      exact h.connected b hb
  · show Announced (s.known b) (Function.update s.on_way a rest b)
    by_cases heq : b = a
    · rw [heq, hknown]
      exact announced_of_known _
    · rw [Function.update_of_ne heq]
      exact h.announced b
  · have hnew := List.nodup_cons.mpr ⟨List.count_eq_zero.mp hcount, h.nodup⟩
    exact (List.perm_append_singleton a s.active).nodup_iff.mpr hnew
  · rcases List.mem_append.mp hb with hb | hb
    · exact h.active b hb
    · rw [List.mem_singleton.mp hb]
      exact hknown
  · exact (if_pos ⟨hphase, List.append_ne_nil_of_right_ne_nil _ nofun⟩).symm

theorem Sound.begin (h : Sound s) {rounds : Nat} (hphase : s.phase = .outside)
    (hrounds : s.rounds = rounds + 1) : Sound { s with rounds, phase := .inside } where
  token := h.token_eq (by rw [hphase]; exact nofun)
  entry _ hi := nomatch hi
  connected := h.connected
  owes := h.owes
  announced := h.announced
  nodup := h.nodup
  active := h.active
  rounds := by
    have hone := h.rounds
    rw [hrounds] at hone
    show rounds = if _ then 1 else 0
    rw [if_neg fun hboth => nomatch hboth.1]
    split at hone <;> omega
  missed := h.missed

theorem Sound.clear (h : Sound s) {i : Nat} {a : Id} (hphase : s.phase = .inside)
    (hi : s.active[i]? = some a) :
    Sound { s with flag := Function.update s.flag a false, phase := .cleared i } where
  token b := by
    show _ = (Function.update s.flag a false b).toNat + (s.active[i]? == some b).toNat
    have htoken := h.token_eq (by rw [hphase]; exact nofun) b
    rw [hi]
    by_cases hb : b = a
    · subst hb
      -- the source is in the list, so its flag was set
      have hpos := List.count_pos_iff.mpr (List.mem_of_getElem? hi)
      have hle : (s.flag b).toNat ≤ 1 := Bool.toNat_le _
      rw [Function.update_self, beq_self_eq_true]
      simp only [Bool.toNat_true, Bool.toNat_false] at htoken ⊢
      omega
    · have hne : (some a == some b) = false :=
        beq_false_of_ne fun heq => hb (Option.some.inj heq).symm
      rw [Function.update_of_ne hb, hne]
      exact htoken
  entry j hj := by
    cases hj
    exact (List.getElem?_eq_some_iff.mp hi).1
  connected := h.connected
  owes := h.owes
  announced := h.announced
  nodup := h.nodup
  active := h.active
  rounds := by
    have hzero := h.rounds_eq_zero (by rw [hphase]; exact nofun)
    exact hzero.trans (if_neg fun hboth => nomatch hboth.1).symm
  missed := h.missed

theorem Sound.drop (h : Sound s) {i : Nat} (hphase : s.phase = .cleared i) :
    Sound { s with active := swap_remove s.active i, phase := .inside } := by
  obtain ⟨a, hi⟩ : ∃ a, s.active[i]? = some a := ⟨_, List.getElem?_eq_getElem (h.entry i hphase)⟩
  have hperm := swap_remove_perm hi
  refine ⟨fun b => ?_, nofun, h.connected, h.owes, h.announced, ?_, fun b hb => ?_, ?_, h.missed⟩
  · show _ + _ + (swap_remove s.active i).count b = _
    have htoken := h.token b
    have hcount := swap_remove_count hi b
    unfold State.cleared at htoken ⊢
    rw [hphase] at htoken
    simp only [hi] at htoken
    by_cases hb : a = b
    · rw [if_pos hb] at hcount
      rw [hb, beq_self_eq_true] at htoken
      simp only [Bool.toNat_true, Bool.toNat_false] at htoken ⊢
      omega
    · have hne : (some a == some b) = false :=
        beq_false_of_ne fun heq => hb (Option.some.inj heq)
      rw [if_neg hb] at hcount
      rw [hne] at htoken
      simp only [Bool.toNat_false] at htoken ⊢
      omega
  · exact (hperm.nodup_iff.mpr h.nodup).of_cons
  · exact h.active b (hperm.subset (List.mem_cons_of_mem _ hb))
  · have hzero := h.rounds_eq_zero (by rw [hphase]; exact nofun)
    exact hzero.trans (if_neg fun hboth => nomatch hboth.1).symm

theorem Sound.finish (h : Sound s) (hphase : s.phase = .inside) :
    Sound { s with
      rounds := if s.active.isEmpty then s.rounds else s.rounds + 1
      phase := .outside } where
  token := h.token_eq (by rw [hphase]; exact nofun)
  entry _ hi := nomatch hi
  connected := h.connected
  owes := h.owes
  announced := h.announced
  nodup := h.nodup
  active := h.active
  rounds := by
    have hzero := h.rounds_eq_zero (by rw [hphase]; exact nofun)
    show (if s.active.isEmpty then s.rounds else s.rounds + 1) =
      if Phase.outside = .outside ∧ s.active ≠ [] then 1 else 0
    rw [hzero]
    cases s.active with
    | nil => rfl
    | cons b bs => exact (if_pos ⟨rfl, nofun⟩).symm
  missed := h.missed

/-! ### Runs -/

theorem Sound.next (h : Sound s) (l : Label Id) (hnext : next s l = some s') : Sound s' := by
  cases l with
  | connect a =>
    simp only [Rounds.next] at hnext
    split at hnext <;> cases hnext
    exact h.connect a
  | raise a =>
    simp only [Rounds.next] at hnext
    split at hnext <;> cases hnext
    next hand =>
      simp only [Bool.and_eq_true, Bool.not_eq_true'] at hand
      exact h.raise hand.1.1 hand.1.2 hand.2
  | wake a =>
    simp only [Rounds.next] at hnext
    split at hnext <;> cases hnext
    next howes => exact h.wake howes
  | call a =>
    simp only [Rounds.next] at hnext
    split at hnext <;> cases hnext
    next hand =>
      simp only [Bool.and_eq_true, Bool.not_eq_true'] at hand
      exact h.call hand.1 hand.2
  | hear a =>
    simp only [Rounds.next] at hnext
    split at hnext <;> cases hnext
    next signal rest hphase hway =>
      cases signal with
      | announce => exact h.hear_announce hway
      | wake => exact h.hear_wake hphase hway
  | begin =>
    simp only [Rounds.next] at hnext
    split at hnext <;> cases hnext
    next hphase hrounds => exact h.begin hphase hrounds
  | clear i =>
    simp only [Rounds.next] at hnext
    split at hnext <;> cases hnext
    next hphase hi => exact h.clear hphase hi
  | drop =>
    simp only [Rounds.next] at hnext
    split at hnext <;> cases hnext
    next hphase => exact h.drop hphase
  | finish =>
    simp only [Rounds.next] at hnext
    split at hnext <;> cases hnext
    next hphase => exact h.finish hphase

theorem sound_of_reachable {known : Id → Bool} (h : Reachable (system known) s) : Sound s := by
  refine h.invariant Sound ?_ fun _ l _ hs _ hnext => hs.next l hnext
  rintro _ rfl
  exact sound_start known

/-! ### What is known of the reader -/

/-- Between rounds, one is scheduled exactly when somebody is to be served. -/
theorem Sound.rounds_eq_one_iff (h : Sound s) (hphase : s.phase = .outside) :
    s.active ≠ [] ↔ s.rounds = 1 := by
  rw [h.rounds]
  by_cases hactive : s.active = []
  · rw [if_neg fun hboth => hboth.2 hactive]
    exact ⟨fun hne => absurd hactive hne, nofun⟩
  · rw [if_pos ⟨hphase, hactive⟩]
    exact ⟨fun _ => rfl, fun _ => hactive⟩

theorem Sound.rounds_le (h : Sound s) : s.rounds ≤ 1 := by
  rw [h.rounds]
  split <;> omega

end Rounds
