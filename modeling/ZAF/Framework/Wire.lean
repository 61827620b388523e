import Mathlib.Data.List.Forall2

/-! # Readers of byte strings

    A reader takes a value off the front of a byte string and leaves the rest.
    What a format promises is stated with two judgements on the bytes that some
    writer has produced, whatever follows them:

    * `Takes`: the reader takes exactly these bytes and its value satisfies a
      predicate;
    * `Fails`: the reader has no value;
    * `Decides`: the reader takes exactly these bytes if it has a value, and its value
      satisfies a predicate exactly under a condition;
    * `Splits`: the reader takes these bytes under a condition and fails otherwise.

    `Consumes` is about bytes of any origin: it bounds what a value can have taken.
    Each judgement has one rule for every way to build a reader.
-/

namespace Wire

/-- `none` when there is no value to be read. -/
abbrev Reader (α : Type) := StateT (List UInt8) Option α

namespace Reader

variable {α β γ ι : Type}

def Takes (r : Reader α) (bytes : List UInt8) (P : α → Prop) : Prop :=
  ∀ rest, ∃ x, r (bytes ++ rest) = some (x, rest) ∧ P x

def Fails (r : Reader α) (bytes : List UInt8) : Prop :=
  ∀ rest, r (bytes ++ rest) = none

def Decides (r : Reader α) (bytes : List UInt8) (P : α → Prop) (condition : Prop) : Prop :=
  ∀ rest, (∃ x, r (bytes ++ rest) = some (x, rest) ∧ (P x ↔ condition)) ∨
    (r (bytes ++ rest) = none ∧ ¬ condition)

def Splits (r : Reader α) (bytes : List UInt8) (P : α → Prop) (condition : Prop) : Prop :=
  (condition → r.Takes bytes P) ∧ (¬ condition → r.Fails bytes)

/-- Every value `x` that is read has taken a number `n` of bytes with `P x n`. -/
def Consumes (r : Reader α) (P : α → Nat → Prop) : Prop :=
  ∀ s x rest, r s = some (x, rest) → ∃ n, s.length = n + rest.length ∧ P x n

/-- Read `n` values and combine them. -/
def fold (r : Reader α) (step : γ → α → γ) : Nat → γ → Reader γ
  | 0, acc => pure acc
  | n + 1, acc => r >>= fun x => fold r step n (step acc x)

/-! ### One step -/

theorem bind_apply (r : Reader α) (f : α → Reader β) (s : List UInt8) :
    (r >>= f) s = (r s).bind fun p => f p.1 p.2 := rfl

theorem map_apply (r : Reader α) (g : α → β) (s : List UInt8) :
    (g <$> r) s = (r s).map fun p => (g p.1, p.2) := by
  show (r s >>= fun p => some (g p.1, p.2)) = _
  cases r s <;> rfl

/-! ### What is taken -/

theorem Takes.imp {r : Reader α} {bytes : List UInt8} {P Q : α → Prop} (h : r.Takes bytes P)
    (hPQ : ∀ x, P x → Q x) : r.Takes bytes Q := by
  intro rest
  obtain ⟨x, hx, hP⟩ := h rest
  exact ⟨x, hx, hPQ x hP⟩

theorem takes_pure {x : α} {P : α → Prop} (h : P x) : (pure x : Reader α).Takes [] P := by
  intro rest
  exact ⟨x, rfl, h⟩

theorem Takes.bind {r : Reader α} {f : α → Reader β} {xs ys : List UInt8} {P : α → Prop}
    {Q : β → Prop} (hr : r.Takes xs P) (hf : ∀ x, P x → (f x).Takes ys Q) :
    (r >>= f).Takes (xs ++ ys) Q := by
  intro rest
  obtain ⟨x, hx, hP⟩ := hr (ys ++ rest)
  obtain ⟨y, hy, hQ⟩ := hf x hP rest
  refine ⟨y, ?_, hQ⟩
  rw [bind_apply, List.append_assoc, hx]
  exact hy

theorem Takes.map {r : Reader α} {g : α → β} {bytes : List UInt8} {P : α → Prop} {Q : β → Prop}
    (hr : r.Takes bytes P) (hg : ∀ x, P x → Q (g x)) : (g <$> r).Takes bytes Q := by
  intro rest
  obtain ⟨x, hx, hP⟩ := hr rest
  exact ⟨g x, by rw [map_apply, hx]; rfl, hg x hP⟩

/-- When nothing is left to be taken. -/
theorem Takes.bind_nil {r : Reader α} {f : α → Reader β} {bytes : List UInt8} {P : α → Prop}
    {Q : β → Prop} (hr : r.Takes bytes P) (hf : ∀ x, P x → (f x).Takes [] Q) :
    (r >>= f).Takes bytes Q := by
  rw [← List.append_nil bytes]
  exact hr.bind hf

/-- One part after the other. -/
theorem Takes.two {r : Reader α} {r' : Reader β} {xs ys : List UInt8} {P : α → Prop}
    {Q : β → Prop} (h : r.Takes xs P) (h' : r'.Takes ys Q) :
    (do let x ← r; let y ← r'; pure (x, y)).Takes (xs ++ ys) (fun p => P p.1 ∧ Q p.2) := by
  apply h.bind
  intro x hx
  apply h'.bind_nil
  intro y hy
  exact takes_pure ⟨hx, hy⟩

/-- Reading one value after the other. -/
theorem Takes.fold {r : Reader α} {step : γ → α → γ} {enc : ι → List UInt8} {rel : ι → α → Prop}
    {xs : List ι} (h : ∀ x ∈ xs, r.Takes (enc x) (rel x)) (acc : γ) :
    (r.fold step xs.length acc).Takes (xs.flatMap enc)
      (fun out => ∃ ys, List.Forall₂ rel xs ys ∧ out = ys.foldl step acc) := by
  induction xs generalizing acc with
  | nil => exact takes_pure ⟨[], .nil, rfl⟩
  | cons x xs ih =>
    rw [List.flatMap_cons]
    apply (h x List.mem_cons_self).bind
    intro y hy
    apply (ih (fun x hx => h x (List.mem_cons_of_mem _ hx)) (step acc y)).imp
    rintro out ⟨ys, hys, rfl⟩
    exact ⟨y :: ys, .cons hy hys, rfl⟩

/-! ### What fails -/

theorem fails_failure (bytes : List UInt8) : (failure : Reader α).Fails bytes := fun _ => rfl

theorem Fails.bind {r : Reader α} {xs : List UInt8} (hr : r.Fails xs) (f : α → Reader β)
    (ys : List UInt8) : (r >>= f).Fails (xs ++ ys) := by
  intro rest
  rw [bind_apply, List.append_assoc, hr (ys ++ rest)]
  rfl

theorem Fails.bind_nil {r : Reader α} {bytes : List UInt8} (hr : r.Fails bytes)
    (f : α → Reader β) : (r >>= f).Fails bytes := by
  rw [← List.append_nil bytes]
  exact hr.bind f []

theorem Takes.bind_fails {r : Reader α} {f : α → Reader β} {xs ys : List UInt8} {P : α → Prop}
    (hr : r.Takes xs P) (hf : ∀ x, P x → (f x).Fails ys) : (r >>= f).Fails (xs ++ ys) := by
  intro rest
  obtain ⟨x, hx, hP⟩ := hr (ys ++ rest)
  rw [bind_apply, List.append_assoc, hx]
  exact hf x hP rest

theorem Fails.two {r : Reader α} {xs : List UInt8} (h : r.Fails xs) (r' : Reader β)
    (ys : List UInt8) : (do let x ← r; let y ← r'; pure (x, y)).Fails (xs ++ ys) :=
  h.bind _ ys

theorem Takes.two_fails {r : Reader α} {r' : Reader β} {xs ys : List UInt8} {P : α → Prop}
    (h : r.Takes xs P) (h' : r'.Fails ys) :
    (do let x ← r; let y ← r'; pure (x, y)).Fails (xs ++ ys) := by
  apply h.bind_fails
  intro x _
  exact h'.bind_nil _

theorem Fails.map {r : Reader α} {bytes : List UInt8} (hr : r.Fails bytes) (g : α → β) :
    (g <$> r).Fails bytes := by
  intro rest
  rw [map_apply, hr rest]
  rfl

/-- One value that cannot be read is enough, when those before it can. -/
theorem Fails.fold {r : Reader α} {step : γ → α → γ} {enc : ι → List UInt8} {rel : ι → α → Prop}
    {good : ι → Prop} {xs : List ι} (htakes : ∀ x ∈ xs, good x → r.Takes (enc x) (rel x))
    (hfails : ∀ x ∈ xs, ¬ good x → r.Fails (enc x)) (hbad : ∃ x ∈ xs, ¬ good x) (acc : γ) :
    (r.fold step xs.length acc).Fails (xs.flatMap enc) := by
  induction xs generalizing acc with
  | nil =>
    obtain ⟨x, hx, -⟩ := hbad
    cases hx
  | cons x xs ih =>
    rw [List.flatMap_cons]
    by_cases hx : good x
    · apply (htakes x List.mem_cons_self hx).bind_fails
      intro y _
      apply ih (fun z hz => htakes z (List.mem_cons_of_mem _ hz))
        (fun z hz => hfails z (List.mem_cons_of_mem _ hz))
      obtain ⟨z, hz, hbad⟩ := hbad
      rcases List.mem_cons.mp hz with rfl | hz
      · exact absurd hx hbad
      · exact ⟨z, hz, hbad⟩
    · exact (hfails x List.mem_cons_self hx).bind _ _

/-! ### What is decided -/

theorem Takes.decides {r : Reader α} {bytes : List UInt8} {P : α → Prop} {condition : Prop}
    (h : r.Takes bytes fun x => P x ↔ condition) : r.Decides bytes P condition :=
  fun rest => .inl (h rest)

/-- A right value under no condition. -/
theorem Takes.decides_true {r : Reader α} {bytes : List UInt8} {P : α → Prop}
    (h : r.Takes bytes P) : r.Decides bytes P True :=
  (h.imp fun _ hP => iff_of_true hP trivial).decides

theorem Fails.decides {r : Reader α} {bytes : List UInt8} {P : α → Prop} {condition : Prop}
    (h : r.Fails bytes) (hnot : ¬ condition) : r.Decides bytes P condition :=
  fun rest => .inr ⟨h rest, hnot⟩

theorem Takes.bind_decides {r : Reader α} {f : α → Reader β} {xs ys : List UInt8}
    {P : α → Prop} {Q : β → Prop} {condition : Prop} (hr : r.Takes xs P)
    (hf : ∀ x, P x → (f x).Decides ys Q condition) : (r >>= f).Decides (xs ++ ys) Q condition := by
  intro rest
  obtain ⟨x, hx, hP⟩ := hr (ys ++ rest)
  rw [bind_apply, List.append_assoc, hx]
  exact hf x hP rest

theorem Takes.bind_nil_decides {r : Reader α} {f : α → Reader β} {bytes : List UInt8}
    {P : α → Prop} {Q : β → Prop} {condition : Prop} (hr : r.Takes bytes P)
    (hf : ∀ x, P x → (f x).Decides [] Q condition) : (r >>= f).Decides bytes Q condition := by
  rw [← List.append_nil bytes]
  exact hr.bind_decides hf

/-- Two parts, each right under its own condition. -/
theorem Decides.two {r : Reader α} {r' : Reader β} {xs ys : List UInt8} {P : α → Prop}
    {Q : β → Prop} {c c' : Prop} (h : r.Decides xs P c) (h' : r'.Decides ys Q c') :
    (do let x ← r; let y ← r'; pure (x, y)).Decides (xs ++ ys) (fun p => P p.1 ∧ Q p.2)
      (c ∧ c') := by
  intro rest
  rw [bind_apply, List.append_assoc]
  rcases h (ys ++ rest) with ⟨x, hx, hP⟩ | ⟨hnone, hnot⟩
  · rw [hx]
    rcases h' rest with ⟨y, hy, hQ⟩ | ⟨hnone, hnot⟩
    · refine .inl ⟨(x, y), ?_, and_congr hP hQ⟩
      show (r' (ys ++ rest)).bind _ = _
      rw [hy]
      rfl
    · refine .inr ⟨?_, fun hboth => hnot hboth.2⟩
      show (r' (ys ++ rest)).bind _ = _
      rw [hnone]
      rfl
  · exact .inr ⟨by rw [hnone]; rfl, fun hboth => hnot hboth.1⟩

/-- What the reader has in the end. -/
theorem Decides.exists_iff {r : Reader α} {bytes : List UInt8} {P : α → Prop} {condition : Prop}
    (h : r.Decides bytes P condition) (rest : List UInt8) :
    (∃ x, r (bytes ++ rest) = some (x, rest) ∧ P x) ↔ condition := by
  rcases h rest with ⟨x, hx, hP⟩ | ⟨hnone, hnot⟩
  · constructor
    · rintro ⟨y, hy, hPy⟩
      rw [hx] at hy
      cases hy
      exact hP.mp hPy
    · exact fun hc => ⟨x, hx, hP.mpr hc⟩
  · refine iff_of_false ?_ hnot
    rintro ⟨y, hy, -⟩
    rw [hnone] at hy
    cases hy

/-! ### What is taken or fails -/

theorem Takes.splits {r : Reader α} {bytes : List UInt8} {P : α → Prop} (h : r.Takes bytes P) :
    r.Splits bytes P True :=
  ⟨fun _ => h, fun hnot => absurd trivial hnot⟩

theorem Fails.splits {r : Reader α} {bytes : List UInt8} (h : r.Fails bytes) (P : α → Prop) :
    r.Splits bytes P False :=
  ⟨False.elim, fun _ => h⟩

theorem Splits.congr {r : Reader α} {bytes : List UInt8} {P : α → Prop} {c c' : Prop}
    (h : r.Splits bytes P c) (hc : c' ↔ c) : r.Splits bytes P c' :=
  ⟨fun hc' => h.1 (hc.mp hc'), fun hnot => h.2 fun hc' => hnot (hc.mpr hc')⟩

theorem Splits.map {r : Reader α} {g : α → β} {bytes : List UInt8} {P : α → Prop} {Q : β → Prop}
    {condition : Prop} (h : r.Splits bytes P condition) (hg : ∀ x, P x → Q (g x)) :
    (g <$> r).Splits bytes Q condition :=
  ⟨fun hc => (h.1 hc).map hg, fun hnot => (h.2 hnot).map g⟩

theorem Takes.bind_splits {r : Reader α} {f : α → Reader β} {xs ys : List UInt8}
    {P : α → Prop} {Q : β → Prop} {condition : Prop} (hr : r.Takes xs P)
    (hf : ∀ x, P x → (f x).Splits ys Q condition) : (r >>= f).Splits (xs ++ ys) Q condition :=
  ⟨fun hc => hr.bind fun x hx => (hf x hx).1 hc,
    fun hnot => hr.bind_fails fun x hx => (hf x hx).2 hnot⟩

/-- Two parts, each under its own condition: the second is not reached when the first
    fails. -/
theorem Splits.two {r : Reader α} {r' : Reader β} {xs ys : List UInt8} {P : α → Prop}
    {Q : β → Prop} {c c' : Prop} (h : r.Splits xs P c) (h' : r'.Splits ys Q c') :
    (do let x ← r; let y ← r'; pure (x, y)).Splits (xs ++ ys) (fun p => P p.1 ∧ Q p.2)
      (c ∧ c') := by
  constructor
  · rintro ⟨hc, hc'⟩
    exact (h.1 hc).two (h'.1 hc')
  · intro hnot
    by_cases hc : c
    · exact (h.1 hc).two_fails (h'.2 fun hc' => hnot ⟨hc, hc'⟩)
    · exact (h.2 hc).two r' ys

/-- Only what is taken is read as a right value. -/
theorem Splits.of_read {r : Reader α} {bytes rest rest' : List UInt8} {P : α → Prop}
    {condition : Prop} (h : r.Splits bytes P condition) {x : α}
    (hread : r (bytes ++ rest) = some (x, rest')) : condition := by
  by_contra hnot
  rw [h.2 hnot rest] at hread
  cases hread

/-! ### What is consumed -/

theorem Consumes.imp {r : Reader α} {P Q : α → Nat → Prop} (h : r.Consumes P)
    (hPQ : ∀ x n, P x n → Q x n) : r.Consumes Q := by
  intro s x rest hs
  obtain ⟨n, hn, hP⟩ := h s x rest hs
  exact ⟨n, hn, hPQ x n hP⟩

theorem consumes_pure {x : α} {P : α → Nat → Prop} (h : P x 0) :
    (pure x : Reader α).Consumes P := by
  intro s y rest hs
  cases hs
  exact ⟨0, (Nat.zero_add _).symm, h⟩

theorem Consumes.bind {r : Reader α} {f : α → Reader β} {P : α → Nat → Prop}
    {Q : β → Nat → Prop} (hr : r.Consumes P)
    (hf : ∀ x n, P x n → (f x).Consumes fun y m => Q y (n + m)) : (r >>= f).Consumes Q := by
  intro s y rest hs
  rw [bind_apply] at hs
  obtain ⟨⟨x, s'⟩, hx, hy⟩ := Option.bind_eq_some_iff.mp hs
  obtain ⟨n, hn, hP⟩ := hr s x s' hx
  obtain ⟨m, hm, hQ⟩ := hf x n hP s' y rest hy
  exact ⟨n + m, by omega, hQ⟩

theorem Consumes.map {r : Reader α} {g : α → β} {P : α → Nat → Prop} {Q : β → Nat → Prop}
    (hr : r.Consumes P) (hg : ∀ x n, P x n → Q (g x) n) : (g <$> r).Consumes Q := by
  intro s y rest hs
  rw [map_apply] at hs
  obtain ⟨⟨x, s'⟩, hx, hy⟩ := Option.map_eq_some_iff.mp hs
  cases hy
  obtain ⟨n, hn, hP⟩ := hr s x s' hx
  exact ⟨n, hn, hg x n hP⟩

/-- What holds of the values combined so far and the bytes they have taken, for a
    reader of several values. -/
theorem Consumes.fold {r : Reader α} {step : γ → α → γ} {P : α → Nat → Prop}
    {I : γ → Nat → Prop} (hr : r.Consumes P)
    (hstep : ∀ acc k x m, I acc k → P x m → I (step acc x) (k + m)) (n : Nat) {acc : γ} {k : Nat}
    (hacc : I acc k) : (r.fold step n acc).Consumes fun out m => I out (k + m) := by
  induction n generalizing acc k with
  | zero => exact consumes_pure hacc
  | succ n ih =>
    apply hr.bind
    intro x m hP
    apply (ih (hstep acc k x m hacc hP)).imp
    intro out l hI
    rw [← Nat.add_assoc]
    exact hI

end Reader
end Wire
