import Mathlib.Algebra.Order.Field.Basic
import Mathlib.Data.List.FinRange
import Mathlib.Data.Rat.Cast.Order
import Mathlib.Tactic.NormNum
import Mathlib.Tactic.Positivity
import ZAF.Framework.System
import ZAF.Framework.TwoEnded

/-! # Balancing the load of the executors

    An executor counts the rounds of its main loop: the slower it is, the fewer rounds it
    makes. When one of them has reached the period, the first executor sorts the executors
    by their counts and tells slow ones to send an actor to fast ones, from both ends of
    the sorted list, until the counts are close enough.

    Counts are unsigned numbers of 64 bits; the arithmetic of `double` is exact here.
-/

namespace ZAF.Rebalancing

open TwoEnded

/-! ### Sorting -/

/-- `std::sort`. The order of two elements of which none is less than the other is open. -/
structure StdSort where
  sort : {α : Type} → (less : α → α → Bool) → List α → List α
  perm : ∀ {α : Type} (less : α → α → Bool) (xs : List α), (sort less xs).Perm xs
  sorted : ∀ {α : Type} (less : α → α → Bool) (xs : List α),
    IsStrictWeakOrder α (fun a b => less a b = true) →
      (sort less xs).Pairwise fun a b => less b a = false

/-- A stable one. -/
def StdSort.stable : StdSort where
  sort less xs := xs.mergeSort fun a b => !less b a
  perm less xs := List.mergeSort_perm xs _
  sorted less xs h := by
    have htrans (a b c) (hab : (!less b a) = true) (hbc : (!less c b) = true) :
        (!less c a) = true := by
      by_contra hac
      simp only [Bool.not_eq_eq_eq_not, Bool.not_true, Bool.not_eq_false] at hab hbc hac
      by_cases hba : less a b = true
      · rw [h.trans _ _ _ hac hba] at hbc
        cases hbc
      · have hincomp := h.incomp_trans a b c ⟨hba, by simp [hab]⟩
        by_cases hcb : less b c = true
        · rw [h.trans _ _ _ hcb hac] at hab
          cases hab
        · exact (hincomp ⟨hcb, by simp [hbc]⟩).2 hac
    have htotal (a b) : (!less b a || !less a b) = true := by
      by_contra hab
      simp only [Bool.or_eq_true, Bool.not_eq_eq_eq_not, Bool.not_true, not_or,
        Bool.not_eq_false] at hab
      exact h.irrefl _ (h.trans _ _ _ hab.1 hab.2)
    have hsorted : (xs.mergeSort fun a b => !less b a).Pairwise fun a b => (!less b a) = true :=
      List.pairwise_mergeSort htrans htotal xs
    exact hsorted.imp fun hab => by simpa using hab

/-! ### The engine -/

/-- The counts of the executors in one period. -/
structure LoadInfo (n : Nat) where
  executor_load_counts : Fin n → UInt64
  need_load_rebalance : Bool

/-- What the executors of an engine share, for `n` executors. -/
structure ActorEngine (n : Nat) where
  num_executors_pos : 0 < n
  /-- One for this period and one for the next. -/
  load_infos : Bool → LoadInfo n
  current_load_info_index : Bool
  executor_load_indices : List (Fin n)
  permutation : executor_load_indices.Perm (List.finRange n)
  load_diff_ratio : ℚ
  load_rebalance_period : UInt64

namespace ActorEngine

variable {n : Nat}

theorem length_indices (s : ActorEngine n) : s.executor_load_indices.length = n := by
  rw [s.permutation.length_eq, List.length_finRange]

theorem nodup_indices (s : ActorEngine n) : s.executor_load_indices.Nodup :=
  s.permutation.nodup_iff.mpr (List.nodup_finRange n)

/-- `(count_j - count_i) / double(count_i + 1e-6)` -/
def diff (count_i count_j : UInt64) : ℚ := (count_j - count_i).toNat / (count_i.toNat + 1 / 1000000)

/-- The loop of `load_rebalance`: the executors that are sent `Rebalance`, each with its
    peer. -/
def rebalance_loop (ratio : ℚ) (counts : Fin n → UInt64) (indices : List (Fin n)) (i j : Nat)
    (hj : j < indices.length) : List (Fin n × Fin n) :=
  if h : i < j then
    let idx_i := indices[i]
    let idx_j := indices[j]
    if ratio ≤ diff (counts idx_i) (counts idx_j) then
      (idx_i, idx_j) :: rebalance_loop ratio counts indices (i + 1) (j - 1) (by omega)
    else []
  else []
termination_by j - i

/-- The counts of the period that comes to its end. -/
def counts (s : ActorEngine n) : Fin n → UInt64 :=
  (s.load_infos s.current_load_info_index).executor_load_counts

/-- The indices sorted by the counts. -/
def sorted_indices (std : StdSort) (s : ActorEngine n) : List (Fin n) :=
  std.sort (fun i j => s.counts i < s.counts j) s.executor_load_indices

theorem sorted_indices_perm (std : StdSort) (s : ActorEngine n) :
    (s.sorted_indices std).Perm (List.finRange n) :=
  (std.perm _ _).trans s.permutation

def load_rebalance (std : StdSort) (s : ActorEngine n) : ActorEngine n × List (Fin n × Fin n) :=
  let load_info_index := s.current_load_info_index
  let indices := s.sorted_indices std
  have hperm := s.sorted_indices_perm std
  let sent := rebalance_loop s.load_diff_ratio s.counts indices 0 (n - 1) (by
    rw [hperm.length_eq, List.length_finRange]
    exact Nat.sub_one_lt_of_lt s.num_executors_pos)
  ({ s with
      current_load_info_index := !load_info_index
      executor_load_indices := indices
      permutation := hperm
      load_infos := Function.update s.load_infos load_info_index ⟨fun _ => 0, false⟩ }, sent)

/-- The end of a round of an executor, in `launch`. -/
def end_round (std : StdSort) (s : ActorEngine n) (eid : Fin n) :
    ActorEngine n × List (Fin n × Fin n) :=
  if s.load_rebalance_period = 0 then (s, [])
  else
    let load := s.load_infos s.current_load_info_index
    let counts := Function.update load.executor_load_counts eid (load.executor_load_counts eid + 1)
    let need := load.need_load_rebalance || counts eid == s.load_rebalance_period
    let s := { s with
      load_infos := Function.update s.load_infos s.current_load_info_index ⟨counts, need⟩ }
    if eid.val = 0 ∧ need = true then s.load_rebalance std else (s, [])

/-! ### What is expected of it -/

/-- The difference of two counts, relative to that of the slow executor. -/
def relative_difference (slow fast : UInt64) : ℚ :=
  ((fast.toNat : ℚ) - slow.toNat) / (slow.toNat + 1 / 1000000)

/-- What `load_rebalance` does to an engine, and the `Rebalance` messages that it sends: the
    receiver and the peer of each. -/
structure Balanced (s s' : ActorEngine n) (sent : List (Fin n × Fin n)) : Prop where
  permutation : s'.executor_load_indices.Perm (List.finRange n)
  sorted : s'.executor_load_indices.Pairwise fun i j => s.counts i ≤ s.counts j
  /-- The slowest executor goes with the fastest one, and so on. -/
  pairs : sent = (ends s'.executor_load_indices).filter fun p =>
    s.load_diff_ratio ≤ relative_difference (s.counts p.1) (s.counts p.2)
  /-- Nobody is in two pairs, or in a pair with itself. -/
  once : (sent.map Prod.fst ++ sent.map Prod.snd).Nodup
  /-- The loop subtracts the counts of such pairs only. -/
  no_underflow : ∀ p ∈ ends s'.executor_load_indices, s.counts p.1 ≤ s.counts p.2
  reset : ∀ i, (s'.load_infos s.current_load_info_index).executor_load_counts i = 0

/-! ### Relative differences -/

theorem diff_eq {slow fast : UInt64} (h : slow ≤ fast) :
    diff slow fast = relative_difference slow fast := by
  rw [diff, relative_difference, UInt64.toNat_sub_of_le _ _ h,
    Nat.cast_sub (UInt64.le_iff_toNat_le.mp h)]

/-- Further inside, the difference is smaller. -/
theorem relative_difference_le {slow slow' fast fast' : UInt64} (hslow : slow ≤ slow')
    (h : slow' ≤ fast') (hfast : fast' ≤ fast) :
    relative_difference slow' fast' ≤ relative_difference slow fast := by
  have hslow : (slow.toNat : ℚ) ≤ slow'.toNat := by
    exact_mod_cast UInt64.le_iff_toNat_le.mp hslow
  have h : (slow'.toNat : ℚ) ≤ fast'.toNat := by exact_mod_cast UInt64.le_iff_toNat_le.mp h
  have hfast : (fast'.toNat : ℚ) ≤ fast.toNat := by
    exact_mod_cast UInt64.le_iff_toNat_le.mp hfast
  have hpos : (0 : ℚ) < slow.toNat + 1 / 1000000 := by positivity
  exact div_le_div₀ (sub_nonneg.mpr (hslow.trans (h.trans hfast))) (sub_le_sub hfast hslow) hpos
    (add_le_add_left hslow _)

/-! ### The loop -/

/-- The loop goes through the pairs from the outside, up to the first one that is close. -/
theorem rebalance_loop_eq (ratio : ℚ) (counts : Fin n → UInt64) {indices : List (Fin n)}
    {i j : Nat} (hj : j < indices.length) (hends : i + j + 1 = indices.length) :
    rebalance_loop ratio counts indices i j hj = ((ends indices).drop i).takeWhile fun p =>
      ratio ≤ diff (counts p.1) (counts p.2) := by
  fun_induction rebalance_loop ratio counts indices i j hj with
  | case1 i j hj hij idx_i idx_j hdiff ih =>
    rw [drop_ends hij hj hends, List.takeWhile_cons_of_pos (by simpa using hdiff),
      ih (by omega)]
  | case2 i j hj hij idx_i idx_j hdiff =>
    rw [drop_ends hij hj hends, List.takeWhile_cons_of_neg (by simpa using hdiff)]
  | case3 i j hj hij =>
    rw [drop_ends_nil hij hends]
    rfl

/-- **The loop misses no pair**, if the indices are sorted. -/
theorem rebalance_loop_eq_filter (ratio : ℚ) {counts : Fin n → UInt64} {indices : List (Fin n)}
    (hsorted : indices.Pairwise fun i j => counts i ≤ counts j) {j : Nat}
    (hj : j < indices.length) (hends : 0 + j + 1 = indices.length) :
    rebalance_loop ratio counts indices 0 j hj = (ends indices).filter fun p =>
      ratio ≤ relative_difference (counts p.1) (counts p.2) := by
  have hle := rel_of_mem_ends hsorted
  rw [rebalance_loop_eq ratio counts hj hends, List.drop_zero, takeWhile_eq_filter]
  · apply List.filter_congr
    intro p hp
    rw [diff_eq (hle p hp)]
  · apply (pairwise_ends hsorted).imp_of_mem
    rintro p q hp hq ⟨hslow, hfast⟩ hratio
    simp only [decide_eq_true_eq, diff_eq (hle p hp), diff_eq (hle q hq)] at hratio ⊢
    exact hratio.trans (relative_difference_le hslow (hle q hq) hfast)

/-! ### The whole call -/

theorem less_isStrictWeakOrder (counts : Fin n → UInt64) :
    IsStrictWeakOrder (Fin n) fun i j => decide (counts i < counts j) = true := by
  simp only [decide_eq_true_eq, UInt64.lt_iff_toNat_lt]
  refine { irrefl := ?_, trans := ?_, incomp_trans := ?_ }
  · intro i
    exact Nat.lt_irrefl _
  · intro i j k
    exact Nat.lt_trans
  · intro i j k
    omega

theorem sorted_indices_sorted (std : StdSort) (s : ActorEngine n) :
    (s.sorted_indices std).Pairwise fun i j => s.counts i ≤ s.counts j := by
  apply (std.sorted _ _ (less_isStrictWeakOrder s.counts)).imp
  intro i j hij
  rw [decide_eq_false_iff_not] at hij
  exact UInt64.not_lt.mp hij

/-- **`load_rebalance` finds all pairs, and only these.** -/
theorem load_rebalance_balanced (std : StdSort) (s : ActorEngine n) :
    Balanced s (s.load_rebalance std).1 (s.load_rebalance std).2 := by
  have hsorted := s.sorted_indices_sorted std
  have hlength : (s.sorted_indices std).length = n := (s.load_rebalance std).1.length_indices
  have hends : 0 + (n - 1) + 1 = (s.sorted_indices std).length := by
    rw [hlength]
    have hpos := s.num_executors_pos
    omega
  have hpairs := rebalance_loop_eq_filter s.load_diff_ratio hsorted (by omega) hends
  exact {
    permutation := s.sorted_indices_perm std
    sorted := hsorted
    pairs := hpairs
    once := by
      apply nodup_of_sublist_ends (s.load_rebalance std).1.nodup_indices
      show List.Sublist (rebalance_loop _ _ _ _ _ _) _
      rw [hpairs]
      exact List.filter_sublist
    no_underflow := rel_of_mem_ends hsorted
    reset := fun i => by
      show ((Function.update s.load_infos _ _) _).executor_load_counts i = 0
      rw [Function.update_self] }

/-! ### From period to period -/

/-- The executors of an engine at the ends of their rounds, in any order. -/
def rounds (std : StdSort) : LTS.System (ActorEngine n) (Fin n) where
  init s := ∀ index, s.load_infos index = ⟨fun _ => 0, false⟩
  next s eid := some (s.end_round std eid).1

/-- The counts of the next period are ready. -/
def Rested (s : ActorEngine n) : Prop :=
  s.load_infos (!s.current_load_info_index) = ⟨fun _ => 0, false⟩

theorem rested_load_rebalance (std : StdSort) (s : ActorEngine n) :
    (s.load_rebalance std).1.Rested := by
  show Function.update s.load_infos _ _ (!!_) = _
  rw [Bool.not_not, Function.update_self]

theorem Rested.end_round {s : ActorEngine n} (h : s.Rested) (std : StdSort) (eid : Fin n) :
    (s.end_round std eid).1.Rested := by
  unfold ActorEngine.end_round
  dsimp only
  split
  · exact h
  · split
    · exact rested_load_rebalance std _
    · show Function.update s.load_infos _ _ (!_) = _
      rw [Function.update_of_ne (Bool.not_ne_self _)]
      exact h

/-- **Every period starts with no rounds counted.** -/
theorem rested_of_reachable (std : StdSort) {s : ActorEngine n}
    (h : LTS.Reachable (rounds std) s) : s.Rested := by
  apply h.invariant Rested
  · intro s hinit
    exact hinit _
  · intro s eid s' hs _ hnext
    cases hnext
    exact hs.end_round std eid

end ActorEngine
end ZAF.Rebalancing
