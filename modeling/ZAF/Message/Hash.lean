import Mathlib.Data.UInt
import ZAF.Framework.Combine

/-! # Combining type hash codes

    A message body and a message handler each carry one 64-bit code for a list
    of types: `hash_combine` applied to the `typeid` hash codes of the list.
    `std_hash` stands for `std::hash<size_t>`.

    `hash_combine` shifts the hash of each argument where it ought to shift what
    has been combined so far, so it is a sum, symmetric in all arguments but the
    last one.
-/

namespace ZAF

open Combine

/-- `hash_combine` on the given `size_t` arguments. -/
def hash_combine (std_hash : UInt64 → UInt64) : List UInt64 → UInt64
  | [] => 0
  | [x] => std_hash x
  | x :: y :: args =>
    let h := std_hash x
    hash_combine std_hash (y :: args) + (0x9e3779b9 : UInt64) + (h <<< (6 : UInt64)) +
      (h >>> (2 : UInt64))

/-- The two shifts of `hash_combine`. -/
def hash_mix (h : UInt64) : UInt64 := (h <<< (6 : UInt64)) + (h >>> (2 : UInt64))

/-- What an argument other than the last one adds to the combination. -/
def hash_share (h : UInt64) : UInt64 := (0x9e3779b9 : UInt64) + hash_mix h

/-- The code has the form that only the last argument gives an order to. -/
theorem hash_combine_eq_combine (std_hash : UInt64 → UInt64) (xs : List UInt64) :
    hash_combine std_hash xs = combine hash_share (xs.map std_hash) := by
  -- The induction is that of `hash_combine`: none, one, or several arguments.
  induction xs using hash_combine.induct std_hash with
  | case1 => rfl
  | case2 x => rfl
  | case3 x y args ih =>
    have htail : (y :: args).map std_hash ≠ [] := by simp
    rw [hash_combine, ih, show (x :: y :: args).map std_hash =
      std_hash x :: (y :: args).map std_hash from rfl, combine_cons hash_share _ htail, hash_share,
      hash_mix]
    abel

/-- What the last argument contributes to the order: two orderings of the same
    arguments get the same code when their last arguments agree here. -/
def order_mark (std_hash : UInt64 → UInt64) (x : UInt64) : UInt64 :=
  std_hash x - hash_mix (std_hash x)

/-- The mark of an argument is its excess, up to the constant. -/
theorem order_mark_eq (std_hash : UInt64 → UInt64) (x : UInt64) :
    order_mark std_hash x = excess hash_share (std_hash x) + (0x9e3779b9 : UInt64) := by
  rw [order_mark, excess, hash_share, sub_add_eq_sub_sub_swap, sub_add_cancel]

/-- **Two orderings of the same arguments get different codes exactly when their
    last arguments have different marks.** -/
theorem hash_combine_perm_eq_iff (std_hash : UInt64 → UInt64) {xs ys : List UInt64}
    {a b : UInt64} (h : (xs ++ [a]).Perm (ys ++ [b])) :
    hash_combine std_hash (xs ++ [a]) = hash_combine std_hash (ys ++ [b]) ↔
      order_mark std_hash a = order_mark std_hash b := by
  have hperm : (xs.map std_hash ++ [std_hash a]).Perm (ys.map std_hash ++ [std_hash b]) := by
    simpa only [List.map_append, List.map_cons, List.map_nil] using h.map std_hash
  rw [hash_combine_eq_combine, hash_combine_eq_combine, order_mark_eq, order_mark_eq,
    add_left_inj, ← combine_perm_eq_iff hash_share hperm]
  simp only [List.map_append, List.map_cons, List.map_nil]

end ZAF
