import Mathlib.Data.Nat.Digits.Lemmas
import ZAF.Serialization.Types

/-! # Handles of actors and urls of net gates

    An actor is local, or it is at the other end of a connection between two net
    gates. The url of a net gate is its host and its port, printed with a colon in
    between. Urls are compared as strings, so it matters that the printing can be
    undone.
-/

namespace ZAF

/-! ### Urls -/

/-- A host. No `std::string` is longer. -/
abbrev Host := { chars : List UInt8 // chars.length < 2 ^ 63 }

/-- The host in the examples. -/
def loopback : Host := ⟨[108, 111], by decide⟩

/-- `':'` -/
def colon : UInt8 := 58

/-- `to_string` of an `int` that is not negative. -/
def decimal (n : Nat) : List UInt8 :=
  if n = 0 then [48] else (Nat.digits 10 n).reverse.map fun d => UInt8.ofNat (48 + d)

theorem length_decimal_le (port : UInt16) : (decimal port.toNat).length ≤ 5 := by
  have hlt : port.toNat < 10 ^ 5 := Nat.lt_of_lt_of_le (UInt16.toNat_lt port) (by decide)
  unfold decimal
  split
  · decide
  · rw [List.length_map, List.length_reverse]
    exact (Nat.digits_length_le_iff (by decide) _).mpr hlt

theorem toNat_digit {d : Nat} (h : d < 10) : (UInt8.ofNat (48 + d)).toNat = 48 + d :=
  UInt8.toNat_ofNat_of_lt' (Nat.lt_trans (Nat.add_lt_add_left h 48) (by decide))

/-- The number that has been printed. -/
theorem ofDigits_decimal (n : Nat) :
    Nat.ofDigits 10 ((decimal n).reverse.map fun b => b.toNat - 48) = n := by
  unfold decimal
  split
  · next hzero =>
    subst hzero
    rfl
  · rw [← List.map_reverse, List.reverse_reverse, List.map_map]
    have hdigits : (Nat.digits 10 n).map ((fun b => b.toNat - 48) ∘ fun d => UInt8.ofNat (48 + d)) =
        Nat.digits 10 n := by
      nth_rewrite 2 [← List.map_id (Nat.digits 10 n)]
      apply List.map_congr_left
      intro d hd
      show (UInt8.ofNat (48 + d)).toNat - 48 = d
      rw [toNat_digit (Nat.digits_lt_base (by decide) hd), Nat.add_sub_cancel_left]
    rw [hdigits, Nat.ofDigits_digits]

theorem decimal_injective : Function.Injective decimal := by
  intro m n h
  rw [← ofDigits_decimal m, h, ofDigits_decimal]

theorem colon_notMem_decimal (n : Nat) : colon ∉ decimal n := by
  intro hmem
  unfold decimal at hmem
  split at hmem
  · exact absurd hmem (by decide)
  · obtain ⟨d, hd, heq⟩ := List.mem_map.mp hmem
    have hlt : d < 10 := Nat.digits_lt_base (by decide) (List.mem_reverse.mp hd)
    have hcolon : 48 + d = 58 := (toNat_digit hlt).symm.trans (congrArg UInt8.toNat heq)
    omega

/-- `to_string(host, ':', port)` -/
def gate_url (host : Host) (port : UInt16) : Sized UInt8 where
  val := host.1 ++ colon :: decimal port.toNat
  property := by
    have hhost := host.2
    have hport := length_decimal_le port
    rw [List.length_append, List.length_cons]
    omega

/-- The port is what comes after the last colon. -/
theorem append_colon_inj {host host' port port' : List UInt8} (hport : colon ∉ port)
    (hport' : colon ∉ port') (h : host ++ colon :: port = host' ++ colon :: port') :
    host = host' ∧ port = port' := by
  rcases List.append_eq_append_iff.mp h with ⟨rest, rfl, hrest⟩ | ⟨rest, rfl, hrest⟩
  · cases rest with
    | nil => exact ⟨(List.append_nil _).symm, List.tail_eq_of_cons_eq hrest⟩
    | cons b rest =>
      rw [List.tail_eq_of_cons_eq hrest] at hport
      exact absurd (List.mem_append_right _ List.mem_cons_self) hport
  · cases rest with
    | nil => exact ⟨List.append_nil _, (List.tail_eq_of_cons_eq hrest).symm⟩
    | cons b rest =>
      rw [List.tail_eq_of_cons_eq hrest] at hport'
      exact absurd (List.mem_append_right _ List.mem_cons_self) hport'

theorem gate_url_inj {host host' : Host} {port port' : UInt16}
    (h : gate_url host port = gate_url host' port') : host = host' ∧ port = port' := by
  obtain ⟨hhost, hport⟩ := append_colon_inj (colon_notMem_decimal _) (colon_notMem_decimal _)
    (congrArg Subtype.val h)
  exact ⟨Subtype.ext hhost, UInt16.toNat_inj.mp (decimal_injective hport)⟩

/-- `std::string("")` -/
def no_url : Sized UInt8 := ⟨[], by decide⟩

theorem gate_url_ne_no_url (host : Host) (port : UInt16) : gate_url host port ≠ no_url := by
  intro h
  exact List.append_ne_nil_of_right_ne_nil _ (List.cons_ne_nil _ _) (congrArg Subtype.val h)

/-- `to_string("tcp://", host, ':', port)` -/
def tcp_url (host : Host) (port : UInt16) : List UInt8 :=
  [116, 99, 112, 58, 47, 47] ++ (gate_url host port).1

theorem tcp_url_ne_nil (host : Host) (port : UInt16) : tcp_url host port ≠ [] := by
  rw [tcp_url]
  exact List.cons_ne_nil _ _

/-! ### Handles -/

structure NetSenderInfo where
  net_sender : LocalActorHandle
  local_net_gate_url : Sized UInt8
  remote_net_gate_url : Sized UInt8
  deriving DecidableEq

/-- The `net_sender_info` is a reference in the code. -/
structure RemoteActorHandle where
  net_sender_info : NetSenderInfo
  remote_actor : LocalActorHandle
  deriving DecidableEq

inductive Actor where
  | local_actor (handle : LocalActorHandle)
  | remote_actor (handle : RemoteActorHandle)
  deriving DecidableEq

end ZAF
