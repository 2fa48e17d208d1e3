import Mathlib.Data.Nat.Bitwise
import Mathlib.Tactic.Ring

/-! # Bit fields of bytes

Shifts and masks of the sources, read as division, remainder and sum.
-/

namespace GoldenGate.Bytes

theorem and_mask (n k : Nat) : n &&& (2 ^ k - 1) = n % 2 ^ k := Nat.and_two_pow_sub_one_eq_mod n k

/-- Disjoint bit fields: an `or` is a sum. -/
theorem shiftLeft_or (a : Nat) {b k : Nat} (h : b < 2 ^ k) : (a <<< k) ||| b = a * 2 ^ k + b := by
  rw [Nat.shiftLeft_eq, Nat.mul_comm, Nat.two_pow_add_eq_or_of_lt h]

@[simp] theorem high_nibble (b : UInt8) : (b.toNat >>> 4) &&& 0xF = b.toNat / 16 := by
  have small := b.toNat_lt
  refine (and_mask (b.toNat >>> 4) 4).trans ?_
  rw [Nat.shiftRight_eq_div_pow]
  omega

@[simp] theorem low_nibble (b : UInt8) : b.toNat &&& 0xF = b.toNat % 16 := and_mask _ 4

@[simp] theorem top_bits (b : UInt8) : (b.toNat >>> 6) &&& 3 = b.toNat / 64 := by
  have small := b.toNat_lt
  refine (and_mask (b.toNat >>> 6) 2).trans ?_
  rw [Nat.shiftRight_eq_div_pow]
  omega

@[simp] theorem middle_bits (b : UInt8) : (b.toNat >>> 4) &&& 3 = b.toNat / 16 % 4 := by
  refine (and_mask (b.toNat >>> 4) 2).trans ?_
  rw [Nat.shiftRight_eq_div_pow]
  rfl

@[simp] theorem bigEndian16 (hi lo : UInt8) :
    (hi.toNat <<< 8) ||| lo.toNat = hi.toNat * 256 + lo.toNat :=
  shiftLeft_or _ lo.toNat_lt

end GoldenGate.Bytes
