import Mathlib
import Missive.Number.BitLength

/-!
# Laws of bit lengths

A bound on the bits of a number is a bound by a power of two. The octets counted
for a number hold it, and no fewer do.
-/

set_option autoImplicit false

namespace Missive

/-- A number has at most so many bits exactly when it lies below that power of
two. This covers zero. -/
theorem bitLength_le_iff {number bits : Nat} : bitLength number ≤ bits ↔ number < 2 ^ bits := by
  unfold bitLength
  split
  · rename_i zero
    simp [zero]
  · rename_i positive
    exact Nat.log2_lt positive

/-- The octets for the bits of a number hold the number. -/
theorem lt_octetsForBits (number : Nat) : number < 256 ^ octetsForBits (bitLength number) := by
  have bound : number < 2 ^ bitLength number := bitLength_le_iff.1 (Nat.le_refl _)
  rw [show (256 : Nat) = 2 ^ 8 by rfl, ← Nat.pow_mul]
  refine Nat.lt_of_lt_of_le bound (Nat.pow_le_pow_right (by decide) ?_)
  simp only [octetsForBits]
  omega

/-- One octet fewer does not hold a number other than zero. -/
theorem octetsForBits_le {number : Nat} (positive : 0 < number) :
    256 ^ (octetsForBits (bitLength number) - 1) ≤ number := by
  have exceeds : ¬ number < 2 ^ (bitLength number - 1) := by
    rw [← bitLength_le_iff]
    have some : bitLength number ≠ 0 := by
      intro none
      have zero := bitLength_le_iff.1 (Nat.le_of_eq none)
      omega
    omega
  have fewer : 8 * (octetsForBits (bitLength number) - 1) ≤ bitLength number - 1 := by
    simp only [octetsForBits]
    omega
  calc 256 ^ (octetsForBits (bitLength number) - 1)
      = 2 ^ (8 * (octetsForBits (bitLength number) - 1)) := by rw [Nat.pow_mul]
    _ ≤ 2 ^ (bitLength number - 1) := Nat.pow_le_pow_right (by decide) fewer
    _ ≤ number := Nat.not_lt.1 exceeds

end Missive
