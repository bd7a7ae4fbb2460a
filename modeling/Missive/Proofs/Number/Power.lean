import Mathlib
import Missive.Number.ModularPower

/-!
# Laws of modular powers

Repeated squaring computes the remainder of the power, for every modulus.
-/

set_option autoImplicit false

namespace Missive.Number

/-- Squaring is a way to take powers. This needs no condition on the modulus:
modulo zero both sides are the plain power. -/
theorem powMod_eq (base exponent modulus : Nat) :
    powMod base exponent modulus = base ^ exponent % modulus := by
  induction exponent using Nat.strongRecOn generalizing base with
  | ind exponent ih =>
      rw [powMod]
      split
      · rename_i empty
        simp [empty]
      · rename_i positive
        have halved := ih (exponent / 2) (by omega) (base * base % modulus)
        have squared : (base * base % modulus) ^ (exponent / 2) % modulus =
            base ^ (2 * (exponent / 2)) % modulus := by
          rw [← Nat.pow_mod, Nat.pow_mul, Nat.pow_two]
        simp only [halved, squared]
        split
        · rename_i odd
          rw [Nat.mul_mod_mod, ← Nat.pow_succ', show (2 * (exponent / 2)).succ = exponent by omega]
        · rename_i even
          rw [show 2 * (exponent / 2) = exponent by omega]

end Missive.Number
