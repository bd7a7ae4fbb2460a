/-!
# Modular powers

Powers of numbers modulo another, taken by repeated squaring.
-/

set_option autoImplicit false

namespace Missive.Number

/-- `base ^ exponent % modulus`, by squaring: no intermediate value exceeds the
square of the modulus. -/
def powMod (base exponent modulus : Nat) : Nat :=
  if exponent = 0 then 1 % modulus
  else
    let half := powMod (base * base % modulus) (exponent / 2) modulus
    if exponent % 2 = 1 then base * half % modulus else half
termination_by exponent
decreasing_by omega

end Missive.Number
