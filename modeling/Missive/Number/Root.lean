/-!
# Whole roots

Integer roots of any degree, and the leading fraction bits of irrational roots
that hash functions take their constants from.
-/

set_option autoImplicit false

namespace Missive.Number

/-- The greatest number of at most `bits` bits whose power of this degree does not
exceed `number`, found from its leading bit down. -/
def root (degree bits number : Nat) : Nat :=
  (List.range bits).foldr
    (fun bit found =>
      let candidate := found + 1 <<< bit
      if Nat.pow candidate degree ≤ number then candidate else found)
    0

/-- The first `bits` fraction bits of the root of a number whose root has at most
eight bits, as a whole number. -/
def rootFraction (degree bits number : Nat) : Nat :=
  root degree (bits + 8) (number <<< (bits * degree)) % (1 <<< bits)

end Missive.Number
