/-!
# Modular inverses

The extended algorithm of Euclid, as far as an inverse needs it.
-/

set_option autoImplicit false

namespace Missive.Number

/-- The inverse of `value` modulo `modulus` where there is one. The two pairs
are a remainder and the factor of `value` that it stands for. -/
def inverseFrom (modulus : Nat) (old : Nat × Int) (new : Nat × Int) : Option Nat :=
  if new.1 = 0 then
    if old.1 = 1 then some (old.2 % modulus).toNat else none
  else
    inverseFrom modulus new (old.1 % new.1, old.2 - (old.1 / new.1 : Nat) * new.2)
termination_by new.1
decreasing_by exact Nat.mod_lt _ (by omega)

/-- The inverse of a number modulo another, if they have no common factor. -/
def inverse? (value modulus : Nat) : Option Nat :=
  inverseFrom modulus (modulus, 0) (value % modulus, 1)

end Missive.Number
