/-!
# Jacobi symbols

Whether a number looks like a square modulo an odd one, by the law of quadratic
reciprocity and without any factor of either.
-/

set_option autoImplicit false

namespace Missive.Number

/-- The Jacobi symbol of a number over an odd one: zero if they share a factor,
and otherwise one or minus one. Twos are taken out of the upper number, and odd
numbers change places. -/
def jacobi (upper lower : Nat) : Int :=
  if upper = 0 then if lower = 1 then 1 else 0
  else if upper % 2 = 0 then
    let halved := jacobi (upper / 2) lower
    if lower % 8 = 3 ∨ lower % 8 = 5 then -halved else halved
  else
    let turned := jacobi (lower % upper) upper
    if upper % 4 = 3 ∧ lower % 4 = 3 then -turned else turned
termination_by upper
decreasing_by
  · omega
  · exact Nat.mod_lt _ (by omega)

end Missive.Number
