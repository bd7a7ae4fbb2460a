import Missive.Number.ModularPower

/-!
# The strong test

Modulo a prime, a power that is one has been one or minus one since the odd part
of its exponent was taken. The test asks this of one base, and a number that is
not prime fails it for most bases.
-/

set_option autoImplicit false

namespace Missive.Number

/-- The odd part of a positive number, and how often two divides it. -/
def oddPart (number : Nat) : Nat × Nat :=
  if number = 0 ∨ number % 2 = 1 then (number, 0)
  else
    let (odd, twos) := oddPart (number / 2)
    (odd, twos + 1)
termination_by number
decreasing_by omega

/-- Whether repeated squaring meets `number - 1` among the next residues. -/
def reachesMinusOne (number : Nat) : Nat → Nat → Bool
  | 0, _ => false
  | squarings + 1, residue =>
    residue == number - 1 || reachesMinusOne number squarings (residue * residue % number)

/-- Whether an odd number looks prime to one base. -/
def strongProbablePrime (number base : Nat) : Bool :=
  let (odd, twos) := oddPart (number - 1)
  let residue := powMod base odd number
  residue == 1 || reachesMinusOne number twos residue

end Missive.Number
