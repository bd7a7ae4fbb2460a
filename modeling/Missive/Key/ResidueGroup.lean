import Missive.Number.BitLength
import Missive.Number.Prime

/-!
# Residue groups

The groups that keys for agreement on a secret live in: the powers of a generator
modulo a prime. The order of the generator is told, or the modulus is such that
hardly any order is possible.
-/

set_option autoImplicit false

namespace Missive

/-- A generator modulo a number. -/
structure ResidueGroup where
  modulus : Nat
  generator : Nat
  /-- The number of powers of the generator, where it is told. -/
  order : Option Nat

namespace ResidueGroup

/-- Whether a number is the order of the generator: a prime that leaves one as
the remainder of the modulus, and takes the generator to one. -/
def isOrder (group : ResidueGroup) (order : Nat) : Bool :=
  order < group.modulus && group.modulus % order == 1 &&
    Number.powMod group.generator order group.modulus == 1 && Number.looksPrime order

/-- Whether there is such a group: a prime modulus of 512 to 10000 bits, and a
generator other than one and minus one. Where no order is told, half the modulus
is a prime too. -/
def isSound (group : ResidueGroup) : Bool :=
  512 ≤ bitLength group.modulus && bitLength group.modulus ≤ 10000 &&
    1 < group.generator && group.generator + 1 < group.modulus &&
    Number.looksPrime group.modulus &&
    match group.order with
    | some order => group.isOrder order
    | none => Number.looksPrime (group.modulus / 2)

end ResidueGroup

end Missive
