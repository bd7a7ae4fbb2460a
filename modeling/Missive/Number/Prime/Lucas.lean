import Missive.Number.Jacobi
import Missive.Number.Prime.Strong

/-!
# The Lucas test

The sums `xᵏ + x⁻ᵏ` for a root `x` of `x² - p·x + 1` follow from `p` by doublings.
If the discriminant of that equation is no square modulo a prime, the power of `x`
by the prime's successor is one, and the powers on the way there are confined as
in the strong test. No number is known that passes both tests and is not prime.
-/

set_option autoImplicit false

namespace Missive.Number

/-- The sum of the powers with an index and the next one, modulo a number. The
sum with index one is the first. -/
def lucasPair (number first index : Nat) : Nat × Nat :=
  if index = 0 then (2 % number, first % number)
  else
    let (lower, upper) := lucasPair number first (index / 2)
    let mixed := (lower * upper + (number - first)) % number
    if index % 2 = 0 then ((lower * lower + (number - 2)) % number, mixed)
    else (mixed, (upper * upper + (number - 2)) % number)
termination_by index
decreasing_by omega

/-- The least first sum, among so many from a given one, whose equation has a
discriminant that is no square modulo a number. -/
def lucasParameter? (number : Nat) : Nat → Nat → Option Nat
  | 0, _ => none
  | attempts + 1, first =>
    if jacobi (first * first - 4) number = -1 then some first
    else lucasParameter? number attempts (first + 1)

/-- Whether repeated doubling of the index meets zero among the next sums. -/
def reachesZero (number : Nat) : Nat → Nat → Bool
  | 0, _ => false
  | doublings + 1, sum =>
    sum == 0 || reachesZero number doublings ((sum * sum + (number - 2)) % number)

/-- Whether an odd number looks prime to the Lucas test. For a square there is no
equation to test it with. -/
def lucasProbablePrime (number : Nat) : Bool :=
  match lucasParameter? number 500 3 with
  | none => false
  | some first =>
    let (odd, twos) := oddPart (number + 1)
    let (sum, next) := lucasPair number first odd
    ((sum == 2 || sum == number - 2) && 2 * next % number == first * sum % number) ||
      reachesZero number (twos - 1) sum

end Missive.Number
