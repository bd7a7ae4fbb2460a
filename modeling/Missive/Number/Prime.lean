import Missive.Number.Prime.Lucas

/-!
# Primes

Small primes by trial division, and two tests together for large ones: the strong
test with base two, and the Lucas test.
-/

set_option autoImplicit false

namespace Missive.Number

/-- The primes below a bound, in order. -/
def primesBelow (bound : Nat) : List Nat :=
  ((List.range bound).foldl
    (fun found number =>
      if 2 ≤ number ∧ found.all (fun prime => number % prime != 0) then found.push number else found)
    #[]).toList

/-- The primes that candidates are divided by before any power is taken. -/
def smallPrimes : List Nat :=
  primesBelow 2000

/-- Whether a number has no other factor among the small primes and, unless that
settles it, passes both tests. -/
def looksPrime (number : Nat) : Bool :=
  2 ≤ number && smallPrimes.all (fun prime => number % prime != 0 || number == prime) &&
    (number < 2000 * 2000 || (strongProbablePrime number 2 && lucasProbablePrime number))

end Missive.Number
