import Missive.Key.Parameters
import Missive.Number.Inverse
import Missive.Number.Prime
import Missive.Randomness

/-!
# Generation of keys

Fresh private keys whose modulus has exactly the bits asked for. Both factors
start from random numbers with their two leading bits set, so that their product
never falls short of a bit, and are the next suitable primes from there. The
exponents that keys are generated with are 3 and 65537, and sizes are counted in
words of 32 bits with a sign.
-/

set_option autoImplicit false

namespace Missive.Rsa

/-- Whether a number can be a factor of a modulus: it looks prime, differs from
the other factor, and leaves the exponent invertible. -/
def isFactor (exponent other candidate : Nat) : Bool :=
  candidate != other && (candidate - 1) % exponent != 0 && Number.looksPrime candidate

/-- The first suitable odd number among so many, with no more than `bits` bits. -/
def nextFactor? (bits exponent other : Nat) : Nat → Nat → Option Nat
  | 0, _ => none
  | steps + 1, candidate =>
    if 1 <<< bits ≤ candidate then none
    else if isFactor exponent other candidate then some candidate
    else nextFactor? bits exponent other steps (candidate + 2)

/-- The odd number of exactly `bits` bits, its two leading bits set, whose other
bits are those of some octets. -/
def startOf (bits : Nat) (octets : Octets) : Nat :=
  let low := octets.value % (1 <<< (bits - 2))
  (3 <<< (bits - 2)) + (if low % 2 = 1 then low else low ^^^ 1)

/-- A factor of so many bits, in so many attempts. -/
def drawFactor (bits exponent other : Nat) : Nat → Drawing (Option Nat)
  | 0 => pure none
  | attempts + 1 => do
    let octets ← Drawing.octets (octetsForBits bits)
    match nextFactor? bits exponent other (32 * bits) (startOf bits octets) with
    | some factor => pure (some factor)
    | none => drawFactor bits exponent other attempts

def PrivateKey.ofFactors? (exponent first second : Nat) : Option PrivateKey := do
  let publicKey ← (PublicKey.ofNumbers (first * second) exponent).toOption
  let privateExponent ← Number.inverse? exponent (Nat.lcm (first - 1) (second - 1))
  return ⟨publicKey, privateExponent, max first second, min first second⟩

/-- Why no key of some parameters is generated. The exponent is judged first. -/
def refusal? (parameters : KeyParameters) : Option Fault :=
  if parameters.publicExponent ≠ 3 ∧ parameters.publicExponent ≠ 65537 then
    some (.exponentNotOffered parameters.modulusBits)
  else if 0x7FFFFFFFFFFFFFFF < parameters.modulusBits then some .sizeUncountable
  else if 0x7FFFFFFF < parameters.modulusBits then some .sizeOutOfRange
  else none

def generate (parameters : KeyParameters) : Drawing PrivateKey :=
  match refusal? parameters with
  | some fault => Drawing.fail fault
  | none => do
    let bits := parameters.modulusBits
    let exponent := parameters.publicExponent
    let first ← drawFactor (bits - bits / 2) exponent 0 16
    let second ← drawFactor (bits / 2) exponent (first.getD 0) 16
    match first, second with
    | some first, some second =>
      match PrivateKey.ofFactors? exponent first second with
      | some key => pure key
      | none => Drawing.fail (.primesNotFound bits)
    | _, _ => Drawing.fail (.primesNotFound bits)

end Missive.Rsa
