import Missive.Fault
import Missive.Number.BitLength
import Missive.Number.ModularPower

/-!
# RSA keys

Public keys that a modulus and an exponent make, private keys that extend them,
and the maps on numbers that both give. A public key keeps the conditions under which it may be
formed; neither its size nor the parity of its modulus is among them.
-/

set_option autoImplicit false

namespace Missive.Rsa

structure PublicKey where
  modulus : Nat
  publicExponent : Nat
  three_le_publicExponent : 3 ≤ publicExponent
  publicExponent_lt_modulus : publicExponent < modulus
  publicExponent_odd : publicExponent % 2 = 1
deriving DecidableEq

namespace PublicKey

/-- The public key of two numbers. The modulus is judged first, then the range
of the exponent, then its parity. -/
def ofNumbers (modulus publicExponent : Nat) : Except Fault PublicKey :=
  if modulus < 3 then .error .modulusTooSmall
  else if range : 3 ≤ publicExponent ∧ publicExponent < modulus then
    if odd : publicExponent % 2 = 1 then
      .ok ⟨modulus, publicExponent, range.1, range.2, odd⟩
    else .error .exponentEven
  else .error .exponentOutOfRange

def bits (key : PublicKey) : Nat :=
  bitLength key.modulus

/-- The octets that hold any number below the modulus. -/
def modulusOctets (key : PublicKey) : Nat :=
  octetsForBits key.bits

/-- The keys that public operations are done with: odd modulus of at most 16384
bits, and an exponent of at most 64 bits when the modulus exceeds 3072. -/
def Usable (key : PublicKey) : Prop :=
  key.modulus % 2 = 1 ∧ key.bits ≤ 16384 ∧ (3072 < key.bits → bitLength key.publicExponent ≤ 64)

instance (key : PublicKey) : Decidable key.Usable :=
  inferInstanceAs (Decidable (_ ∧ _ ∧ (_ → _)))

/-- The map that the public half gives on the numbers below the modulus. -/
def publicMap (key : PublicKey) (number : Nat) : Nat :=
  Number.powMod number key.publicExponent key.modulus

end PublicKey

/-- A private key: a public key with the exponent that undoes it and the two
factors of the modulus. -/
structure PrivateKey extends PublicKey where
  privateExponent : Nat
  firstFactor : Nat
  secondFactor : Nat
deriving DecidableEq

namespace PrivateKey

/-- The map that the private half gives on the numbers below the modulus. -/
def privateMap (key : PrivateKey) (number : Nat) : Nat :=
  Number.powMod number key.privateExponent key.modulus

end PrivateKey

end Missive.Rsa
