import Missive.Key.Foreign
import Missive.Octets

/-!
# Keys without structure

Public keys that are strings of octets of a fixed size. Most are whatever octets
they are; the keys for encapsulation with lattices hold coefficients.
-/

set_option autoImplicit false

namespace Missive.RawKey

def latticeModulus : Nat := 3329

/-- Whether every three octets hold two coefficients of twelve bits, the first
one lowest, that are below the modulus. -/
def areCoefficients : Octets → Bool
  | first :: second :: third :: rest =>
    first.toNat + 256 * (second.toNat % 16) < latticeModulus &&
      second.toNat / 16 + 16 * third.toNat < latticeModulus && areCoefficients rest
  | rest => rest.isEmpty

/-- Whether octets are a key of a kind. Coefficients stand before a seed of 32
octets. Of kinds that have structure there is none. -/
def admits (kind : ForeignKey) (octets : Octets) : Bool :=
  match kind with
  | .ed25519 | .x25519 => octets.length == 32
  | .ed448 => octets.length == 57
  | .x448 => octets.length == 56
  | .mlDsa44 => octets.length == 1312
  | .mlDsa65 => octets.length == 1952
  | .mlDsa87 => octets.length == 2592
  | .mlKem768 => octets.length == 1184 && areCoefficients (octets.take 1152)
  | .mlKem1024 => octets.length == 1568 && areCoefficients (octets.take 1536)
  | .ellipticCurve | .dsa | .diffieHellman => false

end Missive.RawKey
