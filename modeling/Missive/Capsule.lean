import Missive.Key.Parameters
import Missive.Rsa.Oaep

/-!
# Capsules

A capsule holds a few octets, as a rule a symmetric key, for the owner of an RSA
key. It is as long as the modulus of that key. A capsule that was not made for
the key, or was changed, holds nothing.
-/

set_option autoImplicit false

namespace Missive.Capsule

def capacity (key : Rsa.PublicKey) : Except Fault Nat :=
  (KeyParameters.ofKey key).map KeyParameters.capsuleCapacity

/-- The capsule of some octets for the owner of a key. A key that is too small
is a fault before the octets are looked at; a key that public operations are
not done with is the last fault. -/
def encapsulate (payload : Octets) (key : Rsa.PublicKey) (seed : Rsa.Oaep.Seed) :
    Except Fault Octets := do
  let limit ← capacity key
  if limit < payload.length then .error (.capsuleOverflow payload.length limit)
  else if key.Usable then
    let block := Rsa.Oaep.encode key.modulusOctets seed payload
    .ok (Octets.ofValue key.modulusOctets (key.publicMap block.value))
  else .error .keyRefused

/-- What a capsule holds for the owner of a key of any size. -/
def decapsulate? (capsule : Octets) (key : Rsa.PrivateKey) : Option Octets :=
  if capsule.length = key.modulusOctets ∧ capsule.value < key.modulus then
    Rsa.Oaep.decode? (Octets.ofValue key.modulusOctets (key.privateMap capsule.value))
  else none

end Missive.Capsule
