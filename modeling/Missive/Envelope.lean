import Missive.Fault
import Missive.Octets

/-!
# Envelopes

The parts of a message on its way: a capsule with the symmetric key, the nonce
and ciphertext of the payload, and a signature over all of these. The parts stand
one behind the other with no marks between them, so an envelope is taken apart by
the sizes of its capsule and its signature.
-/

set_option autoImplicit false

namespace Missive

structure Envelope where
  capsule : Octets
  nonce : Octets
  ciphertext : Octets
  signature : Octets
deriving DecidableEq

namespace Envelope

/-- The nonce and the ciphertext, as they are decrypted. -/
def payload (envelope : Envelope) : Octets :=
  envelope.nonce ++ envelope.ciphertext

/-- The octets that the signature covers. -/
def signedPart (envelope : Envelope) : Octets :=
  envelope.capsule ++ envelope.nonce ++ envelope.ciphertext

/-- The size of an envelope without ciphertext. -/
def minimumSize (capsuleSize signatureSize : Int) : Int :=
  capsuleSize + nonceSize + signatureSize

/-- The octets of an envelope whose nonce has its proper length. -/
def encode (envelope : Envelope) : Except Fault Octets :=
  if envelope.nonce.length = nonceSize then .ok (envelope.signedPart ++ envelope.signature)
  else .error (.nonceLength envelope.nonce.length)

/-- The parts that octets have for the given sizes. The capsule and the nonce are
cut from the front and the signature from the back. Sizes below zero are cut by
the rule for negative bounds. -/
def decode (octets : Octets) (capsuleSize signatureSize : Int) : Except Fault Envelope :=
  let minimum := minimumSize capsuleSize signatureSize
  if octets.length < minimum then .error (.envelopeTooShort octets.length minimum)
  else
    let length : Int := octets.length
    let signatureStart := length - signatureSize
    .ok {
      capsule := octets.slice 0 capsuleSize
      nonce := octets.slice capsuleSize (capsuleSize + nonceSize)
      ciphertext := octets.slice (capsuleSize + nonceSize) signatureStart
      signature := octets.slice signatureStart length
    }

end Envelope

end Missive
