import Missive.Cipher.CounterMode
import Missive.Randomness

/-!
# Payloads

A payload is a nonce followed by octets that were encrypted in counter mode
under it. It carries no integrity check: a wrong key yields other octets, not a
fault.
-/

set_option autoImplicit false

namespace Missive

abbrev SymmetricKey := Sized symmetricKeySize

/-- The start of the counter, used once. -/
abbrev Nonce := Sized nonceSize

def SymmetricKey.ofOctets (octets : Octets) : Except Fault SymmetricKey :=
  match Sized.ofOctets? symmetricKeySize octets with
  | some key => .ok key
  | none => .error (.symmetricKeyLength octets.length)

def SymmetricKey.draw : Drawing SymmetricKey :=
  Drawing.sized symmetricKeySize

namespace Payload

def encipher (key : SymmetricKey) (nonce : Nonce) (plaintext : Octets) : Octets :=
  nonce.octets ++ CounterMode.apply key nonce plaintext

/-- The payload of some octets under a key and a fresh nonce. A key of another
length is refused before anything is drawn. -/
def encrypt (plaintext key : Octets) : Drawing Octets := do
  let key ← Drawing.ofExcept (SymmetricKey.ofOctets key)
  let nonce ← Drawing.sized nonceSize
  pure (encipher key nonce plaintext)

def decrypt (payload key : Octets) : Except Fault Octets := do
  let key ← SymmetricKey.ofOctets key
  match Sized.ofOctets? nonceSize (payload.take nonceSize) with
  | some nonce => .ok (CounterMode.apply key nonce (payload.drop nonceSize))
  | none => .error (.payloadTooShort payload.length)

end Payload

end Missive
