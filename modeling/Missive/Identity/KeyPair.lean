import Missive.Der.PublicKey
import Missive.Digest
import Missive.Key.Parameters
import Missive.Octets.Hex
import Missive.Rsa.Generation

/-!
# Key pairs

A key pair is a private key with the parameters it goes by. It is known to others
by the fingerprint of its public half.
-/

set_option autoImplicit false

namespace Missive

/-- The digest of the encoding of a public key, by which keys are compared and
certified. -/
def fingerprint (key : Rsa.PublicKey) : Octets :=
  Sha512.hash (Der.PublicKey.encode key)

/-- A private key with the parameters it goes by. They are recovered from the
key, or stated by whoever forms the pair. -/
structure KeyPair where
  privateKey : Rsa.PrivateKey
  parameters : KeyParameters

namespace KeyPair

def ofPrivateKey (key : Rsa.PrivateKey) : Except Fault KeyPair :=
  (KeyParameters.ofPrivateKey key).map fun parameters => ⟨key, parameters⟩

def generate (parameters : KeyParameters) : Drawing KeyPair := do
  let key ← Rsa.generate parameters
  pure ⟨key, parameters⟩

def publicKey (pair : KeyPair) : Rsa.PublicKey :=
  pair.privateKey.toPublicKey

def publicKeyOctets (pair : KeyPair) : Octets :=
  Der.PublicKey.encode pair.publicKey

def fingerprint (pair : KeyPair) : Octets :=
  Missive.fingerprint pair.publicKey

def fingerprintHex (pair : KeyPair) : String :=
  Octets.toColonHex pair.fingerprint

/-- One line on a pair: its stated size and the first eight octets of its
fingerprint. -/
def summary (pair : KeyPair) : String :=
  let shown := Octets.toColonHex (pair.fingerprint.take 8)
  s!"KeyPair({pair.parameters.modulusBits} bits, fp={shown})"

end KeyPair

end Missive
