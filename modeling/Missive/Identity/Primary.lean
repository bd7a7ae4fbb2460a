import Missive.Identity.KeyPair

/-!
# Identities

An identity consists of two key pairs, one to sign and one to receive. Sub keys
belong to an identity by a certification of its signing key, which they carry.
-/

set_option autoImplicit false

namespace Missive

structure PrimaryPublicKey where
  signingKey : Rsa.PublicKey
  encryptionKey : Rsa.PublicKey
deriving DecidableEq

/-- An identity: the pair that signs and certifies, and the pair that receives. -/
structure PrimaryKeyPair where
  signing : KeyPair
  encryption : KeyPair

namespace PrimaryKeyPair

/-- A fresh identity; the signing pair is generated first. -/
def generate (parameters : KeyParameters) : Drawing PrimaryKeyPair := do
  let signing ← KeyPair.generate parameters
  let encryption ← KeyPair.generate parameters
  pure ⟨signing, encryption⟩

def publicHalf (primary : PrimaryKeyPair) : PrimaryPublicKey :=
  ⟨primary.signing.publicKey, primary.encryption.publicKey⟩

end PrimaryKeyPair

/-- A public key with what vouches for it. -/
structure SubPublicKey where
  key : Rsa.PublicKey
  certification : Option Octets
deriving DecidableEq

structure SubKeyPair where
  pair : KeyPair
  certification : Option Octets

def SubKeyPair.publicHalf (sub : SubKeyPair) : SubPublicKey :=
  ⟨sub.pair.publicKey, sub.certification⟩

end Missive
