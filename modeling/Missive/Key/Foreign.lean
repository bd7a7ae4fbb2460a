/-!
# Foreign keys

The public keys that can be told apart from RSA keys by name.
-/

set_option autoImplicit false

namespace Missive

/-- A kind of public key that this library recognises and does not use. -/
inductive ForeignKey where
  | ellipticCurve
  | ed25519
  | x25519
  | ed448
  | x448
  | dsa
  | diffieHellman
  | mlDsa44
  | mlDsa65
  | mlDsa87
  | mlKem768
  | mlKem1024
deriving DecidableEq, Repr

/-- The name that messages use for a kind of key. -/
def ForeignKey.name : ForeignKey → String
  | .ellipticCurve => "ECPublicKey"
  | .ed25519 => "Ed25519PublicKey"
  | .x25519 => "X25519PublicKey"
  | .ed448 => "Ed448PublicKey"
  | .x448 => "X448PublicKey"
  | .dsa => "DSAPublicKey"
  | .diffieHellman => "DHPublicKey"
  | .mlDsa44 => "MLDSA44PublicKey"
  | .mlDsa65 => "MLDSA65PublicKey"
  | .mlDsa87 => "MLDSA87PublicKey"
  | .mlKem768 => "MLKEM768PublicKey"
  | .mlKem1024 => "MLKEM1024PublicKey"

end Missive
