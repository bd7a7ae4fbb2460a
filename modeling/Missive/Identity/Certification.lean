import Missive.Identity.Primary
import Missive.Signature

/-!
# Certification

A primary key vouches for a sub key by signing its fingerprint. Chains have one
link: a sub key certifies nothing.
-/

set_option autoImplicit false

namespace Missive.Certification

/-- The certification of a sub key, where there are both a sub key and a primary. -/
def certify (sub : Option Rsa.PublicKey) (primary : Option PrimaryKeyPair) :
    Except Fault (Option Octets) :=
  match sub, primary with
  | some key, some primary =>
    (Signature.sign (.octets (fingerprint key)) primary.signing.privateKey).map some
  | _, _ => .ok none

/-- Whether what is given vouches for a sub key under a primary. Nothing does
where the sub key, the primary or the certification is missing. -/
def validates (sub : Option Rsa.PublicKey) (certification : Option Content)
    (primary : Option PrimaryPublicKey) : Bool :=
  match sub, certification, primary with
  | some key, some (.octets given), some primary =>
    Signature.verifyOctets (fingerprint key) given primary.signingKey
  | _, _, _ => false

def validatesCarried (sub : Option SubPublicKey) (primary : Option PrimaryPublicKey) : Bool :=
  match sub with
  | some sub => validates (some sub.key) (sub.certification.map .octets) primary
  | none => false

def createSubKeyPair (primary : Option PrimaryKeyPair) (parameters : KeyParameters) :
    Drawing SubKeyPair := do
  let pair ← KeyPair.generate parameters
  let certification ← Drawing.ofExcept (certify (some pair.publicKey) primary)
  pure ⟨pair, certification⟩

end Missive.Certification
