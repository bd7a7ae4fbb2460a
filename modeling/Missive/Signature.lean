import Missive.Digest
import Missive.Rsa.Key
import Missive.Rsa.SignatureBlock

/-!
# Signatures

What is signed is the digest of some content, hashed once more inside the
signature block. Signing is deterministic, and a signature is exactly as long as
the modulus of the key.
-/

set_option autoImplicit false

namespace Missive.Signature

def ofDigest (digest : Octets) (key : Rsa.PrivateKey) : Except Fault Octets :=
  match Rsa.SignatureBlock.encode? key.modulusOctets digest with
  | some block => .ok (Octets.ofValue key.modulusOctets (key.privateMap block.value))
  | none => .error .signatureOverflow

def sign (content : Content) (key : Rsa.PrivateKey) : Except Fault Octets := do
  ofDigest (← digest content) key

/-- Whether octets of the right length are a signature of a digest. -/
def accepts (key : Rsa.PublicKey) (digest signature : Octets) : Bool :=
  match Rsa.SignatureBlock.encode? key.modulusOctets digest with
  | some block =>
    decide (key.Usable ∧ signature.value < key.modulus ∧
      Octets.ofValue key.modulusOctets (key.publicMap signature.value) = block)
  | none => false

def verifyOctets (message signature : Octets) (key : Rsa.PublicKey) : Bool :=
  if signature.length = key.modulusOctets then accepts key (Sha512.hash message) signature
  else false

/-- Whether what is given as a signature is one of the content. Only octets of
the right length can be one; anything else is rejected before the content is
looked at. -/
def verify (content : Content) (signature : Option Content) (key : Rsa.PublicKey) :
    Except Fault Bool :=
  match signature with
  | some (.octets given) =>
    if given.length = key.modulusOctets then do
      return accepts key (← digest content) given
    else .ok false
  | _ => .ok false

end Missive.Signature
