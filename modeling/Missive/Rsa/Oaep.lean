import Missive.Hash.Sha1
import Missive.Octets
import Missive.Sizes

/-!
# Optimal asymmetric encryption padding

The padding that capsules are made with: SHA-1 for label and mask, and an empty
label. A padded block is a zero octet, a masked seed and a masked body; the body
is the hash of the label, zeros, a one octet and the message. Reading accepts
only blocks of that form.
-/

set_option autoImplicit false

namespace Missive.Rsa.Oaep

/-- The random octets that blind a padded block. -/
abbrev Seed := Sized 20

/-- So many octets that a seed is stretched to: hashes of the seed with a
counter of four octets. -/
def mask (seed : Octets) (length : Nat) : Octets :=
  ((List.range ((length + 19) / 20)).flatMap
    fun counter => Sha1.hash (seed ++ Octets.ofValue 4 counter)).take length

def labelHash : Octets :=
  Sha1.hash []

/-- The body that a message has in a block of `size` octets, before masking. -/
def body (size : Nat) (message : Octets) : Octets :=
  labelHash ++ List.replicate (size - message.length - paddingSize) 0 ++ 1 :: message

/-- The padded block of `size` octets, for a message that leaves room for padding. -/
def encode (size : Nat) (seed : Seed) (message : Octets) : Octets :=
  let masked := Octets.xor (body size message) (mask seed.octets (size - 21))
  0 :: (Octets.xor seed.octets (mask masked 20) ++ masked)

/-- What stands behind the zeros and the one octet that ends them. -/
def afterOne? (octets : Octets) : Option Octets :=
  match octets.dropWhile (· == 0) with
  | 1 :: message => some message
  | _ => none

def ofBody? (octets : Octets) : Option Octets :=
  if octets.take 20 = labelHash then afterOne? (octets.drop 20) else none

def decode? (block : Octets) : Option Octets :=
  match block with
  | 0 :: rest =>
    let masked := rest.drop 20
    let seed := Octets.xor (rest.take 20) (mask masked 20)
    ofBody? (Octets.xor masked (mask seed masked.length))
  | _ => none

end Missive.Rsa.Oaep
