import Missive.Hash.Sha1
import Missive.Octets

/-!
# Signature blocks

The one block that a digest has under a key: the octets 00 01, octets FF, a zero
octet, and the SHA-1 hash of the digest behind the name of that hash. There is a
block only where at least eight octets FF find room.
-/

set_option autoImplicit false

namespace Missive.Rsa.SignatureBlock

/-- The announcement of a SHA-1 hash: its algorithm, then the hash as 20 octets. -/
def hashHeader : Octets :=
  [0x30, 0x21, 0x30, 0x09, 0x06, 0x05, 0x2b, 0x0e, 0x03, 0x02, 0x1a, 0x05, 0x00, 0x04, 0x14]

/-- The block of `size` octets for a digest. -/
def encode? (size : Nat) (digest : Octets) : Option Octets :=
  if 46 ≤ size then
    some (0 :: 1 :: (List.replicate (size - 38) 0xFF ++ 0 :: (hashHeader ++ Sha1.hash digest)))
  else none

end Missive.Rsa.SignatureBlock
