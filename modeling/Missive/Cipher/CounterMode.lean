import Missive.Cipher.Aes256

/-!
# Counter mode

Octets are combined with the encryptions of a counter. The counter starts at a
nonce of sixteen octets, read as one number, and wraps at 2^128. Doing it twice
gives the octets back.
-/

set_option autoImplicit false

namespace Missive.CounterMode

def keystream (keys : List Aes256.Block) (counter : Nat) : Nat → Octets
  | 0 => []
  | blocks + 1 =>
    (Aes256.encrypt keys (.ofOctets (Octets.ofValue 16 counter))).octets ++
      keystream keys (counter + 1) blocks

def apply (key : Sized 32) (nonce : Sized 16) (octets : Octets) : Octets :=
  Octets.xor octets
    (keystream (Aes256.roundKeys key) nonce.octets.value ((octets.length + 15) / 16))

end Missive.CounterMode
