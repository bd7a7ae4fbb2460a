import Missive.Octets

/-!
# Hashing by blocks

The common frame of the SHA family: a message is closed by a one bit, zeros and
its own length, and a compression step absorbs the result block by block.
-/

set_option autoImplicit false

namespace Missive.Hash

/-- A message with its closing: an octet 80, as few zeros as fill the last
block, and the length of the message in bits on `lengthSize` octets. -/
def pad (blockSize lengthSize : Nat) (message : Octets) : Octets :=
  let used := message.length + 1 + lengthSize
  let zeros := (blockSize - used % blockSize) % blockSize
  message ++ 0x80 :: (List.replicate zeros 0 ++ Octets.ofValue lengthSize (8 * message.length))

def absorb {State : Type} (blockSize lengthSize : Nat) (compress : State → Octets → State)
    (initial : State) (message : Octets) : State :=
  let padded := pad blockSize lengthSize message
  (Octets.blocks blockSize (padded.length / blockSize) padded).foldl compress initial

end Missive.Hash
