/-!
# Bits and octets of a number

How many bits a number has, and how many octets hold so many bits.
-/

set_option autoImplicit false

namespace Missive

/-- The number of bits of the shortest binary form of a number; zero has none. -/
def bitLength (number : Nat) : Nat :=
  if number = 0 then 0 else number.log2 + 1

/-- The number of octets that hold a given number of bits. -/
def octetsForBits (bits : Nat) : Nat :=
  (bits + 7) / 8

theorem bitLength_le (number : Nat) : bitLength number ≤ number := by
  unfold bitLength
  split
  · omega
  · rename_i positive
    exact (Nat.log2_lt positive).2 Nat.lt_two_pow_self

end Missive
