import Mathlib
import Missive.Proofs.Rsa.Modulus
import Missive.Rsa.SignatureBlock

/-!
# Laws of signature blocks

A block has the size that was asked for and lies below every modulus of that
size. It tells which hash it was made of.
-/

set_option autoImplicit false

namespace Missive.Rsa.SignatureBlock

variable {size : Nat} {digest block : Octets}

theorem encode?_eq_none_iff (size : Nat) (digest : Octets) :
    encode? size digest = none ↔ size < 46 := by
  unfold encode?
  split <;> simp <;> omega

theorem length_of_encode? (made : encode? size digest = some block) : block.length = size := by
  unfold encode? at made
  split at made
  · cases made
    simp only [hashHeader, List.length_cons, List.length_append, List.length_replicate,
      List.length_nil, Sha1.length_hash]
    omega
  · cases made

/-- The first octet of a block is zero. -/
theorem value_lt_pow_of_encode? (made : encode? size digest = some block) :
    block.value < 256 ^ (size - 1) := by
  have length := length_of_encode? made
  unfold encode? at made
  split at made
  · cases made
    exact Octets.value_zero_cons_lt length
  · cases made

theorem value_lt_of_encode? {key : PublicKey}
    (made : encode? key.modulusOctets digest = some block) : block.value < key.modulus :=
  Nat.lt_of_lt_of_le (value_lt_pow_of_encode? made) key.le_modulus

/-- Digests with one block have one hash. -/
theorem hash_eq_of_encode? {other : Octets} (made : encode? size digest = some block)
    (madeOfOther : encode? size other = some block) : Sha1.hash digest = Sha1.hash other := by
  unfold encode? at made madeOfOther
  split at made
  · rename_i room
    rw [if_pos room, ← made] at madeOfOther
    simpa using madeOfOther.symm
  · cases made

end Missive.Rsa.SignatureBlock
