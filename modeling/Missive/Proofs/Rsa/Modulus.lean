import Mathlib
import Missive.Proofs.Number.Bits
import Missive.Proofs.Number.Power
import Missive.Proofs.Octets.Value
import Missive.Rsa.Key

/-!
# Numbers below the modulus

The octets counted for a modulus are as few as hold it, whether or not its bits
fill them. Both maps of a key end below the modulus, so their results fit, and a
block that starts with a zero octet lies below the modulus.
-/

set_option autoImplicit false

namespace Missive.Rsa

theorem PublicKey.modulus_pos (key : PublicKey) : 0 < key.modulus :=
  Nat.zero_lt_of_lt key.publicExponent_lt_modulus

theorem PublicKey.modulus_lt (key : PublicKey) : key.modulus < 256 ^ key.modulusOctets :=
  lt_octetsForBits key.modulus

theorem PublicKey.le_modulus (key : PublicKey) : 256 ^ (key.modulusOctets - 1) ≤ key.modulus :=
  octetsForBits_le key.modulus_pos

theorem PublicKey.publicMap_lt (key : PublicKey) (number : Nat) :
    key.publicMap number < key.modulus := by
  rw [publicMap, Number.powMod_eq]
  exact Nat.mod_lt _ key.modulus_pos

theorem PrivateKey.privateMap_lt (key : PrivateKey) (number : Nat) :
    key.privateMap number < key.modulus := by
  rw [privateMap, Number.powMod_eq]
  exact Nat.mod_lt _ key.modulus_pos

theorem PublicKey.value_ofValue_of_lt {key : PublicKey} {number : Nat}
    (below : number < key.modulus) :
    (Octets.ofValue key.modulusOctets number).value = number :=
  Octets.value_ofValue_of_lt (Nat.lt_trans below key.modulus_lt)

/-- A block with a zero octet in front needs no comparison with the modulus. -/
theorem PublicKey.value_lt_modulus {key : PublicKey} {block : Octets}
    (length : (0 :: block).length = key.modulusOctets) : Octets.value (0 :: block) < key.modulus :=
  Nat.lt_of_lt_of_le (Octets.value_zero_cons_lt length) key.le_modulus

end Missive.Rsa
