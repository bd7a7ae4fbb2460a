import Mathlib
import Missive.Key.Parameters

/-!
# Parameters of existing keys

A key has parameters unless it is too small, and they count the octets of its
modulus as the key itself does.
-/

set_option autoImplicit false

namespace Missive.KeyParameters

variable {key : Rsa.PublicKey}

theorem ofKey_of_size (size : 1024 ≤ key.bits) :
    ∃ parameters, ofKey key = .ok parameters ∧ parameters.modulusOctets = key.modulusOctets := by
  unfold ofKey
  rw [dif_pos size]
  exact ⟨_, rfl, rfl⟩

theorem ofKey_of_small (small : key.bits < 1024) :
    ofKey key = .error (.modulusTooShort key.bits) := by
  unfold ofKey
  rw [dif_neg (Nat.not_le.2 small)]

/-- An exponent that is part of a key is never unsuitable. -/
theorem ofPrivateKey_eq (key : Rsa.PrivateKey) : ofPrivateKey key = ofKey key.toPublicKey := by
  have exponent : 3 ≤ (key.publicExponent : Int) ∧ (key.publicExponent : Int) % 2 = 1 := by
    have least := key.three_le_publicExponent
    have odd := key.publicExponent_odd
    omega
  unfold ofPrivateKey ofNumbers
  rcases Nat.lt_or_ge key.bits 1024 with small | size
  · have short : ¬ (minimumModulusBits : Int) ≤ key.bits :=
      mt Int.ofNat_le.1 (Nat.not_le.2 small)
    rw [ofKey_of_small small, dif_neg short]
  · unfold ofKey
    rw [dif_pos size, dif_pos (Int.ofNat_le.2 size), dif_pos exponent]
    rfl

theorem size_le_modulusOctets (size : 1024 ≤ key.bits) : 128 ≤ key.modulusOctets := by
  simp only [Rsa.PublicKey.modulusOctets, octetsForBits]
  omega

end Missive.KeyParameters
