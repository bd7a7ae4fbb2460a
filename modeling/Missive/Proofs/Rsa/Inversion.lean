import Mathlib
import Missive.Proofs.Rsa.Modulus

/-!
# Inversion

The two maps of a key whose numbers belong together undo each other on every
number below the modulus. The number need not be coprime to the modulus, and
nothing is asked of the size of the key.
-/

set_option autoImplicit false

namespace Missive.Rsa

/-- The numbers of a key belong together: two different primes make the modulus,
and the exponents undo each other modulo each prime less one. -/
structure PrivateKey.Consistent (key : PrivateKey) : Prop where
  firstFactor_prime : key.firstFactor.Prime
  secondFactor_prime : key.secondFactor.Prime
  factors_ne : key.firstFactor ≠ key.secondFactor
  modulus_eq : key.modulus = key.firstFactor * key.secondFactor
  exponents_inverse : key.publicExponent * key.privateExponent ≡ 1
    [MOD (key.firstFactor - 1).lcm (key.secondFactor - 1)]

/-- Fermat's theorem without its exception: the multiples of the prime are
covered because the exponent is not zero. -/
private theorem pow_modEq_self {prime exponent : Nat} (isPrime : prime.Prime)
    (positive : 0 < exponent) (one : exponent ≡ 1 [MOD prime - 1]) (number : Nat) :
    number ^ exponent ≡ number [MOD prime] := by
  have multiple : prime - 1 ∣ exponent - 1 := (Nat.modEq_iff_dvd' positive).1 one.symm
  have congruent := Int.ModEq.pow_eq_pow isPrime multiple positive Nat.one_pos number
  rw [← Int.natCast_modEq_iff]
  simpa using congruent

/-- A key that capsules, envelopes and certifications can rely on. -/
structure PrivateKey.Sound (key : PrivateKey) : Prop where
  consistent : key.Consistent
  usable : key.Usable
  size : 1024 ≤ key.bits

namespace PrivateKey.Consistent

variable {key : PrivateKey}

/-- Two different primes cannot both be two, so some residue tells zero from one. -/
private theorem exponents_pos (consistent : key.Consistent) :
    0 < key.publicExponent * key.privateExponent := by
  rw [Nat.pos_iff_ne_zero]
  intro vanishing
  have inverse := consistent.exponents_inverse
  rw [vanishing] at inverse
  have trivial := Nat.dvd_one.1 ((Nat.modEq_zero_iff_dvd).1 inverse.symm)
  have firstSmall := Nat.dvd_one.1 (trivial ▸ Nat.dvd_lcm_left _ _)
  have secondSmall := Nat.dvd_one.1 (trivial ▸ Nat.dvd_lcm_right _ _)
  exact consistent.factors_ne (by omega)

private theorem pow_modEq (consistent : key.Consistent) (number : Nat) :
    number ^ (key.publicExponent * key.privateExponent) ≡ number [MOD key.modulus] := by
  have coprime : Nat.Coprime key.firstFactor key.secondFactor :=
    (Nat.coprime_primes consistent.firstFactor_prime consistent.secondFactor_prime).2
      consistent.factors_ne
  rw [consistent.modulus_eq, ← Nat.modEq_and_modEq_iff_modEq_mul coprime]
  constructor
  · exact pow_modEq_self consistent.firstFactor_prime consistent.exponents_pos
      (consistent.exponents_inverse.of_dvd (Nat.dvd_lcm_left _ _)) number
  · exact pow_modEq_self consistent.secondFactor_prime consistent.exponents_pos
      (consistent.exponents_inverse.of_dvd (Nat.dvd_lcm_right _ _)) number

theorem privateMap_publicMap (consistent : key.Consistent) {number : Nat}
    (below : number < key.modulus) : key.privateMap (key.publicMap number) = number := by
  rw [privateMap, PublicKey.publicMap, Number.powMod_eq, Number.powMod_eq, ← Nat.pow_mod,
    ← Nat.pow_mul]
  exact Nat.mod_eq_of_modEq (consistent.pow_modEq number) below

theorem publicMap_privateMap (consistent : key.Consistent) {number : Nat}
    (below : number < key.modulus) : key.publicMap (key.privateMap number) = number := by
  rw [privateMap, PublicKey.publicMap, Number.powMod_eq, Number.powMod_eq, ← Nat.pow_mod,
    ← Nat.pow_mul, Nat.mul_comm]
  exact Nat.mod_eq_of_modEq (consistent.pow_modEq number) below

/-- Below the modulus, one number is mapped to another exactly when that one is
mapped back. -/
theorem publicMap_eq_iff (consistent : key.Consistent) {number image : Nat}
    (numberBelow : number < key.modulus) (imageBelow : image < key.modulus) :
    key.publicMap number = image ↔ number = key.privateMap image := by
  constructor
  · intro mapped
    rw [← mapped, consistent.privateMap_publicMap numberBelow]
  · intro mapped
    rw [mapped, consistent.publicMap_privateMap imageBelow]

/-- The same for octets that are as long as the modulus. Signatures read it from
right to left and capsules from left to right. -/
theorem ofValue_publicMap_eq_iff (consistent : key.Consistent) {octets image : Octets}
    (octetsLength : octets.length = key.modulusOctets) (octetsBelow : octets.value < key.modulus)
    (imageLength : image.length = key.modulusOctets) (imageBelow : image.value < key.modulus) :
    Octets.ofValue key.modulusOctets (key.publicMap octets.value) = image ↔
      octets = Octets.ofValue key.modulusOctets (key.privateMap image.value) := by
  have publicFits := Nat.lt_trans (key.publicMap_lt octets.value) key.modulus_lt
  have privateFits := Nat.lt_trans (key.privateMap_lt image.value) key.modulus_lt
  rw [Octets.ofValue_eq_iff publicFits imageLength, eq_comm (a := octets),
    Octets.ofValue_eq_iff privateFits octetsLength,
    consistent.publicMap_eq_iff octetsBelow imageBelow, eq_comm]

end PrivateKey.Consistent

/-- A key of 1128 bits whose factors are Mersenne primes. -/
def mersenneKey : PrivateKey where
  modulus := mersenne 521 * mersenne 607
  publicExponent := 257
  three_le_publicExponent := by decide
  publicExponent_lt_modulus := by decide +kernel
  publicExponent_odd := by decide
  privateExponent := (256 * (mersenne 521 - 1).lcm (mersenne 607 - 1) + 1) / 257
  firstFactor := mersenne 521
  secondFactor := mersenne 607

theorem mersenneKey_consistent : mersenneKey.Consistent where
  firstFactor_prime := lucas_lehmer_sufficiency 521 (by decide) (by norm_num)
  secondFactor_prime := lucas_lehmer_sufficiency 607 (by decide) (by norm_num)
  factors_ne := (mersenne_lt_mersenne.2 (by decide)).ne
  modulus_eq := by rw [mersenneKey]
  exponents_inverse := by decide +kernel

theorem mersenneKey_sound : mersenneKey.Sound where
  consistent := mersenneKey_consistent
  usable := by decide +kernel
  size := by decide +kernel

/-- A key of 1886 bits, which leave two bits of its first octet unused. -/
def widerMersenneKey : PrivateKey where
  modulus := mersenne 607 * mersenne 1279
  publicExponent := 257
  three_le_publicExponent := by decide
  publicExponent_lt_modulus := by decide +kernel
  publicExponent_odd := by decide
  privateExponent := (201 * (mersenne 607 - 1).lcm (mersenne 1279 - 1) + 1) / 257
  firstFactor := mersenne 607
  secondFactor := mersenne 1279

theorem widerMersenneKey_consistent : widerMersenneKey.Consistent where
  firstFactor_prime := lucas_lehmer_sufficiency 607 (by decide) (by norm_num)
  secondFactor_prime := lucas_lehmer_sufficiency 1279 (by decide) (by norm_num)
  factors_ne := (mersenne_lt_mersenne.2 (by decide)).ne
  modulus_eq := by rw [widerMersenneKey]
  exponents_inverse := by decide +kernel

theorem widerMersenneKey_sound : widerMersenneKey.Sound where
  consistent := widerMersenneKey_consistent
  usable := by decide +kernel
  size := by decide +kernel

end Missive.Rsa
