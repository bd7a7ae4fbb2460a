import Mathlib
import Missive.Capsule
import Missive.Proofs.Key.Parameters
import Missive.Proofs.Rsa.Inversion
import Missive.Proofs.Rsa.Oaep

/-!
# Exact reading of capsules

For the owner of a key whose numbers belong together, a capsule holds some octets
exactly when encapsulating these under some seed gives the capsule.
-/

set_option autoImplicit false

namespace Missive.Capsule

private theorem capacity_of_size {key : Rsa.PublicKey} (size : 1024 ≤ key.bits) :
    capacity key = .ok (key.modulusOctets - 42) := by
  obtain ⟨parameters, made, octets⟩ := KeyParameters.ofKey_of_size size
  rw [capacity, made, ← octets]
  rfl

private theorem capacity_of_small {key : Rsa.PublicKey} (small : key.bits < 1024) :
    capacity key = .error (.modulusTooShort key.bits) := by
  rw [capacity, KeyParameters.ofKey_of_small small]
  rfl

theorem encapsulate_of_small {payload : Octets} {key : Rsa.PublicKey} (small : key.bits < 1024)
    (seed : Rsa.Oaep.Seed) :
    encapsulate payload key seed = .error (.modulusTooShort key.bits) := by
  rw [encapsulate, capacity_of_small small]
  rfl

theorem encapsulate_of_size {key : Rsa.PublicKey} (size : 1024 ≤ key.bits) (payload : Octets)
    (seed : Rsa.Oaep.Seed) :
    encapsulate payload key seed =
      if key.modulusOctets - 42 < payload.length then
        .error (.capsuleOverflow payload.length (key.modulusOctets - 42))
      else if key.Usable then
        .ok (Octets.ofValue key.modulusOctets
          (key.publicMap (Rsa.Oaep.encode key.modulusOctets seed payload).value))
      else .error .keyRefused := by
  rw [encapsulate, capacity_of_size size]
  rfl

theorem encapsulate_of_refused {payload : Octets} {key : Rsa.PublicKey} (size : 1024 ≤ key.bits)
    (fits : payload.length + 42 ≤ key.modulusOctets) (refused : ¬ key.Usable)
    (seed : Rsa.Oaep.Seed) : encapsulate payload key seed = .error .keyRefused := by
  rw [encapsulate_of_size size, if_neg (by omega), if_neg refused]

theorem encapsulate_eq_ok_iff {payload capsule : Octets} {key : Rsa.PublicKey}
    {seed : Rsa.Oaep.Seed} :
    encapsulate payload key seed = .ok capsule ↔
      1024 ≤ key.bits ∧ payload.length + 42 ≤ key.modulusOctets ∧ key.Usable ∧
        capsule = Octets.ofValue key.modulusOctets
          (key.publicMap (Rsa.Oaep.encode key.modulusOctets seed payload).value) := by
  constructor
  · intro made
    rcases Nat.lt_or_ge key.bits 1024 with small | size
    · rw [encapsulate_of_small small] at made
      cases made
    · have room := KeyParameters.size_le_modulusOctets size
      rw [encapsulate_of_size size] at made
      split at made
      · cases made
      split at made
      · rename_i fits usable
        cases made
        exact ⟨size, by omega, usable, rfl⟩
      · cases made
  · intro ⟨size, fits, usable, made⟩
    rw [encapsulate_of_size size, if_neg (by omega), if_pos usable, made]

/-- With a usable key nothing but the length of a payload can be at fault. -/
theorem encapsulate_fault_iff {payload : Octets} {key : Rsa.PublicKey} (size : 1024 ≤ key.bits)
    (usable : key.Usable) (seed : Rsa.Oaep.Seed) :
    (∃ fault, encapsulate payload key seed = .error fault ∧ fault.category = .encryption) ↔
      key.modulusOctets - 42 < payload.length := by
  rw [encapsulate_of_size size, if_pos usable]
  constructor
  · intro failed
    obtain ⟨fault, failed, _⟩ := failed
    by_contra fits
    rw [if_neg fits] at failed
    cases failed
  · intro overflow
    exact ⟨_, if_pos overflow, rfl⟩

theorem exists_encapsulate {payload : Octets} {key : Rsa.PublicKey} (size : 1024 ≤ key.bits)
    (fits : payload.length + 42 ≤ key.modulusOctets) (usable : key.Usable)
    (seed : Rsa.Oaep.Seed) : ∃ capsule, encapsulate payload key seed = .ok capsule :=
  ⟨_, encapsulate_eq_ok_iff.2 ⟨size, fits, usable, rfl⟩⟩

theorem length_of_encapsulate {payload capsule : Octets} {key : Rsa.PublicKey}
    {seed : Rsa.Oaep.Seed} (made : encapsulate payload key seed = .ok capsule) :
    capsule.length = key.modulusOctets := by
  obtain ⟨_, _, _, rfl⟩ := encapsulate_eq_ok_iff.1 made
  exact Octets.length_ofValue _ _

variable {key : Rsa.PrivateKey} {payload capsule : Octets}

/-- A padded block is the image of a capsule under the private half exactly when
the capsule is its image under the public half: it is as long as the modulus and
starts with a zero octet. -/
private theorem eq_encode_iff (consistent : key.Consistent) (seed : Rsa.Oaep.Seed)
    (fits : payload.length + 42 ≤ key.modulusOctets)
    (length : capsule.length = key.modulusOctets) (below : capsule.value < key.modulus) :
    Octets.ofValue key.modulusOctets (key.privateMap capsule.value) =
        Rsa.Oaep.encode key.modulusOctets seed payload ↔
      capsule = Octets.ofValue key.modulusOctets
        (key.publicMap (Rsa.Oaep.encode key.modulusOctets seed payload).value) := by
  have blockLength := Rsa.Oaep.length_encode seed fits
  have blockBelow : (Rsa.Oaep.encode key.modulusOctets seed payload).value < key.modulus :=
    Rsa.PublicKey.value_lt_modulus blockLength
  rw [eq_comm, ← consistent.ofValue_publicMap_eq_iff blockLength blockBelow length below, eq_comm]

/-- What a capsule holds is what was encapsulated. Nothing is held by octets of
another length, by a number that is not below the modulus, or by a block that no
seed makes. -/
theorem decapsulate?_eq_some_iff (sound : key.Sound) :
    decapsulate? capsule key = some payload ↔
      ∃ seed, encapsulate payload key.toPublicKey seed = .ok capsule := by
  unfold decapsulate?
  constructor
  · intro held
    split at held
    · rename_i suitable
      obtain ⟨length, below⟩ := suitable
      obtain ⟨fits, seed, padded⟩ := Rsa.Oaep.decode?_eq_some_iff.1 held
      rw [Octets.length_ofValue] at fits padded
      exact ⟨seed, encapsulate_eq_ok_iff.2 ⟨sound.size, fits, sound.usable,
        (eq_encode_iff sound.consistent seed fits length below).1 padded⟩⟩
    · cases held
  · intro ⟨seed, made⟩
    have length := length_of_encapsulate made
    obtain ⟨_, fits, _, image⟩ := encapsulate_eq_ok_iff.1 made
    have below : capsule.value < key.modulus := by
      rw [image, Rsa.PublicKey.value_ofValue_of_lt (key.publicMap_lt _)]
      exact key.publicMap_lt _
    rw [if_pos ⟨length, below⟩, (eq_encode_iff sound.consistent seed fits length below).2 image]
    exact Rsa.Oaep.decode?_encode fits

theorem decapsulate?_eq_none_iff (sound : key.Sound) :
    decapsulate? capsule key = none ↔
      ∀ payload seed, encapsulate payload key.toPublicKey seed ≠ .ok capsule := by
  rw [Option.eq_none_iff_forall_ne_some]
  constructor
  · intro unheld payload seed made
    exact unheld payload ((decapsulate?_eq_some_iff sound).2 ⟨seed, made⟩)
  · intro unmade payload held
    obtain ⟨seed, made⟩ := (decapsulate?_eq_some_iff sound).1 held
    exact unmade payload seed made

private theorem decapsulate?_of_unpadded
    (unpadded : ∀ payload seed, payload.length ≤ key.modulusOctets - 42 →
      Octets.ofValue key.modulusOctets (key.privateMap capsule.value) ≠
        Rsa.Oaep.encode key.modulusOctets seed payload) :
    decapsulate? capsule key = none := by
  rw [Option.eq_none_iff_forall_ne_some]
  intro payload held
  unfold decapsulate? at held
  split at held
  · obtain ⟨fits, seed, padded⟩ := Rsa.Oaep.decode?_eq_some_iff.1 held
    rw [Octets.length_ofValue] at fits padded
    exact unpadded payload seed (by omega) padded
  · cases held

/-- Decapsulation is the exact inverse of encapsulation under all seeds. The limit is
the one by which payloads are refused beforehand, and a payload within it may begin with
any octets. -/
theorem decapsulate?_inverts_encapsulate (sound : key.Sound) :
    capacity key.toPublicKey = .ok (key.modulusOctets - 42) ∧
    (∀ capsule payload, decapsulate? capsule key = some payload ↔
      payload.length ≤ key.modulusOctets - 42 ∧
        ∃ seed, encapsulate payload key.toPublicKey seed = .ok capsule) ∧
    (∀ payload seed, payload.length ≤ key.modulusOctets - 42 →
      ∃ capsule, encapsulate payload key.toPublicKey seed = .ok capsule ∧
        decapsulate? capsule key = some payload) ∧
    (∀ payload seed, (∃ fault, encapsulate payload key.toPublicKey seed = .error fault ∧
      fault.category = .encryption) ↔ key.modulusOctets - 42 < payload.length) ∧
    ∀ capsule,
      (decapsulate? capsule key = none ↔
        ∀ payload seed, encapsulate payload key.toPublicKey seed ≠ .ok capsule) ∧
      (capsule.length ≠ key.modulusOctets ∨ key.modulus ≤ capsule.value ∨
          (∀ payload seed, payload.length ≤ key.modulusOctets - 42 →
            Octets.ofValue key.modulusOctets (key.privateMap capsule.value) ≠
              Rsa.Oaep.encode key.modulusOctets seed payload) →
        decapsulate? capsule key = none) := by
  have room := KeyParameters.size_le_modulusOctets sound.size
  refine ⟨capacity_of_size sound.size, ?_, ?_, ?_, ?_⟩
  · intro capsule payload
    rw [decapsulate?_eq_some_iff sound]
    constructor
    · intro made
      obtain ⟨seed, encapsulated⟩ := made
      obtain ⟨_, fits, _⟩ := encapsulate_eq_ok_iff.1 encapsulated
      exact ⟨by omega, seed, encapsulated⟩
    · exact And.right
  · intro payload seed fits
    have padded : payload.length + 42 ≤ key.modulusOctets := by omega
    obtain ⟨capsule, encapsulated⟩ := exists_encapsulate sound.size padded sound.usable seed
    exact ⟨capsule, encapsulated, (decapsulate?_eq_some_iff sound).2 ⟨seed, encapsulated⟩⟩
  · intro payload seed
    exact encapsulate_fault_iff sound.size sound.usable seed
  · intro capsule
    refine ⟨decapsulate?_eq_none_iff sound, ?_⟩
    rintro (length | large | unpadded)
    · exact if_neg fun suitable => length suitable.1
    · exact if_neg fun suitable => absurd suitable.2 (Nat.not_lt.2 large)
    · exact decapsulate?_of_unpadded unpadded

theorem decapsulate?_inverts_encapsulate_mersenneKey :
    Rsa.mersenneKey.Sound ∧
      (∃ capsule,
        encapsulate (List.replicate 99 1) Rsa.mersenneKey.toPublicKey
            ⟨List.replicate 20 0, rfl⟩ = .ok capsule ∧
          decapsulate? capsule Rsa.mersenneKey = some (List.replicate 99 1)) ∧
      (∃ fault,
        encapsulate (List.replicate 100 0) Rsa.mersenneKey.toPublicKey
            ⟨List.replicate 20 0, rfl⟩ = .error fault ∧ fault.category = .encryption) ∧
      decapsulate? (List.replicate 141 0xFF) Rsa.mersenneKey = none := by
  obtain ⟨_, _, restores, overflows, unheld⟩ :=
    decapsulate?_inverts_encapsulate Rsa.mersenneKey_sound
  -- A key of 141 octets has room for 99.
  exact ⟨Rsa.mersenneKey_sound, restores _ _ (by decide +kernel),
    (overflows _ _).2 (by decide +kernel), (unheld _).2 (.inr (.inl (by decide +kernel)))⟩

end Missive.Capsule
