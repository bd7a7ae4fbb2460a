import Mathlib
import Missive.Identity.Certification
import Missive.Proofs.Der.PublicKey
import Missive.Proofs.Key.Parameters
import Missive.Proofs.Signature

/-!
# One certification for each sub key

A sound identity gives every sub key one certification, and no other octets vouch
for it. A certification is of a fingerprint, so it vouches for another sub key only
where the encodings of the two collide.
-/

set_option autoImplicit false

namespace Missive

/-- The key that speaks for an identity. -/
abbrev PrimaryKeyPair.signer (primary : PrimaryKeyPair) : Rsa.PrivateKey :=
  primary.signing.privateKey

namespace Certification

variable {primary : PrimaryKeyPair} {sub other : Rsa.PublicKey} {given : Octets}

@[simp] theorem length_fingerprint (key : Rsa.PublicKey) : (fingerprint key).length = 64 :=
  Sha512.length_hash _

theorem certify_eq_ok_iff :
    certify (some sub) (some primary) = .ok (some given) ↔
      Signature.sign (.octets (fingerprint sub)) primary.signer = .ok given := by
  show (Signature.sign (.octets (fingerprint sub)) primary.signer).map some = .ok (some given) ↔ _
  cases Signature.sign (.octets (fingerprint sub)) primary.signer <;> simp [Except.map]

private theorem validates_eq (sub : Rsa.PublicKey) (given : Octets) (primary : PrimaryKeyPair) :
    validates (some sub) (some (.octets given)) (some primary.publicHalf) =
      Signature.verifyOctets (fingerprint sub) given primary.signer.toPublicKey :=
  rfl

theorem validates_eq_true_iff (consistent : primary.signer.Consistent)
    (usable : primary.signer.Usable) :
    validates (some sub) (some (.octets given)) (some primary.publicHalf) = true ↔
      certify (some sub) (some primary) = .ok (some given) := by
  rw [validates_eq, Signature.verifyOctets_iff consistent usable, certify_eq_ok_iff]

theorem exists_certify (size : 1024 ≤ primary.signer.bits) (sub : Rsa.PublicKey) :
    ∃ genuine, certify (some sub) (some primary) = .ok (some genuine) := by
  have room : 46 ≤ primary.signer.modulusOctets :=
    Nat.le_trans (by decide) (KeyParameters.size_le_modulusOctets size)
  obtain ⟨genuine, signed⟩ := Signature.exists_sign room (fingerprint sub)
  exact ⟨genuine, certify_eq_ok_iff.2 signed⟩

private theorem hash_encode_eq_of_validates
    (vouched : validates (some sub) (some (.octets given)) (some primary.publicHalf) = true)
    (vouchedForOther :
      validates (some other) (some (.octets given)) (some primary.publicHalf) = true) :
    Sha1.hash (Sha512.hash (Sha512.hash (Der.PublicKey.encode sub))) =
      Sha1.hash (Sha512.hash (Sha512.hash (Der.PublicKey.encode other))) :=
  Signature.hash_eq_of_verifyOctets vouched vouchedForOther

/-- A sound identity certifies every sub key, and what vouches for one is its
certification and nothing else, whether it is shown beside the key or carried by it. A
certification that vouches for two keys makes their encodings collide. -/
theorem validates_iff_certify (sound : primary.signer.Sound) (sub other : Rsa.PublicKey) :
    (∃ genuine, certify (some sub) (some primary) = .ok (some genuine)) ∧
    (∀ given, validates (some sub) (some (.octets given)) (some primary.publicHalf) = true ↔
      certify (some sub) (some primary) = .ok (some given)) ∧
    (∀ given, validatesCarried (some ⟨sub, some given⟩) (some primary.publicHalf) =
      validates (some sub) (some (.octets given)) (some primary.publicHalf)) ∧
    ∀ genuine, certify (some sub) (some primary) = .ok (some genuine) →
      validates (some other) (some (.octets genuine)) (some primary.publicHalf) = true →
        sub = other ∨
          Der.PublicKey.encode sub ≠ Der.PublicKey.encode other ∧
            Sha1.hash (Sha512.hash (Sha512.hash (Der.PublicKey.encode sub))) =
              Sha1.hash (Sha512.hash (Sha512.hash (Der.PublicKey.encode other))) := by
  have vouches_iff (given : Octets) :
      validates (some sub) (some (.octets given)) (some primary.publicHalf) = true ↔
        certify (some sub) (some primary) = .ok (some given) :=
    validates_eq_true_iff sound.consistent sound.usable
  refine ⟨exists_certify sound.size sub, vouches_iff, fun _ => rfl, ?_⟩
  intro genuine certified vouchedForOther
  have vouched := (vouches_iff genuine).2 certified
  by_cases same : Der.PublicKey.encode sub = Der.PublicKey.encode other
  · exact .inl (Der.PublicKey.encode_injective same)
  · exact .inr ⟨same, hash_encode_eq_of_validates vouched vouchedForOther⟩

/-- An identity that signs with one key and receives with another. -/
def mersennePrimary : PrimaryKeyPair where
  signing := ⟨Rsa.mersenneKey, .standard⟩
  encryption := ⟨Rsa.widerMersenneKey, .standard⟩

theorem validates_iff_certify_mersennePrimary :
    mersennePrimary.signer.Sound ∧
      ∃ genuine,
        certify (some Rsa.widerMersenneKey.toPublicKey) (some mersennePrimary) =
          .ok (some genuine) ∧
        validates (some Rsa.widerMersenneKey.toPublicKey) (some (.octets genuine))
          (some mersennePrimary.publicHalf) = true ∧
        validatesCarried (some ⟨Rsa.widerMersenneKey.toPublicKey, some (genuine ++ [0])⟩)
          (some mersennePrimary.publicHalf) = false ∧
        (validates (some Rsa.mersenneKey.toPublicKey) (some (.octets genuine))
            (some mersennePrimary.publicHalf) = true →
          Sha1.hash (Sha512.hash (Sha512.hash
              (Der.PublicKey.encode Rsa.widerMersenneKey.toPublicKey))) =
            Sha1.hash (Sha512.hash (Sha512.hash
              (Der.PublicKey.encode Rsa.mersenneKey.toPublicKey)))) := by
  have sound : mersennePrimary.signer.Sound := Rsa.mersenneKey_sound
  have different : Rsa.widerMersenneKey.toPublicKey ≠ Rsa.mersenneKey.toPublicKey := by
    decide +kernel
  obtain ⟨⟨genuine, certified⟩, vouches, carried, collides⟩ :=
    validates_iff_certify sound Rsa.widerMersenneKey.toPublicKey Rsa.mersenneKey.toPublicKey
  refine ⟨sound, genuine, certified, (vouches genuine).2 certified, ?_, ?_⟩
  · rw [carried, Bool.eq_false_iff, Ne, vouches, certified]
    simp
  · intro vouched
    exact ((collides genuine certified vouched).resolve_left different).2

end Certification

end Missive
