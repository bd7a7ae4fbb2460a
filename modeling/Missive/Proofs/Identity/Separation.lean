import Mathlib
import Missive.Proofs.Identity.Certification
import Missive.Proofs.Message.Tampering

/-!
# Certifications and envelopes

One key certifies sub keys and signs envelopes, and nothing in a signature says for
which it was made. Only lengths keep the two apart: what is signed of an envelope is
longer than a fingerprint, whoever receives it.
-/

set_option autoImplicit false

namespace Missive

/-- Octets of different lengths that are hashed alike where they are signed. -/
def Collide (message other : Octets) : Prop :=
  message.length ≠ other.length ∧
    Sha1.hash (Sha512.hash message) = Sha1.hash (Sha512.hash other)

namespace Certification

open Message

variable {primary : PrimaryKeyPair} {sub recipient signer : Rsa.PublicKey} {octets : Octets}

/-- The capsule alone has twice the length of a fingerprint. -/
private theorem length_fingerprint_lt (recipientSize : 1024 ≤ recipient.bits)
    (enough : recipient.modulusOctets + 16 + signer.modulusOctets ≤ octets.length) :
    (fingerprint sub).length < (octets.rdrop signer.modulusOctets).length := by
  have capsule := KeyParameters.size_le_modulusOctets recipientSize
  rw [length_fingerprint, List.rdrop, List.length_take]
  omega

private theorem collide_of_verifyOctets (recipientSize : 1024 ≤ recipient.bits)
    (enough : recipient.modulusOctets + 16 + signer.modulusOctets ≤ octets.length)
    (accepted : Signature.verifyOctets (octets.rdrop signer.modulusOctets)
      (octets.rtake signer.modulusOctets) signer = true)
    (vouched : Signature.verifyOctets (fingerprint sub) (octets.rtake signer.modulusOctets) signer =
      true) :
    Collide (octets.rdrop signer.modulusOctets) (fingerprint sub) :=
  ⟨(length_fingerprint_lt recipientSize enough).ne',
    Signature.hash_eq_of_verifyOctets accepted vouched⟩

/-- Octets that were looked into are long enough for their recipient and signed. -/
private theorem signed_of_not_refusedUnread {sender recipient : Rsa.PrivateKey}
    (recipientSize : 1024 ≤ recipient.bits) (senderSize : 1024 ≤ sender.bits)
    (read : ¬ RefusedUnread octets recipient sender.toPublicKey) :
    recipient.modulusOctets + 16 + sender.modulusOctets ≤ octets.length ∧
      Signature.verifyOctets (octets.rdrop sender.modulusOctets)
        (octets.rtake sender.modulusOctets) sender.toPublicKey = true := by
  constructor
  · by_contra short
    exact read (.inl (decrypt_of_short recipientSize senderSize (Nat.not_le.1 short)))
  · exact (refusedUnread_or_verified recipientSize senderSize).resolve_left read

/-- A certification is no signature of an envelope, and the signature of an envelope
certifies nothing, unless a fingerprint collides with something longer. The recipient,
the addressee and the rest of the envelope may be chosen to deceive. -/
theorem collide_of_shared_signature (sound : primary.signer.Sound) (sub : Rsa.PublicKey) :
    (fingerprint sub).length = 64 ∧
    (∀ (recipient : Rsa.PrivateKey) (octets : Octets), 1024 ≤ recipient.bits →
      certify (some sub) (some primary) =
        .ok (some (octets.rtake primary.signer.modulusOctets)) →
      ¬ RefusedUnread octets recipient primary.publicHalf.signingKey →
        Collide (octets.rdrop primary.signer.modulusOctets) (fingerprint sub)) ∧
    ∀ (text : Text) (addressee : Rsa.PublicKey) (seed : Rsa.Oaep.Seed) (source : Source)
      (octets : Octets) (asked : List Int),
      (encrypt text addressee primary.signer seed).run source = (.ok octets, asked) →
      validates (some sub) (some (.octets (octets.rtake primary.signer.modulusOctets)))
        (some primary.publicHalf) = true →
        Collide (octets.rdrop primary.signer.modulusOctets) (fingerprint sub) := by
  refine ⟨length_fingerprint sub, ?_, ?_⟩
  · intro recipient octets recipientSize certified read
    have vouched := (validates_eq_true_iff sound.consistent sound.usable).2 certified
    obtain ⟨enough, accepted⟩ := signed_of_not_refusedUnread recipientSize sound.size read
    exact collide_of_verifyOctets recipientSize enough accepted vouched
  · intro text addressee seed source octets asked encrypted vouched
    obtain ⟨sealing, _, _, rfl, _⟩ := encrypt_eq_ok_iff.1 encrypted
    exact collide_of_verifyOctets sealing.recipient_size sealing.isCut.le_length
      (sealing.verified sound.consistent sound.usable) vouched

theorem collide_of_shared_signature_mersennePrimary :
    mersennePrimary.signer.Sound ∧
      ∃ genuine octets : Octets,
        certify (some Rsa.widerMersenneKey.toPublicKey) (some mersennePrimary) =
          .ok (some genuine) ∧
        (RefusedUnread (List.replicate 400 0 ++ genuine) Rsa.widerMersenneKey
            mersennePrimary.publicHalf.signingKey ∨
          Collide (List.replicate 400 0) (fingerprint Rsa.widerMersenneKey.toPublicKey)) ∧
        (encrypt [0x20AC] Rsa.widerMersenneKey.toPublicKey mersennePrimary.signer
            ⟨List.replicate 20 0, rfl⟩).run
          (.ofReplies [List.replicate 32 1, List.replicate 16 0xFF]) = (.ok octets, [32, 16]) ∧
        (validates (some Rsa.widerMersenneKey.toPublicKey)
            (some (.octets (octets.rtake mersennePrimary.signer.modulusOctets)))
            (some mersennePrimary.publicHalf) = true →
          Collide (octets.rdrop mersennePrimary.signer.modulusOctets)
            (fingerprint Rsa.widerMersenneKey.toPublicKey)) := by
  have sound : mersennePrimary.signer.Sound := Rsa.mersenneKey_sound
  have recipientSize := Rsa.widerMersenneKey_sound.size
  have plain : ∀ point ∈ ([0x20AC] : Text), ¬ point.IsSurrogate := by
    simp [CodePoint.IsSurrogate]
  obtain ⟨genuine, certified⟩ := exists_certify sound.size Rsa.widerMersenneKey.toPublicKey
  have length : genuine.length = mersennePrimary.signer.modulusOctets :=
    Signature.length_of_sign (certify_eq_ok_iff.1 certified)
  have back : (List.replicate 400 0 ++ genuine).rtake mersennePrimary.signer.modulusOctets =
      genuine := by
    rw [← length, List.rtake, List.length_append, Nat.add_sub_cancel, List.drop_left]
  have front : (List.replicate 400 0 ++ genuine).rdrop mersennePrimary.signer.modulusOctets =
      List.replicate 400 0 := by
    rw [← length, List.rdrop_append_length]
  obtain ⟨sealing, keyMade, nonceMade⟩ := exists_sealing plain Rsa.widerMersenneKey_sound.usable
    recipientSize sound.size ⟨List.replicate 20 0, rfl⟩ ⟨List.replicate 32 1, rfl⟩
    ⟨List.replicate 16 0xFF, rfl⟩
  have encrypted := sealing.encrypt_run
  rw [keyMade, nonceMade] at encrypted
  obtain ⟨_, transplanted, reused⟩ :=
    collide_of_shared_signature sound Rsa.widerMersenneKey.toPublicKey
  refine ⟨sound, genuine, sealing.octets, certified, ?_, encrypted,
    reused _ _ _ _ _ _ encrypted⟩
  by_cases refused : RefusedUnread (List.replicate 400 0 ++ genuine) Rsa.widerMersenneKey
      mersennePrimary.publicHalf.signingKey
  · exact .inl refused
  · have certifiedBack : certify (some Rsa.widerMersenneKey.toPublicKey) (some mersennePrimary) =
        .ok (some ((List.replicate 400 0 ++ genuine).rtake
          mersennePrimary.signer.modulusOctets)) := by
      rw [back, certified]
    have collision := transplanted Rsa.widerMersenneKey _ recipientSize certifiedBack refused
    rw [front] at collision
    exact .inr collision

end Certification

end Missive
