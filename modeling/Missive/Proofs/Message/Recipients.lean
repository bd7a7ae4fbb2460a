import Mathlib
import Missive.Proofs.Message.Verdict

/-!
# What the key of the recipient decides

The private half of the recipient's key plays no part in what is said of octets that
their sender did not sign. The key then matters by its size alone, and even the size
does not matter to the signature: wherever the capsule ends, the parts before the
signature are joined to the same octets.
-/

set_option autoImplicit false

namespace Missive.Message

variable {octets : Octets} {recipient other : Rsa.PrivateKey} {sender : Rsa.PublicKey}
  {outcome : Outcome}

theorem signatureInvalid_iff (recipientSize : 1024 ≤ recipient.bits)
    (senderSize : 1024 ≤ sender.bits)
    (enough : recipient.modulusOctets + 16 + sender.modulusOctets ≤ octets.length) :
    decrypt octets recipient sender = .ok (.refused .signatureInvalid) ↔
      endsSigned octets sender = .ok false := by
  rw [decrypt_eq_ok_iff, judged_signatureInvalid_iff]
  constructor
  · intro ⟨_, _, _, rejected⟩
    exact rejected
  · intro rejected
    exact ⟨recipientSize, senderSize, enough, rejected⟩

/-- What is said of unsigned octets to every recipient whose modulus has so many octets. -/
def unsignedOutcome (octets : Octets) (sender : Rsa.PublicKey) (capsuleSize : Nat) : Outcome :=
  .refused (if octets.length < capsuleSize + 16 + sender.modulusOctets then .malformedEnvelope
    else .signatureInvalid)

private theorem decrypt_of_unsigned (rejected : endsSigned octets sender = .ok false)
    (recipientSize : 1024 ≤ recipient.bits) (senderSize : 1024 ≤ sender.bits) :
    decrypt octets recipient sender =
      .ok (unsignedOutcome octets sender recipient.modulusOctets) := by
  rw [endsSigned_eq, Except.ok.injEq] at rejected
  exact decrypt_of_not_verified recipientSize senderSize rejected

private theorem Judged.signed (judged : Judged octets recipient sender outcome)
    (decided : outcome.refusal = some .decryptionFailed ∨ outcome.text.isSome) :
    endsSigned octets sender = .ok true := by
  cases judged with
  | malformed | unsigned => simp [Outcome.refused] at decided
  | unreadable _ accepted => exact accepted
  | opened _ accepted => exact accepted

/-- Octets that their sender did not sign say nothing of a recipient's key but its size.
Octets that suffice for two recipients are found signed by both or by neither, although
the two cut different capsules. -/
theorem recipients_agree (recipientSize : 1024 ≤ recipient.bits) (otherSize : 1024 ≤ other.bits)
    (senderSize : 1024 ≤ sender.bits) :
    (max recipient.modulusOctets other.modulusOctets + 16 + sender.modulusOctets ≤
        octets.length →
      (decrypt octets recipient sender = .ok (.refused .signatureInvalid) ↔
        decrypt octets other sender = .ok (.refused .signatureInvalid))) ∧
    (endsSigned octets sender = .ok false →
      (∃ outcomeOfSize : Nat → Outcome, ∀ anyone : Rsa.PrivateKey, 1024 ≤ anyone.bits →
        decrypt octets anyone sender = .ok (outcomeOfSize anyone.modulusOctets)) ∧
      (recipient.modulusOctets = other.modulusOctets →
        decrypt octets recipient sender = decrypt octets other sender)) ∧
    ∀ (anyone : Rsa.PrivateKey) (outcome : Outcome),
      decrypt octets anyone sender = .ok outcome →
      outcome.refusal = some .decryptionFailed ∨ outcome.text.isSome →
        endsSigned octets sender = .ok true := by
  refine ⟨?_, ?_, ?_⟩
  · intro enough
    rw [signatureInvalid_iff recipientSize senderSize (by omega),
      signatureInvalid_iff otherSize senderSize (by omega)]
  · intro rejected
    constructor
    · exact ⟨unsignedOutcome octets sender, fun _ size =>
        decrypt_of_unsigned rejected size senderSize⟩
    · intro sizes
      rw [decrypt_of_unsigned rejected recipientSize senderSize,
        decrypt_of_unsigned rejected otherSize senderSize, sizes]
  · intro anyone outcome decrypted decided
    obtain ⟨_, _, judged⟩ := decrypt_eq_ok_iff.1 decrypted
    exact judged.signed decided

theorem recipients_agree_mersenneKeys :
    1024 ≤ Rsa.mersenneKey.bits ∧ 1024 ≤ Rsa.widerMersenneKey.bits ∧
      Rsa.mersenneKey.modulusOctets ≠ Rsa.widerMersenneKey.modulusOctets ∧
      decrypt (List.replicate 393 0xFF) Rsa.mersenneKey Rsa.mersenneKey.toPublicKey =
        .ok (.refused .signatureInvalid) ∧
      decrypt (List.replicate 393 0xFF) Rsa.widerMersenneKey Rsa.mersenneKey.toPublicKey =
        .ok (.refused .signatureInvalid) := by
  have size := Rsa.mersenneKey_sound.size
  have widerSize := Rsa.widerMersenneKey_sound.size
  -- What stands at the end spells a number above the modulus of the sender.
  have rejected : endsSigned (List.replicate 393 0xFF) Rsa.mersenneKey.toPublicKey = .ok false := by
    rw [endsSigned_eq, Except.ok.injEq, Bool.eq_false_iff]
    intro accepted
    obtain ⟨_, _, below, _⟩ := Signature.verifyOctets_eq_true_iff.1 accepted
    exact absurd below (by decide +kernel)
  have refused := (signatureInvalid_iff size size (by decide +kernel)).2 rejected
  obtain ⟨agree, _⟩ := recipients_agree size widerSize size
  exact ⟨size, widerSize, by decide +kernel, refused, (agree (by decide +kernel)).1 refused⟩

end Missive.Message
