import Mathlib
import Missive.Proofs.Message.Opening
import Missive.Proofs.Message.Sealing

/-!
# Envelopes that were tampered with

The signature of an envelope stands at its end and covers everything before it,
so a change on one side only is noticed, wherever the recipient's key cuts the
rest. What could pass for another signed part has to collide with the one signed.
-/

set_option autoImplicit false

namespace Missive.Message

variable {text : Text} {addressee : Rsa.PublicKey} {sender recipient : Rsa.PrivateKey}
  {seed : Rsa.Oaep.Seed} {source : Source} {octets altered : Octets} {asked : List Int}

/-- The signature at the end of a sealed envelope is one of what stands before it. -/
theorem Sealing.verified (sealing : Sealing text addressee sender seed)
    (consistent : sender.Consistent) (usable : sender.Usable) :
    Signature.verifyOctets (sealing.octets.rdrop sender.modulusOctets)
      (sealing.octets.rtake sender.modulusOctets) sender.toPublicKey = true := by
  rw [← sealing.isCut.signedPart_eq, ← sealing.isCut.signature_eq,
    Signature.verifyOctets_iff consistent usable, sealing.signedPart_eq]
  exact sealing.signed

private theorem eq_of_rdrop_rtake {size : Nat} (fronts : altered.rdrop size = octets.rdrop size)
    (backs : altered.rtake size = octets.rtake size) : altered = octets :=
  calc altered = altered.rdrop size ++ altered.rtake size := (List.take_append_drop _ _).symm
    _ = octets.rdrop size ++ octets.rtake size := by rw [fronts, backs]
    _ = octets := List.take_append_drop _ _

/-- Refused before anything was decrypted. -/
def RefusedUnread (octets : Octets) (recipient : Rsa.PrivateKey) (sender : Rsa.PublicKey) : Prop :=
  decrypt octets recipient sender = .ok (.refused .malformedEnvelope) ∨
    decrypt octets recipient sender = .ok (.refused .signatureInvalid)

theorem refusedUnread_or_verified (recipientSize : 1024 ≤ recipient.bits)
    (senderSize : 1024 ≤ sender.bits) :
    RefusedUnread altered recipient sender.toPublicKey ∨
      Signature.verifyOctets (altered.rdrop sender.modulusOctets)
        (altered.rtake sender.modulusOctets) sender.toPublicKey = true := by
  cases accepted : Signature.verifyOctets (altered.rdrop sender.modulusOctets)
      (altered.rtake sender.modulusOctets) sender.toPublicKey with
  | true => exact .inr rfl
  | false =>
      have refused := decrypt_of_not_verified recipientSize senderSize accepted
      split at refused
      · exact .inl (.inl refused)
      · exact .inl (.inr refused)

/-- A change of the signature alone is refused unread, and so is a change of what
was signed alone, unless the two signed parts collide. It does not matter where the
key of the recipient cuts, whether or not the envelope is for that key. -/
theorem refusedUnread_of_altered (consistent : sender.Consistent) (usable : sender.Usable)
    (recipientSize : 1024 ≤ recipient.bits)
    (encrypted : (encrypt text addressee sender seed).run source = (.ok octets, asked))
    (different : altered ≠ octets) :
    (altered.length = octets.length →
      altered.rdrop sender.modulusOctets = octets.rdrop sender.modulusOctets →
        RefusedUnread altered recipient sender.toPublicKey) ∧
    (altered.rtake sender.modulusOctets = octets.rtake sender.modulusOctets →
      RefusedUnread altered recipient sender.toPublicKey ∨
        altered.rdrop sender.modulusOctets ≠ octets.rdrop sender.modulusOctets ∧
          Sha1.hash (Sha512.hash (altered.rdrop sender.modulusOctets)) =
            Sha1.hash (Sha512.hash (octets.rdrop sender.modulusOctets))) := by
  obtain ⟨sealing, _, _, rfl, _⟩ := encrypt_eq_ok_iff.1 encrypted
  have genuine := sealing.verified consistent usable
  have judged : RefusedUnread altered recipient sender.toPublicKey ∨ _ :=
    refusedUnread_or_verified recipientSize sealing.sender_size
  constructor
  · intro _ fronts
    refine judged.resolve_right ?_
    intro accepted
    rw [fronts, Signature.verifyOctets_iff consistent usable] at accepted
    rw [Signature.verifyOctets_iff consistent usable, accepted] at genuine
    exact different (eq_of_rdrop_rtake fronts (Except.ok.inj genuine))
  · intro backs
    refine judged.imp_right ?_
    intro accepted
    constructor
    · intro fronts
      exact different (eq_of_rdrop_rtake fronts backs)
    · rw [backs] at accepted
      exact Signature.hash_eq_of_verifyOctets accepted genuine

theorem refusedUnread_of_altered_mersenneKeys :
    Rsa.widerMersenneKey.Consistent ∧ Rsa.widerMersenneKey.Usable ∧ 1024 ≤ Rsa.mersenneKey.bits ∧
      ∃ octets forged : Octets,
        (encrypt [0x20AC] Rsa.mersenneKey.toPublicKey Rsa.widerMersenneKey
            ⟨List.replicate 20 0, rfl⟩).run
          (.ofReplies [List.replicate 32 1, List.replicate 16 0xFF]) = (.ok octets, [32, 16]) ∧
        forged ≠ octets ∧ forged.length = octets.length ∧
        forged.rdrop Rsa.widerMersenneKey.modulusOctets =
          octets.rdrop Rsa.widerMersenneKey.modulusOctets ∧
        RefusedUnread forged Rsa.mersenneKey Rsa.widerMersenneKey.toPublicKey ∧
        (RefusedUnread (0 :: octets) Rsa.mersenneKey Rsa.widerMersenneKey.toPublicKey ∨
          Sha1.hash (Sha512.hash ((0 :: octets).rdrop Rsa.widerMersenneKey.modulusOctets)) =
            Sha1.hash (Sha512.hash (octets.rdrop Rsa.widerMersenneKey.modulusOctets))) := by
  have consistent := Rsa.widerMersenneKey_consistent
  have usable := Rsa.widerMersenneKey_sound.usable
  have size := Rsa.mersenneKey_sound.size
  have plain : ∀ point ∈ ([0x20AC] : Text), ¬ point.IsSurrogate := by
    simp [CodePoint.IsSurrogate]
  obtain ⟨sealing, keyMade, nonceMade⟩ := exists_sealing plain Rsa.mersenneKey_sound.usable size
    Rsa.widerMersenneKey_sound.size ⟨List.replicate 20 0, rfl⟩ ⟨List.replicate 32 1, rfl⟩
    ⟨List.replicate 16 0xFF, rfl⟩
  have encrypted := sealing.encrypt_run
  rw [keyMade, nonceMade] at encrypted
  have cut := sealing.isCut
  have signatureLength : sealing.signature.length = Rsa.widerMersenneKey.modulusOctets :=
    cut.signature_length
  let forgedSignature := sealing.signature.map (· + 1)
  have forgedSignatureLength : forgedSignature.length = Rsa.widerMersenneKey.modulusOctets :=
    (List.length_map _).trans signatureLength
  have signatureChanged : forgedSignature ≠ sealing.signature := by
    cases signature : sealing.signature with
    | nil =>
        rw [signature] at signatureLength
        exact absurd signatureLength (by decide +kernel)
    | cons octet rest => simp [forgedSignature, signature]
  have forgedChanged : sealing.envelope.signedPart ++ forgedSignature ≠ sealing.octets :=
    fun same => signatureChanged (List.append_cancel_left same)
  have forgedLength : (sealing.envelope.signedPart ++ forgedSignature).length =
      sealing.octets.length := by
    rw [cut.octets_eq, List.length_append, List.length_append, forgedSignatureLength,
      cut.signature_length]
  have forgedFront : (sealing.envelope.signedPart ++ forgedSignature).rdrop
        Rsa.widerMersenneKey.modulusOctets =
      sealing.octets.rdrop Rsa.widerMersenneKey.modulusOctets := by
    rw [← cut.signedPart_eq, ← forgedSignatureLength, List.rdrop_append_length]
  have extendedBack : (0 :: sealing.octets).rtake Rsa.widerMersenneKey.modulusOctets =
      sealing.octets.rtake Rsa.widerMersenneKey.modulusOctets := by
    rw [List.rtake, List.length_cons, Nat.succ_sub (by have := cut.le_length; omega),
      List.drop_succ_cons, List.rtake]
  have extended := (refusedUnread_of_altered consistent usable size encrypted
    (List.cons_ne_self 0 _)).2 extendedBack
  exact ⟨consistent, usable, size, sealing.octets, _, encrypted, forgedChanged, forgedLength,
    forgedFront,
    (refusedUnread_of_altered consistent usable size encrypted forgedChanged).1 forgedLength
      forgedFront,
    extended.imp_right And.right⟩

end Missive.Message
