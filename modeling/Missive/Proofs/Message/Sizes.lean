import Mathlib
import Missive.Proofs.Message.Sealing

/-!
# One size for all that a key makes

The octets of a modulus are counted for the parameters of a key, for the results of its
two maps, and before a signature is looked at. These counts agree for every key that is
large enough, also where its bits do not fill the octets. Nothing is required of the
private numbers, and the modulus need not be one that public operations are done with.
-/

set_option autoImplicit false

namespace Missive

/-- Some parameters count the octets of all that is made with a key. -/
structure KeyParameters.Measure (parameters : KeyParameters) (key : Rsa.PrivateKey) : Prop where
  of_private_half : KeyParameters.ofPrivateKey key = .ok parameters
  of_public_half : KeyParameters.ofKey key.toPublicKey = .ok parameters
  octets_of_bits : parameters.modulusOctets = (key.bits + 7) / 8
  signature_length : ∀ content signature, Signature.sign content key = .ok signature →
    signature.length = parameters.modulusOctets
  capsule_length : ∀ payload seed capsule,
    Capsule.encapsulate payload key.toPublicKey seed = .ok capsule →
      capsule.length = parameters.modulusOctets
  other_length_rejected : ∀ content (given : Octets), given.length ≠ parameters.modulusOctets →
    Signature.verify content (some (.octets given)) key.toPublicKey = .ok false
  content_consulted : ∀ content (given : Octets) fault,
    Signature.verify content (some (.octets given)) key.toPublicKey = .error fault ↔
      given.length = parameters.modulusOctets ∧ digest content = .error fault

private theorem KeyParameters.exists_measure {key : Rsa.PrivateKey} (size : 1024 ≤ key.bits) :
    ∃ parameters : KeyParameters, parameters.Measure key := by
  obtain ⟨parameters, made, octets⟩ := ofKey_of_size size
  refine ⟨parameters, (ofPrivateKey_eq key).trans made, made, octets, ?_, ?_, ?_, ?_⟩
  · intro content signature signed
    rw [octets, Signature.length_of_sign signed]
  · intro payload seed capsule made
    rw [octets, Capsule.length_of_encapsulate made]
  · intro content given other
    rw [octets] at other
    exact Signature.verify_of_length_ne other content
  · intro content given fault
    rw [octets]
    exact Signature.verify_eq_error_iff

namespace Message

private theorem Sealing.decode_octets {text : Text} {recipient : Rsa.PublicKey}
    {sender : Rsa.PrivateKey} {seed : Rsa.Oaep.Seed} (sealing : Sealing text recipient sender seed)
    {capsuleSize signatureSize : Nat} (capsules : capsuleSize = recipient.modulusOctets)
    (signatures : signatureSize = sender.modulusOctets) :
    Envelope.decode sealing.octets capsuleSize signatureSize = .ok sealing.envelope ∧
      sealing.octets.length =
        Envelope.minimumSize capsuleSize signatureSize + sealing.plaintext.length := by
  subst capsules signatures
  refine ⟨Envelope.decode_eq_ok_iff.2 sealing.isCut, ?_⟩
  rw [sealing.length_octets, Envelope.minimumSize]
  push_cast
  ring

/-- Every key that is large enough has one number of octets, whatever its private numbers
are. The sizes by which two keys cut an envelope are therefore those of the parts that it
was assembled from, and the ciphertext takes the octets of the text. -/
theorem sizes_agree (recipient sender : Rsa.PrivateKey) :
    (∀ key : Rsa.PrivateKey, 1024 ≤ key.bits →
      ∃ parameters : KeyParameters, parameters.Measure key) ∧
    ∀ (text : Text) (seed : Rsa.Oaep.Seed) (source : Source) (octets : Octets)
      (asked : List Int),
      (encrypt text recipient.toPublicKey sender seed).run source = (.ok octets, asked) →
      ∃ (capsuleParameters signatureParameters : KeyParameters) (plaintext : Octets)
        (envelope : Envelope),
        capsuleParameters.Measure recipient ∧ signatureParameters.Measure sender ∧
        text.toOctets = .ok plaintext ∧
        Capsule.encapsulate (source.reply [] 32) recipient.toPublicKey seed =
          .ok envelope.capsule ∧
        envelope.nonce = source.reply [32] 16 ∧
        Payload.encrypt plaintext (source.reply [] 32) source [32] =
          (.ok envelope.payload, asked) ∧
        Signature.sign (.octets (envelope.capsule ++ envelope.payload)) sender =
          .ok envelope.signature ∧
        octets.length = Envelope.minimumSize capsuleParameters.capsuleSize
          signatureParameters.signatureSize + plaintext.length ∧
        Envelope.decode octets capsuleParameters.capsuleSize signatureParameters.signatureSize =
          .ok envelope := by
  refine ⟨fun key size => KeyParameters.exists_measure size, ?_⟩
  intro text seed source octets asked made
  obtain ⟨sealing, keyReplied, nonceReplied, rfl, rfl⟩ := encrypt_eq_ok_iff.1 made
  -- No size is assumed here: a text is sealed only between keys that are large enough.
  obtain ⟨capsuleParameters, capsuleMeasure⟩ :=
    KeyParameters.exists_measure sealing.recipient_size
  obtain ⟨signatureParameters, signatureMeasure⟩ :=
    KeyParameters.exists_measure sealing.sender_size
  obtain ⟨decoded, length⟩ :=
    sealing.decode_octets capsuleMeasure.octets_of_bits signatureMeasure.octets_of_bits
  refine ⟨capsuleParameters, signatureParameters, sealing.plaintext, sealing.envelope,
    capsuleMeasure, signatureMeasure, Text.toOctets_eq_ok_iff.2 sealing.written,
    keyReplied ▸ sealing.encapsulated, nonceReplied.symm, ?_, sealing.signed, length, decoded⟩
  rw [keyReplied]
  exact Payload.encrypt_eq_ok_iff.2 ⟨sealing.nonce, nonceReplied, rfl, rfl⟩

theorem sizes_agree_mersenneKeys :
    (∃ parameters : KeyParameters, parameters.Measure Rsa.widerMersenneKey ∧
      parameters.modulusOctets = 236) ∧
    ∃ octets,
      (encrypt [0x20AC] Rsa.widerMersenneKey.toPublicKey Rsa.mersenneKey
          ⟨List.replicate 20 0, rfl⟩).run
        (.ofReplies [List.replicate 32 1, List.replicate 16 0xFF]) = (.ok octets, [32, 16]) ∧
      octets.length = 236 + 16 + 141 + 3 ∧
      ∃ envelope, Envelope.decode octets 236 141 = .ok envelope ∧
        envelope.nonce = List.replicate 16 0xFF := by
  have recipientOctets : (Rsa.widerMersenneKey.bits + 7) / 8 = 236 := by decide +kernel
  have senderOctets : (Rsa.mersenneKey.bits + 7) / 8 = 141 := by decide +kernel
  have spelled : Text.toOctets [0x20AC] = .ok [0xE2, 0x82, 0xAC] := by rfl
  have plain : ∀ point ∈ ([0x20AC] : Text), ¬ point.IsSurrogate := by simp [CodePoint.IsSurrogate]
  obtain ⟨measured, agree⟩ := sizes_agree Rsa.widerMersenneKey Rsa.mersenneKey
  obtain ⟨parameters, measure⟩ := measured Rsa.widerMersenneKey Rsa.widerMersenneKey_sound.size
  obtain ⟨sealing, keyDrawn, nonceDrawn⟩ := exists_sealing plain Rsa.widerMersenneKey_sound.usable
    Rsa.widerMersenneKey_sound.size Rsa.mersenneKey_sound.size ⟨List.replicate 20 0, rfl⟩
    ⟨List.replicate 32 1, rfl⟩ ⟨List.replicate 16 0xFF, rfl⟩
  have made := sealing.encrypt_run
  rw [keyDrawn, nonceDrawn] at made
  obtain ⟨capsules, signatures, plaintext, envelope, capsuleMeasure, signatureMeasure, written, _,
    drawn, _, _, length, decoded⟩ := agree _ _ _ _ _ made
  have capsuleSize : capsules.capsuleSize = 236 := capsuleMeasure.octets_of_bits.trans recipientOctets
  have signatureSize : signatures.signatureSize = 141 :=
    signatureMeasure.octets_of_bits.trans senderOctets
  rw [capsuleSize, signatureSize] at length decoded
  rw [spelled, Except.ok.injEq] at written
  rw [← written] at length
  exact ⟨⟨parameters, measure, measure.octets_of_bits.trans recipientOctets⟩, sealing.octets, made,
    Int.ofNat.inj length, envelope, decoded, drawn⟩

end Message

end Missive
