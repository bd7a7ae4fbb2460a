import Mathlib
import Missive.Message
import Missive.Proofs.Cipher.Payload
import Missive.Proofs.Envelope
import Missive.Proofs.Key.Parameters
import Missive.Proofs.Signature
import Missive.Proofs.Text.Utf8

/-!
# How envelopes are opened

With keys of proper size, octets are either too few, or are cut in one way and
judged by their parts: first by the signature, and only then by what the
recipient's key makes of the rest.
-/

set_option autoImplicit false

namespace Missive.Message

variable {octets : Octets} {recipient : Rsa.PrivateKey} {sender : Rsa.PublicKey}
  {envelope : Envelope} {text : Text} {fault : Fault}

theorem spelled_eq_ok_iff : spelled octets = .ok text ↔ Utf8.encode text = .ok octets := by
  rw [← Utf8.decode?_eq_some_iff]
  unfold spelled
  cases Utf8.decode? octets <;> simp

/-- What makes a payload no text is a bad value in each case. -/
private theorem category_of_unread {payload key : Octets}
    (failed : Payload.decrypt payload key >>= spelled = .error fault) :
    fault.category = .badValue := by
  cases decrypted : Payload.decrypt payload key with
  | error found =>
      rw [decrypted] at failed
      cases failed
      obtain ⟨_, rfl⟩ | ⟨_, _, rfl⟩ := Payload.decrypt_eq_error_iff.1 decrypted
      · rfl
      · rfl
  | ok plaintext =>
      rw [decrypted] at failed
      change spelled plaintext = .error fault at failed
      unfold spelled at failed
      split at failed
      · cases failed
      · cases failed
        rfl

/-- Whatever an envelope holds, no fault of looking into it is passed on. -/
theorem exists_reveal (envelope : Envelope) (recipient : Rsa.PrivateKey) :
    ∃ revealed, reveal envelope recipient = .ok revealed := by
  unfold reveal
  cases Capsule.decapsulate? envelope.capsule recipient with
  | none => exact ⟨none, rfl⟩
  | some key => exact Fault.exists_absorb fun _ failed => category_of_unread failed

theorem reveal_eq_some_iff :
    reveal envelope recipient = .ok (some text) ↔
      ∃ (key : SymmetricKey) (nonce : Nonce) (plaintext : Octets),
        Capsule.decapsulate? envelope.capsule recipient = some key.octets ∧
          envelope.payload = Payload.encipher key nonce plaintext ∧
          Utf8.encode text = .ok plaintext := by
  unfold reveal
  constructor
  · intro revealed
    cases held : Capsule.decapsulate? envelope.capsule recipient with
    | none =>
        rw [held] at revealed
        cases revealed
    | some key =>
        rw [held] at revealed
        have read := Fault.absorb_eq_ok_some_iff.1 revealed
        cases decrypted : Payload.decrypt envelope.payload key with
        | error fault =>
            rw [decrypted] at read
            cases read
        | ok plaintext =>
            rw [decrypted] at read
            obtain ⟨key, nonce, rfl, made⟩ := Payload.decrypt_eq_ok_iff.1 decrypted
            exact ⟨key, nonce, plaintext, rfl, made, spelled_eq_ok_iff.1 read⟩
  · intro ⟨key, nonce, plaintext, held, made, written⟩
    rw [held]
    refine Fault.absorb_eq_ok_some_iff.2 ?_
    rw [Payload.decrypt_eq_ok_iff.2 ⟨key, nonce, rfl, made⟩]
    exact spelled_eq_ok_iff.2 written

/-- The sizes of the keys have no other effect than where the octets are cut. -/
private theorem decrypt_of_size (recipientSize : 1024 ≤ recipient.bits)
    (senderSize : 1024 ≤ sender.bits) :
    decrypt octets recipient sender =
      (Fault.absorb .invalidEnvelope
        (Envelope.decode octets recipient.modulusOctets sender.modulusOctets)).bind fun cut =>
          cut.elim (.ok (.refused .malformedEnvelope)) fun envelope =>
            inspect envelope recipient sender := by
  obtain ⟨recipientParameters, recipientMade, recipientOctets⟩ :=
    KeyParameters.ofKey_of_size recipientSize
  obtain ⟨senderParameters, senderMade, senderOctets⟩ := KeyParameters.ofKey_of_size senderSize
  rw [decrypt, recipientMade, senderMade]
  simp only [bind, Except.bind, KeyParameters.capsuleSize, KeyParameters.signatureSize,
    recipientOctets, senderOctets]
  cases Fault.absorb .invalidEnvelope
      (Envelope.decode octets recipient.modulusOctets sender.modulusOctets) with
  | error fault => rfl
  | ok cut => cases cut <;> rfl

/-- To be too short is the one fault of cutting octets, and it is not passed on. -/
theorem decrypt_of_short (recipientSize : 1024 ≤ recipient.bits) (senderSize : 1024 ≤ sender.bits)
    (short : octets.length < recipient.modulusOctets + 16 + sender.modulusOctets) :
    decrypt octets recipient sender = .ok (.refused .malformedEnvelope) := by
  rw [decrypt_of_size recipientSize senderSize, Envelope.decode_of_short short]
  rfl

/-- The parts of the octets decide. The key of the recipient is not used unless
the signature is accepted. -/
theorem decrypt_of_cut (recipientSize : 1024 ≤ recipient.bits) (senderSize : 1024 ≤ sender.bits)
    (cut : envelope.IsCut octets recipient.modulusOctets sender.modulusOctets)
    {revealed : Option Text} (looked : reveal envelope recipient = .ok revealed) :
    decrypt octets recipient sender = .ok
      (if Signature.verifyOctets envelope.signedPart envelope.signature sender then
        revealed.elim (.refused .decryptionFailed) .opened
      else .refused .signatureInvalid) := by
  rw [decrypt_of_size recipientSize senderSize, Envelope.decode_eq_ok_iff.2 cut]
  change inspect envelope recipient sender = _
  rw [inspect, Signature.verify_eq_ok_verifyOctets rfl, looked]
  cases Signature.verifyOctets envelope.signedPart envelope.signature sender with
  | false => rfl
  | true => cases revealed <;> rfl

theorem exists_cut (enough : recipient.modulusOctets + 16 + sender.modulusOctets ≤ octets.length) :
    ∃ envelope : Envelope, envelope.IsCut octets recipient.modulusOctets sender.modulusOctets := by
  obtain ⟨envelope, _, cut⟩ := Envelope.exists_decode enough
  exact ⟨envelope, cut⟩

/-- A text is opened exactly when the octets are cut to an envelope whose
signature is accepted and which reveals the text. -/
theorem decrypt_eq_opened_iff (recipientSize : 1024 ≤ recipient.bits)
    (senderSize : 1024 ≤ sender.bits) :
    decrypt octets recipient sender = .ok (.opened text) ↔
      ∃ envelope : Envelope, envelope.IsCut octets recipient.modulusOctets sender.modulusOctets ∧
        Signature.verifyOctets envelope.signedPart envelope.signature sender = true ∧
        reveal envelope recipient = .ok (some text) := by
  constructor
  · intro opened
    rcases Nat.lt_or_ge octets.length (recipient.modulusOctets + 16 + sender.modulusOctets) with
      short | enough
    · rw [decrypt_of_short recipientSize senderSize short] at opened
      cases opened
    · obtain ⟨envelope, cut⟩ := exists_cut enough
      obtain ⟨revealed, looked⟩ := exists_reveal envelope recipient
      rw [decrypt_of_cut recipientSize senderSize cut looked] at opened
      split at opened
      · rename_i accepted
        refine ⟨envelope, cut, accepted, ?_⟩
        cases revealed with
        | none => cases opened
        | some found =>
            cases opened
            exact looked
      · cases opened
  · intro ⟨envelope, cut, accepted, revealed⟩
    rw [decrypt_of_cut recipientSize senderSize cut revealed, if_pos accepted]
    rfl

/-- Octets are refused when the signature at their end is not one of what stands
before it. It does not matter for whom they are cut. -/
theorem decrypt_of_not_verified (recipientSize : 1024 ≤ recipient.bits)
    (senderSize : 1024 ≤ sender.bits)
    (rejected : Signature.verifyOctets (octets.rdrop sender.modulusOctets)
      (octets.rtake sender.modulusOctets) sender = false) :
    decrypt octets recipient sender = .ok (.refused
      (if octets.length < recipient.modulusOctets + 16 + sender.modulusOctets then
        .malformedEnvelope
      else .signatureInvalid)) := by
  split
  · rename_i short
    exact decrypt_of_short recipientSize senderSize short
  · rename_i enough
    obtain ⟨envelope, cut⟩ := exists_cut (Nat.not_lt.1 enough)
    obtain ⟨_, looked⟩ := exists_reveal envelope recipient
    rw [decrypt_of_cut recipientSize senderSize cut looked, cut.signedPart_eq, cut.signature_eq,
      rejected]
    rfl

end Missive.Message
