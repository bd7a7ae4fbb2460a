import Mathlib
import Missive.Proofs.Message.Opening
import Missive.Proofs.Message.Sealing

/-!
# Opening what was sealed

Between two sound keys, opening undoes sealing, and nothing can be opened that was
not sealed: the octets of an envelope are determined by the text and the draws.
-/

set_option autoImplicit false

namespace Missive.Message

variable {text : Text} {recipient sender : Rsa.PrivateKey} {octets : Octets}

/-- Octets are opened to a text exactly when they are an envelope of it. Each part
of the envelope is read exactly: the capsule by a seed, the payload by a nonce, the
text by its octets, and the signature as the only one of its message. -/
theorem opened_iff_exists_sealing (recipientSound : recipient.Sound) (senderSound : sender.Sound) :
    decrypt octets recipient sender.toPublicKey = .ok (.opened text) ↔
      ∃ seed, ∃ sealing : Sealing text recipient.toPublicKey sender seed,
        sealing.octets = octets := by
  rw [decrypt_eq_opened_iff recipientSound.size senderSound.size]
  constructor
  · intro opened
    obtain ⟨envelope, cut, accepted, revealed⟩ := opened
    obtain ⟨key, nonce, plaintext, held, made, written⟩ := reveal_eq_some_iff.1 revealed
    obtain ⟨seed, encapsulated⟩ := (Capsule.decapsulate?_eq_some_iff recipientSound).1 held
    have signedPart : envelope.signedPart =
        envelope.capsule ++ Payload.encipher key nonce plaintext := by
      rw [← made, Envelope.payload, Envelope.signedPart, List.append_assoc]
    have signed :=
      (Signature.verifyOctets_iff senderSound.consistent senderSound.usable).1 accepted
    rw [signedPart] at signed
    refine ⟨seed, ⟨key, nonce, plaintext, envelope.capsule, envelope.signature, written,
      encapsulated, signed, senderSound.size⟩, ?_⟩
    rw [cut.octets_eq, signedPart, Sealing.octets, Sealing.signedPart_eq]
  · intro sealed
    obtain ⟨seed, sealing, made⟩ := sealed
    refine ⟨sealing.envelope, made ▸ sealing.isCut, ?_, ?_⟩
    · rw [Signature.verifyOctets_iff senderSound.consistent senderSound.usable,
        sealing.signedPart_eq]
      exact sealing.signed
    · exact reveal_eq_some_iff.2 ⟨sealing.key, sealing.nonce, sealing.plaintext,
        (Capsule.decapsulate?_eq_some_iff recipientSound).2 ⟨seed, sealing.encapsulated⟩, rfl,
        sealing.written⟩

/-- A text without surrogates is sealed whatever is drawn, and opens to itself. The
two keys may differ in size, and neither size need be a whole number of octets. -/
theorem decrypt_encrypt {source : Source} (seed : Rsa.Oaep.Seed) (key : SymmetricKey)
    (nonce : Nonce) (plain : ∀ point ∈ text, ¬ point.IsSurrogate)
    (recipientSound : recipient.Sound) (senderSound : sender.Sound)
    (keyReplied : source.reply [] 32 = key.octets)
    (nonceReplied : source.reply [32] 16 = nonce.octets) :
    ∃ octets,
      (encrypt text recipient.toPublicKey sender seed).run source = (.ok octets, [32, 16]) ∧
        decrypt octets recipient sender.toPublicKey = .ok (.opened text) := by
  obtain ⟨sealing, rfl, rfl⟩ := exists_sealing plain recipientSound.usable recipientSound.size
    senderSound.size seed key nonce
  refine ⟨sealing.octets, ?_, ?_⟩
  · exact encrypt_eq_ok_iff.2 ⟨sealing, keyReplied, nonceReplied, rfl, rfl⟩
  · exact (opened_iff_exists_sealing recipientSound senderSound).2 ⟨seed, sealing, rfl⟩

theorem decrypt_encrypt_mersenneKeys :
    Rsa.mersenneKey.Sound ∧ Rsa.widerMersenneKey.Sound ∧ ∃ octets,
      (encrypt [0x41, 0xE9, 0x20AC, 0x1F511] Rsa.mersenneKey.toPublicKey Rsa.widerMersenneKey
          ⟨List.replicate 20 0, rfl⟩).run
        (.ofReplies [List.replicate 32 1, List.replicate 16 0xFF]) = (.ok octets, [32, 16]) ∧
      decrypt octets Rsa.mersenneKey Rsa.widerMersenneKey.toPublicKey =
        .ok (.opened [0x41, 0xE9, 0x20AC, 0x1F511]) :=
  ⟨Rsa.mersenneKey_sound, Rsa.widerMersenneKey_sound,
    decrypt_encrypt ⟨List.replicate 20 0, rfl⟩ ⟨List.replicate 32 1, rfl⟩
      ⟨List.replicate 16 0xFF, rfl⟩ (by simp [CodePoint.IsSurrogate]) Rsa.mersenneKey_sound
      Rsa.widerMersenneKey_sound rfl rfl⟩

/-- Whatever opens was sealed: some key, nonce and seed give exactly these octets. -/
theorem exists_encrypt_of_opened (recipientSound : recipient.Sound) (senderSound : sender.Sound)
    (opened : decrypt octets recipient sender.toPublicKey = .ok (.opened text)) :
    ∃ (key : SymmetricKey) (nonce : Nonce) (seed : Rsa.Oaep.Seed),
      (encrypt text recipient.toPublicKey sender seed).run
        (.ofReplies [key.octets, nonce.octets]) = (.ok octets, [32, 16]) := by
  obtain ⟨seed, sealing, rfl⟩ := (opened_iff_exists_sealing recipientSound senderSound).1 opened
  exact ⟨sealing.key, sealing.nonce, seed, sealing.encrypt_run⟩

theorem exists_encrypt_of_opened_mersenneKeys :
    Rsa.widerMersenneKey.Sound ∧ Rsa.mersenneKey.Sound ∧ ∃ octets,
      decrypt octets Rsa.widerMersenneKey Rsa.mersenneKey.toPublicKey =
        .ok (.opened [0x41, 0xE9, 0x20AC, 0x1F511]) ∧
      ∃ (key : SymmetricKey) (nonce : Nonce) (seed : Rsa.Oaep.Seed),
        (encrypt [0x41, 0xE9, 0x20AC, 0x1F511] Rsa.widerMersenneKey.toPublicKey Rsa.mersenneKey
            seed).run
          (.ofReplies [key.octets, nonce.octets]) = (.ok octets, [32, 16]) := by
  have recipientSound := Rsa.widerMersenneKey_sound
  have senderSound := Rsa.mersenneKey_sound
  have plain : (Content.text [0x41, 0xE9, 0x20AC, 0x1F511]).Encodable := by decide
  obtain ⟨sealing, _⟩ := exists_sealing plain recipientSound.usable recipientSound.size
    senderSound.size ⟨List.replicate 20 0, rfl⟩ ⟨List.replicate 32 1, rfl⟩
    ⟨List.replicate 16 0xFF, rfl⟩
  have opened := (opened_iff_exists_sealing recipientSound senderSound).2 ⟨_, sealing, rfl⟩
  exact ⟨recipientSound, senderSound, sealing.octets, opened,
    exists_encrypt_of_opened recipientSound senderSound opened⟩

end Missive.Message
