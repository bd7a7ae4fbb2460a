import Mathlib
import Missive.Message
import Missive.Proofs.Capsule
import Missive.Proofs.Cipher.Payload
import Missive.Proofs.Envelope
import Missive.Proofs.Randomness
import Missive.Proofs.Signature

/-!
# How texts are sealed

Encrypting succeeds exactly when each of its steps does. The closing comparison of
sizes never fails: a capsule and a signature are as long as the moduli by which
the recipient cuts the envelope, whatever was drawn.
-/

set_option autoImplicit false

namespace Missive.Message

/-- What makes one envelope of a text: the octets drawn, and what each step of
encryption gives for them. -/
structure Sealing (text : Text) (recipient : Rsa.PublicKey) (sender : Rsa.PrivateKey)
    (seed : Rsa.Oaep.Seed) where
  key : SymmetricKey
  nonce : Nonce
  plaintext : Octets
  capsule : Octets
  signature : Octets
  written : Utf8.encode text = .ok plaintext
  encapsulated : Capsule.encapsulate key.octets recipient seed = .ok capsule
  signed : Signature.sign (.octets (capsule ++ Payload.encipher key nonce plaintext)) sender =
    .ok signature
  sender_size : 1024 ≤ sender.bits

namespace Sealing

variable {text : Text} {recipient : Rsa.PublicKey} {sender : Rsa.PrivateKey}
  {seed : Rsa.Oaep.Seed}

def envelope (sealing : Sealing text recipient sender seed) : Envelope where
  capsule := sealing.capsule
  nonce := sealing.nonce.octets
  ciphertext := CounterMode.apply sealing.key sealing.nonce sealing.plaintext
  signature := sealing.signature

def octets (sealing : Sealing text recipient sender seed) : Octets :=
  sealing.envelope.signedPart ++ sealing.signature

theorem signedPart_eq (sealing : Sealing text recipient sender seed) :
    sealing.envelope.signedPart =
      sealing.capsule ++ Payload.encipher sealing.key sealing.nonce sealing.plaintext :=
  List.append_assoc _ _ _

theorem recipient_size (sealing : Sealing text recipient sender seed) : 1024 ≤ recipient.bits :=
  (Capsule.encapsulate_eq_ok_iff.1 sealing.encapsulated).1

theorem isCut (sealing : Sealing text recipient sender seed) :
    sealing.envelope.IsCut sealing.octets recipient.modulusOctets sender.modulusOctets where
  capsule_length := Capsule.length_of_encapsulate sealing.encapsulated
  nonce_length := sealing.nonce.length_octets
  signature_length := Signature.length_of_sign sealing.signed
  octets_eq := rfl

theorem length_octets (sealing : Sealing text recipient sender seed) :
    sealing.octets.length =
      recipient.modulusOctets + 16 + sender.modulusOctets + sealing.plaintext.length := by
  have ciphertextLength : sealing.envelope.ciphertext.length = sealing.plaintext.length :=
    CounterMode.length_apply sealing.key sealing.nonce sealing.plaintext
  have total := sealing.isCut.length_octets
  omega

private theorem encode_envelope (sealing : Sealing text recipient sender seed) :
    (Envelope.mk sealing.capsule
        ((Payload.encipher sealing.key sealing.nonce sealing.plaintext).take 16)
        ((Payload.encipher sealing.key sealing.nonce sealing.plaintext).drop 16)
        sealing.signature).encode = .ok sealing.octets := by
  rw [Payload.take_encipher, Payload.drop_encipher]
  exact Envelope.encode_eq_ok_iff.2 ⟨sealing.nonce.length_octets, rfl⟩

end Sealing

theorem envelopeSize_eq_ok_iff {recipient sender : Rsa.PublicKey} {length : Nat} {size : Int} :
    envelopeSize recipient sender length = .ok size ↔
      1024 ≤ recipient.bits ∧ 1024 ≤ sender.bits ∧
        size = (recipient.modulusOctets + 16 + sender.modulusOctets + length : Nat) := by
  unfold envelopeSize
  rcases Nat.lt_or_ge recipient.bits 1024 with recipientSmall | recipientSize
  · rw [KeyParameters.ofKey_of_small recipientSmall]
    constructor
    · intro impossible
      cases impossible
    · intro ⟨recipientSize, _⟩
      omega
  rcases Nat.lt_or_ge sender.bits 1024 with senderSmall | senderSize
  · obtain ⟨_, made, _⟩ := KeyParameters.ofKey_of_size recipientSize
    rw [made, KeyParameters.ofKey_of_small senderSmall]
    constructor
    · intro impossible
      cases impossible
    · intro ⟨_, senderSize, _⟩
      omega
  · obtain ⟨recipientParameters, recipientMade, recipientOctets⟩ :=
      KeyParameters.ofKey_of_size recipientSize
    obtain ⟨senderParameters, senderMade, senderOctets⟩ := KeyParameters.ofKey_of_size senderSize
    rw [recipientMade, senderMade, ← recipientOctets, ← senderOctets]
    constructor
    · intro measured
      cases measured
      exact ⟨recipientSize, senderSize, rfl⟩
    · intro ⟨_, _, measured⟩
      rw [measured]
      rfl

variable {text : Text} {recipient : Rsa.PublicKey} {sender : Rsa.PrivateKey}
  {source : Source} {octets : Octets} {asked : List Int}

/-- Any draws make an envelope of a text that has octets. -/
theorem exists_sealing (plain : ∀ point ∈ text, ¬ point.IsSurrogate) (usable : recipient.Usable)
    (recipientSize : 1024 ≤ recipient.bits) (senderSize : 1024 ≤ sender.bits)
    (seed : Rsa.Oaep.Seed) (key : SymmetricKey) (nonce : Nonce) :
    ∃ sealing : Sealing text recipient sender seed, sealing.key = key ∧ sealing.nonce = nonce := by
  have keyFits : key.octets.length + 42 ≤ recipient.modulusOctets := by
    have room := KeyParameters.size_le_modulusOctets recipientSize
    have keyLength : key.octets.length = 32 := key.length_octets
    omega
  have blockFits : 46 ≤ sender.modulusOctets :=
    Nat.le_trans (by decide) (KeyParameters.size_le_modulusOctets senderSize)
  have written := Utf8.encode_eq_ok_iff.2 ⟨plain, rfl⟩
  obtain ⟨capsule, encapsulated⟩ := Capsule.exists_encapsulate recipientSize keyFits usable seed
  obtain ⟨signature, signed⟩ := Signature.exists_sign blockFits _
  exact ⟨⟨key, nonce, _, capsule, signature, written, encapsulated, signed, senderSize⟩, rfl, rfl⟩

/-- Encrypting asks for a key and then for a nonce, and gives the envelope that
these make. It succeeds whenever they make one. -/
theorem encrypt_eq_ok_iff {seed : Rsa.Oaep.Seed} :
    (encrypt text recipient sender seed).run source = (.ok octets, asked) ↔
      ∃ sealing : Sealing text recipient sender seed,
        source.reply [] 32 = sealing.key.octets ∧ source.reply [32] 16 = sealing.nonce.octets ∧
          sealing.octets = octets ∧ [32, 16] = asked := by
  unfold Drawing.run encrypt
  simp only [Drawing.bind_eq_ok_iff, Drawing.ofExcept_eq_ok_iff, Payload.encrypt_eq_ok_iff]
  constructor
  · intro steps
    obtain ⟨plaintext, _, ⟨written, rfl⟩, key, _, keyDrawn, steps⟩ := steps
    obtain ⟨capsule, _, ⟨encapsulated, rfl⟩, payload, _, ⟨nonce, nonceReplied, rfl, rfl⟩, steps⟩ :=
      steps
    obtain ⟨signature, _, ⟨signed, rfl⟩, encoded, _, ⟨joined, rfl⟩, steps⟩ := steps
    obtain ⟨expected, _, ⟨measured, rfl⟩, finished⟩ := steps
    obtain ⟨keyReplied, rfl⟩ := Drawing.sized_eq_ok_iff.1 keyDrawn
    obtain ⟨_, senderSize, rfl⟩ := envelopeSize_eq_ok_iff.1 measured
    let sealing : Sealing text recipient sender seed := ⟨key, nonce, plaintext, capsule, signature,
      Text.toOctets_eq_ok_iff.1 written, encapsulated, signed, senderSize⟩
    obtain rfl : sealing.octets = encoded :=
      Except.ok.inj (sealing.encode_envelope.symm.trans joined)
    -- The sizes agree in every sealing, so the last fault is out of reach.
    rw [if_pos (congrArg Nat.cast sealing.length_octets)] at finished
    obtain ⟨made, requests⟩ := Drawing.pure_eq_ok_iff.1 finished
    exact ⟨sealing, keyReplied, nonceReplied, made, requests⟩
  · intro ⟨sealing, keyReplied, nonceReplied, made, requests⟩
    have written := Text.toOctets_eq_ok_iff.2 sealing.written
    have keyDrawn : SymmetricKey.draw source [] = (.ok sealing.key, [32]) :=
      Drawing.sized_eq_ok_iff.2 ⟨keyReplied, rfl⟩
    have measured := envelopeSize_eq_ok_iff.2
      ⟨sealing.recipient_size, sealing.sender_size, congrArg Nat.cast sealing.length_octets⟩
    refine ⟨_, _, ⟨written, rfl⟩, _, _, keyDrawn, _, _, ⟨sealing.encapsulated, rfl⟩, _, _,
      ⟨_, nonceReplied, rfl, rfl⟩, _, _, ⟨sealing.signed, rfl⟩, _, _,
      ⟨sealing.encode_envelope, rfl⟩, _, _, ⟨measured, rfl⟩, ?_⟩
    rw [if_pos rfl]
    exact Drawing.pure_eq_ok_iff.2 ⟨made, requests⟩

theorem Sealing.encrypt_run {seed : Rsa.Oaep.Seed}
    (sealing : Sealing text recipient sender seed) :
    (encrypt text recipient sender seed).run
      (.ofReplies [sealing.key.octets, sealing.nonce.octets]) = (.ok sealing.octets, [32, 16]) :=
  encrypt_eq_ok_iff.2 ⟨sealing, rfl, rfl, rfl, rfl⟩

end Missive.Message
