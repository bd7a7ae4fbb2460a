import Mathlib
import Missive.Proofs.Message.Opening
import Missive.Proofs.Message.Sealing

/-!
# What is made of hostile octets

Octets of any origin are judged by four conditions on the octets themselves, in a
fixed order. Only keys that are too small keep them from being judged; nothing is
asked of the numbers of either key beyond that.
-/

set_option autoImplicit false

namespace Missive.Message

variable {octets : Octets} {recipient : Rsa.PrivateKey} {sender : Rsa.PublicKey}
  {envelope : Envelope} {text : Text} {outcome : Outcome} {fault : Fault}

/-- Whether the octets end with a signature of all that stands before it. -/
def endsSigned (octets : Octets) (sender : Rsa.PublicKey) : Except Fault Bool :=
  Signature.verify (.octets (octets.rdrop sender.modulusOctets))
    (some (.octets (octets.rtake sender.modulusOctets))) sender

theorem endsSigned_eq (octets : Octets) (sender : Rsa.PublicKey) :
    endsSigned octets sender = .ok (Signature.verifyOctets (octets.rdrop sender.modulusOctets)
      (octets.rtake sender.modulusOctets) sender) :=
  Signature.verify_eq_ok_verifyOctets rfl

theorem endsSigned_eq_true_iff {signer : Rsa.PrivateKey} {capsuleSize : Nat}
    (consistent : signer.Consistent) (usable : signer.Usable)
    (cut : envelope.IsCut octets capsuleSize signer.modulusOctets) :
    endsSigned octets signer.toPublicKey = .ok true ↔
      Signature.sign (.octets envelope.signedPart) signer = .ok envelope.signature := by
  rw [endsSigned_eq, ← cut.signedPart_eq, ← cut.signature_eq, Except.ok.injEq,
    Signature.verifyOctets_iff consistent usable]

/-- The plaintext that the symmetric key of the capsule makes of what stands
between capsule and signature. -/
def Carries (octets : Octets) (recipient : Rsa.PrivateKey) (sender : Rsa.PublicKey)
    (plaintext : Octets) : Prop :=
  ∃ (key : SymmetricKey) (nonce : Nonce) (ciphertext : Octets),
    Capsule.decapsulate? (octets.take recipient.modulusOctets) recipient = some key.octets ∧
    (octets.rdrop sender.modulusOctets).drop recipient.modulusOctets =
      nonce.octets ++ ciphertext ∧
    plaintext = CounterMode.apply key nonce ciphertext

def Reads (octets : Octets) (recipient : Rsa.PrivateKey) (sender : Rsa.PublicKey)
    (text : Text) : Prop :=
  ∃ plaintext, Carries octets recipient sender plaintext ∧ Utf8.encode text = .ok plaintext

/-- The ways for octets to hold no text: a capsule that holds nothing, one that
holds something other than a symmetric key, and a plaintext that spells no text. -/
inductive Unreadable (octets : Octets) (recipient : Rsa.PrivateKey) (sender : Rsa.PublicKey) :
    Prop where
  | unheld (empty : Capsule.decapsulate? (octets.take recipient.modulusOctets) recipient = none) :
      Unreadable octets recipient sender
  | noKey {held : Octets}
      (unwrapped : Capsule.decapsulate? (octets.take recipient.modulusOctets) recipient = some held)
      (length : held.length ≠ 32) : Unreadable octets recipient sender
  | noText {plaintext : Octets} (carried : Carries octets recipient sender plaintext)
      (unspelled : ∀ text, Utf8.encode text ≠ .ok plaintext) : Unreadable octets recipient sender

theorem Carries.unique {plaintext other : Octets}
    (carried : Carries octets recipient sender plaintext)
    (otherCarried : Carries octets recipient sender other) : plaintext = other := by
  obtain ⟨key, nonce, ciphertext, unwrapped, split, rfl⟩ := carried
  obtain ⟨otherKey, otherNonce, otherCiphertext, otherUnwrapped, otherSplit, rfl⟩ := otherCarried
  obtain ⟨nonces, rfl⟩ := List.append_inj (split.symm.trans otherSplit)
    (nonce.length_octets.trans otherNonce.length_octets.symm)
  cases Sized.eq_of_octets_eq (Option.some.inj (unwrapped.symm.trans otherUnwrapped))
  cases Sized.eq_of_octets_eq nonces
  rfl

theorem Reads.unique {other : Text} (reads : Reads octets recipient sender text)
    (readsOther : Reads octets recipient sender other) : text = other := by
  obtain ⟨plaintext, carried, spelled⟩ := reads
  obtain ⟨_, otherCarried, otherSpelled⟩ := readsOther
  cases carried.unique otherCarried
  exact Option.some.inj ((Utf8.decode?_eq_some_iff.2 spelled).symm.trans
    (Utf8.decode?_eq_some_iff.2 otherSpelled))

theorem unreadable_iff (enough :
      recipient.modulusOctets + 16 + sender.modulusOctets ≤ octets.length) :
    Unreadable octets recipient sender ↔ ∀ text, ¬ Reads octets recipient sender text := by
  constructor
  · intro unreadable text reads
    obtain ⟨plaintext, carried, spelled⟩ := reads
    cases unreadable with
    | unheld empty =>
        obtain ⟨_, _, _, unwrapped, _⟩ := carried
        rw [empty] at unwrapped
        cases unwrapped
    | noKey unwrapped length =>
        obtain ⟨key, _, _, unwrappedKey, _⟩ := carried
        rw [unwrapped] at unwrappedKey
        cases unwrappedKey
        exact length key.length_octets
    | noText otherCarried unspelled =>
        exact unspelled text (carried.unique otherCarried ▸ spelled)
  · intro unread
    cases unwrapped : Capsule.decapsulate? (octets.take recipient.modulusOctets) recipient with
    | none => exact .unheld unwrapped
    | some held =>
        by_cases length : held.length = 32
        -- Octets that are not too few leave a nonce for the key to start from.
        · let payload := (octets.rdrop sender.modulusOctets).drop recipient.modulusOctets
          have nonceLength : (payload.take 16).length = 16 := by
            simp only [payload, List.length_take, List.length_drop, List.rdrop]
            omega
          have carried : Carries octets recipient sender _ :=
            ⟨⟨held, length⟩, ⟨payload.take 16, nonceLength⟩, payload.drop 16, unwrapped,
              (List.take_append_drop 16 payload).symm, rfl⟩
          exact .noText carried fun text spelled => unread text ⟨_, carried, spelled⟩
        · exact .noKey unwrapped length

theorem reveal_eq_some_iff_reads
    (cut : envelope.IsCut octets recipient.modulusOctets sender.modulusOctets) :
    reveal envelope recipient = .ok (some text) ↔ Reads octets recipient sender text := by
  rw [reveal_eq_some_iff, cut.capsule_eq, cut.payload_eq]
  constructor
  · intro revealed
    obtain ⟨key, nonce, plaintext, unwrapped, made, spelled⟩ := revealed
    exact ⟨plaintext, ⟨key, nonce, _, unwrapped, made,
      (CounterMode.apply_apply key nonce plaintext).symm⟩, spelled⟩
  · intro reads
    obtain ⟨_, ⟨key, nonce, ciphertext, unwrapped, split, rfl⟩, spelled⟩ := reads
    refine ⟨key, nonce, _, unwrapped, ?_, spelled⟩
    rw [Payload.encipher, CounterMode.apply_apply]
    exact split

/-- The judgment on octets. Each condition is looked at only where those before it
leave the outcome open. -/
inductive Judged (octets : Octets) (recipient : Rsa.PrivateKey) (sender : Rsa.PublicKey) :
    Outcome → Prop where
  | malformed (short : octets.length < recipient.modulusOctets + 16 + sender.modulusOctets) :
      Judged octets recipient sender (.refused .malformedEnvelope)
  | unsigned (enough : recipient.modulusOctets + 16 + sender.modulusOctets ≤ octets.length)
      (rejected : endsSigned octets sender = .ok false) :
      Judged octets recipient sender (.refused .signatureInvalid)
  | unreadable (enough : recipient.modulusOctets + 16 + sender.modulusOctets ≤ octets.length)
      (accepted : endsSigned octets sender = .ok true)
      (unread : Unreadable octets recipient sender) :
      Judged octets recipient sender (.refused .decryptionFailed)
  | opened {text : Text}
      (enough : recipient.modulusOctets + 16 + sender.modulusOctets ≤ octets.length)
      (accepted : endsSigned octets sender = .ok true) (reads : Reads octets recipient sender text) :
      Judged octets recipient sender (.opened text)

theorem Judged.unique {other : Outcome} (judged : Judged octets recipient sender outcome)
    (judgedOther : Judged octets recipient sender other) : outcome = other := by
  cases judged with
  | malformed short =>
      cases judgedOther with
      | malformed => rfl
      | unsigned enough | unreadable enough | opened enough => omega
  | unsigned enough rejected =>
      cases judgedOther with
      | malformed short => omega
      | unsigned => rfl
      | unreadable _ accepted | opened _ accepted =>
          rw [rejected] at accepted
          cases accepted
  | unreadable enough accepted unread =>
      cases judgedOther with
      | malformed short => omega
      | unsigned _ rejected =>
          rw [accepted] at rejected
          cases rejected
      | unreadable => rfl
      | opened _ _ reads => exact absurd reads ((unreadable_iff enough).1 unread _)
  | opened enough accepted reads =>
      cases judgedOther with
      | malformed short => omega
      | unsigned _ rejected =>
          rw [accepted] at rejected
          cases rejected
      | unreadable _ _ unread => exact absurd reads ((unreadable_iff enough).1 unread _)
      | opened _ _ readsOther => rw [reads.unique readsOther]

private theorem Judged.eq_iff {other : Outcome} (judged : Judged octets recipient sender outcome) :
    outcome = other ↔ Judged octets recipient sender other := by
  constructor
  · intro same
    exact same ▸ judged
  · intro judgedOther
    exact judged.unique judgedOther

private theorem Judged.refusal_eq_some_iff {refusal : Refusal}
    (judged : Judged octets recipient sender outcome) :
    outcome.refusal = some refusal ↔ Judged octets recipient sender (.refused refusal) := by
  rw [← judged.eq_iff]
  cases judged <;> simp [Outcome.refused, Outcome.opened]

private theorem Judged.text_eq_some_iff (judged : Judged octets recipient sender outcome) :
    outcome.text = some text ↔ Judged octets recipient sender (.opened text) := by
  rw [← judged.eq_iff]
  cases judged <;> simp [Outcome.refused, Outcome.opened]

theorem judged_malformedEnvelope_iff :
    Judged octets recipient sender (.refused .malformedEnvelope) ↔
      octets.length < recipient.modulusOctets + 16 + sender.modulusOctets := by
  constructor
  · intro judged
    cases judged with
    | malformed short => exact short
  · exact .malformed

theorem judged_signatureInvalid_iff :
    Judged octets recipient sender (.refused .signatureInvalid) ↔
      recipient.modulusOctets + 16 + sender.modulusOctets ≤ octets.length ∧
        endsSigned octets sender = .ok false := by
  constructor
  · intro judged
    cases judged with
    | unsigned enough rejected => exact ⟨enough, rejected⟩
  · intro ⟨enough, rejected⟩
    exact .unsigned enough rejected

theorem judged_decryptionFailed_iff :
    Judged octets recipient sender (.refused .decryptionFailed) ↔
      recipient.modulusOctets + 16 + sender.modulusOctets ≤ octets.length ∧
        endsSigned octets sender = .ok true ∧ Unreadable octets recipient sender := by
  constructor
  · intro judged
    cases judged with
    | unreadable enough accepted unread => exact ⟨enough, accepted, unread⟩
  · intro ⟨enough, accepted, unread⟩
    exact .unreadable enough accepted unread

theorem judged_opened_iff :
    Judged octets recipient sender (.opened text) ↔
      recipient.modulusOctets + 16 + sender.modulusOctets ≤ octets.length ∧
        endsSigned octets sender = .ok true ∧ Reads octets recipient sender text := by
  constructor
  · intro judged
    cases judged with
    | opened enough accepted reads => exact ⟨enough, accepted, reads⟩
  · intro ⟨enough, accepted, reads⟩
    exact .opened enough accepted reads

theorem exists_judged (octets : Octets) (recipientSize : 1024 ≤ recipient.bits)
    (senderSize : 1024 ≤ sender.bits) :
    ∃ outcome, decrypt octets recipient sender = .ok outcome ∧
      Judged octets recipient sender outcome := by
  rcases Nat.lt_or_ge octets.length (recipient.modulusOctets + 16 + sender.modulusOctets) with
    short | enough
  · exact ⟨_, decrypt_of_short recipientSize senderSize short, .malformed short⟩
  obtain ⟨envelope, cut⟩ := exists_cut enough
  obtain ⟨revealed, looked⟩ := exists_reveal envelope recipient
  have opening := decrypt_of_cut recipientSize senderSize cut looked
  have signature := endsSigned_eq octets sender
  rw [← cut.signedPart_eq, ← cut.signature_eq] at signature
  cases accepted : Signature.verifyOctets envelope.signedPart envelope.signature sender with
  | false =>
      rw [accepted] at opening signature
      exact ⟨_, opening, .unsigned enough signature⟩
  | true =>
      rw [accepted] at opening signature
      cases revealed with
      | none =>
          refine ⟨_, opening, .unreadable enough signature ((unreadable_iff enough).2 ?_)⟩
          intro text reads
          rw [(reveal_eq_some_iff_reads cut).2 reads] at looked
          cases looked
      | some text =>
          exact ⟨_, opening, .opened enough signature ((reveal_eq_some_iff_reads cut).1 looked)⟩

theorem decrypt_eq_error_iff :
    decrypt octets recipient sender = .error fault ↔
      (recipient.bits < 1024 ∧ fault = .modulusTooShort recipient.bits) ∨
      (1024 ≤ recipient.bits ∧ sender.bits < 1024 ∧ fault = .modulusTooShort sender.bits) := by
  rcases Nat.lt_or_ge recipient.bits 1024 with recipientSmall | recipientSize
  · have failed : decrypt octets recipient sender = .error (.modulusTooShort recipient.bits) := by
      rw [decrypt, KeyParameters.ofKey_of_small recipientSmall]
      rfl
    simp [failed, recipientSmall, Nat.not_le.2 recipientSmall, eq_comm]
  rcases Nat.lt_or_ge sender.bits 1024 with senderSmall | senderSize
  · have failed : decrypt octets recipient sender = .error (.modulusTooShort sender.bits) := by
      obtain ⟨parameters, made, _⟩ := KeyParameters.ofKey_of_size recipientSize
      rw [decrypt, made, KeyParameters.ofKey_of_small senderSmall]
      rfl
    simp [failed, recipientSize, Nat.not_lt.2 recipientSize, senderSmall, eq_comm]
  · obtain ⟨outcome, decrypted, _⟩ := exists_judged octets recipientSize senderSize
    simp [decrypted, Nat.not_lt.2 recipientSize, Nat.not_lt.2 senderSize]

theorem decrypt_eq_ok_iff :
    decrypt octets recipient sender = .ok outcome ↔
      1024 ≤ recipient.bits ∧ 1024 ≤ sender.bits ∧ Judged octets recipient sender outcome := by
  constructor
  · intro decrypted
    have recipientSize : 1024 ≤ recipient.bits := by
      by_contra small
      rw [decrypt_eq_error_iff.2 (.inl ⟨Nat.not_le.1 small, rfl⟩)] at decrypted
      cases decrypted
    have senderSize : 1024 ≤ sender.bits := by
      by_contra small
      rw [decrypt_eq_error_iff.2 (.inr ⟨recipientSize, Nat.not_le.1 small, rfl⟩)] at decrypted
      cases decrypted
    obtain ⟨found, foundDecrypted, judged⟩ := exists_judged octets recipientSize senderSize
    rw [decrypted] at foundDecrypted
    cases foundDecrypted
    exact ⟨recipientSize, senderSize, judged⟩
  · intro ⟨recipientSize, senderSize, judged⟩
    obtain ⟨found, decrypted, foundJudged⟩ := exists_judged octets recipientSize senderSize
    rw [decrypted, judged.unique foundJudged]

/-- Octets from anyone are opened or refused, whatever they are, unless a key is too
small. The outcome is a text or a refusal, never both and never neither, and each
refusal stands for one condition on the octets. -/
theorem decrypt_judges (octets : Octets) (recipient : Rsa.PrivateKey) (sender : Rsa.PublicKey) :
    ((∃ fault, decrypt octets recipient sender = .error fault) ↔
      recipient.bits < 1024 ∨ sender.bits < 1024) ∧
    (∀ fault, decrypt octets recipient sender = .error fault → fault.category = .badValue) ∧
    (1024 ≤ recipient.bits → 1024 ≤ sender.bits →
      ∃ outcome, decrypt octets recipient sender = .ok outcome ∧
        outcome.text.isSome = outcome.refusal.isNone ∧
        (outcome.refusal = some .malformedEnvelope ↔
          octets.length < recipient.modulusOctets + 16 + sender.modulusOctets) ∧
        (outcome.refusal = some .signatureInvalid ↔
          recipient.modulusOctets + 16 + sender.modulusOctets ≤ octets.length ∧
            endsSigned octets sender = .ok false) ∧
        (outcome.refusal = some .decryptionFailed ↔
          recipient.modulusOctets + 16 + sender.modulusOctets ≤ octets.length ∧
            endsSigned octets sender = .ok true ∧ Unreadable octets recipient sender) ∧
        ∀ text, outcome.text = some text ↔
          recipient.modulusOctets + 16 + sender.modulusOctets ≤ octets.length ∧
            endsSigned octets sender = .ok true ∧ Reads octets recipient sender text) := by
  refine ⟨?_, ?_, ?_⟩
  · constructor
    · intro ⟨fault, failed⟩
      obtain ⟨small, _⟩ | ⟨_, small, _⟩ := decrypt_eq_error_iff.1 failed
      · exact .inl small
      · exact .inr small
    · intro small
      rcases Nat.lt_or_ge recipient.bits 1024 with recipientSmall | recipientSize
      · exact ⟨_, decrypt_eq_error_iff.2 (.inl ⟨recipientSmall, rfl⟩)⟩
      · exact ⟨_, decrypt_eq_error_iff.2
          (.inr ⟨recipientSize, small.resolve_left (Nat.not_lt.2 recipientSize), rfl⟩)⟩
  · intro fault failed
    obtain ⟨_, rfl⟩ | ⟨_, _, rfl⟩ := decrypt_eq_error_iff.1 failed
    · rfl
    · rfl
  · intro recipientSize senderSize
    obtain ⟨outcome, decrypted, judged⟩ := exists_judged octets recipientSize senderSize
    refine ⟨outcome, decrypted, ?_, ?_, ?_, ?_, ?_⟩
    · cases judged <;> rfl
    · exact judged.refusal_eq_some_iff.trans judged_malformedEnvelope_iff
    · exact judged.refusal_eq_some_iff.trans judged_signatureInvalid_iff
    · exact judged.refusal_eq_some_iff.trans judged_decryptionFailed_iff
    · intro text
      exact judged.text_eq_some_iff.trans judged_opened_iff

theorem decrypt_judges_emptyKey :
    1024 ≤ Rsa.mersenneKey.bits ∧ 1024 ≤ Rsa.widerMersenneKey.bits ∧ ∃ octets outcome,
      Capsule.decapsulate? (octets.take Rsa.mersenneKey.modulusOctets) Rsa.mersenneKey = some [] ∧
      endsSigned octets Rsa.widerMersenneKey.toPublicKey = .ok true ∧
      decrypt octets Rsa.mersenneKey Rsa.widerMersenneKey.toPublicKey = .ok outcome ∧
      outcome.refusal = some .decryptionFailed ∧ outcome.text.isSome = false := by
  have recipientSound := Rsa.mersenneKey_sound
  have senderSound := Rsa.widerMersenneKey_sound
  have fits : ([] : Octets).length + 42 ≤ Rsa.mersenneKey.modulusOctets := by decide +kernel
  have room : 46 ≤ Rsa.widerMersenneKey.modulusOctets := by decide +kernel
  -- The sender signs a capsule that holds no octets where a symmetric key should be.
  obtain ⟨capsule, encapsulated⟩ := Capsule.exists_encapsulate recipientSound.size fits
    recipientSound.usable ⟨List.replicate 20 0, rfl⟩
  obtain ⟨signature, signed⟩ := Signature.exists_sign room (capsule ++ List.replicate 16 0 ++ [])
  let envelope : Envelope := ⟨capsule, List.replicate 16 0, [], signature⟩
  let octets := envelope.signedPart ++ envelope.signature
  have cut : envelope.IsCut octets Rsa.mersenneKey.modulusOctets
      Rsa.widerMersenneKey.modulusOctets :=
    ⟨Capsule.length_of_encapsulate encapsulated, rfl, Signature.length_of_sign signed, rfl⟩
  have accepted : endsSigned octets Rsa.widerMersenneKey.toPublicKey = .ok true :=
    (endsSigned_eq_true_iff senderSound.consistent senderSound.usable cut).2 signed
  have unwrapped : Capsule.decapsulate? (octets.take Rsa.mersenneKey.modulusOctets)
      Rsa.mersenneKey = some [] := by
    rw [← cut.capsule_eq]
    exact (Capsule.decapsulate?_eq_some_iff recipientSound).2 ⟨_, encapsulated⟩
  obtain ⟨_, _, classified⟩ := decrypt_judges octets Rsa.mersenneKey
    Rsa.widerMersenneKey.toPublicKey
  obtain ⟨outcome, decrypted, single, _, _, failed, _⟩ :=
    classified recipientSound.size senderSound.size
  have refused := failed.2 ⟨cut.le_length, accepted, .noKey unwrapped (by decide)⟩
  rw [refused] at single
  exact ⟨recipientSound.size, senderSound.size, octets, outcome, unwrapped, accepted, decrypted,
    refused, single⟩

end Missive.Message
