import Mathlib
import Missive.Envelope

/-!
# Exact cutting of envelopes

For sizes that are not negative there is one way to cut octets into the parts of
an envelope, unless they are too few. No part may be lost or counted twice, also
where the ciphertext, the capsule or the signature is empty.
-/

set_option autoImplicit false

namespace Missive

/-- Bounds inside the octets and in order cut as they stand. -/
private theorem Octets.slice_eq_of_le {octets : Octets} {start stop : Int} (first last : Nat)
    (startsAt : start = first) (stopsAt : stop = last) (inside : last ≤ octets.length) :
    octets.slice start stop = (octets.drop first).take (last - first) := by
  have bound (number : Nat) : position octets.length number = min number octets.length := by
    simp [position]
  simp only [slice, startsAt, stopsAt, bound, Nat.min_eq_left inside]
  rcases Nat.le_total first octets.length with low | high
  · rw [Nat.min_eq_left low]
  · rw [Nat.min_eq_right high, List.drop_of_length_le high, List.drop_length, List.take_nil,
      List.take_nil]

namespace Envelope

/-- The parts of an envelope are octets cut by the sizes of capsule and signature. -/
structure IsCut (envelope : Envelope) (octets : Octets) (capsuleSize signatureSize : Nat) :
    Prop where
  capsule_length : envelope.capsule.length = capsuleSize
  nonce_length : envelope.nonce.length = 16
  signature_length : envelope.signature.length = signatureSize
  octets_eq : octets = envelope.signedPart ++ envelope.signature

variable {envelope : Envelope} {octets : Octets} {capsuleSize signatureSize : Nat}

theorem IsCut.length_octets (cut : envelope.IsCut octets capsuleSize signatureSize) :
    octets.length = capsuleSize + 16 + envelope.ciphertext.length + signatureSize := by
  rw [cut.octets_eq, signedPart]
  simp only [List.length_append, cut.capsule_length, cut.nonce_length, cut.signature_length]

theorem IsCut.le_length (cut : envelope.IsCut octets capsuleSize signatureSize) :
    capsuleSize + 16 + signatureSize ≤ octets.length := by
  rw [cut.length_octets]
  omega

theorem IsCut.signedPart_eq (cut : envelope.IsCut octets capsuleSize signatureSize) :
    envelope.signedPart = octets.rdrop signatureSize := by
  rw [cut.octets_eq, ← cut.signature_length, List.rdrop_append_length]

theorem IsCut.signature_eq (cut : envelope.IsCut octets capsuleSize signatureSize) :
    envelope.signature = octets.rtake signatureSize := by
  rw [cut.octets_eq, ← cut.signature_length, List.rtake, List.length_append,
    Nat.add_sub_cancel, List.drop_left]

theorem IsCut.capsule_eq (cut : envelope.IsCut octets capsuleSize signatureSize) :
    envelope.capsule = octets.take capsuleSize := by
  rw [cut.octets_eq, signedPart, List.append_assoc, List.append_assoc,
    List.take_left' cut.capsule_length]

theorem IsCut.nonce_eq (cut : envelope.IsCut octets capsuleSize signatureSize) :
    envelope.nonce = (octets.drop capsuleSize).take 16 := by
  rw [cut.octets_eq, signedPart, List.append_assoc, List.append_assoc,
    List.drop_left' cut.capsule_length, List.take_left' cut.nonce_length]

theorem IsCut.payload_eq (cut : envelope.IsCut octets capsuleSize signatureSize) :
    envelope.payload = (octets.rdrop signatureSize).drop capsuleSize := by
  rw [← cut.signedPart_eq, signedPart, List.append_assoc, List.drop_left' cut.capsule_length,
    payload]

theorem IsCut.unique {other : Envelope} (cut : envelope.IsCut octets capsuleSize signatureSize)
    (otherCut : other.IsCut octets capsuleSize signatureSize) : envelope = other := by
  have signed := cut.signedPart_eq.trans otherCut.signedPart_eq.symm
  have signatures := cut.signature_eq.trans otherCut.signature_eq.symm
  simp only [signedPart, List.append_assoc] at signed
  obtain ⟨capsules, payloads⟩ := List.append_inj signed
    (cut.capsule_length.trans otherCut.capsule_length.symm)
  obtain ⟨nonces, ciphertexts⟩ := List.append_inj payloads
    (cut.nonce_length.trans otherCut.nonce_length.symm)
  cases envelope
  cases other
  simp_all

private theorem minimumSize_eq (capsuleSize signatureSize : Int) :
    minimumSize capsuleSize signatureSize = capsuleSize + 16 + signatureSize :=
  rfl

/-- Whether octets are too few is told by the plain sum of the sizes, also where one
of these is below zero. -/
theorem decode_eq_error_iff {capsuleSize signatureSize : Int} {fault : Fault} :
    decode octets capsuleSize signatureSize = .error fault ↔
      octets.length < capsuleSize + 16 + signatureSize ∧
        fault = .envelopeTooShort octets.length (minimumSize capsuleSize signatureSize) := by
  unfold decode
  dsimp only
  rw [minimumSize_eq]
  by_cases short : octets.length < capsuleSize + 16 + signatureSize
  · rw [if_pos short, Except.error.injEq, eq_comm]
    exact ⟨fun same => ⟨short, same⟩, And.right⟩
  · rw [if_neg short]
    constructor
    · intro impossible
      cases impossible
    · intro ⟨fewer, _⟩
      exact absurd fewer short

theorem decode_of_short (short : octets.length < capsuleSize + 16 + signatureSize) :
    decode octets capsuleSize signatureSize =
      .error (.envelopeTooShort octets.length (minimumSize capsuleSize signatureSize)) :=
  decode_eq_error_iff.2 ⟨by omega, rfl⟩

theorem exists_decode (enough : capsuleSize + 16 + signatureSize ≤ octets.length) :
    ∃ envelope, decode octets capsuleSize signatureSize = .ok envelope ∧
      envelope.IsCut octets capsuleSize signatureSize := by
  unfold decode
  dsimp only
  rw [minimumSize_eq, if_neg (by omega)]
  have capsule : octets.slice 0 capsuleSize = octets.take capsuleSize :=
    Octets.slice_eq_of_le 0 capsuleSize rfl rfl (by omega)
  have nonce : octets.slice capsuleSize (capsuleSize + nonceSize) =
      (octets.drop capsuleSize).take 16 := by
    refine (Octets.slice_eq_of_le capsuleSize (capsuleSize + 16) rfl rfl (by omega)).trans ?_
    rw [Nat.add_sub_cancel_left]
  have ciphertext : octets.slice (capsuleSize + nonceSize) (octets.length - signatureSize) =
      (octets.drop (capsuleSize + 16)).take
        (octets.length - signatureSize - (capsuleSize + 16)) :=
    Octets.slice_eq_of_le _ _ rfl (Int.ofNat_sub (by omega)).symm (by omega)
  have signature : octets.slice (octets.length - signatureSize) octets.length =
      octets.drop (octets.length - signatureSize) := by
    refine (Octets.slice_eq_of_le _ _ (Int.ofNat_sub (by omega)).symm rfl (by omega)).trans ?_
    rw [List.take_of_length_le (by simp)]
  rw [capsule, nonce, ciphertext, signature]
  refine ⟨_, rfl, ?_, ?_, ?_, ?_⟩
  · simp only [List.length_take]
    omega
  · simp only [List.length_take, List.length_drop]
    omega
  · simp only [List.length_drop]
    omega
  · have front := List.take_append_drop capsuleSize octets
    have middle := List.take_append_drop 16 (octets.drop capsuleSize)
    have back := List.take_append_drop (octets.length - signatureSize - (capsuleSize + 16))
      (octets.drop (capsuleSize + 16))
    rw [List.drop_drop] at middle back
    rw [show capsuleSize + 16 + (octets.length - signatureSize - (capsuleSize + 16)) =
      octets.length - signatureSize by omega] at back
    simp only [signedPart, List.append_assoc]
    rw [back, middle, front]

/-- Octets are cut to an envelope exactly when its parts have their sizes and
stand in the octets one behind the other. -/
theorem decode_eq_ok_iff :
    decode octets capsuleSize signatureSize = .ok envelope ↔
      envelope.IsCut octets capsuleSize signatureSize := by
  constructor
  · intro cut
    rcases Nat.lt_or_ge octets.length (capsuleSize + 16 + signatureSize) with short | enough
    · rw [decode_of_short short] at cut
      cases cut
    · obtain ⟨found, decoded, foundCut⟩ := exists_decode enough
      rw [decoded] at cut
      exact Except.ok.inj cut ▸ foundCut
  · intro cut
    obtain ⟨found, decoded, foundCut⟩ := exists_decode cut.le_length
    rw [decoded, cut.unique foundCut]

theorem encode_eq_ok_iff :
    envelope.encode = .ok octets ↔
      envelope.nonce.length = 16 ∧ octets = envelope.signedPart ++ envelope.signature := by
  unfold encode
  by_cases proper : envelope.nonce.length = 16
  · rw [if_pos proper, Except.ok.injEq, eq_comm]
    exact ⟨fun joined => ⟨proper, joined⟩, And.right⟩
  · rw [if_neg proper]
    constructor
    · intro impossible
      cases impossible
    · intro ⟨length, _⟩
      exact absurd length proper

theorem encode_eq_error_iff {fault : Fault} :
    envelope.encode = .error fault ↔
      envelope.nonce.length ≠ 16 ∧ fault = .nonceLength envelope.nonce.length := by
  unfold encode
  by_cases proper : envelope.nonce.length = 16
  · rw [if_pos proper]
    constructor
    · intro impossible
      cases impossible
    · intro ⟨other, _⟩
      exact absurd proper other
  · rw [if_neg proper, Except.error.injEq, eq_comm]
    exact ⟨fun same => ⟨proper, same⟩, And.right⟩

/-- To be cut to an envelope and to be its encoding is the same. -/
theorem isCut_iff_encode :
    envelope.IsCut octets capsuleSize signatureSize ↔
      envelope.encode = .ok octets ∧ envelope.capsule.length = capsuleSize ∧
        envelope.signature.length = signatureSize := by
  rw [encode_eq_ok_iff]
  constructor
  · intro cut
    exact ⟨⟨cut.nonce_length, cut.octets_eq⟩, cut.capsule_length, cut.signature_length⟩
  · intro ⟨⟨nonceLength, joined⟩, capsuleLength, signatureLength⟩
    exact ⟨capsuleLength, nonceLength, signatureLength, joined⟩

theorem exists_decode_iff_le {capsuleSize signatureSize : Int} :
    (∃ parts, decode octets capsuleSize signatureSize = .ok parts) ↔
      capsuleSize + 16 + signatureSize ≤ octets.length := by
  cases decoded : decode octets capsuleSize signatureSize with
  | error fault =>
      obtain ⟨short, _⟩ := decode_eq_error_iff.1 decoded
      simp only [reduceCtorEq, exists_false, false_iff]
      exact not_le.2 short
  | ok parts =>
      simp only [Except.ok.injEq, exists_eq', true_iff]
      by_contra short
      rw [decode_eq_error_iff.2 ⟨not_le.1 short, rfl⟩] at decoded
      cases decoded

/-- Decoding by the sizes of its parts gives an envelope back, whichever of these are
empty, and what octets are cut to is encoded as these octets. A nonce of another length
and too few octets are the only faults. -/
theorem decode_inverts_encode (envelope : Envelope) (octets : Octets)
    (capsuleSize signatureSize : Int) :
    ((∃ fault, envelope.encode = .error fault ∧ fault.category = .envelopeAssembly) ↔
      envelope.nonce.length ≠ 16) ∧
    (envelope.nonce.length = 16 → ∃ encoded, envelope.encode = .ok encoded ∧
      decode encoded envelope.capsule.length envelope.signature.length = .ok envelope) ∧
    ((∃ fault, decode octets capsuleSize signatureSize = .error fault ∧
        fault.category = .invalidEnvelope) ↔
      octets.length < capsuleSize + 16 + signatureSize) ∧
    (capsuleSize + 16 + signatureSize ≤ octets.length →
      ∃ parts, decode octets capsuleSize signatureSize = .ok parts) ∧
    (0 ≤ capsuleSize → 0 ≤ signatureSize → ∀ parts : Envelope,
      decode octets capsuleSize signatureSize = .ok parts →
        parts.capsule.length = capsuleSize ∧ parts.nonce.length = 16 ∧
        parts.ciphertext.length = octets.length - capsuleSize - 16 - signatureSize ∧
        parts.signature.length = signatureSize ∧ parts.encode = .ok octets ∧
        parts.signedPart = octets.rdrop signatureSize.toNat ∧
        parts.payload = (octets.rdrop signatureSize.toNat).drop capsuleSize.toNat) := by
  refine ⟨?_, ?_, ?_, exists_decode_iff_le.2, ?_⟩
  · constructor
    · intro faulty
      obtain ⟨fault, failed, _⟩ := faulty
      exact (encode_eq_error_iff.1 failed).1
    · intro other
      exact ⟨_, encode_eq_error_iff.2 ⟨other, rfl⟩, rfl⟩
  · intro proper
    have encoded := encode_eq_ok_iff.2 ⟨proper, rfl⟩
    exact ⟨_, encoded, decode_eq_ok_iff.2 (isCut_iff_encode.2 ⟨encoded, rfl, rfl⟩)⟩
  · constructor
    · intro faulty
      obtain ⟨fault, failed, _⟩ := faulty
      exact (decode_eq_error_iff.1 failed).1
    · intro short
      exact ⟨_, decode_eq_error_iff.2 ⟨short, rfl⟩, rfl⟩
  · intro capsuleBound signatureBound parts decoded
    lift capsuleSize to Nat using capsuleBound
    lift signatureSize to Nat using signatureBound
    have cut := decode_eq_ok_iff.1 decoded
    obtain ⟨encoded, _, _⟩ := isCut_iff_encode.1 cut
    have total := cut.length_octets
    refine ⟨congrArg Nat.cast cut.capsule_length, cut.nonce_length, by omega,
      congrArg Nat.cast cut.signature_length, encoded, cut.signedPart_eq, cut.payload_eq⟩

theorem decode_inverts_encode_emptyParts :
    (∃ encoded, (Envelope.mk [] (List.replicate 16 0xFF) [] []).encode = .ok encoded ∧
      decode encoded 0 0 = .ok ⟨[], List.replicate 16 0xFF, [], []⟩) ∧
    ∃ parts, decode (List.replicate 17 7) 1 0 = .ok parts ∧
      parts.encode = .ok (List.replicate 17 7) ∧ parts.signedPart = List.replicate 17 7 := by
  obtain ⟨_, restores, _, cuts, parted⟩ := decode_inverts_encode
    ⟨[], List.replicate 16 0xFF, [], []⟩ (List.replicate 17 7) 1 0
  obtain ⟨parts, decoded⟩ := cuts (by decide)
  obtain ⟨_, _, _, _, encoded, signed, _⟩ := parted (by decide) (by decide) parts decoded
  exact ⟨restores rfl, parts, decoded, encoded, signed⟩

end Envelope

end Missive
