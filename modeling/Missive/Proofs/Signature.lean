import Mathlib
import Missive.Proofs.Digest
import Missive.Proofs.Rsa.Inversion
import Missive.Proofs.Rsa.SignatureBlock
import Missive.Signature

/-!
# One signature for each message

Under a key whose numbers belong together, the octets that signing gives are the
only ones that are accepted: no other octets have the same number modulo the
modulus, the same length and the same image.
-/

set_option autoImplicit false

namespace Missive.Signature

variable {key : Rsa.PrivateKey} {message signature : Octets}

theorem ofDigest_eq_error_iff {digest : Octets} {fault : Fault} :
    ofDigest digest key = .error fault ↔ key.modulusOctets < 46 ∧ fault = .signatureOverflow := by
  rw [← Rsa.SignatureBlock.encode?_eq_none_iff key.modulusOctets digest]
  unfold ofDigest
  split
  · rename_i block made
    simp [made]
  · rename_i none
    simp [none, eq_comm]

private theorem length_of_ofDigest {digest : Octets}
    (signed : ofDigest digest key = .ok signature) :
    signature.length = key.modulusOctets := by
  unfold ofDigest at signed
  split at signed
  · cases signed
    exact Octets.length_ofValue _ _
  · cases signed

/-- What is accepted for a digest is its signature. The signature is below the
modulus because the map ends there, and its image is the block because the block
is below the modulus. -/
theorem accepts_iff (consistent : key.Consistent) (usable : key.Usable) {digest : Octets}
    (length : signature.length = key.modulusOctets) :
    accepts key.toPublicKey digest signature = true ↔ ofDigest digest key = .ok signature := by
  unfold accepts ofDigest
  cases made : Rsa.SignatureBlock.encode? key.modulusOctets digest with
  | none => simp
  | some block =>
      have blockLength := Rsa.SignatureBlock.length_of_encode? made
      have blockBelow := Rsa.SignatureBlock.value_lt_of_encode? made
      simp only [decide_eq_true_eq, Except.ok.injEq]
      constructor
      · intro ⟨_, below, restored⟩
        exact ((consistent.ofValue_publicMap_eq_iff length below blockLength blockBelow).1
          restored).symm
      · intro signed
        have below : signature.value < key.modulus := by
          rw [← signed, Rsa.PublicKey.value_ofValue_of_lt (key.privateMap_lt _)]
          exact key.privateMap_lt _
        exact ⟨usable, below, (consistent.ofValue_publicMap_eq_iff length below blockLength
          blockBelow).2 signed.symm⟩

theorem sign_eq_ofDigest {content : Content} (key : Rsa.PrivateKey)
    (spelled : content.toOctets = .ok message) :
    sign content key = ofDigest (Sha512.hash message) key := by
  rw [sign, digest_eq spelled]
  rfl

theorem sign_eq_ok_iff {content : Content} :
    sign content key = .ok signature ↔
      ∃ message, content.toOctets = .ok message ∧
        ofDigest (Sha512.hash message) key = .ok signature := by
  cases spelled : content.toOctets with
  | ok message =>
      rw [sign_eq_ofDigest key spelled]
      simp
  | error fault =>
      rw [sign, digest_eq_error_iff.2 spelled]
      simp [bind, Except.bind]

theorem length_of_sign {content : Content} (signed : sign content key = .ok signature) :
    signature.length = key.modulusOctets := by
  obtain ⟨message, _, signed⟩ := sign_eq_ok_iff.1 signed
  exact length_of_ofDigest signed

theorem verify_eq_ok_verifyOctets {content : Content} {verifier : Rsa.PublicKey}
    (spelled : content.toOctets = .ok message) :
    verify content (some (.octets signature)) verifier =
      .ok (verifyOctets message signature verifier) := by
  unfold verify verifyOctets
  dsimp only
  split
  · rw [digest_eq spelled]
    rfl
  · rfl

theorem verify_of_length_ne {verifier : Rsa.PublicKey}
    (other : signature.length ≠ verifier.modulusOctets) (content : Content) :
    verify content (some (.octets signature)) verifier = .ok false :=
  if_neg other

/-- Octets of the proper length are held against the content, whose fault then shows. -/
theorem verify_eq_error_iff {content : Content} {verifier : Rsa.PublicKey} {fault : Fault} :
    verify content (some (.octets signature)) verifier = .error fault ↔
      signature.length = verifier.modulusOctets ∧ digest content = .error fault := by
  by_cases length : signature.length = verifier.modulusOctets
  · cases digested : digest content with
    | ok digest => simp [verify, length, digested, bind, Except.bind, pure, Except.pure]
    | error found => simp [verify, length, digested, bind, Except.bind]
  · simp [verify_of_length_ne length content, length]

theorem verifyOctets_iff (consistent : key.Consistent) (usable : key.Usable) :
    verifyOctets message signature key.toPublicKey = true ↔
      sign (.octets message) key = .ok signature := by
  rw [sign_eq_ofDigest key rfl]
  unfold verifyOctets
  split
  · rename_i length
    exact accepts_iff consistent usable length
  · rename_i length
    simp only [Bool.false_eq_true, false_iff]
    intro signed
    exact length (length_of_ofDigest signed)

/-- What is accepted for a message, whoever made the key and whether or not its
numbers belong together. -/
theorem verifyOctets_eq_true_iff {verifier : Rsa.PublicKey} :
    verifyOctets message signature verifier = true ↔
      signature.length = verifier.modulusOctets ∧ verifier.Usable ∧
        signature.value < verifier.modulus ∧
        Rsa.SignatureBlock.encode? verifier.modulusOctets (Sha512.hash message) =
          some (Octets.ofValue verifier.modulusOctets (verifier.publicMap signature.value)) := by
  unfold verifyOctets accepts
  by_cases length : signature.length = verifier.modulusOctets
  · rw [if_pos length]
    cases Rsa.SignatureBlock.encode? verifier.modulusOctets (Sha512.hash message) with
    | none => simp
    | some block =>
        rw [Option.some.injEq, eq_comm (a := block)]
        simp [length]
  · simp [length]

/-- What is accepted determines the block of the message. -/
theorem encode?_of_verifyOctets {verifier : Rsa.PublicKey}
    (accepted : verifyOctets message signature verifier = true) :
    Rsa.SignatureBlock.encode? verifier.modulusOctets (Sha512.hash message) =
      some (Octets.ofValue verifier.modulusOctets (verifier.publicMap signature.value)) := by
  obtain ⟨_, _, _, block⟩ := verifyOctets_eq_true_iff.1 accepted
  exact block

/-- Messages with one signature collide. -/
theorem hash_eq_of_verifyOctets {verifier : Rsa.PublicKey} {other : Octets}
    (accepted : verifyOctets message signature verifier = true)
    (acceptedForOther : verifyOctets other signature verifier = true) :
    Sha1.hash (Sha512.hash message) = Sha1.hash (Sha512.hash other) :=
  Rsa.SignatureBlock.hash_eq_of_encode? (encode?_of_verifyOctets accepted)
    (encode?_of_verifyOctets acceptedForOther)

private theorem exists_ofDigest (room : 46 ≤ key.modulusOctets) (digest : Octets) :
    ∃ signature, ofDigest digest key = .ok signature := by
  cases signed : ofDigest digest key with
  | ok signature => exact ⟨signature, rfl⟩
  | error fault => exact absurd (ofDigest_eq_error_iff.1 signed).1 (by omega)

theorem exists_sign (room : 46 ≤ key.modulusOctets) (message : Octets) :
    ∃ signature, sign (.octets message) key = .ok signature := by
  obtain ⟨signature, signed⟩ := exists_ofDigest room (Sha512.hash message)
  exact ⟨signature, (sign_eq_ofDigest key rfl).trans signed⟩

theorem sign_of_no_room (noRoom : key.modulusOctets < 46) (message : Octets) :
    sign (.octets message) key = .error .signatureOverflow :=
  (sign_eq_ofDigest key rfl).trans (ofDigest_eq_error_iff.2 ⟨noRoom, rfl⟩)

private theorem room_of_ofDigest {digest : Octets} (signed : ofDigest digest key = .ok signature) :
    46 ≤ key.modulusOctets := by
  by_contra short
  rw [ofDigest_eq_error_iff.2 ⟨Nat.not_le.1 short, rfl⟩] at signed
  cases signed

/-- Content that has octets is signed as these, unless the key has no room for a
block; that is the only fault. Checking never fails, and accepts the signature
and nothing else. The number of a signature plus the modulus, for one, is spelled
by other octets and so refused. -/
theorem verify_iff_sign (consistent : key.Consistent) (usable : key.Usable) {content : Content}
    (encodable : content.Encodable) :
    ((∃ fault, sign content key = .error fault ∧ fault.category = .badValue) ↔
      key.modulusOctets < 46) ∧
    (46 ≤ key.modulusOctets → ∃ genuine, sign content key = .ok genuine) ∧
    (∀ given, ∃ valid, verify content (some (.octets given)) key.toPublicKey = .ok valid ∧
      (valid = true ↔ 46 ≤ key.modulusOctets ∧ sign content key = .ok given)) ∧
    (∀ genuine altered, sign content key = .ok genuine → altered ≠ genuine →
      verify content (some (.octets altered)) key.toPublicKey = .ok false) ∧
    ∃ octets, content.toOctets = .ok octets ∧ sign content key = sign (.octets octets) key := by
  obtain ⟨octets, spelled⟩ := Content.encodable_iff.1 encodable
  have signs := sign_eq_ofDigest key spelled
  have sameSigns : sign content key = sign (.octets octets) key := signs
  refine ⟨?_, ?_, ?_, ?_, octets, spelled, sameSigns⟩
  · rw [signs]
    constructor
    · intro ⟨fault, failed, _⟩
      exact (ofDigest_eq_error_iff.1 failed).1
    · intro short
      exact ⟨.signatureOverflow, ofDigest_eq_error_iff.2 ⟨short, rfl⟩, rfl⟩
  · intro room
    rw [signs]
    exact exists_ofDigest room _
  · intro given
    refine ⟨_, verify_eq_ok_verifyOctets spelled, ?_⟩
    rw [verifyOctets_iff consistent usable, ← sameSigns]
    constructor
    · intro signed
      exact ⟨room_of_ofDigest (signs ▸ signed), signed⟩
    · intro ⟨_, signed⟩
      exact signed
  · intro genuine altered signed different
    rw [verify_eq_ok_verifyOctets spelled, Except.ok.injEq, Bool.eq_false_iff]
    intro accepted
    have signedToo := (verifyOctets_iff consistent usable).1 accepted
    rw [← sameSigns, signed] at signedToo
    exact different (Except.ok.inj signedToo).symm

theorem verify_iff_sign_mersenneKey :
    Rsa.mersenneKey.Consistent ∧ Rsa.mersenneKey.Usable ∧
      (Content.text [0x20AC, 0x1F511]).Encodable ∧
      ∃ genuine, sign (.text [0x20AC, 0x1F511]) Rsa.mersenneKey = .ok genuine ∧
        ∀ altered, altered ≠ genuine →
          verify (.text [0x20AC, 0x1F511]) (some (.octets altered)) Rsa.mersenneKey.toPublicKey =
            .ok false := by
  have encodable : (Content.text [0x20AC, 0x1F511]).Encodable := by decide +kernel
  have room : 46 ≤ Rsa.mersenneKey.modulusOctets := by decide +kernel
  obtain ⟨_, signs, _, rejects, _⟩ :=
    verify_iff_sign Rsa.mersenneKey_consistent Rsa.mersenneKey_sound.usable encodable
  obtain ⟨genuine, signed⟩ := signs room
  exact ⟨Rsa.mersenneKey_consistent, Rsa.mersenneKey_sound.usable, encodable, genuine, signed,
    fun altered => rejects genuine altered signed⟩

end Missive.Signature
