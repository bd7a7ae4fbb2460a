import Mathlib
import Missive.Proofs.Der.PublicKey
import Missive.Proofs.Signature
import Missive.Proofs.Text.Surrogates

/-! Checking under keys that anyone may have made. Nothing is assumed of the numbers of a key
but what loading it looks at: the modulus may be tiny or even, its factors may be unknown, and
the map may send many numbers to one. Such a key still answers, and still ties a signature to
one hash. It need not tie a message to a key: for every message there are keys and signatures
that nobody needed a private exponent for. -/

set_option autoImplicit false

namespace Missive.Signature

variable {key : Rsa.PublicKey} {content : Content} {signature : Option Content} {fault : Fault}
  {message octets : Octets}

private theorem digest_eq_error_iff_isFirst :
    digest content = .error fault ↔
      ∃ text run, content = .text text ∧ run.IsFirst text ∧ fault = .surrogates run := by
  rw [digest_eq_error_iff]
  cases content with
  | octets given => simp [Content.toOctets]
  | text given =>
      simp only [Content.toOctets, Text.toOctets, ← Text.encode_eq_error_iff_isFirst]
      cases written : Utf8.encode given with
      | ok octets => simp [Except.mapError, written]
      | error run => simp [Except.mapError, written, eq_comm]

/-- A check fails only where octets of the proper length meet a text with surrogates. -/
theorem verify_eq_error_iff_isFirst :
    verify content signature key = .error fault ↔
      ∃ octets text run, signature = some (.octets octets) ∧
        octets.length = key.modulusOctets ∧ content = .text text ∧ run.IsFirst text ∧
        fault = .surrogates run := by
  rcases signature with _ | given | given
  · simp [verify]
  · rw [verify_eq_error_iff, digest_eq_error_iff_isFirst]
    simp
  · simp [verify]

/-- Octets of the length that signatures have are given for a text with surrogates. -/
def MeetsSurrogates (key : Rsa.PublicKey) (content : Content) (signature : Option Content) :
    Prop :=
  ∃ octets text, signature = some (.octets octets) ∧ octets.length = (key.bits + 7) / 8 ∧
    content = .text text ∧ ∃ point ∈ text, point.IsSurrogate

theorem exists_fault_iff :
    (∃ fault, verify content signature key = .error fault) ↔
      MeetsSurrogates key content signature := by
  simp only [verify_eq_error_iff_isFirst, MeetsSurrogates, ← Text.exists_isFirst_iff]
  constructor
  · rintro ⟨_, octets, text, run, given, length, held, isFirst, _⟩
    exact ⟨octets, text, given, length, held, run, isFirst⟩
  · rintro ⟨octets, text, given, length, held, run, isFirst⟩
    exact ⟨_, octets, text, run, given, length, held, isFirst, rfl⟩

theorem exists_answer_iff :
    (∃ valid, verify content signature key = .ok valid) ↔
      ¬ MeetsSurrogates key content signature := by
  rw [← exists_fault_iff]
  cases verify content signature key <;> simp

/-- What is accepted is octets, for content that has octets. -/
theorem verify_eq_ok_true_iff :
    verify content signature key = .ok true ↔
      ∃ octets message, signature = some (.octets octets) ∧ content.toOctets = .ok message ∧
        verifyOctets message octets key = true := by
  constructor
  · intro accepted
    rcases signature with _ | given | given
    · cases accepted
    · cases spelled : content.toOctets with
      | ok message =>
          rw [verify_eq_ok_verifyOctets spelled] at accepted
          exact ⟨given, message, rfl, rfl, Except.ok.inj accepted⟩
      | error fault =>
          -- The length is looked at first, and other octets are refused unread.
          by_cases length : given.length = key.modulusOctets
          · rw [verify_eq_error_iff.2 ⟨length, digest_eq_error_iff.2 spelled⟩] at accepted
            cases accepted
          · rw [verify_of_length_ne length] at accepted
            cases accepted
    · cases accepted
  · rintro ⟨octets, message, rfl, spelled, accepted⟩
    rw [verify_eq_ok_verifyOctets spelled, accepted]

private theorem room_of_verifyOctets (accepted : verifyOctets message octets key = true) :
    46 ≤ key.modulusOctets := by
  by_contra short
  have none := (Rsa.SignatureBlock.encode?_eq_none_iff key.modulusOctets
    (Sha512.hash message)).2 (Nat.not_le.1 short)
  rw [encode?_of_verifyOctets accepted] at none
  cases none

/-- A key under which nothing is accepted: it has no room for a block, or is not used. -/
def Barren (key : Rsa.PublicKey) : Prop :=
  key.modulusOctets < 46 ∨ key.modulus % 2 = 0 ∨ 16384 < key.bits ∨
    (3072 < key.bits ∧ 64 < bitLength key.publicExponent)

private theorem not_barren_of_verifyOctets (accepted : verifyOctets message octets key = true) :
    ¬ Barren key := by
  obtain ⟨_, ⟨odd, bounded, exponent⟩, _, _⟩ := verifyOctets_eq_true_iff.1 accepted
  have room := room_of_verifyOctets accepted
  rintro (short | even | long | ⟨large, exceeding⟩)
  · omega
  · omega
  · omega
  · exact absurd (exponent large) (by omega)

/-- A number is below a power of 256 and not below the one before: this counts its octets. -/
private theorem modulusOctets_eq {width : Nat} (lower : 256 ^ width ≤ key.modulus)
    (upper : key.modulus < 256 ^ (width + 1)) : key.modulusOctets = width + 1 := by
  have most : width < key.modulusOctets :=
    (Nat.pow_lt_pow_iff_right (by decide)).1 (Nat.lt_of_le_of_lt lower key.modulus_lt)
  have least : key.modulusOctets - 1 < width + 1 :=
    (Nat.pow_lt_pow_iff_right (by decide)).1 (Nat.lt_of_le_of_lt key.le_modulus upper)
  omega

/-- A key whose modulus is a power less a number, which is thus what the map makes of the
root. -/
def ofRoot (root number exponent : Nat) (least : 3 ≤ exponent) (odd : exponent % 2 = 1)
    (large : exponent < root ^ exponent - number) : Rsa.PublicKey :=
  ⟨root ^ exponent - number, exponent, least, large, odd⟩

private theorem publicMap_ofRoot {root number exponent : Nat} {least : 3 ≤ exponent}
    {odd : exponent % 2 = 1} {large : exponent < root ^ exponent - number}
    (below : number < root ^ exponent - number) :
    (ofRoot root number exponent least odd large).publicMap root = number := by
  have split : number + (root ^ exponent - number) = root ^ exponent := by omega
  calc (ofRoot root number exponent least odd large).publicMap root
      = root ^ exponent % (root ^ exponent - number) := Number.powMod_eq root exponent _
    _ = (number + (root ^ exponent - number)) % (root ^ exponent - number) := by rw [split]
    _ = number % (root ^ exponent - number) := Nat.add_mod_right _ _
    _ = number := Nat.mod_eq_of_lt below

/-- One of two neighbouring roots makes an odd modulus. -/
private theorem exists_root {number : Nat} (below : number < 256 ^ 45) :
    ∃ root, root < 256 ^ 45 ∧ 256 ^ 45 ≤ root ^ 3 - number ∧ root ^ 3 - number < 256 ^ 46 ∧
      (root ^ 3 - number) % 2 = 1 := by
  rcases Nat.mod_two_eq_zero_or_one number with even | odd
  · exact ⟨2 ^ 122 + 1, by omega, by omega, by omega, by omega⟩
  · exact ⟨2 ^ 122, by omega, by omega, by omega, by omega⟩

/-- For every message there is a key that is used, and under it a signature of the message,
although no factors and no private exponent are there to sign with. -/
theorem exists_key_accepting (message : Octets) :
    ∃ (key : Rsa.PublicKey) (octets : Octets), key.modulusOctets = 46 ∧ octets.length = 46 ∧
      verifyOctets message octets key = true := by
  cases made : Rsa.SignatureBlock.encode? 46 (Sha512.hash message) with
  | none => exact absurd ((Rsa.SignatureBlock.encode?_eq_none_iff 46 _).1 made) (by decide)
  | some block =>
      have blockLength := Rsa.SignatureBlock.length_of_encode? made
      have blockBelow : block.value < 256 ^ 45 := Rsa.SignatureBlock.value_lt_pow_of_encode? made
      obtain ⟨root, rootBelow, lower, upper, odd⟩ := exists_root blockBelow
      have large : 3 < root ^ 3 - block.value := Nat.lt_of_lt_of_le (by decide) lower
      let forged := ofRoot root block.value 3 (by decide) (by decide) large
      have size : forged.modulusOctets = 46 := modulusOctets_eq lower upper
      have bits : forged.bits ≤ 368 := by
        simp only [Rsa.PublicKey.modulusOctets, octetsForBits] at size
        omega
      have usable : forged.Usable := ⟨odd, by omega, fun exceeding => by omega⟩
      have fits : root < 256 ^ 46 := Nat.lt_trans rootBelow (by decide)
      have image : forged.publicMap root = block.value :=
        publicMap_ofRoot (Nat.lt_of_lt_of_le blockBelow lower)
      refine ⟨forged, Octets.ofValue 46 root, size, Octets.length_ofValue _ _,
        verifyOctets_eq_true_iff.2 ?_⟩
      rw [size, Octets.value_ofValue_of_lt fits, image, made, ← blockLength, Octets.ofValue_value]
      exact ⟨Octets.length_ofValue _ _, usable, Nat.lt_of_lt_of_le rootBelow lower, rfl⟩

/-- Every key is loaded from some octets, and a check under it has an answer unless octets of
the proper length meet a text with surrogates, whose first run is then reported. What is
accepted twice under one key has one hash, and the number of the signature is below the
modulus, so that no multiple of the modulus can be added to it. -/
theorem verify_answers_and_binds (key : Rsa.PublicKey) :
    (∃ octets, Der.PublicKey.decode octets = .ok key) ∧
    (∀ content signature, (∃ fault, verify content signature key = .error fault) ↔
      MeetsSurrogates key content signature) ∧
    (∀ content signature, (∃ valid, verify content signature key = .ok valid) ↔
      ¬ MeetsSurrogates key content signature) ∧
    (∀ content signature fault, verify content signature key = .error fault →
      fault.category = .unencodableText ∧
        ∃ text run, content = .text text ∧ run.IsFirst text ∧ fault = .surrogates run) ∧
    (Barren key → ∀ content signature valid,
      verify content signature key = .ok valid → valid = false) ∧
    ∀ content other signature, verify content signature key = .ok true →
      verify other signature key = .ok true →
      ∃ octets message otherMessage, signature = some (.octets octets) ∧
        octets.value < key.modulus ∧ content.toOctets = .ok message ∧
        other.toOctets = .ok otherMessage ∧
        Sha1.hash (Sha512.hash message) = Sha1.hash (Sha512.hash otherMessage) := by
  refine ⟨⟨_, Der.PublicKey.decode_encode_eq key⟩, fun _ _ => exists_fault_iff,
    fun _ _ => exists_answer_iff, ?reported, ?barren, ?bound⟩
  case reported =>
    intro content signature fault failed
    obtain ⟨_, text, run, _, _, held, isFirst, rfl⟩ := verify_eq_error_iff_isFirst.1 failed
    exact ⟨rfl, text, run, held, isFirst, rfl⟩
  case barren =>
    intro barren content signature valid answered
    cases valid with
    | false => rfl
    | true =>
        obtain ⟨_, _, _, _, accepted⟩ := verify_eq_ok_true_iff.1 answered
        exact absurd barren (not_barren_of_verifyOctets accepted)
  case bound =>
    intro content other signature answered answeredForOther
    obtain ⟨octets, message, rfl, spelled, accepted⟩ := verify_eq_ok_true_iff.1 answered
    obtain ⟨_, otherMessage, same, otherSpelled, otherAccepted⟩ :=
      verify_eq_ok_true_iff.1 answeredForOther
    cases same
    obtain ⟨_, _, below, _⟩ := verifyOctets_eq_true_iff.1 accepted
    exact ⟨octets, message, otherMessage, rfl, below, spelled, otherSpelled,
      hash_eq_of_verifyOctets accepted otherAccepted⟩

/-- A key too small for any signature still answers. Under a key that nobody holds the other
half of, a text and its octets share a signature. -/
theorem verify_answers_and_binds_forged :
    Barren Der.PublicKey.fifteenKey ∧
      (∀ given, verify (.octets given) (some (.octets [4])) Der.PublicKey.fifteenKey =
        .ok false) ∧
      (∃ fault, verify (.text [0x41, 0xDC00]) (some (.octets [4])) Der.PublicKey.fifteenKey =
        .error fault) ∧
      ∃ key octets, verify (.text [0x20AC]) (some (.octets octets)) key = .ok true ∧
        verify (.octets [0xE2, 0x82, 0xAC]) (some (.octets octets)) key = .ok true ∧
        octets.value < key.modulus := by
  obtain ⟨_, fails, answers, _, isFalse, _⟩ :=
    verify_answers_and_binds Der.PublicKey.fifteenKey
  have barren : Barren Der.PublicKey.fifteenKey := .inl (by decide)
  have surrogates : MeetsSurrogates Der.PublicKey.fifteenKey (.text [0x41, 0xDC00])
      (some (.octets [4])) :=
    ⟨_, _, rfl, by decide, rfl, 0xDC00, .tail _ (.head _), by decide⟩
  refine ⟨barren, ?_, (fails _ _).2 surrogates, ?_⟩
  · intro given
    have none : ¬ MeetsSurrogates Der.PublicKey.fifteenKey (.octets given)
        (some (.octets [4])) := by
      rintro ⟨_, _, _, _, held, _⟩
      cases held
    obtain ⟨valid, answered⟩ := (answers _ _).2 none
    rw [answered, isFalse barren _ _ _ answered]
  · obtain ⟨key, octets, _, _, accepted⟩ := exists_key_accepting [0xE2, 0x82, 0xAC]
    have written : (Content.text [0x20AC]).toOctets = .ok [0xE2, 0x82, 0xAC] := by decide
    have ofText : verify (.text [0x20AC]) (some (.octets octets)) key = .ok true :=
      verify_eq_ok_true_iff.2 ⟨_, _, rfl, written, accepted⟩
    have ofOctets : verify (.octets [0xE2, 0x82, 0xAC]) (some (.octets octets)) key = .ok true :=
      verify_eq_ok_true_iff.2 ⟨_, _, rfl, rfl, accepted⟩
    obtain ⟨_, _, _, _, _, binds⟩ := verify_answers_and_binds key
    obtain ⟨_, _, _, same, below, _⟩ := binds _ _ _ ofText ofOctets
    cases same
    exact ⟨key, octets, ofText, ofOctets, below⟩

end Missive.Signature
