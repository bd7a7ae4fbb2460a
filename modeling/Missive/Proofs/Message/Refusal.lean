import Mathlib
import Missive.Proofs.Message.Hindrance

/-! Keys for which nothing is encapsulated, down to the smallest that can be held. The size of
the key is judged on the way to the limit for the payload, before encapsulation has a fault of
its own to report. So the category of encryption tells of payloads that overflow and of keys
that are not used, and never of a key that is too small for a symmetric key. -/

set_option autoImplicit false

namespace Missive

namespace Capsule

variable {payload : Octets} {key : Rsa.PublicKey} {seed : Rsa.Oaep.Seed} {fault : Fault}

/-- Why nothing is encapsulated. Only a key of at least 1024 bits has a limit to exceed, and
only a payload within the limit shows that the key is not used. -/
inductive Refused (payload : Octets) (key : Rsa.PublicKey) : Fault → Prop where
  | small (small : key.bits < 1024) : Refused payload key (.modulusTooShort key.bits)
  | overflow (size : 1024 ≤ key.bits) (exceeds : key.modulusOctets < payload.length + 42) :
      Refused payload key (.capsuleOverflow payload.length (key.modulusOctets - 42))
  | unused (size : 1024 ≤ key.bits) (fits : payload.length + 42 ≤ key.modulusOctets)
      (unusable : ¬ key.Usable) : Refused payload key .keyRefused

theorem encapsulate_eq_error_iff :
    encapsulate payload key seed = .error fault ↔ Refused payload key fault := by
  constructor
  · intro failed
    rcases Nat.lt_or_ge key.bits 1024 with small | size
    · rw [encapsulate_of_small small] at failed
      cases failed
      exact .small small
    · have room := KeyParameters.size_le_modulusOctets size
      rw [encapsulate_of_size size] at failed
      split_ifs at failed with exceeds usable
      · cases failed
        exact .overflow size (by omega)
      · cases failed
        exact .unused size (by omega) usable
  · intro refused
    cases refused with
    | small small => exact encapsulate_of_small small seed
    | overflow size exceeds =>
        have room := KeyParameters.size_le_modulusOctets size
        rw [encapsulate_of_size size, if_pos (by omega)]
    | unused size fits unusable => exact encapsulate_of_refused size fits unusable seed

theorem Refused.category_eq_encryption_iff (refused : Refused payload key fault) :
    fault.category = .encryption ↔ 1024 ≤ key.bits := by
  cases refused with
  | small small =>
      have not : ¬ 1024 ≤ key.bits := Nat.not_le.2 small
      simp [Fault.category, not]
  | overflow size | unused size => simp [Fault.category, size]

/-- The fault is one of encryption exactly when the size of the key is not. -/
theorem exists_encryption_fault_iff :
    (∃ fault, encapsulate payload key seed = .error fault ∧ fault.category = .encryption) ↔
      1024 ≤ key.bits ∧ (key.modulusOctets < payload.length + 42 ∨ ¬ key.Usable) := by
  constructor
  · rintro ⟨fault, failed, category⟩
    have refused := encapsulate_eq_error_iff.1 failed
    have size := refused.category_eq_encryption_iff.1 category
    cases refused with
    | small small => exact absurd size (Nat.not_le.2 small)
    | overflow _ exceeds => exact ⟨size, .inl exceeds⟩
    | unused _ _ unusable => exact ⟨size, .inr unusable⟩
  · rintro ⟨size, cause⟩
    have found : ∃ fault, Refused payload key fault := by
      by_cases exceeds : key.modulusOctets < payload.length + 42
      · exact ⟨_, .overflow size exceeds⟩
      · exact ⟨_, .unused size (Nat.not_lt.1 exceeds) (cause.resolve_left exceeds)⟩
    obtain ⟨fault, refused⟩ := found
    exact ⟨fault, encapsulate_eq_error_iff.2 refused,
      refused.category_eq_encryption_iff.2 size⟩

/-- A capsule, or a fault of encryption, or a key whose size is at fault. -/
private theorem encapsulate_cases (payload : Octets) (key : Rsa.PublicKey) (seed : Rsa.Oaep.Seed) :
    (∃ capsule, encapsulate payload key seed = .ok capsule ∧
      capsule.length = key.modulusOctets) ∨
    (∃ fault, encapsulate payload key seed = .error fault ∧ fault.category = .encryption) ∨
    key.bits < 1024 ∧ encapsulate payload key seed = .error (.modulusTooShort key.bits) := by
  cases made : encapsulate payload key seed with
  | ok capsule => exact .inl ⟨capsule, rfl, length_of_encapsulate made⟩
  | error fault =>
      have refused := encapsulate_eq_error_iff.1 made
      rcases Nat.lt_or_ge key.bits 1024 with small | size
      · rw [encapsulate_of_small small] at made
        cases made
        exact .inr (.inr ⟨small, rfl⟩)
      · exact .inr (.inl ⟨fault, rfl, refused.category_eq_encryption_iff.2 size⟩)

end Capsule

namespace Message

variable {text : Text} {recipient : Rsa.PublicKey} {sender : Rsa.PrivateKey} {source : Source}

private theorem Hindrance.category_eq_encryption_iff {hindrance : Hindrance} :
    hindrance.category = .encryption ↔ hindrance = .recipientRefused := by
  cases hindrance <;> simp [Hindrance.category]

theorem Hindrance.first?_eq_recipientRefused_iff (sender : Rsa.PrivateKey) :
    first? text recipient sender source = some .recipientRefused ↔
      (∀ point ∈ text, ¬ point.IsSurrogate) ∧ (source.reply [] 32).length = 32 ∧
        1024 ≤ recipient.bits ∧ ¬ recipient.Usable := by
  rw [← Text.surrogateRun?_eq_none_iff]
  unfold Hindrance.first?
  cases text.surrogateRun? with
  | some run => simp
  | none => simp [ite_eq_iff]

/-- Of all that can hinder a text, only a key that is not used is a fault of encryption. -/
theorem exists_encryption_fault_iff (seed : Rsa.Oaep.Seed) :
    (∃ fault asked, (encrypt text recipient sender seed).run source = (.error fault, asked) ∧
      fault.category = .encryption) ↔
      (∀ point ∈ text, ¬ point.IsSurrogate) ∧ (source.reply [] 32).length = 32 ∧
        1024 ≤ recipient.bits ∧ ¬ recipient.Usable := by
  rw [← Hindrance.first?_eq_recipientRefused_iff sender]
  constructor
  · rintro ⟨fault, asked, failed, category⟩
    cases found : Hindrance.first? text recipient sender source with
    | none =>
        obtain ⟨sealing, keyReplied, nonceReplied⟩ := exists_sealing_of_unhindered found seed
        rw [encrypt_eq_ok_iff.2 ⟨sealing, keyReplied, nonceReplied, rfl, rfl⟩] at failed
        cases failed
    | some hindrance =>
        rw [encrypt_of_hindrance found seed] at failed
        cases failed
        rw [hindrance.category_fault, Hindrance.category_eq_encryption_iff] at category
        rw [category]
  · intro found
    exact ⟨_, _, encrypt_of_hindrance found seed, rfl⟩

private theorem bits_lt_of_modulusOctets_lt (short : recipient.modulusOctets < 74) :
    recipient.bits < 1024 := by
  by_contra size
  have room := KeyParameters.size_le_modulusOctets (Nat.not_lt.1 size)
  omega

private theorem encrypt_of_small_recipient (plain : ∀ point ∈ text, ¬ point.IsSurrogate)
    (keyLength : (source.reply [] 32).length = 32) (small : recipient.bits < 1024)
    (seed : Rsa.Oaep.Seed) :
    (encrypt text recipient sender seed).run source =
      (.error (.modulusTooShort recipient.bits), [32]) := by
  have written : text.toOctets = .ok _ :=
    Text.toOctets_eq_ok_iff.2 (Utf8.encode_eq_ok_iff.2 ⟨plain, rfl⟩)
  exact encrypt_of_encapsulate_error written keyLength (Capsule.encapsulate_of_small small seed)

/-- Encapsulation gives a capsule or a fault of encryption for every key of at least 1024 bits.
For a smaller key the fault is a bad value, which encryption of a text passes on: with a key
that has no room for a symmetric key, the category of encryption does not come up at all. -/
theorem encryption_faults_by_size (key : Rsa.PublicKey) (seed : Rsa.Oaep.Seed) :
    (∀ payload,
      (∃ capsule, Capsule.encapsulate payload key seed = .ok capsule ∧
        capsule.length = key.modulusOctets) ∨
      (∃ fault, Capsule.encapsulate payload key seed = .error fault ∧
        fault.category = .encryption) ∨
      key.bits < 1024 ∧
        Capsule.encapsulate payload key seed = .error (.modulusTooShort key.bits)) ∧
    (∀ payload,
      (∃ fault, Capsule.encapsulate payload key seed = .error fault ∧
        fault.category = .encryption) ↔
      1024 ≤ key.bits ∧ (key.modulusOctets < payload.length + 42 ∨ ¬ key.Usable)) ∧
    (Fault.modulusTooShort key.bits).category = .badValue ∧
    ∀ text (sender : Rsa.PrivateKey) (source : Source),
      (∀ point ∈ text, ¬ point.IsSurrogate) → (source.reply [] 32).length = 32 →
      (key.modulusOctets < 74 ∨ key.bits < 1024 →
        (encrypt text key sender seed).run source =
          (.error (.modulusTooShort key.bits), [32])) ∧
      ((∃ fault asked, (encrypt text key sender seed).run source = (.error fault, asked) ∧
        fault.category = .encryption) ↔ 1024 ≤ key.bits ∧ ¬ key.Usable) := by
  refine ⟨fun payload => Capsule.encapsulate_cases payload key seed,
    fun _ => Capsule.exists_encryption_fault_iff, rfl, ?_⟩
  intro text sender source plain keyLength
  constructor
  · rintro (short | small)
    · exact encrypt_of_small_recipient plain keyLength (bits_lt_of_modulusOctets_lt short) seed
    · exact encrypt_of_small_recipient plain keyLength small seed
  · rw [exists_encryption_fault_iff]
    constructor
    · rintro ⟨_, _, refused⟩
      exact refused
    · intro refused
      exact ⟨plain, keyLength, refused⟩

/-- A key of 582 bits, whose 73 octets have room for 31 octets in a capsule. -/
def undersizedKey : Rsa.PublicKey where
  modulus := mersenne 61 * mersenne 521
  publicExponent := 5
  three_le_publicExponent := by decide
  publicExponent_lt_modulus := by decide +kernel
  publicExponent_odd := by decide

private theorem bits_undersizedKey : (undersizedKey.bits : Int) = 582 := by
  decide +kernel

theorem encryption_faults_by_size_undersizedKey :
    (encrypt [0x20AC] undersizedKey Rsa.mersenneKey ⟨List.replicate 20 0, rfl⟩).run
        (.ofReplies [List.replicate 32 1, List.replicate 16 0xFF]) =
      (.error (.modulusTooShort 582), [32]) ∧
    ∃ fault, Capsule.encapsulate (List.replicate 100 0) Rsa.mersenneKey.toPublicKey
        ⟨List.replicate 20 0, rfl⟩ = .error fault ∧ fault.category = .encryption := by
  constructor
  · obtain ⟨_, _, _, encrypts⟩ :=
      encryption_faults_by_size undersizedKey ⟨List.replicate 20 0, rfl⟩
    have plain : (Content.text [0x20AC]).Encodable := by decide
    obtain ⟨refused, _⟩ := encrypts [0x20AC] Rsa.mersenneKey
      (.ofReplies [List.replicate 32 1, List.replicate 16 0xFF]) plain (by decide +kernel)
    rw [← bits_undersizedKey]
    exact refused (.inl (by decide +kernel))
  · obtain ⟨_, fails, _⟩ :=
      encryption_faults_by_size Rsa.mersenneKey.toPublicKey ⟨List.replicate 20 0, rfl⟩
    exact (fails _).2 ⟨by decide +kernel, .inl (by decide +kernel)⟩

/-- Encapsulation has another fault than one of encryption, for a payload that does not fit. -/
theorem encapsulate_undersizedKey_not_encryption :
    undersizedKey.modulusOctets = 73 ∧
      Capsule.encapsulate (List.replicate 32 0) undersizedKey ⟨List.replicate 20 0, rfl⟩ =
        .error (.modulusTooShort 582) ∧
      ¬ ∀ payload key seed,
        (∃ capsule, Capsule.encapsulate payload key seed = .ok capsule) ∨
        ∃ fault, Capsule.encapsulate payload key seed = .error fault ∧
          fault.category = .encryption := by
  have refused : Capsule.encapsulate (List.replicate 32 0) undersizedKey
      ⟨List.replicate 20 0, rfl⟩ = .error (.modulusTooShort 582) := by
    rw [← bits_undersizedKey]
    exact Capsule.encapsulate_of_small (by decide +kernel) _
  refine ⟨by decide +kernel, refused, ?_⟩
  intro always
  rcases always (List.replicate 32 0) undersizedKey ⟨List.replicate 20 0, rfl⟩ with
    ⟨capsule, made⟩ | ⟨fault, failed, category⟩
  · cases refused.symm.trans made
  · cases refused.symm.trans failed
    cases category

end Message

end Missive
