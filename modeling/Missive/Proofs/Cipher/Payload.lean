import Mathlib
import Missive.Cipher.Payload
import Missive.Proofs.Octets.Mask
import Missive.Proofs.Randomness

/-!
# Exact reading of payloads

Counter mode undoes itself, for octets of any length and from any start of the
counter. A payload is decrypted exactly to the octets that it was made of.
-/

set_option autoImplicit false

namespace Missive

@[simp] theorem Aes256.Block.length_octets (block : Aes256.Block) : block.octets.length = 16 :=
  rfl

namespace CounterMode

theorem length_keystream (keys : List Aes256.Block) (counter blocks : Nat) :
    (keystream keys counter blocks).length = 16 * blocks := by
  induction blocks generalizing counter with
  | zero => rfl
  | succ blocks ih =>
      simp only [keystream, List.length_append, Aes256.Block.length_octets, ih]
      omega

theorem length_apply (key : Sized 32) (nonce : Sized 16) (octets : Octets) :
    (apply key nonce octets).length = octets.length := by
  simp only [apply, Octets.length_xor, length_keystream]
  omega

/-- The keystream depends on the octets only through their number, which stays. -/
theorem apply_apply (key : Sized 32) (nonce : Sized 16) (octets : Octets) :
    apply key nonce (apply key nonce octets) = octets := by
  have length := length_apply key nonce octets
  unfold apply at length ⊢
  rw [length]
  refine Octets.xor_xor_cancel ?_
  rw [length_keystream]
  omega

end CounterMode

theorem SymmetricKey.ofOctets_eq_ok_iff {octets : Octets} {key : SymmetricKey} :
    SymmetricKey.ofOctets octets = .ok key ↔ octets = key.octets := by
  rw [← Sized.ofOctets?_eq_some_iff]
  unfold SymmetricKey.ofOctets
  split <;> rename_i checked <;> simp [checked]

private theorem SymmetricKey.ofOctets_octets (key : SymmetricKey) :
    SymmetricKey.ofOctets key.octets = .ok key :=
  SymmetricKey.ofOctets_eq_ok_iff.2 rfl

private theorem SymmetricKey.ofOctets_of_length_ne {octets : Octets} (other : octets.length ≠ 32) :
    SymmetricKey.ofOctets octets = .error (.symmetricKeyLength octets.length) := by
  have unfitting : Sized.ofOctets? 32 octets = none := dif_neg other
  simp only [SymmetricKey.ofOctets, unfitting]

private theorem SymmetricKey.exists_octets_eq {octets : Octets} (length : octets.length = 32) :
    ∃ key : SymmetricKey, key.octets = octets :=
  ⟨⟨octets, length⟩, rfl⟩

namespace Payload

theorem take_encipher (key : SymmetricKey) (nonce : Nonce) (plaintext : Octets) :
    (encipher key nonce plaintext).take 16 = nonce.octets :=
  List.take_left' nonce.length_octets

theorem drop_encipher (key : SymmetricKey) (nonce : Nonce) (plaintext : Octets) :
    (encipher key nonce plaintext).drop 16 = CounterMode.apply key nonce plaintext :=
  List.drop_left' nonce.length_octets

theorem length_encipher (key : SymmetricKey) (nonce : Nonce) (plaintext : Octets) :
    (encipher key nonce plaintext).length = 16 + plaintext.length := by
  rw [encipher, List.length_append, nonce.length_octets, CounterMode.length_apply]

/-- Under every key all octets are a payload once there are enough of them for a nonce. -/
private theorem exists_encipher_eq {payload : Octets} (enough : 16 ≤ payload.length)
    (key : SymmetricKey) :
    ∃ (nonce : Nonce) (plaintext : Octets), encipher key nonce plaintext = payload := by
  have nonceLength : (payload.take 16).length = 16 := by
    rw [List.length_take, Nat.min_eq_left enough]
  refine ⟨⟨payload.take 16, nonceLength⟩, CounterMode.apply key ⟨_, nonceLength⟩ (payload.drop 16),
    ?_⟩
  rw [encipher, CounterMode.apply_apply, List.take_append_drop]

theorem decrypt_eq_ok_iff {payload key plaintext : Octets} :
    decrypt payload key = .ok plaintext ↔
      ∃ symmetricKey : SymmetricKey, ∃ nonce : Nonce,
        key = symmetricKey.octets ∧ payload = encipher symmetricKey nonce plaintext := by
  unfold decrypt
  constructor
  · intro decrypted
    cases checked : SymmetricKey.ofOctets key with
    | error fault =>
        rw [checked] at decrypted
        cases decrypted
    | ok symmetricKey =>
        rw [checked] at decrypted
        simp only [bind, Except.bind] at decrypted
        split at decrypted
        · rename_i nonce front
          cases decrypted
          refine ⟨symmetricKey, nonce, SymmetricKey.ofOctets_eq_ok_iff.1 checked, ?_⟩
          rw [encipher, CounterMode.apply_apply, ← Sized.ofOctets?_eq_some_iff.1 front,
            List.take_append_drop]
        · cases decrypted
  · intro ⟨symmetricKey, nonce, keyOctets, made⟩
    rw [SymmetricKey.ofOctets_eq_ok_iff.2 keyOctets, made]
    simp only [bind, Except.bind, take_encipher, drop_encipher, Sized.ofOctets?_octets,
      CounterMode.apply_apply]

theorem encrypt_eq_ok_iff {plaintext payload : Octets} {key : SymmetricKey} {source : Source}
    {past asked : List Int} :
    encrypt plaintext key.octets source past = (.ok payload, asked) ↔
      ∃ nonce : Nonce, source.reply past 16 = nonce.octets ∧ past ++ [16] = asked ∧
        encipher key nonce plaintext = payload := by
  unfold encrypt
  simp only [Drawing.bind_eq_ok_iff, Drawing.ofExcept_eq_ok_iff, Drawing.pure_eq_ok_iff,
    SymmetricKey.ofOctets_octets]
  constructor
  · intro ⟨found, _, ⟨same, start⟩, nonce, _, drawn, made, finished⟩
    cases same
    cases start
    cases finished
    obtain ⟨replied, grown⟩ := Drawing.sized_eq_ok_iff.1 drawn
    exact ⟨nonce, replied, grown, made⟩
  · intro ⟨nonce, replied, grown, made⟩
    exact ⟨key, past, ⟨rfl, rfl⟩, nonce, asked, Drawing.sized_eq_ok_iff.2 ⟨replied, grown⟩, made,
      rfl⟩

theorem encrypt_of_length_ne {plaintext : Octets} {key : SymmetricKey} {source : Source}
    {past : List Int} (other : (source.reply past 16).length ≠ 16) :
    encrypt plaintext key.octets source past =
      (.error (.replyLength (source.reply past 16).length 16), past ++ [16]) := by
  have checked : Drawing.ofExcept (SymmetricKey.ofOctets key.octets) source past =
      (.ok key, past) := by
    rw [SymmetricKey.ofOctets_octets, Drawing.ofExcept]
  rw [encrypt, Drawing.bind_of_ok checked]
  exact Drawing.bind_of_error (Drawing.sized_of_length_ne other)

private theorem encrypt_of_key_length_ne {plaintext key : Octets} {source : Source}
    {past : List Int} (other : key.length ≠ 32) :
    encrypt plaintext key source past = (.error (.symmetricKeyLength key.length), past) := by
  rw [encrypt, SymmetricKey.ofOctets_of_length_ne other]
  exact Drawing.bind_of_error rfl

theorem decrypt_encipher (key : SymmetricKey) (nonce : Nonce) (plaintext : Octets) :
    decrypt (encipher key nonce plaintext) key.octets = .ok plaintext :=
  decrypt_eq_ok_iff.2 ⟨key, nonce, rfl, rfl⟩

private theorem decrypt_of_key_length_ne {payload key : Octets} (other : key.length ≠ 32) :
    decrypt payload key = .error (.symmetricKeyLength key.length) := by
  rw [decrypt, SymmetricKey.ofOctets_of_length_ne other]
  rfl

private theorem decrypt_of_short {payload : Octets} (short : payload.length < 16)
    (key : SymmetricKey) :
    decrypt payload key.octets = .error (.payloadTooShort payload.length) := by
  have unfitting : Sized.ofOctets? 16 (payload.take 16) = none := by
    refine dif_neg ?_
    rw [List.length_take]
    omega
  rw [decrypt, SymmetricKey.ofOctets_octets]
  simp only [bind, Except.bind, unfitting]

/-- The length of the key is judged first, and with a proper key only the payload's own
length can be at fault. -/
theorem decrypt_eq_error_iff {payload key : Octets} {fault : Fault} :
    decrypt payload key = .error fault ↔
      key.length ≠ 32 ∧ fault = .symmetricKeyLength key.length ∨
        key.length = 32 ∧ payload.length < 16 ∧ fault = .payloadTooShort payload.length := by
  by_cases proper : key.length = 32
  · obtain ⟨key, rfl⟩ := SymmetricKey.exists_octets_eq proper
    rcases Nat.lt_or_ge payload.length 16 with short | enough
    · rw [decrypt_of_short short]
      simp [proper, short, eq_comm]
    · obtain ⟨nonce, plaintext, rfl⟩ := exists_encipher_eq enough key
      rw [decrypt_encipher]
      simp [proper, Nat.not_lt.2 enough]
  · rw [decrypt_of_key_length_ne proper]
    simp [proper, eq_comm]

/-- The single request is for the nonce, and it is made only under a proper key. -/
theorem encrypt_eq_error_iff {plaintext key : Octets} {source : Source} {past asked : List Int}
    {fault : Fault} :
    encrypt plaintext key source past = (.error fault, asked) ↔
      key.length ≠ 32 ∧ fault = .symmetricKeyLength key.length ∧ asked = past ∨
        key.length = 32 ∧ (source.reply past 16).length ≠ 16 ∧
          fault = .replyLength (source.reply past 16).length 16 ∧ asked = past ++ [16] := by
  by_cases proper : key.length = 32
  · obtain ⟨key, rfl⟩ := SymmetricKey.exists_octets_eq proper
    by_cases fitting : (source.reply past 16).length = 16
    · rw [encrypt_eq_ok_iff.2 ⟨⟨_, fitting⟩, rfl, rfl, rfl⟩]
      simp [proper, fitting]
    · rw [encrypt_of_length_ne fitting]
      simp [proper, fitting, eq_comm]
  · rw [encrypt_of_key_length_ne proper]
    simp [proper, eq_comm]

theorem decrypt_fault_iff {payload key : Octets} :
    (∃ fault, decrypt payload key = .error fault ∧ fault.category = .badValue) ↔
      key.length ≠ 32 ∨ payload.length < 16 := by
  simp only [decrypt_eq_error_iff]
  constructor
  · rintro ⟨fault, ⟨other, _⟩ | ⟨_, short, _⟩, _⟩
    · exact .inl other
    · exact .inr short
  · intro unfit
    by_cases proper : key.length = 32
    · exact ⟨_, .inr ⟨proper, unfit.resolve_left (not_not.2 proper), rfl⟩, rfl⟩
    · exact ⟨_, .inl ⟨proper, rfl⟩, rfl⟩

theorem encrypt_fault_iff {plaintext key : Octets} {source : Source} {past : List Int} :
    (∃ fault asked, encrypt plaintext key source past = (.error fault, asked) ∧
        fault.category = .badValue) ↔
      key.length ≠ 32 ∨ (source.reply past 16).length ≠ 16 := by
  simp only [encrypt_eq_error_iff]
  constructor
  · rintro ⟨fault, asked, ⟨other, _⟩ | ⟨_, unfitting, _⟩, _⟩
    · exact .inl other
    · exact .inr unfitting
  · intro unfit
    by_cases proper : key.length = 32
    · exact ⟨_, _, .inr ⟨proper, unfit.resolve_left (not_not.2 proper), rfl, rfl⟩, rfl⟩
    · exact ⟨_, _, .inl ⟨proper, rfl, rfl⟩, rfl⟩

theorem requests_of_encrypt (plaintext key : Octets) (source : Source) (past : List Int) :
    (encrypt plaintext key source past).2 = if key.length = 32 then past ++ [16] else past := by
  cases outcome : encrypt plaintext key source past with
  | mk result asked =>
      cases result with
      | error fault =>
          rcases encrypt_eq_error_iff.1 outcome with ⟨other, _, kept⟩ | ⟨proper, _, _, grown⟩
          · rw [if_neg other, kept]
          · rw [if_pos proper, grown]
      | ok payload =>
          by_cases proper : key.length = 32
          · obtain ⟨key, rfl⟩ := SymmetricKey.exists_octets_eq proper
            obtain ⟨_, _, grown, _⟩ := encrypt_eq_ok_iff.1 outcome
            rw [if_pos proper, grown]
          · rw [encrypt_of_key_length_ne proper] at outcome
            cases outcome

/-- Decrypting undoes encrypting under every nonce, and what any octets decrypt to is
encrypted to them again under the nonce in front of them. Octets of any number are
encrypted, also where the counter wraps among them. The key and the nonce fail by their
length alone, and so does a payload. -/
theorem decrypt_inverts_encrypt (plaintext payload key : Octets) (source : Source) :
    (key.length = 32 → (source.reply [] 16).length = 16 →
      ∃ made, (encrypt plaintext key).run source = (.ok made, [16]) ∧
        made.take 16 = source.reply [] 16 ∧ made.length = 16 + plaintext.length ∧
        decrypt made key = .ok plaintext) ∧
    (key.length = 32 → 16 ≤ payload.length → source.reply [] 16 = payload.take 16 →
      ∃ read, decrypt payload key = .ok read ∧
        (encrypt read key).run source = (.ok payload, [16])) ∧
    ((∃ fault, decrypt payload key = .error fault ∧ fault.category = .badValue) ↔
      key.length ≠ 32 ∨ payload.length < 16) ∧
    ((∃ fault asked, (encrypt plaintext key).run source = (.error fault, asked) ∧
        fault.category = .badValue) ↔
      key.length ≠ 32 ∨ (source.reply [] 16).length ≠ 16) ∧
    ((encrypt plaintext key).run source).2 = if key.length = 32 then [16] else [] := by
  refine ⟨?_, ?_, decrypt_fault_iff, encrypt_fault_iff, requests_of_encrypt _ _ _ []⟩
  · intro proper fitting
    obtain ⟨key, rfl⟩ := SymmetricKey.exists_octets_eq proper
    exact ⟨_, encrypt_eq_ok_iff.2 ⟨⟨_, fitting⟩, rfl, rfl, rfl⟩, take_encipher _ _ _,
      length_encipher _ _ _, decrypt_encipher _ _ _⟩
  · intro proper enough replied
    obtain ⟨key, rfl⟩ := SymmetricKey.exists_octets_eq proper
    obtain ⟨nonce, plaintext, rfl⟩ := exists_encipher_eq enough key
    rw [take_encipher] at replied
    exact ⟨_, decrypt_encipher _ _ _, encrypt_eq_ok_iff.2 ⟨nonce, replied, rfl, rfl⟩⟩

theorem decrypt_inverts_encrypt_wrapping :
    (∃ made,
      (encrypt (List.replicate 33 0x61) (List.replicate 32 1)).run
          (.ofReplies [List.replicate 16 0xFF]) = (.ok made, [16]) ∧
        made.length = 49 ∧ decrypt made (List.replicate 32 1) = .ok (List.replicate 33 0x61)) ∧
    (∃ read, decrypt (List.replicate 49 0xFF) (List.replicate 32 1) = .ok read ∧
      (encrypt read (List.replicate 32 1)).run (.ofReplies [List.replicate 16 0xFF]) =
        (.ok (List.replicate 49 0xFF), [16])) := by
  obtain ⟨restores, remakes, _⟩ := decrypt_inverts_encrypt (List.replicate 33 0x61)
    (List.replicate 49 0xFF) (List.replicate 32 1) (.ofReplies [List.replicate 16 0xFF])
  obtain ⟨made, encrypted, _, length, decrypted⟩ := restores rfl rfl
  exact ⟨⟨made, encrypted, length, decrypted⟩, remakes rfl (by decide) rfl⟩

end Payload

end Missive
