import Mathlib
import Missive.Proofs.Cipher.Payload
import Missive.Proofs.Octets.Value

/-!
# Where the keystream stands

The octet that masks a place depends on the key, the nonce and the place alone. So
whole blocks can be left off in front when the counter is moved on by as many, with
its carry through all sixteen octets, and a change of the ciphertext shows in the
plaintext at the same place and nowhere else.
-/

set_option autoImplicit false

namespace Missive

/-- The nonce that a counter has reached after some blocks. -/
def Nonce.advance (nonce : Nonce) (blocks : Nat) : Nonce :=
  ⟨Octets.ofValue 16 ((nonce.octets.value + blocks) % 2 ^ 128), Octets.length_ofValue _ _⟩

theorem Nonce.value_advance (nonce : Nonce) (blocks : Nat) :
    (nonce.advance blocks).octets.value ≡ nonce.octets.value + blocks [MOD 256 ^ 16] := by
  rw [advance, Octets.value_ofValue, show (2 : Nat) ^ 128 = 256 ^ 16 by norm_num]
  exact (Nat.mod_modEq _ _).trans (Nat.mod_modEq _ _)

namespace CounterMode

variable (keys : List Aes256.Block) (key : SymmetricKey) (nonce : Nonce)

theorem keystream_add (counter first second : Nat) :
    keystream keys counter (first + second) =
      keystream keys counter first ++ keystream keys (counter + first) second := by
  induction first generalizing counter with
  | zero => rw [Nat.zero_add, keystream, List.nil_append, Nat.add_zero]
  | succ first ih =>
      rw [Nat.succ_add_eq_add_succ, Nat.add_succ, keystream, keystream, ih, List.append_assoc,
        Nat.add_assoc counter, Nat.add_comm 1]

/-- A counter is written in sixteen octets before it is encrypted, so it wraps. -/
private theorem keystream_congr {counter other : Nat} (same : counter ≡ other [MOD 256 ^ 16])
    (blocks : Nat) : keystream keys counter blocks = keystream keys other blocks := by
  induction blocks generalizing counter other with
  | zero => rfl
  | succ blocks ih =>
      rw [keystream, keystream, Octets.ofValue_congr same, ih (same.add_right 1)]

/-- Any keystream that is long enough masks alike. -/
private theorem apply_eq_xor {octets : Octets} (blocks : Nat)
    (covered : octets.length ≤ 16 * blocks) :
    apply key nonce octets =
      Octets.xor octets (keystream (Aes256.roundKeys key) nonce.octets.value blocks) := by
  obtain ⟨more, rfl⟩ : ∃ more, blocks = (octets.length + 15) / 16 + more :=
    Nat.exists_eq_add_of_le (by omega)
  rw [keystream_add, Octets.xor_append_mask (by rw [length_keystream]; omega)]
  rfl

theorem apply_append {front : Octets} {blocks : Nat} (whole : front.length = 16 * blocks)
    (back : Octets) :
    apply key nonce (front ++ back) =
      apply key nonce front ++ apply key (nonce.advance blocks) back := by
  -- Both parts are masked by one keystream, which is cut where the front ends. What is left
  -- of it starts at a counter that may not fit sixteen octets; the moved nonce is its rest.
  let keys := Aes256.roundKeys key
  let count := (back.length + 15) / 16
  have frontMask : front.length = (keystream keys nonce.octets.value blocks).length := by
    rw [whole, length_keystream]
  have advanced : keystream keys (nonce.advance blocks).octets.value count =
      keystream keys (nonce.octets.value + blocks) count :=
    keystream_congr keys (nonce.value_advance blocks) count
  calc apply key nonce (front ++ back)
      = Octets.xor (front ++ back) (keystream keys nonce.octets.value (blocks + count)) :=
        apply_eq_xor key nonce _ (by rw [List.length_append]; omega)
    _ = Octets.xor front (keystream keys nonce.octets.value blocks) ++
          Octets.xor back (keystream keys (nonce.octets.value + blocks) count) := by
        rw [keystream_add, Octets.xor_append frontMask]
    _ = apply key nonce front ++ apply key (nonce.advance blocks) back := by
        rw [← advanced, apply_eq_xor key nonce _ (Nat.le_of_eq whole)]
        rfl

theorem xor_apply (left right : Octets) :
    Octets.xor (apply key nonce left) (apply key nonce right) = Octets.xor left right := by
  let blocks := left.length + right.length
  rw [apply_eq_xor key nonce blocks (by omega), apply_eq_xor key nonce blocks (by omega)]
  refine Octets.xor_xor_xor ?_ ?_ <;> rw [length_keystream] <;> omega

theorem apply_modify (octets : Octets) (index : Nat) (change : UInt8) :
    apply key nonce (octets.modify index (· ^^^ change)) =
      (apply key nonce octets).modify index (· ^^^ change) := by
  unfold apply
  rw [List.length_modify, Octets.xor_modify]

end CounterMode

namespace Payload

/-- Decrypting and encrypting are one mask. -/
private theorem decrypt_append (key : SymmetricKey) (nonce : Nonce) (ciphertext : Octets) :
    decrypt (nonce.octets ++ ciphertext) key.octets =
      .ok (CounterMode.apply key nonce ciphertext) := by
  have decrypted := decrypt_encipher key nonce (CounterMode.apply key nonce ciphertext)
  rwa [encipher, CounterMode.apply_apply] at decrypted

/-- A ciphertext is decrypted in two parts, cut at any block, when the nonce of the
second is moved on by the blocks of the first; this wraps at 2^128. Two ciphertexts
under one nonce differ as their plaintexts do, and a change of one octet is a change of
the same octet. -/
theorem decrypt_by_counter (key : SymmetricKey) (nonce : Nonce) :
    (∀ (front back : Octets) (blocks : Nat), front.length = 16 * blocks →
      ∃ frontPlain backPlain, decrypt (nonce.octets ++ front) key.octets = .ok frontPlain ∧
        decrypt ((nonce.advance blocks).octets ++ back) key.octets = .ok backPlain ∧
        decrypt (nonce.octets ++ front ++ back) key.octets = .ok (frontPlain ++ backPlain)) ∧
    (∀ left right : Octets, ∃ leftPlain rightPlain,
      decrypt (nonce.octets ++ left) key.octets = .ok leftPlain ∧
        decrypt (nonce.octets ++ right) key.octets = .ok rightPlain ∧
        leftPlain.length = left.length ∧ rightPlain.length = right.length ∧
        Octets.xor leftPlain rightPlain = Octets.xor left right) ∧
    ∀ ciphertext : Octets, ∃ plaintext,
      decrypt (nonce.octets ++ ciphertext) key.octets = .ok plaintext ∧
        ∀ index change, decrypt (nonce.octets ++ ciphertext.modify index (· ^^^ change))
          key.octets = .ok (plaintext.modify index (· ^^^ change)) := by
  refine ⟨?_, ?_, ?_⟩
  · intro front back blocks whole
    refine ⟨_, _, decrypt_append _ _ _, decrypt_append _ _ _, ?_⟩
    rw [List.append_assoc, decrypt_append, CounterMode.apply_append key nonce whole]
  · intro left right
    exact ⟨_, _, decrypt_append _ _ _, decrypt_append _ _ _, CounterMode.length_apply _ _ _,
      CounterMode.length_apply _ _ _, CounterMode.xor_apply _ _ _ _⟩
  · intro ciphertext
    refine ⟨_, decrypt_append _ _ _, ?_⟩
    intro index change
    rw [decrypt_append, CounterMode.apply_modify]

theorem decrypt_by_counter_wrapping :
    (Nonce.advance ⟨List.replicate 16 0xFF, rfl⟩ 2).octets = List.replicate 15 0 ++ [1] ∧
    ∃ frontPlain backPlain,
      decrypt (List.replicate 16 0xFF ++ List.replicate 32 7) (List.replicate 32 1) =
          .ok frontPlain ∧
        decrypt (List.replicate 15 0 ++ [1] ++ [1, 2, 3]) (List.replicate 32 1) = .ok backPlain ∧
        decrypt (List.replicate 16 0xFF ++ List.replicate 32 7 ++ [1, 2, 3])
          (List.replicate 32 1) = .ok (frontPlain ++ backPlain) := by
  have advanced : (Nonce.advance ⟨List.replicate 16 0xFF, rfl⟩ 2).octets =
      List.replicate 15 0 ++ [1] := by decide +kernel
  obtain ⟨parts, _⟩ := decrypt_by_counter ⟨List.replicate 32 1, rfl⟩ ⟨List.replicate 16 0xFF, rfl⟩
  obtain ⟨frontPlain, backPlain, front, back, both⟩ :=
    parts (List.replicate 32 7) [1, 2, 3] 2 rfl
  rw [advanced] at back
  exact ⟨advanced, frontPlain, backPlain, front, back, both⟩

end Payload

end Missive
