import Mathlib
import Missive.Proofs.Octets.Mask
import Missive.Rsa.Oaep

/-!
# Exact reading of padded blocks

A padded block is read to the message it was made of, and no other block is read
at all. The message may begin with the octets that end the padding.
-/

set_option autoImplicit false

namespace Missive.Rsa.Oaep

@[simp] theorem length_mask (seed : Octets) (length : Nat) : (mask seed length).length = length := by
  simp only [mask, List.length_take, List.length_flatMap, Sha1.length_hash, List.map_const',
    List.length_range, List.sum_replicate, smul_eq_mul]
  omega

private theorem length_body {size : Nat} {message : Octets} (fits : message.length + 42 ≤ size) :
    (body size message).length = size - 21 := by
  simp only [body, labelHash, paddingSize, List.length_append, Sha1.length_hash,
    List.length_replicate, List.length_cons]
  omega

theorem length_encode {size : Nat} {message : Octets} (seed : Seed)
    (fits : message.length + 42 ≤ size) : (encode size seed message).length = size := by
  simp only [encode, List.length_cons, List.length_append, Octets.length_xor, length_mask,
    length_body fits, seed.length_octets]
  omega

/-- Zeros end at the first other octet, so the message is not searched for a one. -/
theorem afterOne?_eq_some_iff {octets message : Octets} :
    afterOne? octets = some message ↔ ∃ zeros, octets = List.replicate zeros 0 ++ 1 :: message := by
  induction octets with
  | nil => simp [afterOne?]
  | cons first octets ih =>
      by_cases zero : first = 0
      · subst zero
        have skipped : afterOne? (0 :: octets) = afterOne? octets := by simp [afterOne?]
        rw [skipped, ih]
        constructor
        · intro ⟨zeros, padded⟩
          exact ⟨zeros + 1, by rw [padded]; rfl⟩
        · intro ⟨zeros, padded⟩
          cases zeros with
          | zero => simp at padded
          | succ zeros => exact ⟨zeros, List.tail_eq_of_cons_eq padded⟩
      · have stopped : (first :: octets).dropWhile (· == 0) = first :: octets := by simp [zero]
        rw [afterOne?, stopped]
        constructor
        · intro read
          split at read
          · rename_i rest shape
            cases read
            exact ⟨0, shape⟩
          · cases read
        · intro ⟨zeros, padded⟩
          cases zeros with
          | zero => rw [padded]; rfl
          | succ zeros => exact absurd (List.head_eq_of_cons_eq padded) zero

/-- A body is read exactly when it is the body of its message in a block of the
size that its own length calls for. -/
theorem ofBody?_eq_some_iff {octets message : Octets} :
    ofBody? octets = some message ↔
      message.length + 21 ≤ octets.length ∧ octets = body (octets.length + 21) message := by
  have hashLength : labelHash.length = 20 := Sha1.length_hash []
  unfold ofBody?
  constructor
  · intro read
    split at read
    · rename_i labelled
      obtain ⟨zeros, padded⟩ := afterOne?_eq_some_iff.1 read
      have shape : octets = labelHash ++ (List.replicate zeros 0 ++ 1 :: message) := by
        rw [← padded, ← labelled, List.take_append_drop]
      have length : octets.length = 20 + (zeros + (message.length + 1)) := by
        rw [shape]
        simp [hashLength]
      have padding : octets.length + 21 - message.length - paddingSize = zeros := by
        simp only [paddingSize]
        omega
      refine ⟨by omega, ?_⟩
      rw [body, padding, List.append_assoc]
      exact shape
    · cases read
  · intro ⟨fits, shape⟩
    have parts := shape
    rw [body, List.append_assoc] at parts
    rw [if_pos (by rw [parts, List.take_left' hashLength]), afterOne?_eq_some_iff]
    exact ⟨_, by rw [parts, List.drop_left' hashLength]⟩

theorem decode?_encode {size : Nat} {seed : Seed} {message : Octets}
    (fits : message.length + 42 ≤ size) : decode? (encode size seed message) = some message := by
  have bodyLength := length_body fits
  have maskedLength : (Octets.xor (body size message) (mask seed.octets (size - 21))).length =
      size - 21 := by
    simp [bodyLength]
  have blindLength (masked : Octets) : (Octets.xor seed.octets (mask masked 20)).length = 20 := by
    simp [seed.length_octets]
  simp only [encode, decode?, List.take_left' (blindLength _), List.drop_left' (blindLength _)]
  rw [Octets.xor_xor_cancel (by simp [seed.length_octets]), maskedLength,
    Octets.xor_xor_cancel (by simp [bodyLength]), ofBody?_eq_some_iff, bodyLength]
  exact ⟨by omega, by rw [show size - 21 + 21 = size by omega]⟩

/-- A block is read exactly when some seed makes it of a message that fits. -/
theorem decode?_eq_some_iff {block message : Octets} :
    decode? block = some message ↔
      message.length + 42 ≤ block.length ∧ ∃ seed, block = encode block.length seed message := by
  constructor
  · intro read
    unfold decode? at read
    split at read
    · rename_i rest
      obtain ⟨fits, shape⟩ := ofBody?_eq_some_iff.1 read
      simp only [Octets.length_xor, length_mask, Nat.min_self, List.length_drop] at fits shape
      have size : (0 :: rest).length = rest.length - 20 + 21 := by
        simp only [List.length_cons]
        omega
      have seedLength : (Octets.xor (rest.take 20) (mask (rest.drop 20) 20)).length = 20 := by
        simp only [Octets.length_xor, length_mask, List.length_take]
        omega
      -- The seed is found by unmasking, so it masks to what stands in the block.
      refine ⟨by omega, ⟨_, seedLength⟩, ?_⟩
      rw [encode, size, Nat.add_sub_cancel, ← shape, Octets.xor_xor_cancel (by simp),
        Octets.xor_xor_cancel (by simp), List.take_append_drop]
    · cases read
  · intro ⟨fits, seed, shape⟩
    rw [shape]
    exact decode?_encode fits

end Missive.Rsa.Oaep
