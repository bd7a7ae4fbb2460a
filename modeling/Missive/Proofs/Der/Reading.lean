import Mathlib
import Missive.Der.Natural
import Missive.Proofs.Number.Bits
import Missive.Proofs.Octets.Value

/-!
# Exact reading of elements

Each reader accepts the written form of what it returns and nothing else: lengths,
elements and natural numbers have one spelling each, of whatever size they are.
-/

set_option autoImplicit false

namespace Missive.Der

/-- Every written length is announced, whatever stands behind it. -/
theorem announcedLength_lengthOctets (length : Nat) (rest : Octets) :
    announcedLength (lengthOctets length ++ rest) = length := by
  induction length using Nat.strongRecOn generalizing rest with
  | ind length ih =>
      rw [lengthOctets]
      split
      · rename_i short
        have digit : (UInt8.ofNat length).toNat = length := by
          rw [UInt8.toNat_ofNat']
          omega
        simp [announcedLength, digit, short]
      · rename_i long
        have smaller : octetsForBits (bitLength length) < length := by
          have bound := bitLength_le length
          simp only [octetsForBits]
          omega
        have fits := lt_octetsForBits length
        dsimp only
        split
        · rename_i few
          have digit : (UInt8.ofNat (128 + octetsForBits (bitLength length))).toNat =
              128 + octetsForBits (bitLength length) := by
            rw [UInt8.toNat_ofNat']
            omega
          simp only [List.cons_append, announcedLength, digit]
          rw [if_neg (by omega), if_pos (by omega), Nat.add_sub_cancel_left,
            List.take_left' (Octets.length_ofValue _ _), Octets.value_ofValue_of_lt fits]
        · have mark : (0xFF : UInt8).toNat = 255 := rfl
          simp only [List.cons_append, List.append_assoc, announcedLength]
          simp [mark, ih _ smaller, Octets.value_ofValue_of_lt fits]

/-- Reading a length accepts its written form and nothing else. -/
theorem readLength?_eq_some_iff {octets rest : Octets} {length : Nat} :
    readLength? octets = some (length, rest) ↔ octets = lengthOctets length ++ rest := by
  unfold readLength?
  dsimp only
  constructor
  · intro read
    split at read
    · rename_i front
      simp only [Option.some.injEq, Prod.mk.injEq] at read
      obtain ⟨rfl, rfl⟩ := read
      exact (List.prefix_iff_eq_append.1 (List.isPrefixOf_iff_prefix.1 front)).symm
    · cases read
  · rintro rfl
    simp [announcedLength_lengthOctets]

theorem readContents?_eq_some_iff {octets contents rest : Octets} :
    readContents? octets = some (contents, rest) ↔
      octets = lengthOctets contents.length ++ (contents ++ rest) := by
  simp only [readContents?, Option.bind_eq_some_iff, Prod.exists]
  constructor
  · rintro ⟨length, body, measured, cut⟩
    split at cut
    · rename_i enough
      simp only [Option.some.injEq, Prod.mk.injEq] at cut
      obtain ⟨rfl, rfl⟩ := cut
      rw [List.length_take, Nat.min_eq_left enough, List.take_append_drop]
      exact readLength?_eq_some_iff.1 measured
    · cases cut
  · rintro rfl
    refine ⟨contents.length, contents ++ rest, readLength?_eq_some_iff.2 rfl, ?_⟩
    simp

/-- Reading an element accepts its written form and nothing else. -/
theorem readNext?_eq_some_iff {identifier : UInt8} {octets contents rest : Octets} :
    readNext? identifier octets = some (contents, rest) ↔
      octets = element identifier contents ++ rest := by
  cases octets with
  | nil => simp [readNext?, element]
  | cons first others =>
      by_cases same : first = identifier
      · simp [readNext?, element, same, readContents?_eq_some_iff]
      · simp [readNext?, element, same]

/-- Octets start with one element at most, so no element is a proper beginning of
another. -/
theorem element_append_inj {identifier other : UInt8}
    {contents otherContents rest otherRest : Octets}
    (same : element identifier contents ++ rest = element other otherContents ++ otherRest) :
    identifier = other ∧ contents = otherContents ∧ rest = otherRest := by
  obtain ⟨rfl, _⟩ := List.cons.inj same
  have read := readNext?_eq_some_iff.2 same
  rw [readNext?_eq_some_iff.2 rfl] at read
  cases read
  exact ⟨rfl, rfl, rfl⟩

theorem readOnly?_eq_some_iff {identifier : UInt8} {octets contents : Octets} :
    readOnly? identifier octets = some contents ↔ octets = element identifier contents := by
  rw [← List.append_nil (element identifier contents), ← readNext?_eq_some_iff]
  unfold readOnly?
  split
  · rename_i found next
    simp [next]
  · rename_i unread
    constructor
    · intro impossible
      cases impossible
    · intro next
      exact absurd next (unread contents)

private theorem value_naturalContents (number : Nat) : (naturalContents number).value = number := by
  apply Octets.value_ofValue_of_lt
  rw [show (256 : Nat) = 2 ^ 8 by rfl, ← Nat.pow_mul]
  apply bitLength_le_iff.1
  omega

/-- Contents of the length that their number needs are the ones written for it. -/
private theorem eq_naturalContents {contents : Octets}
    (needed : contents.length = bitLength contents.value / 8 + 1) :
    contents = naturalContents contents.value := by
  rw [naturalContents, ← needed, Octets.ofValue_value]

/-- Reading a natural number accepts its written form and nothing else. -/
theorem readNatural?_eq_some_iff {octets rest : Octets} {number : Nat} :
    readNatural? octets = some (number, rest) ↔ octets = natural number ++ rest := by
  simp only [readNatural?, bind, Option.bind_eq_some_iff, Prod.exists]
  constructor
  · rintro ⟨contents, behind, next, read⟩
    split at read
    · rename_i needed
      simp only [Option.some.injEq, Prod.mk.injEq] at read
      obtain ⟨rfl, rfl⟩ := read
      rw [natural, ← eq_naturalContents needed]
      exact readNext?_eq_some_iff.1 next
    · cases read
  · rintro rfl
    refine ⟨naturalContents number, rest, readNext?_eq_some_iff.2 rfl, ?_⟩
    have length : (naturalContents number).length = bitLength number / 8 + 1 :=
      Octets.length_ofValue _ _
    simp [value_naturalContents, length]

private theorem natural_append_inj {number other : Nat} {rest otherRest : Octets}
    (same : natural number ++ rest = natural other ++ otherRest) :
    number = other ∧ rest = otherRest := by
  have read := readNatural?_eq_some_iff.2 same
  rw [readNatural?_eq_some_iff.2 rfl] at read
  cases read
  exact ⟨rfl, rfl⟩

theorem natural_injective : Function.Injective natural := by
  intro number other same
  exact (natural_append_inj (congrArg (· ++ []) same)).1

end Missive.Der
