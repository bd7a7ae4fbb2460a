import Mathlib
import Missive.Octets

/-!
# Laws of octets as numbers

Numbers below the bound of a width and octets of that width determine each other.
-/

set_option autoImplicit false

namespace Missive.Octets

/-- Reading back what was written gives the number, less what did not fit. -/
theorem value_ofValue (width number : Nat) :
    value (ofValue width number) = number % 256 ^ width := by
  induction width generalizing number with
  | zero => simp [ofValue, value, Nat.mod_one]
  | succ width ih =>
      have split : number % 256 ^ (width + 1) = number % 256 + 256 * (number / 256 % 256 ^ width) := by
        rw [Nat.pow_succ, Nat.mul_comm, Nat.mod_mul]
      rw [ofValue, value_append_singleton, ih, UInt8.toNat_ofNat', split]
      omega

theorem value_ofValue_of_lt {width number : Nat} (fits : number < 256 ^ width) :
    value (ofValue width number) = number := by
  rw [value_ofValue, Nat.mod_eq_of_lt fits]

theorem value_lt (octets : Octets) : value octets < 256 ^ octets.length := by
  -- A value grows at its end, so the induction is on the octets in reverse.
  suffices reversed : ∀ rest : Octets, value rest.reverse < 256 ^ rest.length by
    simpa using reversed octets.reverse
  intro rest
  induction rest with
  | nil => simp [value]
  | cons last rest ih =>
      have bound := last.toNat_lt
      rw [List.reverse_cons, value_append_singleton, List.length_cons, Nat.pow_succ]
      omega

/-- Octets are determined by their number and their length. -/
theorem ofValue_value (octets : Octets) : ofValue octets.length (value octets) = octets := by
  suffices reversed : ∀ rest : Octets, ofValue rest.length (value rest.reverse) = rest.reverse by
    simpa using reversed octets.reverse
  intro rest
  induction rest with
  | nil => rfl
  | cons last rest ih =>
      have bound := last.toNat_lt
      have quotient : (value rest.reverse * 256 + last.toNat) / 256 = value rest.reverse := by omega
      have digit : UInt8.ofNat (value rest.reverse * 256 + last.toNat) = last := by
        apply UInt8.toNat_inj.1
        rw [UInt8.toNat_ofNat']
        omega
      rw [List.reverse_cons, value_append_singleton, List.length_cons, ofValue, quotient, ih, digit]

/-- Only the remainder of a number is written. -/
theorem ofValue_congr {width number other : Nat} (same : number ≡ other [MOD 256 ^ width]) :
    ofValue width number = ofValue width other := by
  have written (number : Nat) : ofValue width (number % 256 ^ width) = ofValue width number := by
    have restored := ofValue_value (ofValue width number)
    rwa [length_ofValue, value_ofValue] at restored
  rw [← written number, ← written other, same]

theorem ofValue_eq_iff {width number : Nat} {octets : Octets} (fits : number < 256 ^ width)
    (length : octets.length = width) : ofValue width number = octets ↔ number = octets.value := by
  constructor
  · intro written
    rw [← written, value_ofValue_of_lt fits]
  · intro read
    rw [read, ← length, ofValue_value]

theorem value_zero_cons (octets : Octets) : value (0 :: octets) = value octets := by
  simp [value]

/-- A zero octet in front leaves one octet fewer to count with. -/
theorem value_zero_cons_lt {octets : Octets} {width : Nat} (length : (0 :: octets).length = width) :
    value (0 :: octets) < 256 ^ (width - 1) := by
  subst length
  rw [value_zero_cons]
  exact value_lt octets

end Missive.Octets
