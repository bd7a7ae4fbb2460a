import Mathlib
import Missive.Octets

/-!
# Masked octets

A mask that covers some octets is taken off by applying it again. Octets that were
masked alike differ as they did before.
-/

set_option autoImplicit false

namespace Missive.Octets

theorem xor_xor_cancel {octets mask : Octets} (covered : octets.length ≤ mask.length) :
    xor (xor octets mask) mask = octets := by
  induction octets generalizing mask with
  | nil => rfl
  | cons octet octets ih =>
      cases mask with
      | nil => simp at covered
      | cons first mask =>
          have rest := ih (Nat.le_of_succ_le_succ covered)
          simp only [xor, List.zipWith_cons_cons] at rest ⊢
          rw [rest, UInt8.xor_assoc, UInt8.xor_self, UInt8.xor_zero]

theorem xor_append {front mask : Octets} (length : front.length = mask.length)
    (back more : Octets) :
    xor (front ++ back) (mask ++ more) = xor front mask ++ xor back more :=
  List.zipWith_append length

/-- A mask is not used beyond the octets that it covers. -/
theorem xor_append_mask {octets mask : Octets} (covered : octets.length ≤ mask.length)
    (more : Octets) : xor octets (mask ++ more) = xor octets mask := by
  induction octets generalizing mask with
  | nil => rfl
  | cons octet octets ih =>
      cases mask with
      | nil => simp at covered
      | cons first mask =>
          have rest := ih (Nat.le_of_succ_le_succ covered)
          simp only [xor, List.cons_append, List.zipWith_cons_cons] at rest ⊢
          rw [rest]

theorem xor_xor_xor {left right mask : Octets} (leftCovered : left.length ≤ mask.length)
    (rightCovered : right.length ≤ mask.length) :
    xor (xor left mask) (xor right mask) = xor left right := by
  induction mask generalizing left right with
  | nil =>
      rw [List.length_eq_zero_iff.1 (Nat.le_zero.1 leftCovered),
        List.length_eq_zero_iff.1 (Nat.le_zero.1 rightCovered)]
      rfl
  | cons first mask ih =>
      cases left with
      | nil => rfl
      | cons leftOctet left =>
          cases right with
          | nil => rfl
          | cons rightOctet right =>
              have rest := ih (Nat.le_of_succ_le_succ leftCovered)
                (Nat.le_of_succ_le_succ rightCovered)
              have octet : leftOctet ^^^ first ^^^ (rightOctet ^^^ first) =
                  leftOctet ^^^ rightOctet := by
                rw [UInt8.xor_comm rightOctet first, UInt8.xor_assoc, ← UInt8.xor_assoc first,
                  UInt8.xor_self, UInt8.zero_xor]
              simp only [xor, List.zipWith_cons_cons] at rest ⊢
              rw [rest, octet]

/-- A change by a mask of its own goes through, and only where it is made. -/
theorem xor_modify (octets mask : Octets) (index : Nat) (change : UInt8) :
    xor (octets.modify index (· ^^^ change)) mask =
      (xor octets mask).modify index (· ^^^ change) := by
  induction octets generalizing mask index with
  | nil => simp [xor]
  | cons octet octets ih =>
      cases mask with
      | nil => simp [xor]
      | cons first mask =>
          cases index with
          | zero =>
              simp only [xor, List.modify_zero_cons, List.zipWith_cons_cons]
              rw [UInt8.xor_assoc, UInt8.xor_comm change, ← UInt8.xor_assoc]
          | succ index =>
              have rest := ih mask index
              simp only [xor, List.modify_succ_cons, List.zipWith_cons_cons] at rest ⊢
              rw [rest]

end Missive.Octets
