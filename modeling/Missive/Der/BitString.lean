import Missive.Octets

/-!
# Strings of bits

A string of bits is a string of octets whose last octet may end in idle bits.
The idle bits are counted in front and are zero, so that a string of bits has one
written form, and what is written so is read again.
-/

set_option autoImplicit false

namespace Missive.Der

/-- Whether the last bits of octets are zero, so many of them. Without octets
there are no bits. -/
def endsIdle (idle : Nat) (octets : Octets) : Bool :=
  match octets.getLast? with
  | some last => last.toNat % (1 <<< idle) == 0
  | none => idle == 0

theorem endsIdle_zero (octets : Octets) : endsIdle 0 octets = true := by
  unfold endsIdle
  split
  · simp [Nat.mod_one]
  · rfl

structure BitString where
  idle : Nat
  octets : Octets
  idle_lt : idle < 8
  ends_idle : endsIdle idle octets = true

namespace BitString

def ofOctets (octets : Octets) : BitString :=
  ⟨0, octets, by decide, endsIdle_zero octets⟩

/-- The written form: the count of the idle bits, and the octets. -/
def contents (bits : BitString) : Octets :=
  UInt8.ofNat bits.idle :: bits.octets

/-- The string that the contents of an element write. -/
def ofContents? : Octets → Option BitString
  | [] => none
  | idle :: octets =>
    if valid : idle.toNat < 8 ∧ endsIdle idle.toNat octets = true then
      some ⟨idle.toNat, octets, valid.1, valid.2⟩
    else none

/-- Reading accepts the written form of a string and nothing else. -/
theorem ofContents?_eq_some_iff {written : Octets} {bits : BitString} :
    ofContents? written = some bits ↔ written = bits.contents := by
  constructor
  · intro read
    cases written with
    | nil => cases read
    | cons idle octets =>
        simp only [ofContents?] at read
        split at read
        · cases read
          simp [contents]
        · cases read
  · rintro rfl
    obtain ⟨idle, octets, idle_lt, ends_idle⟩ := bits
    have count : (UInt8.ofNat idle).toNat = idle := by
      rw [UInt8.toNat_ofNat']
      omega
    simp [contents, ofContents?, count, idle_lt, ends_idle]

end BitString

end Missive.Der
