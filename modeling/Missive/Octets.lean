/-!
# Octets

Strings of octets, their reading as big-endian numbers, and the cuts and
combinations that the formats of this library are built from.
-/

set_option autoImplicit false

namespace Missive

abbrev Octets := List UInt8

namespace Octets

/-- The number that the octets spell, most significant octet first. -/
def value (octets : Octets) : Nat :=
  octets.foldl (fun total octet => total * 256 + octet.toNat) 0

/-- The last `width` octets of the big-endian form of a number, with zeros in
front when the number is shorter. -/
def ofValue : Nat → Nat → Octets
  | 0, _ => []
  | width + 1, number => ofValue width (number / 256) ++ [UInt8.ofNat number]

/-- Octet by octet exclusive or, as long as the shorter operand. -/
def xor (left right : Octets) : Octets :=
  List.zipWith (· ^^^ ·) left right

/-- Where a bound falls in a string of `length` octets: a bound counts from the
front, or from the back when it is negative, and is clamped to the string. -/
def position (length : Nat) (bound : Int) : Nat :=
  if bound < 0 then (bound + length).toNat else min bound.toNat length

/-- The octets from one bound up to another; none when the bounds cross. -/
def slice (octets : Octets) (start stop : Int) : Octets :=
  let first := position octets.length start
  (octets.drop first).take (position octets.length stop - first)

/-- The first `count` pieces of `size` octets each. -/
def blocks (size : Nat) : Nat → Octets → List Octets
  | 0, _ => []
  | count + 1, octets => octets.take size :: blocks size count (octets.drop size)

@[simp] theorem length_ofValue (width number : Nat) :
    (ofValue width number).length = width := by
  induction width generalizing number with
  | zero => rfl
  | succ width ih => simp [ofValue, ih]

@[simp] theorem length_xor (left right : Octets) :
    (xor left right).length = min left.length right.length := by
  simp [xor]

theorem value_append_singleton (octets : Octets) (last : UInt8) :
    value (octets ++ [last]) = value octets * 256 + last.toNat := by
  simp [value]

end Octets

/-- A string of octets of a length that its users rely on. -/
structure Sized (size : Nat) where
  octets : Octets
  length_octets : octets.length = size
deriving DecidableEq

/-- The same octets with their length checked. -/
def Sized.ofOctets? (size : Nat) (octets : Octets) : Option (Sized size) :=
  if length_octets : octets.length = size then some ⟨octets, length_octets⟩ else none

theorem Sized.eq_of_octets_eq {size : Nat} {sized other : Sized size}
    (same : sized.octets = other.octets) : sized = other := by
  cases sized
  cases other
  cases same
  rfl

theorem Sized.ofOctets?_octets {size : Nat} (sized : Sized size) :
    Sized.ofOctets? size sized.octets = some sized :=
  dif_pos sized.length_octets

theorem Sized.ofOctets?_eq_some_iff {size : Nat} {octets : Octets} {sized : Sized size} :
    Sized.ofOctets? size octets = some sized ↔ octets = sized.octets := by
  constructor
  · intro checked
    unfold Sized.ofOctets? at checked
    split at checked
    · cases checked
      rfl
    · cases checked
  · intro same
    rw [same, Sized.ofOctets?_octets]

end Missive
