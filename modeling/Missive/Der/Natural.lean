import Missive.Der.Element

/-!
# Natural numbers as elements

Whole numbers are written with a leading sign bit, so a natural number takes one
bit more than it has. Only the shortest form is read, and no negative number.
-/

set_option autoImplicit false

namespace Missive.Der

def integerIdentifier : UInt8 := 0x02

/-- The contents for a natural number: its bits behind a sign bit of zero. -/
def naturalContents (number : Nat) : Octets :=
  Octets.ofValue (bitLength number / 8 + 1) number

def natural (number : Nat) : Octets :=
  element integerIdentifier (naturalContents number)

/-- The natural number in front, and the octets behind it. The contents must be
as long as the number needs: longer ones start with an idle octet, and shorter
ones have their sign bit set or are empty. -/
def readNatural? (octets : Octets) : Option (Nat × Octets) := do
  let (contents, rest) ← readNext? integerIdentifier octets
  let number := contents.value
  if contents.length = bitLength number / 8 + 1 then some (number, rest) else none

end Missive.Der
