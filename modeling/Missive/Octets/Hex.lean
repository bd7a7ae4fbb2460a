import Missive.Octets

/-!
# Hexadecimal octets

The lowercase forms of octets: run together, and with a colon between octets as
fingerprints are shown to people.
-/

set_option autoImplicit false

namespace Missive.Octets

def hexPair (octet : UInt8) : List Char :=
  [Nat.digitChar (octet.toNat / 16), Nat.digitChar (octet.toNat % 16)]

def toHex (octets : Octets) : String :=
  String.ofList (octets.flatMap hexPair)

/-- The digits of all octets, with a colon between one octet and the next. -/
def toColonHex (octets : Octets) : String :=
  String.ofList ((octets.flatMap fun octet => ':' :: hexPair octet).drop 1)

end Missive.Octets
