import Missive.Rsa.Key

/-!
# Key parameters

The size and exponent that key pairs are generated with. All sizes by which
envelopes are taken apart follow from them.
-/

set_option autoImplicit false

namespace Missive

/-- The parameters of a key pair, within the bounds that every pair in use
keeps. -/
structure KeyParameters where
  modulusBits : Nat
  publicExponent : Nat
  minimum_le_modulusBits : minimumModulusBits ≤ modulusBits
  three_le_publicExponent : 3 ≤ publicExponent
  publicExponent_odd : publicExponent % 2 = 1

namespace KeyParameters

/-- The parameters with a given size and exponent; the size is judged first. -/
def ofNumbers (modulusBits publicExponent : Int) : Except Fault KeyParameters :=
  if size : minimumModulusBits ≤ modulusBits then
    if exponent : 3 ≤ publicExponent ∧ publicExponent % 2 = 1 then
      .ok ⟨modulusBits.toNat, publicExponent.toNat, by omega, by omega, by omega⟩
    else .error (.exponentUnsuitable publicExponent)
  else .error (.modulusTooShort modulusBits)

/-- The parameters of keys that are generated when none are asked for. -/
def standard : KeyParameters :=
  ⟨2048, 65537, by decide, by decide, by decide⟩

/-- The parameters of an existing key. Only its size can be unsuitable. -/
def ofKey (key : Rsa.PublicKey) : Except Fault KeyParameters :=
  if size : minimumModulusBits ≤ key.bits then
    .ok ⟨key.bits, key.publicExponent, size, key.three_le_publicExponent, key.publicExponent_odd⟩
  else .error (.modulusTooShort key.bits)

/-- The parameters of a pair whose private half is given: its size and exponent are
judged like any others. -/
def ofPrivateKey (key : Rsa.PrivateKey) : Except Fault KeyParameters :=
  ofNumbers key.bits key.publicExponent

def modulusOctets (parameters : KeyParameters) : Nat :=
  octetsForBits parameters.modulusBits

def signatureSize (parameters : KeyParameters) : Nat :=
  parameters.modulusOctets

def capsuleSize (parameters : KeyParameters) : Nat :=
  parameters.modulusOctets

/-- The most octets that a capsule for such a key can hold: its own padding
takes two hashes and two octets. -/
def capsuleCapacity (parameters : KeyParameters) : Nat :=
  parameters.modulusOctets - paddingSize

end KeyParameters

end Missive
