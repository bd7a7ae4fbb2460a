import Missive.Number.BitLength
import Missive.Octets

/-!
# Elements

The building blocks of distinguished encodings: an identifier, a length, and
contents of that length. A length has one written form, and reading takes no
other, so octets hold at most one element at their front.
-/

set_option autoImplicit false

namespace Missive.Der

/-- The written form of a length: one octet below 128, and otherwise the octets
of the number behind a count of them. Distinguished encodings reserve the first octet
FF and have no form for lengths that need more than 126 octets. Nothing is as long as
that, and what stands for these lengths here only makes the function total. -/
def lengthOctets (length : Nat) : Octets :=
  if length < 128 then [UInt8.ofNat length]
  else
    let count := octetsForBits (bitLength length)
    let digits := Octets.ofValue count length
    if count < 127 then UInt8.ofNat (128 + count) :: digits
    else 0xFF :: (lengthOctets count ++ digits)
termination_by length
decreasing_by
  have bound := bitLength_le length
  simp only [octetsForBits]
  omega

/-- The length that the octets in front announce, in whatever form. -/
def announcedLength : Octets → Nat
  | [] => 0
  | first :: rest =>
    if first.toNat < 128 then first.toNat
    else if first.toNat < 255 then Octets.value (rest.take (first.toNat - 128))
    else
      let count := announcedLength rest
      Octets.value ((rest.drop (lengthOctets count).length).take count)

/-- The length whose written form stands in front, and the octets behind it. -/
def readLength? (octets : Octets) : Option (Nat × Octets) :=
  let form := lengthOctets (announcedLength octets)
  if form.isPrefixOf octets then some (announcedLength octets, octets.drop form.length) else none

/-- The contents that a length in front announces, and the octets behind them. -/
def readContents? (octets : Octets) : Option (Octets × Octets) :=
  (readLength? octets).bind fun (length, rest) =>
    if length ≤ rest.length then some (rest.take length, rest.drop length) else none

def element (identifier : UInt8) (contents : Octets) : Octets :=
  identifier :: (lengthOctets contents.length ++ contents)

def bitStringIdentifier : UInt8 := 0x03

def octetStringIdentifier : UInt8 := 0x04

def sequenceIdentifier : UInt8 := 0x30

/-- The element that stands for nothing. -/
def nullElement : Octets := [0x05, 0x00]

/-- The contents of the element in front, which must have the given identifier;
and the octets behind it. -/
def readNext? (identifier : UInt8) : Octets → Option (Octets × Octets)
  | [] => none
  | first :: rest => if first = identifier then readContents? rest else none

/-- The contents of the one element that the octets are. -/
def readOnly? (identifier : UInt8) (octets : Octets) : Option Octets :=
  match readNext? identifier octets with
  | some (contents, []) => some contents
  | _ => none

/-- A number in groups of seven bits, of which all but the last are marked by
their leading bit; and the octets behind it. -/
def readGroups? (total : Nat) : Octets → Option (Nat × Octets)
  | [] => none
  | octet :: rest =>
    let next := total * 128 + octet.toNat % 128
    if octet.toNat < 128 then some (next, rest) else readGroups? next rest

/-- The octets behind an identifier of any kind. It has one octet, or one whose
last five bits are set and a number from 31 up behind it, without an idle group. -/
def skipIdentifier? : Octets → Option Octets
  | [] => none
  | first :: rest =>
    if first.toNat % 32 ≠ 31 then some rest
    else if rest.head? = some 0x80 then none
    else
      match readGroups? 0 rest with
      | some (number, behind) => if 31 ≤ number ∧ number < 0x100000000 then some behind else none
      | none => none

/-- The octets behind the element in front, of whatever kind it is. -/
def skipElement? (octets : Octets) : Option Octets :=
  ((skipIdentifier? octets).bind readContents?).map (·.2)

end Missive.Der
