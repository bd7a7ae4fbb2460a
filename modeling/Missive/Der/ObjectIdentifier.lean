import Missive.Der.Element

/-!
# Object identifiers

The dotted numbers by which algorithms and curves are named, as the contents of
an element. Each number after the first two stands for itself; those two share
one.
-/

set_option autoImplicit false

namespace Missive.Der.ObjectIdentifier

def identifier : UInt8 := 0x06

/-- The numbers in groups of seven bits that some octets spell, after the bits of
an unfinished one. No number starts with an idle group or exceeds 128 bits. -/
def numbersFrom : Option Nat → Octets → Option (List Nat)
  | none, [] => some []
  | some _, [] => none
  | unfinished, octet :: rest =>
    let number := unfinished.getD 0 * 128 + octet.toNat % 128
    if unfinished = none ∧ octet = 0x80 then none
    else if 1 <<< 128 ≤ number then none
    else if octet.toNat < 128 then (numbersFrom none rest).map (number :: ·)
    else numbersFrom (some number) rest

/-- The arcs that the first number stands for: a first arc of at most two, and
the rest of the number. -/
def splitFirst (number : Nat) : List Nat :=
  if number < 40 then [0, number]
  else if number < 80 then [1, number - 40]
  else [2, number - 80]

/-- The arcs that contents spell. There are at most 63 octets, and at least one. -/
def arcs? (contents : Octets) : Option (List Nat) :=
  if 63 < contents.length then none
  else
    match numbersFrom none contents with
    | some (first :: others) => some (splitFirst first ++ others)
    | _ => none

/-- The arcs that contents spell, and none where they spell no identifier. -/
def arcs (contents : Octets) : List Nat :=
  (arcs? contents).getD []

/-- 1.2.840.113549.1.1.1 -/
def rsaEncryption : Octets :=
  [0x2A, 0x86, 0x48, 0x86, 0xF7, 0x0D, 0x01, 0x01, 0x01]

/-- 1.2.840.113549.1.1.10 -/
def rsassaPss : Octets :=
  [0x2A, 0x86, 0x48, 0x86, 0xF7, 0x0D, 0x01, 0x01, 0x0A]

/-- 1.2.840.113549.1.3.1 -/
def diffieHellman : Octets :=
  [0x2A, 0x86, 0x48, 0x86, 0xF7, 0x0D, 0x01, 0x03, 0x01]

/-- 1.2.840.10046.2.1 -/
def diffieHellmanSubgroup : Octets :=
  [0x2A, 0x86, 0x48, 0xCE, 0x3E, 0x02, 0x01]

/-- 1.2.840.10040.4.1 -/
def dsa : Octets :=
  [0x2A, 0x86, 0x48, 0xCE, 0x38, 0x04, 0x01]

/-- 1.2.840.10045.2.1 -/
def ellipticCurveKey : Octets :=
  [0x2A, 0x86, 0x48, 0xCE, 0x3D, 0x02, 0x01]

/-- 1.3.101.110 -/
def x25519 : Octets := [0x2B, 0x65, 0x6E]

/-- 1.3.101.111 -/
def x448 : Octets := [0x2B, 0x65, 0x6F]

/-- 1.3.101.112 -/
def ed25519 : Octets := [0x2B, 0x65, 0x70]

/-- 1.3.101.113 -/
def ed448 : Octets := [0x2B, 0x65, 0x71]

/-- 2.16.840.1.101.3.4.3.17 -/
def mlDsa44 : Octets := [0x60, 0x86, 0x48, 0x01, 0x65, 0x03, 0x04, 0x03, 0x11]

/-- 2.16.840.1.101.3.4.3.18 -/
def mlDsa65 : Octets := [0x60, 0x86, 0x48, 0x01, 0x65, 0x03, 0x04, 0x03, 0x12]

/-- 2.16.840.1.101.3.4.3.19 -/
def mlDsa87 : Octets := [0x60, 0x86, 0x48, 0x01, 0x65, 0x03, 0x04, 0x03, 0x13]

/-- 2.16.840.1.101.3.4.4.2 -/
def mlKem768 : Octets := [0x60, 0x86, 0x48, 0x01, 0x65, 0x03, 0x04, 0x04, 0x02]

/-- 2.16.840.1.101.3.4.4.3 -/
def mlKem1024 : Octets := [0x60, 0x86, 0x48, 0x01, 0x65, 0x03, 0x04, 0x04, 0x03]

end Missive.Der.ObjectIdentifier
