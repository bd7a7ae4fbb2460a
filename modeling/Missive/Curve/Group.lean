import Missive.Curve.Named

/-!
# Groups of curves

Named curves with all that a description of a curve tells beyond its equation:
the seed that the equation was found with, a base point, and the order of that.
-/

set_option autoImplicit false

namespace Missive.Curve

/-- A curve with a base point. Its multiples are all points of the curve. -/
structure Group where
  curve : Curve
  /-- The octets from which the constant of the equation was derived. -/
  seed : Octets
  baseX : Nat
  baseY : Nat
  /-- The number of multiples of the base point. -/
  order : Nat

namespace Group

def base (group : Group) : Octets :=
  let size := group.curve.coordinateSize
  0x04 :: (Octets.ofValue size group.baseX ++ Octets.ofValue size group.baseY)

def secp256r1 : Group where
  curve := Curve.secp256r1
  seed := [0xC4, 0x9D, 0x36, 0x08, 0x86, 0xE7, 0x04, 0x93, 0x6A, 0x66, 0x78, 0xE1, 0x13, 0x9D,
    0x26, 0xB7, 0x81, 0x9F, 0x7E, 0x90]
  baseX := 0x6B17D1F2E12C4247F8BCE6E563A440F277037D812DEB33A0F4A13945D898C296
  baseY := 0x4FE342E2FE1A7F9B8EE7EB4A7C0F9E162BCE33576B315ECECBB6406837BF51F5
  order := 0xFFFFFFFF00000000FFFFFFFFFFFFFFFFBCE6FAADA7179E84F3B9CAC2FC632551

def secp384r1 : Group where
  curve := Curve.secp384r1
  seed := [0xA3, 0x35, 0x92, 0x6A, 0xA3, 0x19, 0xA2, 0x7A, 0x1D, 0x00, 0x89, 0x6A, 0x67, 0x73,
    0xA4, 0x82, 0x7A, 0xCD, 0xAC, 0x73]
  baseX := 0xAA87CA22BE8B05378EB1C71EF320AD746E1D3B628BA79B9859F741E082542A385502F25DBF55296C3A545E3872760AB7
  baseY := 0x3617DE4A96262C6F5D9E98BF9292DC29F8F41DBD289A147CE9DA3113B5F0B8C00A60B1CE1D7E819D7A431D7C90EA0E5F
  order := 0xFFFFFFFFFFFFFFFFFFFFFFFFFFFFFFFFFFFFFFFFFFFFFFFFC7634D81F4372DDF581A0DB248B0A77AECEC196ACCC52973

def secp521r1 : Group where
  curve := Curve.secp521r1
  seed := [0xD0, 0x9E, 0x88, 0x00, 0x29, 0x1C, 0xB8, 0x53, 0x96, 0xCC, 0x67, 0x17, 0x39, 0x32,
    0x84, 0xAA, 0xA0, 0xDA, 0x64, 0xBA]
  baseX := 0xC6858E06B70404E9CD9E3ECB662395B4429C648139053FB521F828AF606B4D3DBAA14B5E77EFE75928FE1DC127A2FFA8DE3348B3C1856A429BF97E7E31C2E5BD66
  baseY := 0x11839296A789A3BC0045C8A5FB42C7D1BD998F54449579B446817AFBD17273E662C97EE72995EF42640C550B9013FAD0761353C7086A272C24088BE94769FD16650
  order := 0x1FFFFFFFFFFFFFFFFFFFFFFFFFFFFFFFFFFFFFFFFFFFFFFFFFFFFFFFFFFFFFFFFFA51868783BF2F966B7FCC0148F709A5D03BB5C9B8899C47AEBB6FB71E91386409

def described : List Group :=
  [secp256r1, secp384r1, secp521r1]

end Group

end Missive.Curve
