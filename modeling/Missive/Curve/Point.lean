import Missive.Number.BitLength
import Missive.Number.ModularPower
import Missive.Octets

/-!
# Points of elliptic curves

Whether octets are a point of a curve in short Weierstrass form over a prime
field: whole, compressed to one coordinate and a parity, or both.
-/

set_option autoImplicit false

namespace Missive

/-- A curve `y² = x³ + linear·x + constant` over a prime field, and the contents
of the object identifier it is named by. -/
structure Curve where
  name : Octets
  prime : Nat
  linear : Nat
  constant : Nat

namespace Curve

def coordinateSize (curve : Curve) : Nat :=
  octetsForBits (bitLength curve.prime)

def squareAt (curve : Curve) (x : Nat) : Nat :=
  ((x * x + curve.linear) * x + curve.constant) % curve.prime

/-- Whether two coordinates in range satisfy the equation. -/
def contains (curve : Curve) (x y : Nat) : Bool :=
  x < curve.prime && y < curve.prime && y * y % curve.prime == curve.squareAt x

/-- Whether some second coordinate of a given parity belongs to a first one:
zero has no odd partner, and other squares have one root of each parity. -/
def hasRoot (curve : Curve) (x parity : Nat) : Bool :=
  let square := curve.squareAt x
  if square = 0 then parity == 0
  else Number.powMod square ((curve.prime - 1) / 2) curve.prime == 1

/-- Whether octets are a point of the curve other than the one at infinity. -/
def isPoint (curve : Curve) (octets : Octets) : Bool :=
  match octets with
  | [] => false
  | form :: rest =>
    let size := curve.coordinateSize
    let x := Octets.value (rest.take size)
    let y := Octets.value (rest.drop size)
    if form = 2 ∨ form = 3 then
      rest.length == size && x < curve.prime && curve.hasRoot x (form.toNat % 2)
    else if form = 4 then rest.length == 2 * size && curve.contains x y
    else if form = 6 ∨ form = 7 then
      rest.length == 2 * size && curve.contains x y && y % 2 == form.toNat % 2
    else false

end Curve

end Missive
