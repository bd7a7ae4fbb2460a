import Missive.Curve.Group
import Missive.Der.ObjectIdentifier
import Missive.Der.BitString
import Missive.Der.Natural
import Missive.Fault

/-!
# Parameters of curve keys

The curve that a key belongs to stands among its parameters: by its name, or in
a description that is one of those of a named curve.
-/

set_option autoImplicit false

namespace Missive.Der.CurveParameters

/-- 1.2.840.10045.1.1 -/
def primeField : Octets := [0x2A, 0x86, 0x48, 0xCE, 0x3D, 0x01, 0x01]

/-- The written description of a group, with or without the seed of its curve. -/
def description (group : Curve.Group) (withSeed : Bool) : Octets :=
  let size := group.curve.coordinateSize
  let seed := if withSeed then
      element bitStringIdentifier (BitString.ofOctets group.seed).contents
    else []
  element sequenceIdentifier
    (natural 1 ++
      element sequenceIdentifier
        (element ObjectIdentifier.identifier primeField ++ natural group.curve.prime) ++
      element sequenceIdentifier
        (element octetStringIdentifier (Octets.ofValue size group.curve.linear) ++
          element octetStringIdentifier (Octets.ofValue size group.curve.constant) ++ seed) ++
      element octetStringIdentifier group.base ++ natural group.order ++ natural 1)

def describes (parameters : Octets) (group : Curve.Group) : Bool :=
  parameters == description group true || parameters == description group false

/-- The curve that parameters name or describe. -/
def curve (parameters : Octets) : Except Fault Curve :=
  match readOnly? ObjectIdentifier.identifier parameters with
  | some name =>
    match Curve.named? name with
    | some curve => .ok curve
    | none => .error (.unknownCurve (ObjectIdentifier.arcs name))
  | none =>
    match Curve.Group.described.find? (describes parameters) with
    | some group => .ok group.curve
    | none => .error .unnamedCurve

end Missive.Der.CurveParameters
