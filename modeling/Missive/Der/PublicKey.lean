import Missive.Der.CurveParameters
import Missive.Der.KeyInfo
import Missive.Key.PublishedGroup
import Missive.Key.Raw
import Missive.Rsa.Key

/-!
# Public keys as octets

An RSA key is written in one form. It is read from a frame whose algorithm is
plain RSA or RSA-PSS, with any parameters that these have, and as its two numbers
without a frame. Keys of other algorithms are told by name, or by what is wrong
with them, and octets that are no frame and no numbers are malformed.
-/

set_option autoImplicit false

namespace Missive.Der.PublicKey

/-- Two numbers in a sequence: a modulus and an exponent without a frame. -/
def numbers (modulus publicExponent : Nat) : Octets :=
  element sequenceIdentifier (natural modulus ++ natural publicExponent)

def encode (key : Rsa.PublicKey) : Octets :=
  KeyInfo.encode ⟨ObjectIdentifier.rsaEncryption, nullElement,
    .ofOctets (numbers key.modulus key.publicExponent)⟩

def readNumbers? (octets : Octets) : Option (Nat × Nat) := do
  let body ← readOnly? sequenceIdentifier octets
  let (modulus, rest) ← readNatural? body
  let (publicExponent, rest) ← readNatural? rest
  if rest = [] then some (modulus, publicExponent) else none

def ofNumbers (octets : Octets) : Except Fault Rsa.PublicKey :=
  match readNumbers? octets with
  | some (modulus, publicExponent) => Rsa.PublicKey.ofNumbers modulus publicExponent
  | none => .error .keyMalformed

def rawFault (kind : ForeignKey) (key : Octets) : Fault :=
  if RawKey.admits kind key then .foreignKey kind else .keyInvalid

/-- What a key on a curve is. The curve is judged first. -/
def curveFault (parameters key : Octets) : Fault :=
  match CurveParameters.curve parameters with
  | .error fault => fault
  | .ok curve =>
    if key = [0] then .pointAtInfinity
    else if curve.isPoint key then .foreignKey .ellipticCurve
    else .keyInvalid

def numberFault (kind : ForeignKey) (key : Octets) : Fault :=
  if Form.number.fits key then .foreignKey kind else .keyMalformed

/-- The group among parameters, whose third number is the order of the generator
if the algorithm tells it. -/
def residueGroup? (tellsOrder : Bool) (parameters : Octets) : Option ResidueGroup := do
  let (body, _) ← readNext? sequenceIdentifier parameters
  let (modulus, rest) ← readNatural? body
  let (generator, rest) ← readNatural? rest
  if tellsOrder then
    let (order, _) ← readNatural? rest
    return ⟨modulus, generator, some order⟩
  else return ⟨modulus, generator, none⟩

/-- What a key in a group of residues is. The key is judged first, and only as a
number. -/
def residueFault (tellsOrder : Bool) (parameters key : Octets) : Fault :=
  if Form.number.fits key then
    if (residueGroup? tellsOrder parameters).any ResidueGroup.admitsKeys then
      .foreignKey .diffieHellman
    else .groupInvalid
  else .keyMalformed

def foreignFault (algorithm parameters key : Octets) : Fault :=
  if algorithm = ObjectIdentifier.ellipticCurveKey then curveFault parameters key
  else if algorithm = ObjectIdentifier.dsa then numberFault .dsa key
  else if algorithm = ObjectIdentifier.diffieHellman then residueFault false parameters key
  else if algorithm = ObjectIdentifier.diffieHellmanSubgroup then residueFault true parameters key
  else if algorithm = ObjectIdentifier.ed25519 then rawFault .ed25519 key
  else if algorithm = ObjectIdentifier.x25519 then rawFault .x25519 key
  else if algorithm = ObjectIdentifier.ed448 then rawFault .ed448 key
  else if algorithm = ObjectIdentifier.x448 then rawFault .x448 key
  else if algorithm = ObjectIdentifier.mlDsa44 then rawFault .mlDsa44 key
  else if algorithm = ObjectIdentifier.mlDsa65 then rawFault .mlDsa65 key
  else if algorithm = ObjectIdentifier.mlDsa87 then rawFault .mlDsa87 key
  else if algorithm = ObjectIdentifier.mlKem768 then rawFault .mlKem768 key
  else if algorithm = ObjectIdentifier.mlKem1024 then rawFault .mlKem1024 key
  else .unknownAlgorithm (ObjectIdentifier.arcs algorithm)

/-- The key in a frame. A key of any algorithm consists of whole octets. -/
def ofKeyInfo (info : KeyInfo) : Except Fault Rsa.PublicKey :=
  if info.key.idle ≠ 0 then .error .keyInvalid
  else if info.algorithm = ObjectIdentifier.rsaEncryption ∨
      info.algorithm = ObjectIdentifier.rsassaPss then ofNumbers info.key.octets
  else .error (foreignFault info.algorithm info.parameters info.key.octets)

/-- The key that the octets encode: in a frame, or as its two numbers alone. -/
def decode (octets : Octets) : Except Fault Rsa.PublicKey :=
  match KeyInfo.read? octets with
  | some info => ofKeyInfo info
  | none => ofNumbers octets

end Missive.Der.PublicKey
