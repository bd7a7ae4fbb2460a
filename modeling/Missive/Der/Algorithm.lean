import Missive.Der.Form

/-!
# Algorithm identifiers

An algorithm is named by an object identifier, behind which stand its parameters.
Which parameters there are depends on the name: for some algorithms none, for
some null or none, for others a structure of their own, in which further
algorithm identifiers may stand. Behind an unknown name stands one element of
any kind or none.
-/

set_option autoImplicit false

namespace Missive.Der.Algorithm

/-- The object identifiers that share a start and differ in the last octet. -/
def family (start : Octets) (lasts : List UInt8) : List Octets :=
  lasts.map fun last => start ++ [last]

/-- 1.2.840.113549 -/
def publicKeyStandards : Octets := [0x2A, 0x86, 0x48, 0x86, 0xF7, 0x0D]

/-- 2.16.840.1.101.3.4 -/
def federalStandards : Octets := [0x60, 0x86, 0x48, 0x01, 0x65, 0x03, 0x04]

/-- 1.3.6.1.4.1.37476.3.2.1.99.7 -/
def earlySha3 : Octets :=
  [0x2B, 0x06, 0x01, 0x04, 0x01, 0x82, 0xA4, 0x64, 0x03, 0x02, 0x01, 0x63, 0x07]

/-- 1.3.14.3.2.26 -/
def sha1 : Octets := [0x2B, 0x0E, 0x03, 0x02, 0x1A]

/-- 1.2.840.113549.2.7 -/
def hmacSha1 : Octets := publicKeyStandards ++ [0x02, 0x07]

/-- 1.2.840.113549.1.1.8 -/
def maskGeneration : Octets := publicKeyStandards ++ [0x01, 0x01, 0x08]

/-- The algorithms with null or no parameters: hashes, signatures with RSA, message
authentication, and plain RSA itself. -/
def withNull : List Octets :=
  [ObjectIdentifier.rsaEncryption, sha1, [0x2B, 0x0E, 0x03, 0x02, 0x1D],
    earlySha3 ++ [0x81, 0x60], earlySha3 ++ [0x82, 0x00], earlySha3 ++ [0x83, 0x00],
    earlySha3 ++ [0x84, 0x00]] ++
  family (federalStandards ++ [0x02]) [1, 2, 3, 4, 7, 8, 9, 10] ++
  family (publicKeyStandards ++ [0x01, 0x01]) [5, 11, 12, 13, 14] ++
  family (federalStandards ++ [0x03]) [13, 14, 15, 16] ++
  family (publicKeyStandards ++ [0x02]) [7, 8, 9, 10, 11]

/-- The algorithms without parameters: keys that are octets of a fixed number,
signatures with DSA and with elliptic curves, and what stands for no signature. -/
def bare : List Octets :=
  [ObjectIdentifier.x25519, ObjectIdentifier.x448, ObjectIdentifier.ed25519,
    ObjectIdentifier.ed448, ObjectIdentifier.mlDsa44, ObjectIdentifier.mlDsa65,
    ObjectIdentifier.mlDsa87, ObjectIdentifier.mlKem768, ObjectIdentifier.mlKem1024,
    [0x2B, 0x06, 0x01, 0x05, 0x05, 0x07, 0x06, 0x24]] ++
  family (federalStandards ++ [0x03]) [1, 2, 3, 4, 9, 10, 11, 12] ++
  family [0x2A, 0x86, 0x48, 0xCE, 0x3D, 0x04, 0x03] [1, 2, 3, 4]

def written (name parameters : Octets) : Octets :=
  element sequenceIdentifier (element ObjectIdentifier.identifier name ++ parameters)

/-- The parameters of RSA-PSS: a hash, a mask generation, the size of the salt,
and the number of a trailer. The first three have standards. -/
def pssParameters (algorithm : Form) : Form :=
  let hash := written sha1 nullElement
  .sequence [
    .orStandard (element 0xA0 hash) (.wrapped 0xA0 algorithm),
    .orStandard (element 0xA1 (written maskGeneration hash))
      (.wrapped 0xA1 (.sequence [.name, algorithm])),
    .orStandard (element 0xA2 (natural 20)) (.wrapped 0xA2 (.numberOfBits 16)),
    .optional (.wrapped 0xA3 (.numberOfBits 8))]

/-- The form of a field of a curve: a prime, or a power of two, whose description
is left alone. -/
def field : Form :=
  let fields : Octets := [0x2A, 0x86, 0x48, 0xCE, 0x3D, 0x01]
  .choice [
    .sequence [.nameOf (fields ++ [0x01]), .number],
    .sequence [.nameOf (fields ++ [0x02]), .anySequence]]

/-- The form of a curve: by name, by null, or by a description of its field,
its equation and the seed of that, a base point, its order, and a cofactor. -/
def curve : Form :=
  .choice [.name, .null, .sequence [
    .numberOfBits 8,
    field,
    .sequence [.octetString, .octetString, .optional .bitString],
    .octetString,
    .number,
    .optional (.numberOfBits 8)]]

/-- The parameters of encryption under a password, with a salt of a fixed size or
of any. -/
def passwordParameters (salt : Form) : Form :=
  .sequence [salt, .numberOfBits 64]

def structured (algorithm : Form) : List (Octets × Form) :=
  [(ObjectIdentifier.rsassaPss, .optional (pssParameters algorithm)),
    (ObjectIdentifier.ellipticCurveKey, curve),
    (ObjectIdentifier.dsa, .sequence [.number, .number, .number]),
    (ObjectIdentifier.diffieHellman,
      .sequence [.number, .number, .optional (.numberOfBits 32)]),
    (ObjectIdentifier.diffieHellmanSubgroup,
      .sequence [.number, .number, .number, .optional .number, .optional .anySequence]),
    (publicKeyStandards ++ [0x01, 0x05, 0x03], passwordParameters (.octetStringOf 8)),
    (publicKeyStandards ++ [0x01, 0x0C, 0x01, 0x01], passwordParameters .octetString),
    (publicKeyStandards ++ [0x01, 0x0C, 0x01, 0x03], passwordParameters .octetString),
    (publicKeyStandards ++ [0x01, 0x0C, 0x01, 0x06], passwordParameters .octetString),
    (publicKeyStandards ++ [0x01, 0x05, 0x0C], .sequence [
      .octetString, .numberOfBits 64, .optional (.numberOfBits 64),
      .orStandard (written hmacSha1 nullElement) algorithm]),
    (publicKeyStandards ++ [0x01, 0x05, 0x0D], .sequence [algorithm, algorithm]),
    ([0x2B, 0x06, 0x01, 0x04, 0x01, 0xDA, 0x47, 0x04, 0x0B], .sequence [
      .octetString, .numberOfBits 64, .numberOfBits 64, .numberOfBits 64,
      .optional (.numberOfBits 32)]),
    (federalStandards ++ [0x01, 0x02], .octetStringOf 16),
    (federalStandards ++ [0x01, 0x16], .octetStringOf 16),
    (federalStandards ++ [0x01, 0x2A], .octetStringOf 16),
    (publicKeyStandards ++ [0x03, 0x07], .octetStringOf 8),
    (publicKeyStandards ++ [0x03, 0x02],
      .sequence [.optional (.numberOfBits 32), .octetStringOf 8])]

/-- The parameters that a name calls for, given what form the algorithms among
them have. -/
def parameters (algorithm : Form) (name : Octets) : Form :=
  if name ∈ withNull then .optional .null
  else if name ∈ bare then .nothing
  else ((structured algorithm).lookup name).getD (.optional .anything)

/-- An algorithm with algorithms in one another among its parameters, no deeper
than a bound. -/
def form : Nat → Form
  | 0 => fun _ => none
  | depth + 1 => .wrapped sequenceIdentifier fun octets =>
    match readNext? ObjectIdentifier.identifier octets with
    | some (name, rest) =>
      if (ObjectIdentifier.arcs? name).isSome then parameters (form depth) name rest else none
    | none => none

/-- Whether octets are parameters of the algorithm with a given name. Algorithms
among them are no deeper in one another than there are octets. -/
def hasParameters (name octets : Octets) : Bool :=
  (parameters (form octets.length) name).fits octets

end Missive.Der.Algorithm
