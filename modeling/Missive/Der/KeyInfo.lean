import Missive.Der.Algorithm

/-!
# Subject public key information

The frame in which public keys of all algorithms travel: the algorithm, what
parameters it has, and the key as a string of bits.
-/

set_option autoImplicit false

namespace Missive.Der

structure KeyInfo where
  /-- The contents of the object identifier of the algorithm. -/
  algorithm : Octets
  /-- The parameters behind the object identifier, as they stand. -/
  parameters : Octets
  key : BitString

namespace KeyInfo

def encode (info : KeyInfo) : Octets :=
  element sequenceIdentifier
    (Algorithm.written info.algorithm info.parameters ++
      element bitStringIdentifier info.key.contents)

/-- The frame that the octets are. Its parameters are such as its algorithm has. -/
def read? (octets : Octets) : Option KeyInfo := do
  let body ← readOnly? sequenceIdentifier octets
  let (algorithmAndParameters, rest) ← readNext? sequenceIdentifier body
  let contents ← readOnly? bitStringIdentifier rest
  let (algorithm, parameters) ← readNext? ObjectIdentifier.identifier algorithmAndParameters
  let _ ← ObjectIdentifier.arcs? algorithm
  let key ← BitString.ofContents? contents
  if Algorithm.hasParameters algorithm parameters then some ⟨algorithm, parameters, key⟩ else none

end KeyInfo

end Missive.Der
