/-!
# Sizes

The sizes that the parts of a message have whatever keys it is made with, and the
bounds that keys keep.
-/

set_option autoImplicit false

namespace Missive

/-- The octets of a symmetric key. -/
abbrev symmetricKeySize : Nat := 32

/-- The octets of a nonce. -/
abbrev nonceSize : Nat := 16

/-- The bits of the smallest modulus that messages are exchanged with. -/
abbrev minimumModulusBits : Nat := 1024

/-- The octets that padding takes of a block: two hashes of 20 octets, the zero in
front, and the one that ends the zeros. -/
abbrev paddingSize : Nat := 2 * 20 + 2

end Missive
