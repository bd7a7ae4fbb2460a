import Missive.Fault
import Missive.Hash.Sha512
import Missive.Octets.Hex
import Missive.Text.Utf8

/-!
# Digests

What is hashed or signed is content: octets, or a text that stands for its
UTF-8 octets. A digest exists for all content but text with surrogates.
-/

set_option autoImplicit false

namespace Missive

inductive Content where
  | octets (given : Octets)
  | text (given : Text)
deriving DecidableEq

def Text.toOctets (text : Text) : Except Fault Octets :=
  (Utf8.encode text).mapError .surrogates

def Content.toOctets : Content → Except Fault Octets
  | .octets given => .ok given
  | .text given => given.toOctets

def digest (content : Content) : Except Fault Octets :=
  content.toOctets.map Sha512.hash

/-- The digest of content as people compare it, with colons between octets. -/
def digestHex (content : Content) : Except Fault String :=
  (digest content).map Octets.toColonHex

end Missive
