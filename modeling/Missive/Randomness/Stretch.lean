import Missive.Hash.Sha512
import Missive.Randomness

/-!
# Stretched seeds

A source whose replies are always as long as asked for: hashes of a seed, of how
many requests came before, and of a counter. It is as random as its seed.
-/

set_option autoImplicit false

namespace Missive

def Source.stretch (seed : Octets) : Source :=
  ⟨fun past size =>
    ((List.range ((size.toNat + 63) / 64)).flatMap fun counter =>
        Sha512.hash (seed ++ Octets.ofValue 8 past.length ++ Octets.ofValue 8 counter)).take
      size.toNat⟩

end Missive
