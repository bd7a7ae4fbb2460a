import Missive.Hash.Blocks
import Missive.Number.Prime
import Missive.Number.Root

/-!
# SHA-512

The 64-octet hash that messages, keys and certifications are reduced to.
-/

set_option autoImplicit false

namespace Missive.Sha512

structure State where
  a : UInt64
  b : UInt64
  c : UInt64
  d : UInt64
  e : UInt64
  f : UInt64
  g : UInt64
  h : UInt64

def rotateRight (word amount : UInt64) : UInt64 :=
  (word >>> amount) ||| (word <<< (64 - amount))

/-- The fraction bits of the cube roots of the first eighty primes. -/
def roundConstants : List UInt64 :=
  ((Number.primesBelow 410).take 80).map fun prime => UInt64.ofNat (Number.rootFraction 3 64 prime)

/-- The fraction bits of the square root of a prime. -/
def initialWord (prime : Nat) : UInt64 :=
  UInt64.ofNat (Number.rootFraction 2 64 prime)

def initial : State :=
  ⟨initialWord 2, initialWord 3, initialWord 5, initialWord 7,
    initialWord 11, initialWord 13, initialWord 17, initialWord 19⟩

/-- The sixteen words of a block and the sixty-four that are derived from them. -/
def schedule (block : Octets) : List UInt64 :=
  let given := ((Octets.blocks 8 16 block).map fun word => UInt64.ofNat word.value).toArray
  ((List.range 64).foldl
    (fun words step =>
      let near := words.getD (step + 14) 0
      let far := words.getD (step + 1) 0
      let nearMixed := rotateRight near 19 ^^^ rotateRight near 61 ^^^ (near >>> 6)
      let farMixed := rotateRight far 1 ^^^ rotateRight far 8 ^^^ (far >>> 7)
      words.push (nearMixed + words.getD (step + 9) 0 + farMixed + words.getD step 0))
    given).toList

/-- One round, for a schedule word with its round constant added. -/
def round (state : State) (word : UInt64) : State :=
  let ⟨a, b, c, d, e, f, g, h⟩ := state
  let choice := (e &&& f) ^^^ ((~~~ e) &&& g)
  let majority := (a &&& b) ^^^ (a &&& c) ^^^ (b &&& c)
  let first := h + (rotateRight e 14 ^^^ rotateRight e 18 ^^^ rotateRight e 41) + choice + word
  let second := (rotateRight a 28 ^^^ rotateRight a 34 ^^^ rotateRight a 39) + majority
  ⟨first + second, a, b, c, d + first, e, f, g⟩

/-- The state after a block: all rounds, added to the state before. -/
def compress (state : State) (block : Octets) : State :=
  let final := (List.zipWith (· + ·) (schedule block) roundConstants).foldl round state
  ⟨state.a + final.a, state.b + final.b, state.c + final.c, state.d + final.d,
    state.e + final.e, state.f + final.f, state.g + final.g, state.h + final.h⟩

def State.octets (state : State) : Octets :=
  [state.a, state.b, state.c, state.d, state.e, state.f, state.g, state.h].flatMap
    fun word => Octets.ofValue 8 word.toNat

def hash (message : Octets) : Octets :=
  (Hash.absorb 128 16 compress initial message).octets

@[simp] theorem length_hash (message : Octets) : (hash message).length = 64 := by
  simp [hash, State.octets]

end Missive.Sha512
