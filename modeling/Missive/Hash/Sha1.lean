import Missive.Hash.Blocks

/-!
# SHA-1

The 20-octet hash inside the paddings of RSA ciphertexts and signatures.
-/

set_option autoImplicit false

namespace Missive.Sha1

structure State where
  a : UInt32
  b : UInt32
  c : UInt32
  d : UInt32
  e : UInt32

def rotateLeft (word amount : UInt32) : UInt32 :=
  (word <<< amount) ||| (word >>> (32 - amount))

def initial : State :=
  ⟨0x67452301, 0xEFCDAB89, 0x98BADCFE, 0x10325476, 0xC3D2E1F0⟩

/-- The sixteen words of a block and the sixty-four that are derived from them. -/
def schedule (block : Octets) : List UInt32 :=
  let given := ((Octets.blocks 4 16 block).map fun word => UInt32.ofNat word.value).toArray
  ((List.range 64).foldl
    (fun words step =>
      words.push (rotateLeft (words.getD (step + 13) 0 ^^^ words.getD (step + 8) 0 ^^^
        words.getD (step + 2) 0 ^^^ words.getD step 0) 1))
    given).toList

/-- The bitwise function of a round, with the constant that goes with it. -/
def mix (index : Nat) (b c d : UInt32) : UInt32 :=
  if index < 20 then ((b &&& c) ||| ((~~~ b) &&& d)) + 0x5A827999
  else if index < 40 then (b ^^^ c ^^^ d) + 0x6ED9EBA1
  else if index < 60 then ((b &&& c) ||| (b &&& d) ||| (c &&& d)) + 0x8F1BBCDC
  else (b ^^^ c ^^^ d) + 0xCA62C1D6

/-- One round, for a schedule word and its index. -/
def round (state : State) (indexed : UInt32 × Nat) : State :=
  let ⟨a, b, c, d, e⟩ := state
  ⟨rotateLeft a 5 + mix indexed.2 b c d + e + indexed.1, a, rotateLeft b 30, c, d⟩

/-- The state after a block: all rounds, added to the state before. -/
def compress (state : State) (block : Octets) : State :=
  let final := (schedule block).zipIdx.foldl round state
  ⟨state.a + final.a, state.b + final.b, state.c + final.c, state.d + final.d, state.e + final.e⟩

def State.octets (state : State) : Octets :=
  [state.a, state.b, state.c, state.d, state.e].flatMap fun word => Octets.ofValue 4 word.toNat

def hash (message : Octets) : Octets :=
  (Hash.absorb 64 8 compress initial message).octets

@[simp] theorem length_hash (message : Octets) : (hash message).length = 20 := by
  simp [hash, State.octets]

end Missive.Sha1
