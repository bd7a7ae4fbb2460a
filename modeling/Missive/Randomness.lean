import Missive.Fault
import Missive.Octets

/-!
# Randomness

Sources of random octets and the computations that draw from them. A source may
answer a request with anything, and differently each time: its reply depends on
the sizes asked before. Every computation keeps the record of what it asked
for, also when it fails.
-/

set_option autoImplicit false

namespace Missive

structure Source where
  /-- The reply to a request for so many octets, after the earlier requests. -/
  reply : List Int → Int → Octets

/-- The source that gives the listed replies in turn, whatever it is asked for,
and nothing after the last. -/
def Source.ofReplies (replies : List Octets) : Source :=
  ⟨fun past _ => replies.getD past.length []⟩

/-- A computation that may draw from a source. From the sizes asked for so far
it reaches a result or a fault, and the sizes asked for until then. -/
def Drawing (Result : Type) : Type :=
  Source → List Int → Except Fault Result × List Int

namespace Drawing

/-- The outcome of a computation from the start, and all sizes it asked for. -/
def run {Result : Type} (drawing : Drawing Result) (source : Source) :
    Except Fault Result × List Int :=
  drawing source []

/-- A computation that draws nothing. -/
def ofExcept {Result : Type} (outcome : Except Fault Result) : Drawing Result :=
  fun _ past => (outcome, past)

/-- One computation and then another, unless the first fails. -/
def andThen {First Second : Type} (drawing : Drawing First) (next : First → Drawing Second) :
    Drawing Second :=
  fun source past =>
    match drawing source past with
    | (.ok result, asked) => next result source asked
    | (.error fault, asked) => (.error fault, asked)

instance : Monad Drawing where
  pure result := ofExcept (.ok result)
  bind := andThen

def fail {Result : Type} (fault : Fault) : Drawing Result :=
  ofExcept (.error fault)

def request (size : Int) : Drawing Octets :=
  fun source past => (.ok (source.reply past size), past ++ [size])

/-- Draws so many octets; a reply of another length is a fault. -/
def octets (size : Int) : Drawing Octets := do
  let reply ← request size
  if reply.length = size then pure reply else fail (.replyLength reply.length size)

/-- Draws octets of a length that the type keeps. -/
def sized (size : Nat) : Drawing (Sized size) := do
  let reply ← request size
  match Sized.ofOctets? size reply with
  | some drawn => pure drawn
  | none => fail (.replyLength reply.length size)

/-- Why the system is not asked for so many octets. It counts in words of 64
bits with a sign, keeps 33 octets of every string for itself, and has addresses
of 47 bits. -/
def systemRefusal? (size : Int) : Option Fault :=
  if size < -0x8000000000000000 ∨ 0x7FFFFFFFFFFFFFFF < size then some .requestUncountable
  else if size < 0 then some .negativeRequest
  else if 0x7FFFFFFFFFFFFFFF - 33 < size then some .requestTooLong
  else if 0x800000000000 ≤ size then some .requestUnstorable
  else none

def systemOctets (size : Int) : Drawing Octets :=
  match systemRefusal? size with
  | some fault => fail fault
  | none => octets size

end Drawing

end Missive
