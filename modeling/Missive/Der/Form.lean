import Missive.Der.BitString
import Missive.Der.Natural
import Missive.Der.ObjectIdentifier

/-!
# Forms

A form says what may stand at a place of an encoding. It leads from octets to
the ones behind what stands in front, and nowhere if no such thing stands there.
Where a form leaves a choice, the first alternative that can stand there is
taken, and no other is tried later.
-/

set_option autoImplicit false

namespace Missive.Der

/-- What may stand at a place. -/
abbrev Form : Type := Octets → Option Octets

namespace Form

/-- Whether octets have a form, with nothing behind it. -/
def fits (form : Form) (octets : Octets) : Bool :=
  form octets == some []

/-- Given octets as they are. -/
def exactly (written : Octets) : Form := fun octets =>
  if written.isPrefixOf octets then some (octets.drop written.length) else none

def nothing : Form := some

def anything : Form := skipElement?

/-- One element of a kind, with contents that suit. -/
def holding (identifier : UInt8) (suits : Octets → Bool) : Form := fun octets =>
  match readNext? identifier octets with
  | some (contents, rest) => if suits contents then some rest else none
  | none => none

/-- One element of a kind around a form. -/
def wrapped (identifier : UInt8) (inside : Form) : Form :=
  holding identifier inside.fits

def row (forms : List Form) : Form := fun octets =>
  forms.foldlM (fun rest form => form rest) octets

def choice (forms : List Form) : Form := fun octets =>
  forms.findSome? (· octets)

def optional (form : Form) : Form :=
  choice [form, nothing]

/-- A form, or nothing in place of a standard, which is never written itself. -/
def orStandard (standard : Octets) (form : Form) : Form := fun octets =>
  if standard.isPrefixOf octets then none else optional form octets

def sequence (forms : List Form) : Form :=
  wrapped sequenceIdentifier (row forms)

def anySequence : Form :=
  holding sequenceIdentifier fun _ => true

/-- The element that stands for nothing. -/
def null : Form :=
  exactly nullElement

def number : Form := fun octets =>
  (readNatural? octets).map (·.2)

def numberOfBits (bits : Nat) : Form := fun octets =>
  match readNatural? octets with
  | some (value, rest) => if bitLength value ≤ bits then some rest else none
  | none => none

def octetString : Form :=
  holding octetStringIdentifier fun _ => true

def octetStringOf (size : Nat) : Form :=
  holding octetStringIdentifier fun contents => contents.length == size

def bitString : Form :=
  holding bitStringIdentifier fun contents => (BitString.ofContents? contents).isSome

def name : Form :=
  holding ObjectIdentifier.identifier fun contents => (ObjectIdentifier.arcs? contents).isSome

def nameOf (contents : Octets) : Form :=
  exactly (element ObjectIdentifier.identifier contents)

end Form

end Missive.Der
