import Mathlib
import Missive.Proofs.Text.Utf8

/-! What octets are like that spell no text. The written forms are told by the octet that
leads them; a number may stand in a form that is too long for it, or be no code point of a
text. Before the first misspelling everything is spelled well, and behind it nothing matters. -/

set_option autoImplicit false

namespace Missive.Utf8

/-- A written form: the octets that lead it, how many follow, and the least number for which
that many are needed. -/
structure Form where
  mark : Nat
  leads : Nat
  following : Nat
  least : Nat

def forms : List Form :=
  [⟨0, 0x80, 0, 0⟩, ⟨0xC0, 0x20, 1, 0x80⟩, ⟨0xE0, 0x10, 2, 0x800⟩, ⟨0xF0, 8, 3, 0x10000⟩]

namespace Form

/-- The numbers below the limit have octets in the form, needed or not. -/
def limit (form : Form) : Nat :=
  form.leads * 0x40 ^ form.following

end Form

variable {octets rest : Octets} {first : UInt8} {count number least : Nat} {form : Form}
  {lead : Lead} {point : CodePoint}

end Missive.Utf8
