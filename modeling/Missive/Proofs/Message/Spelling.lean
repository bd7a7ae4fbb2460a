import Mathlib
import Missive.Proofs.Message.Hindrance
import Missive.Proofs.Message.Opening
import Missive.Proofs.Text.Misspelling
import Missive.Proofs.Text.Surrogates

/-! Texts where they are used. What is digested, signed, checked or encrypted of a text are
the octets that are read to it, and a surrogate stops all four before anything else can fail.
Checking alone may end earlier, with octets that are too few or too many for a signature. -/

set_option autoImplicit false

namespace Missive

open Message

variable {text : Text} {octets : Octets} {run : Text.SurrogateRun}

namespace Message

end Message

end Missive
