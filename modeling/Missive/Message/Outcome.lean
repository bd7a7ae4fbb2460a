import Missive.Fault

/-!
# Outcomes

What comes of opening an envelope: the text that was sent, or the reason why
there is none. The reasons are found in a fixed order, and none says more than
which check failed.
-/

set_option autoImplicit false

namespace Missive

/-- Why an envelope was not opened. -/
inductive Refusal where
  | malformedEnvelope
  | signatureInvalid
  | decryptionFailed
deriving DecidableEq, Repr

namespace Refusal

def label : Refusal → String
  | malformedEnvelope => "malformed_envelope"
  | signatureInvalid => "signature_invalid"
  | decryptionFailed => "decryption_failed"

/-- All refusals, in the order in which they are found. -/
def all : List Refusal :=
  [malformedEnvelope, signatureInvalid, decryptionFailed]

def ofLabel (label : String) : Except Fault Refusal :=
  match all.find? (·.label == label) with
  | some refusal => .ok refusal
  | none => .error (.unknownRefusal label)

end Refusal

/-- What came of opening an envelope: a text or the reason for its refusal. -/
structure Outcome where
  text : Option Text
  refusal : Option Refusal
deriving DecidableEq

namespace Outcome

def opened (text : Text) : Outcome :=
  ⟨some text, none⟩

def refused (refusal : Refusal) : Outcome :=
  ⟨none, some refusal⟩

def isOk (outcome : Outcome) : Bool :=
  outcome.refusal.isNone

end Outcome

end Missive
