import Missive.Key.Foreign
import Missive.Sizes
import Missive.Text
import Missive.Text.Quoted

/-!
# Faults

Every reason for which an operation of this library can fail, the wording of
each, and the categories that callers tell apart. A fault is a cause: the
numbers it carries are the ones its message shows.
-/

set_option autoImplicit false

namespace Missive

inductive Fault where
  | surrogates (run : Text.SurrogateRun)
  /-- A source of randomness gave another number of octets than it was asked for. -/
  | replyLength (received : Nat) (requested : Int)
  | negativeRequest
  /-- The system was asked for a number of octets that no counter holds. -/
  | requestUncountable
  /-- The system was asked for more octets than one string can have. -/
  | requestTooLong
  /-- The system was asked for more octets than there is room for. -/
  | requestUnstorable
  | symmetricKeyLength (length : Nat)
  | payloadTooShort (length : Nat)
  | modulusTooShort (bits : Int)
  | exponentUnsuitable (exponent : Int)
  | capsuleOverflow (length limit : Nat)
  /-- A public key lies outside what public operations are done with. -/
  | keyRefused
  | signatureOverflow
  /-- Keys with the public exponent asked for are not generated. -/
  | exponentNotOffered (bits : Nat)
  /-- A key was asked for whose size no counter holds. -/
  | sizeUncountable
  /-- A key was asked for whose size is out of all proportion. -/
  | sizeOutOfRange
  | primesNotFound (bits : Nat)
  | nonceLength (length : Nat)
  | envelopeLength (length : Nat) (expected : Int)
  | envelopeTooShort (length : Nat) (minimum : Int)
  /-- Octets are not the encoding of any public key. -/
  | keyMalformed
  | modulusTooSmall
  | exponentOutOfRange
  | exponentEven
  | foreignKey (kind : ForeignKey)
  | unknownAlgorithm (arcs : List Nat)
  /-- A frame is sound, and what it holds is no key of its algorithm. -/
  | keyInvalid
  /-- A key is the one point of its curve that has no coordinates. -/
  | pointAtInfinity
  | unknownCurve (arcs : List Nat)
  /-- A key describes its curve, and the description is of no curve that has a name. -/
  | unnamedCurve
  /-- A key belongs to a group of residues that is none. -/
  | groupInvalid
  /-- Octets spell no text. -/
  | textMalformed
  | unknownRefusal (label : String)
deriving DecidableEq

namespace Fault

inductive Category where
  | badValue
  | unencodableText
  | encryption
  | invalidEnvelope
  | envelopeAssembly
  | keyGeneration
  | unsupportedAlgorithm
  | outOfRange
  | exhausted
deriving DecidableEq, Repr

/-- The kind of failure that a fault is. -/
def category : Fault → Category
  | surrogates _ => .unencodableText
  | capsuleOverflow _ _ | keyRefused => .encryption
  | envelopeTooShort _ _ => .invalidEnvelope
  | nonceLength _ | envelopeLength _ _ => .envelopeAssembly
  | exponentNotOffered _ | primesNotFound _ => .keyGeneration
  | unknownAlgorithm _ | unknownCurve _ | unnamedCurve => .unsupportedAlgorithm
  | requestUncountable | requestTooLong | sizeUncountable | sizeOutOfRange => .outOfRange
  | requestUnstorable => .exhausted
  | _ => .badValue

/-- The wording for a run of surrogates: a single one is shown by its code. -/
def surrogatesMessage (run : Text.SurrogateRun) : String :=
  if run.first = run.last then
    let code := String.ofList (Nat.toDigits 16 run.leading.val)
    s!"'utf-8' codec can't encode character '\\u{code}' in position {run.first}: surrogates not allowed"
  else
    s!"'utf-8' codec can't encode characters in position {run.first}-{run.last}: surrogates not allowed"

def dotted (arcs : List Nat) : String :=
  ".".intercalate (arcs.map Nat.repr)

/-- The wording of a fault. Octets that are no key at all, or no text, get none. -/
def message : Fault → Option String
  | surrogates run => surrogatesMessage run
  | replyLength received requested =>
    s!"Random source returned {received} bytes, expected {requested}"
  | negativeRequest => "negative argument not allowed"
  | requestUncountable => "Python int too large to convert to C ssize_t"
  | requestTooLong => "byte string is too large"
  | requestUnstorable => ""
  | symmetricKeyLength length => s!"Symmetric key must be {symmetricKeySize} bytes, got {length}"
  | payloadTooShort length => s!"Blob too short: {length} bytes (minimum {nonceSize})"
  | modulusTooShort bits => s!"Modulus must be at least {minimumModulusBits} bits, got {bits}"
  | exponentUnsuitable exponent => s!"Public exponent must be odd and at least 3, got {exponent}"
  | capsuleOverflow length limit => s!"Payload too large: {length} bytes (max {limit})"
  | keyRefused => "RSA encryption failed: Encryption failed"
  | signatureOverflow =>
    "Digest or salt length too long for key size. " ++
      "Use a larger key or shorter salt length if you are specifying a PSS salt"
  | exponentNotOffered bits =>
    s!"Cannot generate {bits}-bit RSA key: public_exponent must be either 3 " ++
      "(for legacy compatibility) or 65537. Almost everyone should choose 65537 here!"
  | sizeUncountable => "Python int too large to convert to C long"
  | sizeOutOfRange => "out of range integral type conversion attempted"
  | primesNotFound bits => s!"Cannot generate {bits}-bit RSA key: no primes found"
  | nonceLength length => s!"Nonce must be {nonceSize} bytes, got {length}"
  | envelopeLength length expected => s!"Envelope is {length} bytes, expected {expected}"
  | envelopeTooShort length minimum => s!"Data too short: {length} bytes (minimum {minimum})"
  | keyMalformed | textMalformed => none
  | modulusTooSmall => "n must be >= 3."
  | exponentOutOfRange => "e must be >= 3 and < n."
  | exponentEven => "e must be odd."
  | foreignKey kind => s!"Expected an RSA public key, got {kind.name}"
  | unknownAlgorithm arcs => s!"Unknown key type: {dotted arcs}"
  | keyInvalid => "Invalid key"
  | pointAtInfinity => "Cannot load an EC public key where the point is at infinity"
  | unknownCurve arcs => s!"Curve {dotted arcs} is not supported"
  | unnamedCurve =>
    "ECDSA keys with explicit parameters are only supported when they map to " ++
      "secp256r1, secp384r1, or secp521r1. No custom curves are supported."
  | groupInvalid => "Invalid DH parameters"
  | unknownRefusal label => s!"{Quoted.quote label} is not a valid FailureKind"

/-- A result with nothing in the place of the faults of one category. Other faults
are passed on. -/
def absorb {Result : Type} (absorbed : Category) :
    Except Fault Result → Except Fault (Option Result)
  | .ok result => .ok (some result)
  | .error fault => if fault.category = absorbed then .ok none else .error fault

theorem absorb_eq_ok_some_iff {Result : Type} {absorbed : Category}
    {outcome : Except Fault Result} {result : Result} :
    absorb absorbed outcome = .ok (some result) ↔ outcome = .ok result := by
  cases outcome with
  | ok found => simp [absorb]
  | error fault =>
      by_cases expected : fault.category = absorbed
      · simp [absorb, expected]
      · simp [absorb, expected]

/-- Where all faults are of the category, none is passed on. -/
theorem exists_absorb {Result : Type} {absorbed : Category} {outcome : Except Fault Result}
    (expected : ∀ fault, outcome = .error fault → fault.category = absorbed) :
    ∃ result, absorb absorbed outcome = .ok result := by
  cases outcome with
  | ok result => exact ⟨some result, rfl⟩
  | error fault => exact ⟨none, if_pos (expected fault rfl)⟩

end Fault

end Missive
