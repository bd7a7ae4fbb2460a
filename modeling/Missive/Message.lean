import Missive.Capsule
import Missive.Cipher.Payload
import Missive.Envelope
import Missive.Message.Outcome
import Missive.Signature

/-!
# Messages

A text is sealed for one recipient and signed by its sender: a fresh symmetric
key encrypts the text, a capsule carries that key, and the signature covers both.
Opening checks the signature before anything is decrypted. What an envelope holds
is reported as an outcome; only keys can be a fault.
-/

set_option autoImplicit false

namespace Missive.Message

def envelopeSize (recipient sender : Rsa.PublicKey) (length : Nat) : Except Fault Int := do
  let recipientParameters ← KeyParameters.ofKey recipient
  let senderParameters ← KeyParameters.ofKey sender
  return Envelope.minimumSize recipientParameters.capsuleSize senderParameters.signatureSize +
    length

/-- The envelope of a text. The text is written as octets first; then the
symmetric key is drawn and encapsulated, the nonce drawn, the text encrypted and
the result signed. The size of the envelope has to be the one by which the
recipient takes it apart. -/
def encrypt (text : Text) (recipient : Rsa.PublicKey) (sender : Rsa.PrivateKey)
    (seed : Rsa.Oaep.Seed) : Drawing Octets := do
  let plaintext ← Drawing.ofExcept text.toOctets
  let key ← SymmetricKey.draw
  let capsule ← Drawing.ofExcept (Capsule.encapsulate key.octets recipient seed)
  let payload ← Payload.encrypt plaintext key.octets
  let signature ← Drawing.ofExcept (Signature.sign (.octets (capsule ++ payload)) sender)
  let envelope : Envelope := ⟨capsule, payload.take nonceSize, payload.drop nonceSize, signature⟩
  let octets ← Drawing.ofExcept envelope.encode
  let expected ← Drawing.ofExcept (envelopeSize recipient sender.toPublicKey plaintext.length)
  if octets.length = expected then pure octets
  else Drawing.fail (.envelopeLength octets.length expected)

/-- The text that octets spell. -/
def spelled (octets : Octets) : Except Fault Text :=
  match Utf8.decode? octets with
  | some text => .ok text
  | none => .error .textMalformed

/-- What an envelope holds for a recipient. It holds nothing if its capsule does, if
what the capsule holds is no symmetric key, or if the plaintext is no text. -/
def reveal (envelope : Envelope) (recipient : Rsa.PrivateKey) : Except Fault (Option Text) :=
  match Capsule.decapsulate? envelope.capsule recipient with
  | none => .ok none
  | some key => Fault.absorb .badValue do
    spelled (← Payload.decrypt envelope.payload key)

/-- What comes of an envelope from a sender. The key of the recipient is not used
before the signature is found to be the sender's. -/
def inspect (envelope : Envelope) (recipient : Rsa.PrivateKey) (sender : Rsa.PublicKey) :
    Except Fault Outcome := do
  if ← Signature.verify (.octets envelope.signedPart) (some (.octets envelope.signature)) sender then
    match ← reveal envelope recipient with
    | some text => return .opened text
    | none => return .refused .decryptionFailed
  else return .refused .signatureInvalid

/-- What comes of opening octets as an envelope from a sender. A fault of cutting the
octets and a bad value among their parts are outcomes; the sizes of the keys are looked
at before, the recipient's first. -/
def decrypt (octets : Octets) (recipient : Rsa.PrivateKey) (sender : Rsa.PublicKey) :
    Except Fault Outcome := do
  let recipientParameters ← KeyParameters.ofKey recipient.toPublicKey
  let senderParameters ← KeyParameters.ofKey sender
  let cut ← Fault.absorb .invalidEnvelope
    (Envelope.decode octets recipientParameters.capsuleSize senderParameters.signatureSize)
  match cut with
  | none => return .refused .malformedEnvelope
  | some envelope => inspect envelope recipient sender

end Missive.Message
