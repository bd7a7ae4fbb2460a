import Missive.Identity.Certification
import Missive.Message
import Missive.Randomness.Stretch
import Missive.Proofs.Cipher.Keystream
import Missive.Proofs.Der.Acceptance
import Missive.Proofs.Identity.Certification
import Missive.Proofs.Identity.Separation
import Missive.Proofs.Message.RoundTrip
import Missive.Proofs.Message.Tampering
import Missive.Proofs.Message.Verdict
import Missive.Proofs.Message.Recipients
import Missive.Proofs.Message.Hindrance
import Missive.Proofs.Message.Sizes
import Missive.Proofs.Message.Spelling
import Missive.Proofs.Signature.Binding
import Missive.Proofs.Der.Refusal
import Missive.Proofs.Message.Refusal
