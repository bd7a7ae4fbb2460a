import Mathlib
import Missive.Proofs.Message.Sealing

/-!
# What keeps a text from being sealed

Encryption has seven hindrances, and several may be in the way of one text. The first
in a fixed order decides the fault and the sizes asked for by then; where there is
none, the text is sealed. No other fault of any step can come up.
-/

set_option autoImplicit false

namespace Missive.Message

/-- What can keep a text from being sealed, in the order in which it is noticed. -/
inductive Hindrance where
  | unwritable (run : Text.SurrogateRun)
  /-- The first reply of the source is no symmetric key. -/
  | keyReply (received : Nat)
  | recipientTooSmall (bits : Nat)
  | recipientRefused
  /-- The second reply of the source is no nonce. -/
  | nonceReply (received : Nat)
  | senderWithoutRoom
  | senderTooSmall (bits : Nat)
deriving DecidableEq

namespace Hindrance

def fault : Hindrance → Fault
  | unwritable run => .surrogates run
  | keyReply received => .replyLength received 32
  | recipientTooSmall bits => .modulusTooShort bits
  | recipientRefused => .keyRefused
  | nonceReply received => .replyLength received 16
  | senderWithoutRoom => .signatureOverflow
  | senderTooSmall bits => .modulusTooShort bits

def category : Hindrance → Fault.Category
  | unwritable _ => .unencodableText
  | recipientRefused => .encryption
  | keyReply _ | recipientTooSmall _ | nonceReply _ | senderWithoutRoom | senderTooSmall _ =>
    .badValue

/-- All sizes that were asked for until the hindrance was noticed. -/
def asked : Hindrance → List Int
  | unwritable _ => []
  | keyReply _ | recipientTooSmall _ | recipientRefused => [32]
  | nonceReply _ | senderWithoutRoom | senderTooSmall _ => [32, 16]

theorem category_fault (hindrance : Hindrance) : hindrance.fault.category = hindrance.category := by
  cases hindrance <;> rfl

/-- The first hindrance in the way of a text. The source is asked for a nonce only after
it has replied to the request for a key. -/
def first? (text : Text) (recipient : Rsa.PublicKey) (sender : Rsa.PrivateKey)
    (source : Source) : Option Hindrance :=
  match text.surrogateRun? with
  | some run => some (unwritable run)
  | none =>
    if (source.reply [] 32).length ≠ 32 then some (keyReply (source.reply [] 32).length)
    else if recipient.bits < 1024 then some (recipientTooSmall recipient.bits)
    else if ¬ recipient.Usable then some recipientRefused
    else if (source.reply [32] 16).length ≠ 16 then some (nonceReply (source.reply [32] 16).length)
    else if sender.modulusOctets < 46 then some senderWithoutRoom
    else if sender.bits < 1024 then some (senderTooSmall sender.bits)
    else none

end Hindrance

variable {text : Text} {recipient : Rsa.PublicKey} {sender : Rsa.PrivateKey} {source : Source}
  {seed : Rsa.Oaep.Seed} {plaintext capsule : Octets} {fault : Fault}
  {hindrance : Hindrance}

/-! One fault for each step. What went before it has succeeded. -/

theorem encrypt_of_surrogates {run : Text.SurrogateRun} (found : text.surrogateRun? = some run) :
    (encrypt text recipient sender seed).run source = (.error (.surrogates run), []) := by
  unfold Drawing.run encrypt
  rw [Text.toOctets_of_surrogates found]
  exact Drawing.bind_of_error rfl

private theorem encrypt_of_key_length_ne (written : text.toOctets = .ok plaintext)
    (other : (source.reply [] 32).length ≠ 32) :
    (encrypt text recipient sender seed).run source =
      (.error (.replyLength (source.reply [] 32).length 32), [32]) := by
  unfold Drawing.run encrypt
  rw [written, Drawing.bind_of_ok rfl]
  exact Drawing.bind_of_error (Drawing.sized_of_length_ne other)

private theorem draw_of_length (keyLength : (source.reply [] 32).length = 32) :
    SymmetricKey.draw source [] = (.ok ⟨source.reply [] 32, keyLength⟩, [32]) :=
  Drawing.sized_eq_ok_iff.2 ⟨rfl, rfl⟩

theorem encrypt_of_encapsulate_error (written : text.toOctets = .ok plaintext)
    (keyLength : (source.reply [] 32).length = 32)
    (failed : Capsule.encapsulate (source.reply [] 32) recipient seed = .error fault) :
    (encrypt text recipient sender seed).run source = (.error fault, [32]) := by
  unfold Drawing.run encrypt
  rw [written, Drawing.bind_of_ok rfl, Drawing.bind_of_ok (draw_of_length keyLength), failed]
  exact Drawing.bind_of_error rfl

private theorem encrypt_of_nonce_length_ne (written : text.toOctets = .ok plaintext)
    (keyLength : (source.reply [] 32).length = 32)
    (encapsulated : Capsule.encapsulate (source.reply [] 32) recipient seed = .ok capsule)
    (other : (source.reply [32] 16).length ≠ 16) :
    (encrypt text recipient sender seed).run source =
      (.error (.replyLength (source.reply [32] 16).length 16), [32, 16]) := by
  unfold Drawing.run encrypt
  rw [written, Drawing.bind_of_ok rfl, Drawing.bind_of_ok (draw_of_length keyLength),
    encapsulated, Drawing.bind_of_ok rfl]
  exact Drawing.bind_of_error (Payload.encrypt_of_length_ne other)

private theorem encrypt_of_no_room (written : text.toOctets = .ok plaintext)
    (keyLength : (source.reply [] 32).length = 32)
    (encapsulated : Capsule.encapsulate (source.reply [] 32) recipient seed = .ok capsule)
    (nonceLength : (source.reply [32] 16).length = 16) (noRoom : sender.modulusOctets < 46) :
    (encrypt text recipient sender seed).run source = (.error .signatureOverflow, [32, 16]) := by
  let nonce : Nonce := ⟨source.reply [32] 16, nonceLength⟩
  unfold Drawing.run encrypt
  rw [written, Drawing.bind_of_ok rfl, Drawing.bind_of_ok (draw_of_length keyLength),
    encapsulated, Drawing.bind_of_ok rfl,
    Drawing.bind_of_ok (Payload.encrypt_eq_ok_iff.2 ⟨nonce, rfl, rfl, rfl⟩),
    Signature.sign_of_no_room noRoom]
  exact Drawing.bind_of_error rfl

/-- The size of the sender's key is looked at last, when the envelope is made already. -/
private theorem encrypt_of_small_sender (written : text.toOctets = .ok plaintext)
    (keyLength : (source.reply [] 32).length = 32)
    (encapsulated : Capsule.encapsulate (source.reply [] 32) recipient seed = .ok capsule)
    (nonceLength : (source.reply [32] 16).length = 16) (room : 46 ≤ sender.modulusOctets)
    (small : sender.bits < 1024) :
    (encrypt text recipient sender seed).run source =
      (.error (.modulusTooShort sender.bits), [32, 16]) := by
  let nonce : Nonce := ⟨source.reply [32] 16, nonceLength⟩
  let payload := Payload.encipher ⟨source.reply [] 32, keyLength⟩ nonce plaintext
  obtain ⟨signature, signed⟩ := Signature.exists_sign room (capsule ++ payload)
  obtain ⟨recipientSize, _⟩ := Capsule.encapsulate_eq_ok_iff.1 encapsulated
  obtain ⟨parameters, made, _⟩ := KeyParameters.ofKey_of_size recipientSize
  have front : payload.take 16 = nonce.octets := Payload.take_encipher _ _ _
  have joined : (Envelope.mk capsule (payload.take 16) (payload.drop 16) signature).encode =
      .ok _ := Envelope.encode_eq_ok_iff.2 ⟨front ▸ nonceLength, rfl⟩
  unfold Drawing.run encrypt
  rw [written, Drawing.bind_of_ok rfl, Drawing.bind_of_ok (draw_of_length keyLength),
    encapsulated, Drawing.bind_of_ok rfl,
    Drawing.bind_of_ok (Payload.encrypt_eq_ok_iff.2 ⟨nonce, rfl, rfl, rfl⟩), signed,
    Drawing.bind_of_ok rfl, joined, Drawing.bind_of_ok rfl, envelopeSize, made,
    KeyParameters.ofKey_of_small small]
  exact Drawing.bind_of_error rfl

theorem Hindrance.first?_eq_none_iff :
    Hindrance.first? text recipient sender source = none ↔
      (∀ point ∈ text, ¬ point.IsSurrogate) ∧ (source.reply [] 32).length = 32 ∧
        1024 ≤ recipient.bits ∧ recipient.Usable ∧ (source.reply [32] 16).length = 16 ∧
        46 ≤ sender.modulusOctets ∧ 1024 ≤ sender.bits := by
  rw [← Text.surrogateRun?_eq_none_iff]
  unfold Hindrance.first?
  cases text.surrogateRun? with
  | some run => simp
  | none => simp [ite_eq_iff]

private theorem reply_fits (keyLength : (source.reply [] 32).length = 32)
    (recipientSize : 1024 ≤ recipient.bits) :
    (source.reply [] 32).length + 42 ≤ recipient.modulusOctets := by
  have room := KeyParameters.size_le_modulusOctets recipientSize
  omega

private theorem exists_capsule (keyLength : (source.reply [] 32).length = 32)
    (recipientSize : 1024 ≤ recipient.bits) (usable : recipient.Usable) (seed : Rsa.Oaep.Seed) :
    ∃ capsule, Capsule.encapsulate (source.reply [] 32) recipient seed = .ok capsule :=
  Capsule.exists_encapsulate recipientSize (reply_fits keyLength recipientSize) usable seed

theorem encrypt_of_hindrance
    (found : Hindrance.first? text recipient sender source = some hindrance)
    (seed : Rsa.Oaep.Seed) :
    (encrypt text recipient sender seed).run source =
      (.error hindrance.fault, hindrance.asked) := by
  unfold Hindrance.first? at found
  cases surrogates : text.surrogateRun? with
  | some run =>
      simp only [surrogates] at found
      cases found
      exact encrypt_of_surrogates surrogates
  | none =>
      simp only [surrogates] at found
      obtain ⟨plaintext, written⟩ : ∃ plaintext, text.toOctets = .ok plaintext :=
        ⟨_, Text.toOctets_eq_ok_iff.2
          (Utf8.encode_eq_ok_iff.2 ⟨Text.surrogateRun?_eq_none_iff.1 surrogates, rfl⟩)⟩
      -- A recipient's key is refused where it is not usable, so that case comes last.
      split_ifs at found with otherKey recipientSmall usable otherNonce noRoom senderSmall
      · cases found
        exact encrypt_of_key_length_ne written otherKey
      · cases found
        exact encrypt_of_encapsulate_error written (not_not.1 otherKey)
          (Capsule.encapsulate_of_small recipientSmall seed)
      · cases found
        obtain ⟨capsule, encapsulated⟩ :=
          exists_capsule (not_not.1 otherKey) (Nat.not_lt.1 recipientSmall) usable seed
        exact encrypt_of_nonce_length_ne written (not_not.1 otherKey) encapsulated otherNonce
      · cases found
        obtain ⟨capsule, encapsulated⟩ :=
          exists_capsule (not_not.1 otherKey) (Nat.not_lt.1 recipientSmall) usable seed
        exact encrypt_of_no_room written (not_not.1 otherKey) encapsulated (not_not.1 otherNonce)
          noRoom
      · cases found
        obtain ⟨capsule, encapsulated⟩ :=
          exists_capsule (not_not.1 otherKey) (Nat.not_lt.1 recipientSmall) usable seed
        exact encrypt_of_small_sender written (not_not.1 otherKey) encapsulated
          (not_not.1 otherNonce) (Nat.not_lt.1 noRoom) senderSmall
      · cases found
        have recipientSize := Nat.not_lt.1 recipientSmall
        have fits := reply_fits (not_not.1 otherKey) recipientSize
        exact encrypt_of_encapsulate_error written (not_not.1 otherKey)
          (Capsule.encapsulate_of_refused recipientSize fits usable seed)

theorem exists_sealing_of_unhindered
    (free : Hindrance.first? text recipient sender source = none) (seed : Rsa.Oaep.Seed) :
    ∃ sealing : Sealing text recipient sender seed,
      source.reply [] 32 = sealing.key.octets ∧ source.reply [32] 16 = sealing.nonce.octets := by
  obtain ⟨plain, keyLength, recipientSize, usable, nonceLength, _, senderSize⟩ :=
    Hindrance.first?_eq_none_iff.1 free
  obtain ⟨sealing, keyDrawn, nonceDrawn⟩ := exists_sealing plain usable recipientSize senderSize
    seed ⟨source.reply [] 32, keyLength⟩ ⟨source.reply [32] 16, nonceLength⟩
  exact ⟨sealing, by rw [keyDrawn], by rw [nonceDrawn]⟩

/-- Encryption fails exactly as its first hindrance says, with no more asked for than it
says, and where there is none it gives an envelope with the second reply as its nonce and
a payload under the first. A symmetric key never overflows a capsule, a nonce never has
another length, and an envelope is never of another size than the keys call for. -/
theorem encrypt_hindered_or_sealed (text : Text) (recipient : Rsa.PublicKey)
    (sender : Rsa.PrivateKey) (source : Source) (seed : Rsa.Oaep.Seed) :
    (∀ hindrance, Hindrance.first? text recipient sender source = some hindrance →
      (encrypt text recipient sender seed).run source =
        (.error hindrance.fault, hindrance.asked) ∧
      hindrance.fault.category = hindrance.category) ∧
    (Hindrance.first? text recipient sender source = none →
      ∃ (octets plaintext : Octets) (envelope : Envelope),
        (encrypt text recipient sender seed).run source = (.ok octets, [32, 16]) ∧
        (octets.drop recipient.modulusOctets).take 16 = source.reply [32] 16 ∧
        Envelope.decode octets recipient.modulusOctets sender.modulusOctets = .ok envelope ∧
        Capsule.encapsulate (source.reply [] 32) recipient seed = .ok envelope.capsule ∧
        Payload.decrypt envelope.payload (source.reply [] 32) = .ok plaintext ∧
        Utf8.encode text = .ok plaintext ∧
        Signature.sign (.octets envelope.signedPart) sender = .ok envelope.signature) ∧
    ∀ fault asked, (encrypt text recipient sender seed).run source = (.error fault, asked) →
      (∀ length limit, fault ≠ .capsuleOverflow length limit) ∧
      (∀ length, fault ≠ .nonceLength length) ∧
      ∀ length expected, fault ≠ .envelopeLength length expected := by
  refine ⟨?_, ?_, ?_⟩
  · intro hindrance found
    exact ⟨encrypt_of_hindrance found seed, hindrance.category_fault⟩
  · intro free
    obtain ⟨sealing, keyReplied, nonceReplied⟩ := exists_sealing_of_unhindered free seed
    have cut := sealing.isCut
    refine ⟨sealing.octets, sealing.plaintext, sealing.envelope,
      encrypt_eq_ok_iff.2 ⟨sealing, keyReplied, nonceReplied, rfl, rfl⟩, ?_,
      Envelope.decode_eq_ok_iff.2 cut, keyReplied ▸ sealing.encapsulated, ?_, sealing.written, ?_⟩
    · rw [← cut.nonce_eq]
      exact nonceReplied.symm
    · rw [keyReplied, Payload.decrypt_eq_ok_iff]
      exact ⟨sealing.key, sealing.nonce, rfl, rfl⟩
    · rw [sealing.signedPart_eq]
      exact sealing.signed
  · intro fault asked failed
    cases found : Hindrance.first? text recipient sender source with
    | none =>
        obtain ⟨sealing, keyReplied, nonceReplied⟩ := exists_sealing_of_unhindered found seed
        rw [encrypt_eq_ok_iff.2 ⟨sealing, keyReplied, nonceReplied, rfl, rfl⟩] at failed
        cases failed
    | some hindrance =>
        rw [encrypt_of_hindrance found seed] at failed
        cases failed
        cases hindrance <;> simp [Hindrance.fault]

theorem encrypt_hindered_or_sealed_mersenneKeys :
    (encrypt [0x20AC] Rsa.mersenneKey.toPublicKey Rsa.widerMersenneKey
        ⟨List.replicate 20 0, rfl⟩).run
      (.ofReplies [List.replicate 32 1, List.replicate 15 0xFF]) =
        (.error (.replyLength 15 16), [32, 16]) ∧
    ∃ octets,
      (encrypt [0x20AC] Rsa.mersenneKey.toPublicKey Rsa.widerMersenneKey
          ⟨List.replicate 20 0, rfl⟩).run
        (.ofReplies [List.replicate 32 1, List.replicate 16 0xFF]) = (.ok octets, [32, 16]) ∧
      (octets.drop Rsa.mersenneKey.modulusOctets).take 16 = List.replicate 16 0xFF := by
  obtain ⟨hindered, _, _⟩ := encrypt_hindered_or_sealed [0x20AC] Rsa.mersenneKey.toPublicKey
    Rsa.widerMersenneKey (.ofReplies [List.replicate 32 1, List.replicate 15 0xFF])
    ⟨List.replicate 20 0, rfl⟩
  obtain ⟨_, free, _⟩ := encrypt_hindered_or_sealed [0x20AC] Rsa.mersenneKey.toPublicKey
    Rsa.widerMersenneKey (.ofReplies [List.replicate 32 1, List.replicate 16 0xFF])
    ⟨List.replicate 20 0, rfl⟩
  obtain ⟨failed, _⟩ := hindered (.nonceReply 15) (by decide +kernel)
  obtain ⟨octets, _, _, made, nonce, _⟩ := free (by decide +kernel)
  exact ⟨failed, octets, made, nonce⟩

end Missive.Message
