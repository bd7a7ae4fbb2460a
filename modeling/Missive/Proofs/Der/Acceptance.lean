import Mathlib
import Missive.Proofs.Der.Spelling

/-!
# What is accepted as a key

The octets from which a key is read are determined by its two numbers up to four
choices, one of which leaves the parameters of RSA-PSS open. Whatever form a key came
in, it is written in one. A key that is spelled loosely, or has anything left over
inside or behind it, is refused.
-/

set_option autoImplicit false

namespace Missive.Der.PublicKey

variable {key : Rsa.PublicKey} {modulus publicExponent : Nat} {octets : Octets}

/-- The forms of two numbers without any parameters of RSA-PSS told. -/
def plainForms (modulus publicExponent : Nat) : List Octets :=
  [framed ObjectIdentifier.rsaEncryption nullElement modulus publicExponent,
    framed ObjectIdentifier.rsaEncryption [] modulus publicExponent,
    framed ObjectIdentifier.rsassaPss [] modulus publicExponent,
    framed ObjectIdentifier.rsassaPss (element sequenceIdentifier []) modulus publicExponent,
    numbers modulus publicExponent]

private theorem written_of_mem_plainForms (listed : octets ∈ plainForms modulus publicExponent) :
    Written modulus publicExponent octets := by
  simp only [plainForms, List.mem_cons, List.not_mem_nil, or_false] at listed
  obtain rfl | rfl | rfl | rfl | rfl := listed
  · exact .plain
  · exact .unparametrized
  · exact .pss (.inl rfl)
  · exact .pss (.inr ⟨[[], [], [], []], .cons .left (.cons .left (.cons .left (.cons .left .nil))),
      rfl⟩)
  · exact .bare

theorem exists_decode_iff (written : Written modulus publicExponent octets) :
    (∃ key, decode octets = .ok key) ↔
      3 ≤ publicExponent ∧ publicExponent < modulus ∧ publicExponent % 2 = 1 := by
  rw [decode_of_written written, Rsa.PublicKey.exists_ofNumbers_iff]

/-- The parameters of RSA-PSS with a salt of 32 octets and all else standard. -/
def saltedParameters : Octets :=
  element sequenceIdentifier (element 0xA2 (natural 32))

private theorem pssParameters_salted : Algorithm.PssParameters saltedParameters := by
  refine .inr ⟨[[], [], element 0xA2 (natural 32), []], ?_, ?_⟩
  · exact .cons .left (.cons .left (.cons (.told ⟨32, by decide, by decide, rfl⟩)
      (.cons .left .nil)))
  · simp [saltedParameters]

/-- The numbers 15 and 3 in a frame of RSA-PSS with a salt of 32 octets. -/
def saltedFrame : Octets :=
  [0x30, 0x1F, 0x30, 0x12, 0x06, 0x09, 0x2A, 0x86, 0x48, 0x86, 0xF7, 0x0D, 0x01, 0x01, 0x0A,
    0x30, 0x05, 0xA2, 0x03, 0x02, 0x01, 0x20, 0x03, 0x09, 0x00, 0x30, 0x06, 0x02, 0x01, 0x0F,
    0x02, 0x01, 0x03]

private theorem saltedFrame_eq :
    saltedFrame = framed ObjectIdentifier.rsassaPss saltedParameters 15 3 := by
  decide +kernel

private theorem decode_saltedFrame : decode saltedFrame = .ok fifteenKey := by
  rw [saltedFrame_eq]
  exact decode_eq_ok_iff.2 (.pss pssParameters_salted)

theorem decode_saltedFrame_unlisted :
    decode saltedFrame = .ok fifteenKey ∧
      saltedFrame ∉ plainForms fifteenKey.modulus fifteenKey.publicExponent :=
  ⟨decode_saltedFrame, by decide +kernel⟩

/-- The numbers of a loose frame from which a key is read are as strict as the frame. -/
private theorem strict_of_contents_eq {idle : UInt8} {inner rest : Octets}
    (loose : LooseNumbers inner)
    (same : idle :: (inner ++ rest) = 0 :: numbers modulus publicExponent) :
    idle = 0 ∧ rest = [] ∧ loose.Strict modulus publicExponent := by
  obtain ⟨whole, held⟩ := List.cons.inj same
  exact ⟨whole, loose.strict held⟩

/-- A key is in range, and it is read from its written forms only, which are the forms
without parameters of RSA-PSS and those with any that are admitted. It is written in the
first of them, from which it is read again. Nothing stands behind the octets of a key,
and no spelling but the written one is taken: neither of a frame, whose algorithm is one
of RSA, nor of the numbers, in a frame or without. -/
theorem written_strictly_of_decode (decoded : decode octets = .ok key) :
    (3 ≤ key.modulus ∧ 3 ≤ key.publicExponent ∧ key.publicExponent < key.modulus ∧
      key.publicExponent % 2 = 1) ∧
    Written key.modulus key.publicExponent octets ∧
    (∀ form, Written key.modulus key.publicExponent form → decode form = .ok key) ∧
    (∀ form ∈ plainForms key.modulus key.publicExponent, decode form = .ok key) ∧
    encode key =
      framed ObjectIdentifier.rsaEncryption nullElement key.modulus key.publicExponent ∧
    decode (encode key) = .ok key ∧
    (∀ (behind : Octets) (other : Rsa.PublicKey),
      decode (octets ++ behind) = .ok other → behind = []) ∧
    (∀ (spelled behind : Octets) (frame : LooseFrame spelled), octets = spelled ++ behind →
      behind = [] ∧ frame.Strict key.modulus key.publicExponent ∧
      ∀ (idle : UInt8) (inner rest : Octets) (loose : LooseNumbers inner),
        frame.contents = idle :: (inner ++ rest) →
          idle = 0 ∧ rest = [] ∧ loose.Strict key.modulus key.publicExponent) ∧
    ∀ (spelled behind : Octets) (loose : LooseNumbers spelled), octets = spelled ++ behind →
      behind = [] ∧ loose.Strict key.modulus key.publicExponent := by
  have lower := key.three_le_publicExponent
  have upper := key.publicExponent_lt_modulus
  have written := decode_eq_ok_iff.1 decoded
  refine ⟨⟨by omega, lower, upper, key.publicExponent_odd⟩, written,
    fun _ => decode_eq_ok_iff.2,
    fun _ listed => decode_eq_ok_iff.2 (written_of_mem_plainForms listed), rfl,
    decode_encode_eq key, ?behind, ?frames, ?numbers⟩
  case behind =>
    intro behind other decodedLonger
    have same := eq_of_decode_prefix decoded decodedLonger (List.prefix_append _ _)
    exact List.append_right_eq_self.1 same
  case frames =>
    intro spelled behind frame same
    rw [same] at written
    obtain ⟨nothing, strict⟩ := frame.strict written
    refine ⟨nothing, strict, ?_⟩
    intro idle inner rest loose contents
    exact strict_of_contents_eq loose (contents.symm.trans strict.contents_eq)
  case numbers =>
    intro spelled behind loose same
    rw [same] at written
    exact loose.strict_of_written written

/-- The same frame with a digit in its length that is not needed. -/
def paddedFrame : Octets :=
  0x30 :: 0x81 :: saltedFrame.tail

private theorem spelling_paddedFrame :
    ElementSpelling sequenceIdentifier (Algorithm.written ObjectIdentifier.rsassaPss
      saltedParameters ++ (element bitStringIdentifier (0 :: numbers 15 3) ++ [])) paddedFrame := by
  have digits : LengthSpelling (List.length (saltedFrame.drop 2)) [0x81, 0x1F] :=
    @LengthSpelling.long [0x1F] (by decide) (by decide)
  have contents : saltedFrame.drop 2 = Algorithm.written ObjectIdentifier.rsassaPss
      saltedParameters ++ (element bitStringIdentifier (0 :: numbers 15 3) ++ []) := by
    decide +kernel
  rw [← contents]
  exact .mk digits

/-- Its length is the only thing that is loose. -/
def loosePaddedFrame : LooseFrame paddedFrame where
  algorithm := ObjectIdentifier.rsassaPss
  parameters := saltedParameters
  contents := 0 :: numbers 15 3
  name := element ObjectIdentifier.identifier ObjectIdentifier.rsassaPss
  identifier := Algorithm.written ObjectIdentifier.rsassaPss saltedParameters
  bits := element bitStringIdentifier (0 :: numbers 15 3)
  leftOver := []
  name_spelled := .of_short (by decide)
  identifier_spelled := .of_short (by decide +kernel)
  bits_spelled := .of_short (by decide +kernel)
  spelled := spelling_paddedFrame

theorem written_strictly_of_decode_saltedFrame :
    decode saltedFrame = .ok fifteenKey ∧
      (∀ form ∈ plainForms 15 3, decode form = .ok fifteenKey) ∧
      (∀ (last : UInt8) (other : Rsa.PublicKey), decode (saltedFrame ++ [last]) ≠ .ok other) ∧
      ∀ other, decode paddedFrame ≠ .ok other := by
  obtain ⟨_, _, _, forms, _, _, behind, _, _⟩ := written_strictly_of_decode decode_saltedFrame
  refine ⟨decode_saltedFrame, forms, ?_, ?_⟩
  · intro last other decoded
    cases behind _ other decoded
  · intro other decoded
    obtain ⟨_, _, _, _, _, _, _, frames, _⟩ := written_strictly_of_decode decoded
    obtain ⟨_, strict, _⟩ := frames paddedFrame [] loosePaddedFrame (List.append_nil _).symm
    have held : 0 :: numbers 15 3 = 0 :: numbers other.modulus other.publicExponent :=
      strict.contents_eq
    have whole : paddedFrame = element sequenceIdentifier
        (Algorithm.written ObjectIdentifier.rsassaPss saltedParameters ++
          element bitStringIdentifier (0 :: numbers other.modulus other.publicExponent)) :=
      strict.octets_eq
    rw [← held] at whole
    exact absurd whole (by decide +kernel)

end Missive.Der.PublicKey
