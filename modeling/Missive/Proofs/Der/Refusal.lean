import Mathlib
import Missive.Proofs.Der.PublicKey

/-! Octets from which no key is read, and the category of what is reported for them. Nothing
is required of the octets. Two judgments say without the reader which frames are sound and
what of a sound frame is not supported; all other octets are a bad value, whether they are no
frame, hold unacceptable numbers, or hold a key of another algorithm. -/

set_option autoImplicit false

namespace Missive.Der

/-- The octets are a frame whose algorithm has a name and the parameters that go with it, and
whose key consists of whole octets. -/
structure KeyInfo.Framed (info : KeyInfo) (octets : Octets) : Prop where
  written : octets = info.encode
  named : (ObjectIdentifier.arcs? info.algorithm).isSome
  fitting : Algorithm.hasParameters info.algorithm info.parameters = true
  whole : info.key.idle = 0

private theorem KeyInfo.Framed.read?_eq {info : KeyInfo} {octets : Octets}
    (framed : info.Framed octets) :
    KeyInfo.read? octets = some info :=
  KeyInfo.read?_eq_some_iff.2 ⟨framed.written, framed.named, framed.fitting⟩

namespace PublicKey

variable {info : KeyInfo} {octets algorithm parameters key : Octets} {fault : Fault}

/-- The algorithms whose keys are judged by what they hold, apart from RSA and curves. -/
def judged : List Octets :=
  [ObjectIdentifier.dsa, ObjectIdentifier.diffieHellman, ObjectIdentifier.diffieHellmanSubgroup,
    ObjectIdentifier.ed25519, ObjectIdentifier.x25519, ObjectIdentifier.ed448,
    ObjectIdentifier.x448, ObjectIdentifier.mlDsa44, ObjectIdentifier.mlDsa65,
    ObjectIdentifier.mlDsa87, ObjectIdentifier.mlKem768, ObjectIdentifier.mlKem1024]

def recognised : List Octets :=
  ObjectIdentifier.rsaEncryption :: ObjectIdentifier.rsassaPss ::
    ObjectIdentifier.ellipticCurveKey :: judged

/-- What of a sound frame is not supported: its algorithm, or the curve that its parameters
name, or one that they describe. The key itself is not looked at. -/
inductive Unsupported (info : KeyInfo) : Fault → Prop where
  | algorithm (unknown : info.algorithm ∉ recognised) :
      Unsupported info (.unknownAlgorithm (ObjectIdentifier.arcs info.algorithm))
  | curve {name : Octets} (elliptic : info.algorithm = ObjectIdentifier.ellipticCurveKey)
      (named : info.parameters = element ObjectIdentifier.identifier name)
      (unknown : ∀ curve ∈ Curve.known, curve.name ≠ name) :
      Unsupported info (.unknownCurve (ObjectIdentifier.arcs name))
  | description (elliptic : info.algorithm = ObjectIdentifier.ellipticCurveKey)
      (unnamed : ∀ name, info.parameters ≠ element ObjectIdentifier.identifier name)
      (unlike : ∀ group ∈ Curve.Group.described, ∀ withSeed,
        info.parameters ≠ CurveParameters.description group withSeed) :
      Unsupported info .unnamedCurve

theorem Unsupported.category (unsupported : Unsupported info fault) :
    fault.category = .unsupportedAlgorithm := by
  cases unsupported <;> rfl

private theorem curve_named?_eq_none_iff {name : Octets} :
    Curve.named? name = none ↔ ∀ curve ∈ Curve.known, curve.name ≠ name := by
  simp [Curve.named?, List.find?_eq_none]

private theorem find?_describes_eq_none_iff :
    Curve.Group.described.find? (CurveParameters.describes parameters) = none ↔
      ∀ group ∈ Curve.Group.described, ∀ withSeed,
        parameters ≠ CurveParameters.description group withSeed := by
  simp [CurveParameters.describes, List.find?_eq_none, and_comm]

/-- On a curve, what is not supported is the curve. -/
theorem curve_eq_error_iff (elliptic : info.algorithm = ObjectIdentifier.ellipticCurveKey) :
    CurveParameters.curve info.parameters = .error fault ↔ Unsupported info fault := by
  unfold CurveParameters.curve
  constructor
  · intro failed
    cases read : readOnly? ObjectIdentifier.identifier info.parameters with
    | some name =>
        rw [read] at failed
        dsimp only at failed
        cases known : Curve.named? name with
        | some curve =>
            rw [known] at failed
            cases failed
        | none =>
            rw [known] at failed
            cases failed
            exact .curve elliptic (readOnly?_eq_some_iff.1 read) (curve_named?_eq_none_iff.1 known)
    | none =>
        rw [read] at failed
        dsimp only at failed
        cases known : Curve.Group.described.find? (CurveParameters.describes info.parameters) with
        | some group =>
            rw [known] at failed
            cases failed
        | none =>
            rw [known] at failed
            cases failed
            refine .description elliptic ?_ (find?_describes_eq_none_iff.1 known)
            intro name named
            rw [readOnly?_eq_some_iff.2 named] at read
            cases read
  · intro unsupported
    cases unsupported with
    | algorithm unknown =>
        rw [elliptic] at unknown
        exact absurd unknown (by decide)
    | curve _ named unknown =>
        rw [readOnly?_eq_some_iff.2 named]
        dsimp only
        rw [curve_named?_eq_none_iff.2 unknown]
    | description _ unnamed unlike =>
        have unread : readOnly? ObjectIdentifier.identifier info.parameters = none := by
          rw [Option.eq_none_iff_forall_ne_some]
          intro name read
          exact unnamed name (readOnly?_eq_some_iff.1 read)
        rw [unread]
        dsimp only
        rw [find?_describes_eq_none_iff.2 unlike]

private theorem category_rawFault (kind : ForeignKey) (key : Octets) :
    (rawFault kind key).category = .badValue := by
  unfold rawFault
  split <;> rfl

private theorem category_numberFault (kind : ForeignKey) (key : Octets) :
    (numberFault kind key).category = .badValue := by
  unfold numberFault
  split <;> rfl

private theorem category_residueFault (tellsOrder : Bool) (parameters key : Octets) :
    (residueFault tellsOrder parameters key).category = .badValue := by
  unfold residueFault
  split
  · split <;> rfl
  · rfl

/-- No key of another algorithm that is recognised is more than a bad value. -/
private theorem category_foreignFault_of_judged (member : algorithm ∈ judged) :
    (foreignFault algorithm parameters key).category = .badValue := by
  simp only [judged, List.mem_cons, List.not_mem_nil, or_false] at member
  rcases member with rfl | rfl | rfl | rfl | rfl | rfl | rfl | rfl | rfl | rfl | rfl | rfl
  · exact category_numberFault .dsa key
  · exact category_residueFault false parameters key
  · exact category_residueFault true parameters key
  all_goals exact category_rawFault _ key

private theorem foreignFault_of_unknown (unknown : algorithm ∉ recognised) :
    foreignFault algorithm parameters key =
      .unknownAlgorithm (ObjectIdentifier.arcs algorithm) := by
  simp only [recognised, judged, List.mem_cons, not_or] at unknown
  simp [foreignFault, unknown]

private theorem foreignFault_of_unsupported (unsupported : Unsupported info fault) (key : Octets) :
    foreignFault info.algorithm info.parameters key = fault := by
  by_cases elliptic : info.algorithm = ObjectIdentifier.ellipticCurveKey
  · rw [foreignFault, if_pos elliptic, curveFault, (curve_eq_error_iff elliptic).2 unsupported]
  · cases unsupported with
    | algorithm unknown => exact foreignFault_of_unknown unknown
    | curve same | description same => exact absurd same elliptic

/-- A key that is not one of RSA is a bad value unless it is not supported. -/
private theorem category_foreignFault
    (foreign : ¬ (info.algorithm = ObjectIdentifier.rsaEncryption ∨
      info.algorithm = ObjectIdentifier.rsassaPss)) (key : Octets) :
    (foreignFault info.algorithm info.parameters key).category = .badValue ∨
      Unsupported info (foreignFault info.algorithm info.parameters key) := by
  by_cases elliptic : info.algorithm = ObjectIdentifier.ellipticCurveKey
  · rw [foreignFault, if_pos elliptic, curveFault]
    cases found : CurveParameters.curve info.parameters with
    | error fault => exact .inr ((curve_eq_error_iff elliptic).1 found)
    | ok curve =>
        left
        dsimp only
        split
        · rfl
        · split <;> rfl
  · by_cases member : info.algorithm ∈ judged
    · exact .inl (category_foreignFault_of_judged member)
    · have unknown : info.algorithm ∉ recognised := by
        simp only [recognised, List.mem_cons, not_or]
        exact ⟨fun rsa => foreign (.inl rsa), fun pss => foreign (.inr pss), elliptic, member⟩
      rw [foreignFault_of_unknown unknown]
      exact .inr (.algorithm unknown)

private theorem Unsupported.foreign (unsupported : Unsupported info fault) :
    ¬ (info.algorithm = ObjectIdentifier.rsaEncryption ∨
      info.algorithm = ObjectIdentifier.rsassaPss) := by
  cases unsupported with
  | algorithm unknown =>
      rintro (rsa | pss)
      · exact unknown (rsa ▸ .head _)
      · exact unknown (pss ▸ .tail _ (.head _))
  | curve elliptic | description elliptic =>
      rw [elliptic]
      decide

private theorem category_of_ofNumbers (failed : ofNumbers octets = .error fault) :
    fault.category = .badValue := by
  unfold ofNumbers at failed
  split at failed
  · unfold Rsa.PublicKey.ofNumbers at failed
    split_ifs at failed <;> cases failed <;> rfl
  · cases failed
    rfl

theorem decode_of_unsupported (framed : info.Framed octets) (unsupported : Unsupported info fault) :
    decode octets = .error fault := by
  rw [decode, framed.read?_eq]
  dsimp only
  rw [ofKeyInfo, if_neg (not_not.2 framed.whole), if_neg unsupported.foreign,
    foreignFault_of_unsupported unsupported]

/-- All that is refused is a bad value, but for sound frames that are not supported. -/
theorem badValue_or_unsupported (failed : decode octets = .error fault) :
    fault.category = .badValue ∨ ∃ info : KeyInfo, info.Framed octets ∧ Unsupported info fault := by
  unfold decode at failed
  cases read : KeyInfo.read? octets with
  | none =>
      rw [read] at failed
      exact .inl (category_of_ofNumbers failed)
  | some info =>
      rw [read] at failed
      obtain ⟨written, named, fitting⟩ := KeyInfo.read?_eq_some_iff.1 read
      dsimp only [ofKeyInfo] at failed
      split_ifs at failed with idle rsa
      · cases failed
        exact .inl rfl
      · exact .inl (category_of_ofNumbers failed)
      · cases failed
        rcases category_foreignFault rsa info.key.octets with bad | unsupported
        · exact .inl bad
        · exact .inr ⟨info, ⟨written, named, fitting, not_not.1 idle⟩, unsupported⟩

/-- Octets that hold no key are refused as a bad value, but for the sound frames of an unknown
algorithm or curve. These have a category of their own, whatever stands for the key in them. -/
theorem decode_badValue_unless_unsupported (octets : Octets) :
    ((∃ fault, decode octets = .error fault ∧ fault.category = .badValue) ↔
      (∀ key, decode octets ≠ .ok key) ∧
        ¬ ∃ (info : KeyInfo) (fault : Fault), info.Framed octets ∧ Unsupported info fault) ∧
    (∀ fault, decode octets = .error fault ∧ fault.category ≠ .badValue ↔
      ∃ info : KeyInfo, info.Framed octets ∧ Unsupported info fault) ∧
    ∀ fault, decode octets = .error fault →
      fault.category = .badValue ∨ fault.category = .unsupportedAlgorithm := by
  refine ⟨⟨?refused, ?refusedBadly⟩, ?unsupported, ?category⟩
  case refused =>
    rintro ⟨fault, failed, bad⟩
    refine ⟨fun key => by simp [failed], ?_⟩
    rintro ⟨info, other, framed, unsupported⟩
    cases failed.symm.trans (decode_of_unsupported framed unsupported)
    rw [unsupported.category] at bad
    cases bad
  case refusedBadly =>
    rintro ⟨none, supported⟩
    cases decoded : decode octets with
    | ok key => exact absurd decoded (none key)
    | error fault =>
        rcases badValue_or_unsupported decoded with bad | ⟨info, framed, unsupported⟩
        · exact ⟨fault, rfl, bad⟩
        · exact absurd ⟨info, fault, framed, unsupported⟩ supported
  case unsupported =>
    intro fault
    constructor
    · rintro ⟨failed, notBad⟩
      exact (badValue_or_unsupported failed).resolve_left notBad
    · rintro ⟨info, framed, unsupported⟩
      refine ⟨decode_of_unsupported framed unsupported, ?_⟩
      rw [unsupported.category]
      decide
  case category =>
    intro fault failed
    rcases badValue_or_unsupported failed with bad | ⟨_, _, unsupported⟩
    · exact .inl bad
    · exact .inr unsupported.category

/-- The frame of a key of the unknown algorithm 1.2.3.4, without parameters and without a key. -/
def unknownFrame : Octets :=
  [0x30, 0x0A, 0x30, 0x05, 0x06, 0x03, 0x2A, 0x03, 0x04, 0x03, 0x01, 0x00]

/-- Both happen: an even exponent is a bad value, and the unknown algorithm is not. -/
theorem decode_badValue_unless_unsupported_unknownFrame :
    (∃ fault, decode (numbers 16 4) = .error fault ∧ fault.category = .badValue) ∧
      ∃ fault, decode unknownFrame = .error fault ∧ fault.category ≠ .badValue := by
  constructor
  · obtain ⟨refused, _, _⟩ := decode_badValue_unless_unsupported (numbers 16 4)
    refine refused.2 ⟨?_, ?_⟩
    · intro key
      rw [decode_of_written .bare]
      simp [Rsa.PublicKey.ofNumbers]
    · rintro ⟨info, _, framed, _⟩
      have read := framed.read?_eq
      rw [read?_numbers] at read
      cases read
  · obtain ⟨_, unsupported, _⟩ := decode_badValue_unless_unsupported unknownFrame
    let info : KeyInfo := ⟨[0x2A, 0x03, 0x04], [], .ofOctets []⟩
    have framed : info.Framed unknownFrame :=
      ⟨by decide +kernel, by decide, by decide +kernel, rfl⟩
    exact ⟨_, (unsupported _).2 ⟨info, framed, .algorithm (by decide)⟩⟩

theorem decode_unknownFrame_not_badValue :
    decode unknownFrame = .error (.unknownAlgorithm [1, 2, 3, 4]) ∧
      ¬ ∀ octets, (∀ key, decode octets ≠ .ok key) →
        ∃ fault, decode octets = .error fault ∧ fault.category = .badValue := by
  have refused : decode unknownFrame = .error (.unknownAlgorithm [1, 2, 3, 4]) := by
    decide +kernel
  refine ⟨refused, ?_⟩
  intro always
  obtain ⟨fault, failed, bad⟩ := always unknownFrame (fun key => by simp [refused])
  cases refused.symm.trans failed
  cases bad

end PublicKey

end Missive.Der
