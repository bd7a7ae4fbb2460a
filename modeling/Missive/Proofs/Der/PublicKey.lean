import Mathlib
import Missive.Der.PublicKey
import Missive.Proofs.Der.Algorithm
import Missive.Proofs.Der.Frame

/-!
# Keys and their written forms

Two numbers have a few written forms as a key of RSA, which differ in the frame around
them. A key is read from these and from nothing else, so what is written for it is read
back, and nothing can stand behind it.
-/

set_option autoImplicit false

namespace Missive

variable {key : Rsa.PublicKey} {modulus publicExponent : Nat}

theorem Rsa.PublicKey.ofNumbers_eq_ok_iff :
    ofNumbers modulus publicExponent = .ok key ↔
      modulus = key.modulus ∧ publicExponent = key.publicExponent := by
  have lower := key.three_le_publicExponent
  have upper := key.publicExponent_lt_modulus
  have odd := key.publicExponent_odd
  unfold ofNumbers
  constructor
  · intro made
    split_ifs at made with small range parity
    cases made
    exact ⟨rfl, rfl⟩
  · intro ⟨modulusSame, exponentSame⟩
    subst modulusSame exponentSame
    rw [if_neg (by omega), dif_pos ⟨lower, upper⟩, dif_pos odd]

/-- Two numbers make a key exactly when they are in range and the exponent is odd. -/
theorem Rsa.PublicKey.exists_ofNumbers_iff :
    (∃ key, ofNumbers modulus publicExponent = .ok key) ↔
      3 ≤ publicExponent ∧ publicExponent < modulus ∧ publicExponent % 2 = 1 := by
  constructor
  · intro ⟨key, made⟩
    obtain ⟨rfl, rfl⟩ := ofNumbers_eq_ok_iff.1 made
    exact ⟨key.three_le_publicExponent, key.publicExponent_lt_modulus, key.publicExponent_odd⟩
  · intro ⟨lower, upper, odd⟩
    exact ⟨⟨modulus, publicExponent, lower, upper, odd⟩, ofNumbers_eq_ok_iff.2 ⟨rfl, rfl⟩⟩

namespace Der.PublicKey

variable {octets parameters : Octets}

theorem readNumbers?_eq_some_iff :
    readNumbers? octets = some (modulus, publicExponent) ↔
      octets = numbers modulus publicExponent := by
  simp only [readNumbers?, bind, Option.bind_eq_some_iff, Prod.exists, readOnly?_eq_some_iff,
    readNatural?_eq_some_iff]
  constructor
  · rintro ⟨body, rfl, first, rest, rfl, second, behind, rfl, read⟩
    split at read
    · rename_i nothing
      cases read
      rw [nothing, List.append_nil, numbers]
    · cases read
  · rintro rfl
    exact ⟨_, rfl, _, _, rfl, _, [], (List.append_nil _).symm, if_pos rfl⟩

private theorem ofNumbers_numbers (modulus publicExponent : Nat) :
    ofNumbers (numbers modulus publicExponent) =
      Rsa.PublicKey.ofNumbers modulus publicExponent := by
  rw [ofNumbers, readNumbers?_eq_some_iff.2 rfl]

theorem ofNumbers_eq_ok_iff :
    ofNumbers octets = .ok key ↔ octets = numbers key.modulus key.publicExponent := by
  rw [← readNumbers?_eq_some_iff]
  unfold ofNumbers
  cases read : readNumbers? octets with
  | none => simp
  | some found =>
      obtain ⟨modulus, publicExponent⟩ := found
      simp only [Rsa.PublicKey.ofNumbers_eq_ok_iff, Option.some.injEq, Prod.mk.injEq]

/-- The frame of two numbers under an algorithm with its parameters. -/
def framed (algorithm parameters : Octets) (modulus publicExponent : Nat) : Octets :=
  KeyInfo.encode ⟨algorithm, parameters, .ofOctets (numbers modulus publicExponent)⟩

/-- The octets in which two numbers are written as a key of RSA. Only under RSA-PSS
is there a choice of more than two for the parameters. -/
inductive Written (modulus publicExponent : Nat) : Octets → Prop where
  | plain : Written modulus publicExponent
      (framed ObjectIdentifier.rsaEncryption nullElement modulus publicExponent)
  | unparametrized : Written modulus publicExponent
      (framed ObjectIdentifier.rsaEncryption [] modulus publicExponent)
  | pss {parameters : Octets} (admitted : Algorithm.PssParameters parameters) :
      Written modulus publicExponent
        (framed ObjectIdentifier.rsassaPss parameters modulus publicExponent)
  | bare : Written modulus publicExponent (numbers modulus publicExponent)

private theorem Written.eq_element (written : Written modulus publicExponent octets) :
    ∃ contents, octets = element sequenceIdentifier contents := by
  cases written <;> exact ⟨_, rfl⟩

theorem Written.framed_or_numbers (written : Written modulus publicExponent octets) :
    (∃ algorithm parameters,
      (algorithm = ObjectIdentifier.rsaEncryption ∨ algorithm = ObjectIdentifier.rsassaPss) ∧
        octets = framed algorithm parameters modulus publicExponent) ∨
      octets = numbers modulus publicExponent := by
  cases written with
  | plain | unparametrized => exact .inl ⟨_, _, .inl rfl, rfl⟩
  | pss => exact .inl ⟨_, _, .inr rfl, rfl⟩
  | bare => exact .inr rfl

/-- A number stands where a frame has its algorithm. -/
theorem read?_numbers (modulus publicExponent : Nat) :
    KeyInfo.read? (numbers modulus publicExponent) = none := by
  rw [Option.eq_none_iff_forall_ne_some]
  intro info read
  obtain ⟨same, _⟩ := KeyInfo.read?_eq_some_iff.1 read
  obtain ⟨_, bodies, _⟩ := element_append_inj (congrArg (· ++ []) same)
  obtain ⟨identifiers, _⟩ := element_append_inj bodies
  exact absurd identifiers (by decide)

theorem ofKeyInfo_eq_ok_iff {info : KeyInfo} :
    ofKeyInfo info = .ok key ↔
      info.key.idle = 0 ∧
        (info.algorithm = ObjectIdentifier.rsaEncryption ∨
          info.algorithm = ObjectIdentifier.rsassaPss) ∧
        info.key.octets = numbers key.modulus key.publicExponent := by
  rw [← ofNumbers_eq_ok_iff]
  unfold ofKeyInfo
  split_ifs with idle rsa
  · simp [idle]
  · simp [rsa, not_not.1 idle]
  · simp [rsa]

private theorem eq_framed {info : KeyInfo} (whole : info.key.idle = 0)
    (held : info.key.octets = numbers modulus publicExponent) :
    info.encode = framed info.algorithm info.parameters modulus publicExponent := by
  obtain ⟨algorithm, parameters, ⟨idle, octets, idle_lt, ends_idle⟩⟩ := info
  subst whole held
  rfl

private theorem decode_framed {algorithm : Octets}
    (rsa : algorithm = ObjectIdentifier.rsaEncryption ∨ algorithm = ObjectIdentifier.rsassaPss)
    (fitting : Algorithm.hasParameters algorithm parameters = true) :
    decode (framed algorithm parameters modulus publicExponent) =
      Rsa.PublicKey.ofNumbers modulus publicExponent := by
  have named : (ObjectIdentifier.arcs? algorithm).isSome = true := by
    obtain rfl | rfl := rsa <;> decide
  rw [decode, framed, KeyInfo.read?_eq_some_iff.2 ⟨rfl, named, fitting⟩]
  exact (if_neg (not_not.2 rfl)).trans ((if_pos rsa).trans (ofNumbers_numbers _ _))

/-- Two numbers in a written form are judged, and nothing else about the form is. -/
theorem decode_of_written (written : Written modulus publicExponent octets) :
    decode octets = Rsa.PublicKey.ofNumbers modulus publicExponent := by
  cases written with
  | plain =>
      exact decode_framed (.inl rfl) (Algorithm.hasParameters_rsaEncryption_iff.2 (.inl rfl))
  | unparametrized =>
      exact decode_framed (.inl rfl) (Algorithm.hasParameters_rsaEncryption_iff.2 (.inr rfl))
  | pss admitted =>
      exact decode_framed (.inr rfl) (Algorithm.hasParameters_rsassaPss_iff.2 admitted)
  | bare =>
      rw [decode, read?_numbers]
      exact ofNumbers_numbers _ _

/-- A key is read from its written forms and from nothing else. -/
theorem decode_eq_ok_iff :
    decode octets = .ok key ↔ Written key.modulus key.publicExponent octets := by
  constructor
  · intro decoded
    unfold decode at decoded
    cases read : KeyInfo.read? octets with
    | none =>
        rw [read] at decoded
        rw [ofNumbers_eq_ok_iff.1 decoded]
        exact .bare
    | some info =>
        rw [read] at decoded
        obtain ⟨rfl, _, fitting⟩ := KeyInfo.read?_eq_some_iff.1 read
        obtain ⟨whole, rsa, held⟩ := ofKeyInfo_eq_ok_iff.1 decoded
        rw [eq_framed whole held]
        obtain plain | pss := rsa
        · rw [plain] at fitting ⊢
          obtain null | absent := Algorithm.hasParameters_rsaEncryption_iff.1 fitting
          · rw [null]
            exact .plain
          · rw [absent]
            exact .unparametrized
        · rw [pss] at fitting ⊢
          exact .pss (Algorithm.hasParameters_rsassaPss_iff.1 fitting)
  · intro written
    exact (decode_of_written written).trans (Rsa.PublicKey.ofNumbers_eq_ok_iff.2 ⟨rfl, rfl⟩)

theorem decode_encode_eq (key : Rsa.PublicKey) : decode (encode key) = .ok key :=
  decode_eq_ok_iff.2 .plain

theorem encode_injective : Function.Injective encode := by
  intro key other same
  have decoded := decode_encode_eq key
  rw [same, decode_encode_eq other] at decoded
  exact (Except.ok.inj decoded).symm

/-- Octets from which a key is read are one element, with nothing behind it. -/
theorem eq_of_decode_prefix {other : Rsa.PublicKey} {longer : Octets}
    (decoded : decode octets = .ok key) (decodedLonger : decode longer = .ok other)
    (front : octets <+: longer) : longer = octets := by
  obtain ⟨contents, rfl⟩ := (decode_eq_ok_iff.1 decoded).eq_element
  obtain ⟨longerContents, rfl⟩ := (decode_eq_ok_iff.1 decodedLonger).eq_element
  obtain ⟨behind, same⟩ := front
  rw [← List.append_nil (element _ longerContents)] at same
  obtain ⟨_, rfl, _⟩ := element_append_inj same
  rfl

/-- A key is read back from what is written for it, however large its numbers are and
whether or not its modulus is odd. Hence no two keys are written alike, and nothing
that is read as a key starts with what is written for another. -/
theorem decode_encode (key : Rsa.PublicKey) :
    decode (encode key) = .ok key ∧
    (∀ other : Rsa.PublicKey, encode other = encode key → other = key) ∧
    ∀ (octets : Octets) (other : Rsa.PublicKey), decode octets = .ok other →
      encode key <+: octets → octets = encode key := by
  refine ⟨decode_encode_eq key, fun _ same => encode_injective same, ?_⟩
  intro octets other decoded front
  exact eq_of_decode_prefix (decode_encode_eq key) decoded front

/-- A key whose modulus is even and has as many bits as its octets hold. -/
def evenKey : Rsa.PublicKey where
  modulus := 2 ^ 1023
  publicExponent := 129
  three_le_publicExponent := by decide
  publicExponent_lt_modulus := by decide +kernel
  publicExponent_odd := by decide

/-- The smallest key whose modulus has two odd factors. -/
def fifteenKey : Rsa.PublicKey where
  modulus := 15
  publicExponent := 3
  three_le_publicExponent := by decide
  publicExponent_lt_modulus := by decide
  publicExponent_odd := by decide

theorem decode_encode_evenKey :
    decode (encode evenKey) = .ok evenKey ∧ encode fifteenKey ≠ encode evenKey ∧
      ∀ (last : UInt8) (other : Rsa.PublicKey), decode (encode evenKey ++ [last]) ≠ .ok other := by
  obtain ⟨read, unique, whole⟩ := decode_encode evenKey
  have different : fifteenKey ≠ evenKey := by decide +kernel
  refine ⟨read, fun same => different (unique fifteenKey same), ?_⟩
  intro last other decoded
  simpa using whole _ other decoded (List.prefix_append _ _)

end Der.PublicKey

end Missive
