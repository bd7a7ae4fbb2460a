import Mathlib
import Missive.Proofs.Der.Nesting

/-!
# Parameters of the RSA algorithms

Plain RSA has null or no parameters. RSA-PSS has none, or a sequence of four fields
that may each be left out, and of which three may not be told as their standard.
-/

set_option autoImplicit false

namespace Missive.Der

theorem Form.fits_number_iff {octets : Octets} {bits : Nat} :
    (Form.numberOfBits bits).fits octets = true ↔
      ∃ number, bitLength number ≤ bits ∧ octets = natural number := by
  simp only [Form.fits_eq_true_iff]
  unfold Form.numberOfBits
  constructor
  · intro took
    split at took
    · rename_i number rest read
      split at took
      · rename_i few
        cases took
        exact ⟨number, few, (readNatural?_eq_some_iff.1 read).trans (List.append_nil _)⟩
      · cases took
    · cases took
  · rintro ⟨number, few, rfl⟩
    rw [readNatural?_eq_some_iff.2 (List.append_nil _).symm]
    exact if_pos few

namespace Algorithm

variable {octets : Octets}

theorem hasParameters_rsaEncryption_iff :
    hasParameters ObjectIdentifier.rsaEncryption octets = true ↔
      octets = nullElement ∨ octets = [] := by
  have listed : ObjectIdentifier.rsaEncryption ∈ withNull := by decide
  rw [hasParameters, parameters, if_pos listed, Form.fits_optional_iff rfl, Form.fits_eq_true_iff,
    Form.null, Form.exactly_eq_some_iff, List.append_nil]

/-- An algorithm by name, behind which stand parameters that it has. -/
inductive Identified : Octets → Prop where
  | mk {name parameters : Octets} (spelled : (ObjectIdentifier.arcs? name).isSome = true)
      (fitting : hasParameters name parameters = true) : Identified (written name parameters)

private theorem fits_named_iff {algorithm : Form} :
    (named algorithm).fits octets = true ↔
      ∃ name rest, (ObjectIdentifier.arcs? name).isSome = true ∧
        (parameters algorithm name).fits rest = true ∧
        octets = element ObjectIdentifier.identifier name ++ rest := by
  simp only [Form.fits_eq_true_iff, ← readNext?_eq_some_iff]
  unfold named
  cases read : readNext? ObjectIdentifier.identifier octets with
  | none => simp
  | some found =>
      obtain ⟨name, rest⟩ := found
      by_cases spelled : (ObjectIdentifier.arcs? name).isSome = true <;> simp [spelled]

private theorem fits_unboundedForm_iff : unboundedForm.fits octets = true ↔ Identified octets := by
  rw [unboundedForm_eq, Form.fits_eq_true_iff, Form.wrapped_eq_some_iff]
  simp only [fits_named_iff, List.append_nil, ← hasParameters_eq]
  constructor
  · intro ⟨_, inside, same⟩
    obtain ⟨name, rest, spelled, fitting, rfl⟩ := inside
    rw [same]
    exact .mk spelled fitting
  · intro ⟨spelled, fitting⟩
    exact ⟨_, ⟨_, _, spelled, fitting, rfl⟩, rfl⟩

/-- The fields of the parameters of RSA-PSS: a hash, a mask generation by name and hash, the
octets of the salt, and a number. -/
def pssFields : List Form.Field :=
  let hash := written sha1 nullElement
  [⟨0xA0, fun contents => contents ≠ hash ∧ Identified contents⟩,
    ⟨0xA1, fun contents => contents ≠ written maskGeneration hash ∧
      ∃ name algorithm, (ObjectIdentifier.arcs? name).isSome = true ∧ Identified algorithm ∧
        contents = written name algorithm⟩,
    ⟨0xA2, fun contents => ∃ salt, salt ≠ 20 ∧ bitLength salt ≤ 16 ∧ contents = natural salt⟩,
    ⟨0xA3, fun contents => ∃ trailer, bitLength trailer ≤ 8 ∧ contents = natural trailer⟩]

/-- Parameters of RSA-PSS: none, or a sequence of its fields. -/
def PssParameters (octets : Octets) : Prop :=
  octets = [] ∨ ∃ parts, List.Forall₂ Form.Field.Part pssFields parts ∧
    octets = element sequenceIdentifier parts.flatten

private theorem fits_maskGeneration_iff {algorithm : Form} :
    (Form.sequence [.name, algorithm]).fits octets = true ↔
      ∃ name hash, (ObjectIdentifier.arcs? name).isSome = true ∧ algorithm.fits hash = true ∧
        octets = written name hash := by
  simp only [Form.fits_sequence_iff, Form.fits_row_pair_iff, Form.name, Form.holding_eq_some_iff,
    written]
  constructor
  · rintro ⟨_, ⟨hash, ⟨name, named, rfl⟩, fitting⟩, rfl⟩
    exact ⟨name, hash, named, fitting, rfl⟩
  · rintro ⟨name, hash, named, fitting, rfl⟩
    exact ⟨_, ⟨hash, ⟨name, named, rfl⟩, fitting⟩, rfl⟩

private theorem fits_salt_iff {standard bits : Nat} :
    (octets ≠ natural standard ∧ (Form.numberOfBits bits).fits octets = true) ↔
      ∃ salt, salt ≠ standard ∧ bitLength salt ≤ bits ∧ octets = natural salt := by
  rw [Form.fits_number_iff]
  constructor
  · rintro ⟨unusual, salt, few, rfl⟩
    exact ⟨salt, fun usual => unusual (congrArg natural usual), few, rfl⟩
  · rintro ⟨salt, unusual, few, rfl⟩
    exact ⟨fun usual => unusual (natural_injective usual), salt, few, rfl⟩

theorem fits_pssParameters_iff :
    (pssParameters unboundedForm).fits octets = true ↔
      ∃ parts, List.Forall₂ Form.Field.Part pssFields parts ∧
        octets = element sequenceIdentifier parts.flatten := by
  have hash := (Form.takes_orStandard 0xA0 (written sha1 nullElement) unboundedForm).of_iff
    fun _ => and_congr_right' fits_unboundedForm_iff
  have mask := (Form.takes_orStandard 0xA1 (written maskGeneration (written sha1 nullElement))
    (.sequence [.name, unboundedForm])).of_iff fun _ => and_congr_right' fits_maskGeneration_iff
  have salt := (Form.takes_orStandard 0xA2 (natural 20) (.numberOfBits 16)).of_iff
    fun _ => fits_salt_iff
  have trailer := (Form.takes_optional 0xA3 (.numberOfBits 8)).of_iff
    fun _ => Form.fits_number_iff
  simp only [fits_unboundedForm_iff] at mask
  have taken := List.Forall₂.cons hash (.cons mask (.cons salt (.cons trailer .nil)))
  have distinct : (pssFields.map Form.Field.identifier).Nodup := by
    show ([0xA0, 0xA1, 0xA2, 0xA3] : Octets).Nodup
    decide
  rw [pssParameters, Form.fits_sequence_iff]
  simp only [Form.fits_row_iff taken distinct]
  constructor
  · rintro ⟨_, ⟨parts, told, rfl⟩, rfl⟩
    exact ⟨parts, told, rfl⟩
  · rintro ⟨parts, told, rfl⟩
    exact ⟨_, ⟨parts, told, rfl⟩, rfl⟩

theorem hasParameters_rsassaPss_iff :
    hasParameters ObjectIdentifier.rsassaPss octets = true ↔ PssParameters octets := by
  have form_eq : parameters unboundedForm ObjectIdentifier.rsassaPss =
      .optional (pssParameters unboundedForm) := by
    rw [parameters, if_neg (by decide), if_neg (by decide)]
    rfl
  rw [hasParameters_eq, form_eq, Form.fits_optional_iff rfl, fits_pssParameters_iff, PssParameters,
    or_comm]

end Algorithm

end Missive.Der
