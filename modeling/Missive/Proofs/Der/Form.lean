import Mathlib
import Missive.Der.Form
import Missive.Proofs.Der.Reading

/-!
# What forms take

A row of fields with different identifiers takes exactly the parts that these
fields may have, one behind the other. A field that may be left out is never taken
for a later one, so it does not matter that no alternative is tried twice.
-/

set_option autoImplicit false

namespace Missive.Der.Form

variable {form inside : Form} {identifier : UInt8} {octets contents rest standard : Octets}

theorem fits_eq_true_iff : form.fits octets = true ↔ form octets = some [] := by
  simp [fits]

theorem exactly_eq_some_iff {written : Octets} :
    exactly written octets = some rest ↔ octets = written ++ rest := by
  unfold exactly
  constructor
  · intro took
    split at took
    · rename_i front
      cases took
      exact (List.prefix_iff_eq_append.1 (List.isPrefixOf_iff_prefix.1 front)).symm
    · cases took
  · rintro rfl
    simp

theorem holding_eq_some_iff {suits : Octets → Bool} :
    holding identifier suits octets = some rest ↔
      ∃ contents, suits contents = true ∧ octets = element identifier contents ++ rest := by
  simp only [← readNext?_eq_some_iff]
  unfold holding
  cases read : readNext? identifier octets with
  | none => simp
  | some found =>
      obtain ⟨contents, behind⟩ := found
      by_cases suited : suits contents <;> simp [suited]

theorem wrapped_eq_some_iff :
    wrapped identifier inside octets = some rest ↔
      ∃ contents, inside.fits contents = true ∧ octets = element identifier contents ++ rest :=
  holding_eq_some_iff

theorem optional_eq (form : Form) (octets : Octets) :
    optional form octets = some ((form octets).getD octets) := by
  unfold optional choice nothing
  cases took : form octets <;> simp [took]

/-- What may be left out is there or nothing is. -/
theorem fits_optional_iff (needed : form [] = none) :
    (optional form).fits octets = true ↔ form.fits octets = true ∨ octets = [] := by
  rw [fits_eq_true_iff, fits_eq_true_iff, optional_eq, Option.some.injEq]
  cases took : form octets with
  | none => simp
  | some rest =>
      simp only [Option.getD_some, Option.some.injEq, iff_self_or]
      rintro rfl
      rw [needed] at took
      cases took

theorem fits_row_cons_iff {forms : List Form} :
    (row (form :: forms)).fits octets = true ↔
      ∃ rest, form octets = some rest ∧ (row forms).fits rest = true := by
  simp only [fits_eq_true_iff, row, List.foldlM_cons, bind, Option.bind_eq_some_iff]

theorem fits_row_nil_iff : (row []).fits octets = true ↔ octets = [] := by
  simp [fits_eq_true_iff, row]

theorem fits_row_pair_iff {second : Form} :
    (row [form, second]).fits octets = true ↔
      ∃ rest, form octets = some rest ∧ second.fits rest = true := by
  simp only [fits_row_cons_iff, fits_row_nil_iff, exists_eq_right, ← fits_eq_true_iff]

theorem fits_sequence_iff {forms : List Form} :
    (sequence forms).fits octets = true ↔
      ∃ contents, (row forms).fits contents = true ∧
        octets = element sequenceIdentifier contents := by
  simp only [fits_eq_true_iff, sequence, wrapped_eq_some_iff, List.append_nil]

/-- What may stand in an element with an identifier that tells it from its neighbours. -/
structure Field where
  identifier : UInt8
  Suits : Octets → Prop

/-- A field is left out or told in one element. -/
inductive Field.Part (field : Field) : Octets → Prop where
  | left : field.Part []
  | told {contents : Octets} (suits : field.Suits contents) :
      field.Part (element field.identifier contents)

/-- A form takes a field where one is told, takes nothing where another element or
none stands, and takes nothing else. -/
structure Takes (form : Form) (field : Field) : Prop where
  told {contents rest : Octets} (suits : field.Suits contents) :
    form (element field.identifier contents ++ rest) = some rest
  left {octets : Octets} (apart : octets.head? ≠ some field.identifier) :
    form octets = some octets
  taken {octets rest : Octets} (took : form octets = some rest) :
    ∃ part, field.Part part ∧ octets = part ++ rest

theorem Takes.of_iff {field : Field} (takes : Takes form field) {suits : Octets → Prop}
    (same : ∀ contents, field.Suits contents ↔ suits contents) :
    Takes form ⟨field.identifier, suits⟩ := by
  obtain rfl : field.Suits = suits := funext fun contents => propext (same contents)
  exact takes

theorem wrapped_eq_none (apart : octets.head? ≠ some identifier) :
    wrapped identifier inside octets = none := by
  rw [Option.eq_none_iff_forall_ne_some]
  intro rest took
  obtain ⟨contents, _, rfl⟩ := wrapped_eq_some_iff.1 took
  exact apart rfl

theorem takes_optional (identifier : UInt8) (inside : Form) :
    Takes (optional (wrapped identifier inside)) ⟨identifier, (inside.fits · = true)⟩ where
  told suits := by
    rw [optional_eq, wrapped_eq_some_iff.2 ⟨_, suits, rfl⟩]
    rfl
  left apart := by
    rw [optional_eq, wrapped_eq_none apart]
    rfl
  taken {octets rest} took := by
    rw [optional_eq, Option.some.injEq] at took
    cases found : wrapped identifier inside octets with
    | none =>
        rw [found] at took
        exact ⟨[], .left, took⟩
    | some behind =>
        rw [found] at took
        cases took
        obtain ⟨contents, suits, rfl⟩ := wrapped_eq_some_iff.1 found
        exact ⟨_, .told suits, rfl⟩

/-- A field with a standard is not told where it is the standard. -/
theorem takes_orStandard (identifier : UInt8) (standard : Octets) (inside : Form) :
    Takes (orStandard (element identifier standard) (wrapped identifier inside))
      ⟨identifier, fun contents => contents ≠ standard ∧ inside.fits contents = true⟩ where
  told {contents rest} suits := by
    rw [orStandard, if_neg, (takes_optional identifier inside).told suits.2]
    rw [List.isPrefixOf_iff_prefix]
    intro ⟨behind, same⟩
    exact suits.1 (element_append_inj same).2.1.symm
  left {octets} apart := by
    rw [orStandard, if_neg, (takes_optional identifier inside).left apart]
    rw [List.isPrefixOf_iff_prefix]
    rintro ⟨behind, rfl⟩
    exact apart rfl
  taken {octets rest} took := by
    unfold orStandard at took
    split at took
    · cases took
    · rename_i unusual
      obtain ⟨part, isPart, rfl⟩ := (takes_optional identifier inside).taken took
      refine ⟨part, ?_, rfl⟩
      cases isPart with
      | left => exact .left
      | told suits =>
          refine .told ⟨?_, suits⟩
          rintro rfl
          exact unusual (List.isPrefixOf_iff_prefix.2 (List.prefix_append _ _))

private theorem head?_flatten {fields : List Field} {parts : List Octets} {first : UInt8}
    (told : List.Forall₂ Field.Part fields parts) (starts : parts.flatten.head? = some first) :
    first ∈ fields.map Field.identifier := by
  induction told with
  | nil => cases starts
  | cons part _ ih =>
      cases part with
      | left => exact List.mem_cons_of_mem _ (ih starts)
      | told suits =>
          cases starts
          exact List.mem_cons_self

/-- The induction is on the fields. A field that is left out is followed by fields with
other identifiers only, so its form takes nothing. -/
theorem fits_row_iff {forms : List Form} {fields : List Field}
    (taken : List.Forall₂ Takes forms fields) (distinct : (fields.map Field.identifier).Nodup) :
    (row forms).fits octets = true ↔
      ∃ parts, List.Forall₂ Field.Part fields parts ∧ octets = parts.flatten := by
  induction taken generalizing octets with
  | nil => simp [fits_row_nil_iff]
  | @cons form field forms fields takes _ ih =>
      obtain ⟨fresh, distinct⟩ := List.nodup_cons.1 distinct
      rw [fits_row_cons_iff]
      constructor
      · intro ⟨rest, took, fitting⟩
        obtain ⟨part, isPart, rfl⟩ := takes.taken took
        obtain ⟨parts, told, rfl⟩ := (ih distinct).1 fitting
        exact ⟨part :: parts, .cons isPart told, rfl⟩
      · rintro ⟨_, _ | ⟨isPart, told⟩, rfl⟩
        rename_i part parts
        refine ⟨parts.flatten, ?_, (ih distinct).2 ⟨parts, told, rfl⟩⟩
        cases isPart with
        | left => exact takes.left fun starts => fresh (head?_flatten told starts)
        | told suits => exact takes.told suits

end Missive.Der.Form
