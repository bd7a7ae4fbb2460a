import Mathlib
import Missive.Der.Algorithm
import Missive.Proofs.Der.Form

/-!
# Algorithms however deep

The form of an algorithm bounds how deep algorithms stand in one another. Each of
them takes octets of its own, so a bound that covers the octets never decides: below
it the form is the unbounded one, which goes on in itself.
-/

set_option autoImplicit false

namespace Missive.Der

namespace Form

variable {form other : Form} {identifier : UInt8} {standard : Octets} {size : Nat}

/-- Two forms that lead to the same place from octets of a bounded number. -/
private def AgreeUpTo (size : Nat) (form other : Form) : Prop :=
  ∀ octets : Octets, octets.length ≤ size → form octets = other octets

/-- A form leads to octets that are no more than the ones it is given. -/
private def Consumes (form : Form) : Prop :=
  ∀ octets rest : Octets, form octets = some rest → rest.length ≤ octets.length

private theorem AgreeUpTo.refl (size : Nat) (form : Form) : AgreeUpTo size form form :=
  fun _ _ => rfl

private theorem AgreeUpTo.fits_eq {octets : Octets} (agree : AgreeUpTo size form other)
    (covered : octets.length ≤ size) : form.fits octets = other.fits octets := by
  rw [fits, fits, agree octets covered]

/-- An element is longer than what stands in it, hence the inner forms need to agree on
one octet less. -/
private theorem AgreeUpTo.wrapped (agree : AgreeUpTo size form other) (identifier : UInt8) :
    AgreeUpTo (size + 1) (Form.wrapped identifier form) (Form.wrapped identifier other) := by
  intro octets covered
  apply Option.ext
  intro rest
  simp only [wrapped_eq_some_iff]
  apply exists_congr
  intro contents
  apply and_congr_left
  rintro rfl
  rw [agree.fits_eq]
  simp only [element, List.length_append, List.length_cons] at covered
  omega

private theorem AgreeUpTo.of_le {larger : Nat} (agree : AgreeUpTo larger form other)
    (le : size ≤ larger) : AgreeUpTo size form other :=
  fun octets covered => agree octets (covered.trans le)

private theorem AgreeUpTo.optional (agree : AgreeUpTo size form other) :
    AgreeUpTo size (Form.optional form) (Form.optional other) := by
  intro octets covered
  rw [optional_eq, optional_eq, agree octets covered]

private theorem AgreeUpTo.orStandard (agree : AgreeUpTo size form other) (standard : Octets) :
    AgreeUpTo size (Form.orStandard standard form) (Form.orStandard standard other) := by
  intro octets covered
  rw [Form.orStandard, Form.orStandard, agree.optional octets covered]

private theorem consumes_holding (identifier : UInt8) (suits : Octets → Bool) :
    Consumes (holding identifier suits) := by
  intro octets rest took
  obtain ⟨contents, _, rfl⟩ := holding_eq_some_iff.1 took
  simp

private theorem consumes_numberOfBits (bits : Nat) : Consumes (numberOfBits bits) := by
  intro octets rest took
  unfold numberOfBits at took
  split at took
  · rename_i number behind read
    split at took
    · cases took
      simp [readNatural?_eq_some_iff.1 read]
    · cases took
  · cases took

private theorem Consumes.optional (consumes : Consumes form) : Consumes (Form.optional form) := by
  intro octets rest took
  rw [optional_eq, Option.some.injEq] at took
  subst took
  cases found : form octets with
  | none => exact le_rfl
  | some behind => exact consumes _ _ found

private theorem Consumes.orStandard (consumes : Consumes form) (standard : Octets) :
    Consumes (Form.orStandard standard form) := by
  intro octets rest took
  unfold Form.orStandard at took
  split at took
  · cases took
  · exact consumes.optional _ _ took

/-- The induction is on the forms. Each of them leaves no more than it is given, so the
next one stands before octets on which it agrees. -/
private theorem AgreeUpTo.row {forms others : List Form}
    (alike : List.Forall₂ (fun form other => AgreeUpTo size form other ∧ Consumes form)
      forms others) :
    AgreeUpTo size (Form.row forms) (Form.row others) := by
  induction alike with
  | nil => exact .refl _ _
  | @cons form other forms others front _ ih =>
      obtain ⟨agree, consumes⟩ := front
      intro octets covered
      simp only [Form.row, List.foldlM_cons, ← agree octets covered]
      cases took : form octets with
      | none => rfl
      | some rest => exact ih rest ((consumes _ _ took).trans covered)

private theorem AgreeUpTo.sequence {forms others : List Form}
    (alike : List.Forall₂ (fun form other => AgreeUpTo size form other ∧ Consumes form)
      forms others) :
    AgreeUpTo size (Form.sequence forms) (Form.sequence others) :=
  ((AgreeUpTo.row alike).wrapped _).of_le (Nat.le_succ size)

/-- Tables with the same names, under which forms agree, lead to forms that agree. -/
private theorem AgreeUpTo.lookup {table others : List (Octets × Form)}
    (alike : List.Forall₂ (fun entry other => entry.1 = other.1 ∧ AgreeUpTo size entry.2 other.2)
      table others) (name : Octets) (fallback : Form) :
    AgreeUpTo size ((table.lookup name).getD fallback) ((others.lookup name).getD fallback) := by
  induction alike with
  | nil => exact .refl _ _
  | @cons entry other table others front _ ih =>
      obtain ⟨key, form⟩ := entry
      obtain ⟨_, otherForm⟩ := other
      obtain ⟨rfl, agree⟩ := front
      simp only [List.lookup_cons]
      cases name == key with
      | true => exact agree
      | false => exact ih

end Form

namespace Algorithm

open Form

variable {algorithm other : Form} {size depth : Nat}

private theorem agree_pssParameters (agree : AgreeUpTo size algorithm other)
    (consumes : Consumes algorithm) :
    AgreeUpTo size (pssParameters algorithm) (pssParameters other) := by
  have mask : AgreeUpTo size (.sequence [.name, algorithm]) (.sequence [.name, other]) :=
    .sequence (.cons ⟨.refl _ _, consumes_holding _ _⟩ (.cons ⟨agree, consumes⟩ .nil))
  have inside {form otherForm : Form} (agree : AgreeUpTo size form otherForm)
      (identifier : UInt8) (standard : Octets) :
      AgreeUpTo size (.orStandard standard (.wrapped identifier form))
          (.orStandard standard (.wrapped identifier otherForm)) ∧
        Consumes (.orStandard standard (.wrapped identifier form)) :=
    ⟨((agree.wrapped identifier).of_le (Nat.le_succ size)).orStandard standard,
      (consumes_holding _ _).orStandard standard⟩
  exact .sequence (.cons (inside agree _ _) (.cons (inside mask _ _)
    (.cons (inside (.refl _ _) _ _)
      (.cons ⟨.refl _ _, (consumes_holding _ _).optional⟩ .nil))))

/-- Where the algorithms among them agree, so do the parameters of any name. -/
private theorem agree_parameters (agree : AgreeUpTo size algorithm other)
    (consumes : Consumes algorithm) (name : Octets) :
    AgreeUpTo size (parameters algorithm name) (parameters other name) := by
  have tables : List.Forall₂
      (fun entry other => entry.1 = other.1 ∧ AgreeUpTo size entry.2 other.2)
      (structured algorithm) (structured other) := by
    have same (entry : Octets × Form) : entry.1 = entry.1 ∧ AgreeUpTo size entry.2 entry.2 :=
      ⟨rfl, .refl _ _⟩
    have derivation : AgreeUpTo size
        (.sequence [.octetString, .numberOfBits 64, .optional (.numberOfBits 64),
          .orStandard (written hmacSha1 nullElement) algorithm])
        (.sequence [.octetString, .numberOfBits 64, .optional (.numberOfBits 64),
          .orStandard (written hmacSha1 nullElement) other]) :=
      .sequence (.cons ⟨.refl _ _, consumes_holding _ _⟩
        (.cons ⟨.refl _ _, consumes_numberOfBits _⟩
          (.cons ⟨.refl _ _, (consumes_numberOfBits _).optional⟩
            (.cons ⟨agree.orStandard _, consumes.orStandard _⟩ .nil))))
    have scheme : AgreeUpTo size (.sequence [algorithm, algorithm]) (.sequence [other, other]) :=
      .sequence (.cons ⟨agree, consumes⟩ (.cons ⟨agree, consumes⟩ .nil))
    unfold structured
    exact .cons ⟨rfl, (agree_pssParameters agree consumes).optional⟩ <|
      .cons (same _) <| .cons (same _) <| .cons (same _) <| .cons (same _) <|
      .cons (same _) <| .cons (same _) <| .cons (same _) <| .cons (same _) <|
      .cons ⟨rfl, derivation⟩ <| .cons ⟨rfl, scheme⟩ <|
      .cons (same _) <| .cons (same _) <| .cons (same _) <| .cons (same _) <|
      .cons (same _) <| .cons (same _) .nil
  intro octets covered
  unfold parameters
  split_ifs
  · rfl
  · rfl
  · exact AgreeUpTo.lookup tables name _ octets covered

private theorem consumes_form (depth : Nat) : Consumes (form depth) := by
  intro octets rest took
  cases depth with
  | zero => cases took
  | succ depth => exact consumes_holding _ _ _ _ took

/-- A name in front, and behind it parameters that it calls for. -/
def named (algorithm : Form) : Form := fun octets =>
  match readNext? ObjectIdentifier.identifier octets with
  | some (name, rest) =>
    if (ObjectIdentifier.arcs? name).isSome then parameters algorithm name rest else none
  | none => none

private theorem form_succ (depth : Nat) :
    form (depth + 1) = .wrapped sequenceIdentifier (named (form depth)) :=
  rfl

private theorem agree_named (agree : AgreeUpTo size algorithm other)
    (consumes : Consumes algorithm) :
    AgreeUpTo size (named algorithm) (named other) := by
  intro octets covered
  unfold named
  split
  · rename_i name rest read
    have behind : rest.length ≤ octets.length := by simp [readNext?_eq_some_iff.1 read]
    split_ifs
    · exact agree_parameters agree consumes name rest (behind.trans covered)
    · rfl
  · rfl

private theorem form_nil (depth : Nat) : form depth [] = none := by
  cases depth with
  | zero => rfl
  | succ depth =>
      rw [form_succ]
      exact wrapped_eq_none (Option.some_ne_none _).symm

/-- Two bounds that cover the octets lead to the same place. The induction is on the
number of octets: an algorithm among the parameters has fewer. -/
private theorem agree_form {first second : Nat} (coversFirst : size ≤ first)
    (coversSecond : size ≤ second) : AgreeUpTo size (form first) (form second) := by
  induction size generalizing first second with
  | zero =>
      intro octets covered
      obtain rfl := List.length_eq_zero_iff.1 (Nat.le_zero.1 covered)
      rw [form_nil, form_nil]
  | succ size ih =>
      obtain ⟨first, rfl⟩ := Nat.exists_eq_succ_of_ne_zero (show first ≠ 0 by omega)
      obtain ⟨second, rfl⟩ := Nat.exists_eq_succ_of_ne_zero (show second ≠ 0 by omega)
      have inner := ih (Nat.le_of_succ_le_succ coversFirst) (Nat.le_of_succ_le_succ coversSecond)
      rw [form_succ, form_succ]
      exact (agree_named inner (consumes_form first)).wrapped sequenceIdentifier

/-- An algorithm with algorithms in one another among its parameters, however deep. -/
def unboundedForm : Form := fun octets =>
  form octets.length octets

private theorem agree_unboundedForm (depth : Nat) : AgreeUpTo depth (form depth) unboundedForm := by
  intro octets covered
  exact agree_form covered le_rfl octets le_rfl

/-- The unbounded form goes on in itself. -/
theorem unboundedForm_eq :
    unboundedForm = .wrapped sequenceIdentifier (named unboundedForm) := by
  funext octets
  have inner := agree_named (agree_unboundedForm octets.length) (consumes_form _)
  rw [← inner.wrapped sequenceIdentifier octets (Nat.le_succ _), ← form_succ]
  exact agree_form le_rfl (Nat.le_succ _) octets le_rfl

/-- The bound on depth never decides which parameters an algorithm has. -/
theorem hasParameters_eq (name octets : Octets) :
    hasParameters name octets = (parameters unboundedForm name).fits octets :=
  (agree_parameters (agree_unboundedForm octets.length) (consumes_form _) name).fits_eq le_rfl

end Algorithm

end Missive.Der
