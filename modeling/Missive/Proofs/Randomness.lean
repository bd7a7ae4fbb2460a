import Mathlib
import Missive.Randomness

/-!
# Laws of drawing

A computation in steps succeeds exactly when each step does, and each step sees
the sizes that were asked for before it.
-/

set_option autoImplicit false

namespace Missive.Drawing

variable {First Second : Type} {source : Source} {past asked : List Int}

theorem bind_of_ok {drawing : Drawing First} {next : First → Drawing Second} {value : First}
    {between : List Int} (drawn : drawing source past = (.ok value, between)) :
    (drawing >>= next) source past = next value source between := by
  have step : (drawing >>= next) source past = andThen drawing next source past := rfl
  rw [step, andThen, drawn]

/-- Nothing more is asked for after a fault. -/
theorem bind_of_error {drawing : Drawing First} {next : First → Drawing Second} {fault : Fault}
    (failed : drawing source past = (.error fault, asked)) :
    (drawing >>= next) source past = (.error fault, asked) := by
  have step : (drawing >>= next) source past = andThen drawing next source past := rfl
  rw [step, andThen, failed]

theorem bind_eq_ok_iff {drawing : Drawing First} {next : First → Drawing Second}
    {result : Second} :
    (drawing >>= next) source past = (.ok result, asked) ↔
      ∃ value between, drawing source past = (.ok value, between) ∧
        next value source between = (.ok result, asked) := by
  rcases step : drawing source past with ⟨outcome, between⟩
  cases outcome with
  | ok value => simp [bind_of_ok step]
  | error fault => simp [bind_of_error step]

theorem pure_eq_ok_iff {value result : First} :
    (pure value : Drawing First) source past = (.ok result, asked) ↔
      value = result ∧ past = asked := by
  have step : (pure value : Drawing First) source past = (.ok value, past) := rfl
  simp [step]

theorem ofExcept_eq_ok_iff {outcome : Except Fault First} {result : First} :
    ofExcept outcome source past = (.ok result, asked) ↔ outcome = .ok result ∧ past = asked := by
  simp [ofExcept]

private theorem fail_ne_ok {fault : Fault} {result : First} :
    fail fault source past ≠ (.ok result, asked) := by
  simp [fail, ofExcept]

theorem sized_eq_ok_iff {size : Nat} {drawn : Sized size} :
    sized size source past = (.ok drawn, asked) ↔
      source.reply past size = drawn.octets ∧ past ++ [(size : Int)] = asked := by
  unfold sized
  rw [bind_eq_ok_iff]
  constructor
  · intro ⟨reply, between, replied, checked⟩
    cases replied
    cases fitting : Sized.ofOctets? size (source.reply past size) with
    | none =>
        simp only [fitting] at checked
        exact absurd checked fail_ne_ok
    | some found =>
        simp only [fitting] at checked
        obtain ⟨rfl, rfl⟩ := pure_eq_ok_iff.1 checked
        exact ⟨Sized.ofOctets?_eq_some_iff.1 fitting, rfl⟩
  · intro ⟨replied, grown⟩
    refine ⟨drawn.octets, asked, ?_, ?_⟩
    · rw [request, replied, grown]
    · rw [Sized.ofOctets?_octets]
      exact pure_eq_ok_iff.2 ⟨rfl, rfl⟩

theorem sized_of_length_ne {size : Nat} (other : (source.reply past size).length ≠ size) :
    sized size source past =
      (.error (.replyLength (source.reply past size).length size), past ++ [(size : Int)]) := by
  have unfitting : Sized.ofOctets? size (source.reply past size) = none := dif_neg other
  have replied : request size source past = (.ok (source.reply past size), past ++ [(size : Int)]) :=
    rfl
  rw [sized, bind_of_ok replied]
  simp only [unfitting]
  rfl

end Missive.Drawing
