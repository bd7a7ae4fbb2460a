import Mathlib
import Missive.Proofs.Text.Utf8

/-! The run of surrogates that is reported of a text, by its place in the text alone.
No search is mentioned: the run is the first one and goes on as long as it can, and two
runs with these properties are the same. A run may end the text. -/

set_option autoImplicit false

namespace Missive.Text

variable {text : Text} {point : CodePoint} {run other : SurrogateRun}

/-- The run is made of surrogates, and a code point that stands before it or next behind
it is none. -/
structure SurrogateRun.IsFirst (run : SurrogateRun) (text : Text) : Prop where
  ordered : run.first ≤ run.last
  leads : text[run.first]? = some run.leading
  before : ∀ index < run.first, ∀ point, text[index]? = some point → ¬ point.IsSurrogate
  within : ∀ index, run.first ≤ index → index ≤ run.last →
    ∃ point, text[index]? = some point ∧ point.IsSurrogate
  behind : ∀ point, text[run.last + 1]? = some point → ¬ point.IsSurrogate

/-- The same run, one place further on. -/
private def SurrogateRun.moved (run : SurrogateRun) : SurrogateRun :=
  ⟨run.first + 1, run.last + 1, run.leading⟩

private theorem SurrogateRun.IsFirst.cons (isFirst : run.IsFirst text)
    (plain : ¬ point.IsSurrogate) :
    run.moved.IsFirst (point :: text) where
  ordered := Nat.succ_le_succ isFirst.ordered
  leads := isFirst.leads
  before := by
    intro index smaller found atIndex
    cases index with
    | zero =>
        cases atIndex
        exact plain
    | succ index => exact isFirst.before index (Nat.lt_of_succ_lt_succ smaller) found atIndex
  within := by
    intro index lower upper
    cases index with
    | zero => cases lower
    | succ index =>
        exact isFirst.within index (Nat.le_of_succ_le_succ lower) (Nat.le_of_succ_le_succ upper)
  behind := isFirst.behind

/-- How many surrogates a text starts with. -/
private def leadingSurrogates (text : Text) : Nat :=
  (text.takeWhile fun point => decide point.IsSurrogate).length

private theorem leadingSurrogates_cons_of_surrogate (surrogate : point.IsSurrogate) :
    leadingSurrogates (point :: text) = text.leadingSurrogates + 1 := by
  simp [leadingSurrogates, surrogate]

private theorem leadingSurrogates_cons_of_plain (plain : ¬ point.IsSurrogate) :
    leadingSurrogates (point :: text) = 0 := by
  simp [leadingSurrogates, plain]

private theorem exists_surrogate_of_lt {index : Nat} (small : index < text.leadingSurrogates) :
    ∃ point, text[index]? = some point ∧ point.IsSurrogate := by
  induction text generalizing index with
  | nil => cases small
  | cons head text ih =>
      by_cases surrogate : head.IsSurrogate
      · rw [leadingSurrogates_cons_of_surrogate surrogate] at small
        cases index with
        | zero => exact ⟨head, rfl, surrogate⟩
        | succ index => exact ih (Nat.lt_of_succ_lt_succ small)
      · rw [leadingSurrogates_cons_of_plain surrogate] at small
        cases small

private theorem plain_behind_leadingSurrogates (next : text[text.leadingSurrogates]? = some point) :
    ¬ point.IsSurrogate := by
  induction text with
  | nil => cases next
  | cons head text ih =>
      by_cases surrogate : head.IsSurrogate
      · rw [leadingSurrogates_cons_of_surrogate surrogate] at next
        exact ih next
      · rw [leadingSurrogates_cons_of_plain surrogate] at next
        cases next
        exact surrogate

private theorem surrogateRun?_cons_of_surrogate (surrogate : point.IsSurrogate) :
    surrogateRun? (point :: text) = some ⟨0, text.leadingSurrogates, point⟩ := by
  simp [surrogateRun?, leadingSurrogates, surrogate]

private theorem surrogateRun?_cons_of_plain (plain : ¬ point.IsSurrogate) :
    surrogateRun? (point :: text) = text.surrogateRun?.map SurrogateRun.moved := by
  unfold surrogateRun?
  simp only [List.dropWhile_cons, List.takeWhile_cons, plain, decide_false, Bool.not_false,
    ↓reduceIte, List.length_cons]
  cases text.dropWhile fun point => !decide point.IsSurrogate with
  | nil => rfl
  | cons leading rest => simp [SurrogateRun.moved, Nat.add_right_comm]

private theorem isFirst_of_surrogateRun? (found : text.surrogateRun? = some run) :
    run.IsFirst text := by
  induction text generalizing run with
  | nil => cases found
  | cons head text ih =>
      by_cases surrogate : head.IsSurrogate
      · rw [surrogateRun?_cons_of_surrogate surrogate] at found
        cases found
        refine ⟨Nat.zero_le _, rfl, ?_, ?_, ?_⟩
        · intro index smaller
          cases smaller
        · intro index _ upper
          cases index with
          | zero => exact ⟨head, rfl, surrogate⟩
          | succ index =>
              have small : index < leadingSurrogates text := upper
              obtain ⟨point, atIndex, member⟩ := exists_surrogate_of_lt small
              exact ⟨point, atIndex, member⟩
        · intro point next
          exact plain_behind_leadingSurrogates next
      · rw [surrogateRun?_cons_of_plain surrogate, Option.map_eq_some_iff] at found
        obtain ⟨behind, found, rfl⟩ := found
        exact (ih found).cons surrogate

/-- Of two runs that start together neither ends first: what stands behind one would be a
surrogate of the other. -/
private theorem SurrogateRun.IsFirst.last_le (isFirst : run.IsFirst text)
    (otherIsFirst : other.IsFirst text)
    (same : run.first = other.first) : other.last ≤ run.last := by
  by_contra longer
  have lower : other.first ≤ run.last + 1 := by
    have ordered := isFirst.ordered
    omega
  obtain ⟨point, next, surrogate⟩ := otherIsFirst.within (run.last + 1) lower (Nat.lt_of_not_le longer)
  exact isFirst.behind point next surrogate

private theorem SurrogateRun.IsFirst.first_le (isFirst : run.IsFirst text)
    (otherIsFirst : other.IsFirst text) : other.first ≤ run.first := by
  by_contra earlier
  obtain ⟨point, leads, surrogate⟩ := isFirst.within run.first (Nat.le_refl _) isFirst.ordered
  exact otherIsFirst.before run.first (Nat.lt_of_not_le earlier) point leads surrogate

theorem SurrogateRun.IsFirst.unique (isFirst : run.IsFirst text)
    (otherIsFirst : other.IsFirst text) : run = other := by
  have firsts := Nat.le_antisymm (otherIsFirst.first_le isFirst) (isFirst.first_le otherIsFirst)
  have lasts := Nat.le_antisymm (otherIsFirst.last_le isFirst firsts.symm)
    (isFirst.last_le otherIsFirst firsts)
  have leads := isFirst.leads
  rw [firsts, otherIsFirst.leads, Option.some.injEq] at leads
  cases run
  cases other
  simp_all

private theorem SurrogateRun.IsFirst.exists_surrogate (isFirst : run.IsFirst text) :
    ∃ point ∈ text, point.IsSurrogate := by
  obtain ⟨point, leads, surrogate⟩ := isFirst.within run.first (Nat.le_refl _) isFirst.ordered
  exact ⟨point, List.mem_of_getElem? leads, surrogate⟩

/-- A text has the run that is found in it and no other. -/
theorem surrogateRun?_eq_some_iff : text.surrogateRun? = some run ↔ run.IsFirst text := by
  constructor
  · exact isFirst_of_surrogateRun?
  · intro isFirst
    cases found : text.surrogateRun? with
    | some other => rw [(isFirst_of_surrogateRun? found).unique isFirst]
    | none =>
        obtain ⟨point, member, surrogate⟩ := isFirst.exists_surrogate
        exact absurd surrogate (surrogateRun?_eq_none_iff.1 found point member)

theorem exists_isFirst_iff :
    (∃ run : SurrogateRun, run.IsFirst text) ↔ ∃ point ∈ text, point.IsSurrogate := by
  constructor
  · rintro ⟨run, isFirst⟩
    exact isFirst.exists_surrogate
  · rintro ⟨point, member, surrogate⟩
    cases found : text.surrogateRun? with
    | some run => exact ⟨run, surrogateRun?_eq_some_iff.1 found⟩
    | none => exact absurd surrogate (surrogateRun?_eq_none_iff.1 found point member)

/-- Writing a text fails with the first run of surrogates in it. -/
theorem encode_eq_error_iff_isFirst : Utf8.encode text = .error run ↔ run.IsFirst text := by
  rw [← surrogateRun?_eq_some_iff, Utf8.encode]
  cases text.surrogateRun? <;> simp

end Missive.Text
