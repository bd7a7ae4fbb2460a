/-!
# Text

A text is a sequence of code points. Surrogate code points may stand in a text,
one by one or side by side; they are the ones that have no octet form.
-/

set_option autoImplicit false

namespace Missive

abbrev CodePoint := Fin 0x110000

/-- The code points D800 to DFFF, which stand for no character. -/
def CodePoint.IsSurrogate (point : CodePoint) : Prop :=
  0xD800 ≤ point.val ∧ point.val ≤ 0xDFFF

instance (point : CodePoint) : Decidable point.IsSurrogate :=
  inferInstanceAs (Decidable (_ ∧ _))

/-- A sequence of code points, surrogates included. -/
abbrev Text := List CodePoint

namespace Text

/-- A stretch of neighbouring surrogates in a text. -/
structure SurrogateRun where
  first : Nat
  /-- The index of the last surrogate of the run, itself included. -/
  last : Nat
  leading : CodePoint
deriving DecidableEq

/-- The first run of surrogates, taken as long as it goes. -/
def surrogateRun? (text : Text) : Option SurrogateRun :=
  match text.dropWhile fun point => !decide point.IsSurrogate with
  | [] => none
  | leading :: rest =>
    let first := (text.takeWhile fun point => !decide point.IsSurrogate).length
    let further := (rest.takeWhile fun point => decide point.IsSurrogate).length
    some ⟨first, first + further, leading⟩

def ofString (string : String) : Text :=
  string.toList.map fun character =>
    ⟨character.toNat, by
      have valid := character.valid
      simp only [UInt32.isValidChar, Nat.isValidChar] at valid
      simp only [Char.toNat]
      omega⟩

end Text

end Missive
