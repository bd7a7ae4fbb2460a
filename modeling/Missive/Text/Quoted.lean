import Missive.Text.Printable

/-!
# Quoted text

How a name that was given is shown inside a message. Apostrophes quote, unless
the name holds an apostrophe and no quotation mark. The mark that quotes, the
backslash and every character that does not print are escaped.
-/

set_option autoImplicit false

namespace Missive.Quoted

def apostrophe : Char := Char.ofNat 0x27

def quotationMark : Char := Char.ofNat 0x22

def backslash : Char := Char.ofNat 0x5C

/-- The last `width` hexadecimal digits of a number, the most significant first. -/
def digits : Nat → Nat → List Char
  | 0, _ => []
  | width + 1, number => digits width (number / 16) ++ [Nat.digitChar (number % 16)]

/-- A backslash, a letter that tells how many digits follow, and the code of a
character on two, four or eight digits, whichever it fits first. -/
def escapeCode (character : Char) : List Char :=
  let code := character.toNat
  if code < 0x100 then backslash :: 'x' :: digits 2 code
  else if code < 0x10000 then backslash :: 'u' :: digits 4 code
  else backslash :: 'U' :: digits 8 code

def escape (mark character : Char) : List Char :=
  if character = mark ∨ character = backslash then [backslash, character]
  else if character.toNat = 9 then [backslash, 't']
  else if character.toNat = 10 then [backslash, 'n']
  else if character.toNat = 13 then [backslash, 'r']
  else if Printable.isPrintable character then [character]
  else escapeCode character

/-- The mark that quotes a name. -/
def markFor (name : List Char) : Char :=
  if apostrophe ∈ name ∧ quotationMark ∉ name then quotationMark else apostrophe

def quote (name : String) : String :=
  let characters := name.toList
  let mark := markFor characters
  String.ofList (mark :: (characters.flatMap (escape mark) ++ [mark]))

end Missive.Quoted
