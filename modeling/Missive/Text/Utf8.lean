import Missive.Octets
import Missive.Text

/-!
# UTF-8

The octet form of a text. Writing fails exactly at surrogates and names the
first run of them; reading accepts only what writing produces, so overlong
forms, surrogates, values above 10FFFF and broken sequences are all refused.
-/

set_option autoImplicit false

namespace Missive.Utf8

/-- The octets of one code point, in the shortest of the four forms. -/
def encodePoint (point : CodePoint) : Octets :=
  let number := point.val
  if number < 0x80 then [UInt8.ofNat number]
  else if number < 0x800 then
    [UInt8.ofNat (0xC0 + number / 0x40), UInt8.ofNat (0x80 + number % 0x40)]
  else if number < 0x10000 then
    [UInt8.ofNat (0xE0 + number / 0x1000), UInt8.ofNat (0x80 + number / 0x40 % 0x40),
      UInt8.ofNat (0x80 + number % 0x40)]
  else
    [UInt8.ofNat (0xF0 + number / 0x40000), UInt8.ofNat (0x80 + number / 0x1000 % 0x40),
      UInt8.ofNat (0x80 + number / 0x40 % 0x40), UInt8.ofNat (0x80 + number % 0x40)]

/-- The octets of a text, or its first run of surrogates. -/
def encode (text : Text) : Except Text.SurrogateRun Octets :=
  match text.surrogateRun? with
  | some run => .error run
  | none => .ok (text.flatMap encodePoint)

/-- What a leading octet announces. -/
structure Lead where
  bits : Nat
  following : Nat
  /-- The least number for which this many octets are needed. -/
  least : Nat

/-- The announcement of a leading octet; continuation octets lead nothing. -/
def lead? (octet : UInt8) : Option Lead :=
  let number := octet.toNat
  if number < 0x80 then some ⟨number, 0, 0⟩
  else if number < 0xC0 then none
  else if number < 0xE0 then some ⟨number - 0xC0, 1, 0x80⟩
  else if number < 0xF0 then some ⟨number - 0xE0, 2, 0x800⟩
  else if number < 0xF8 then some ⟨number - 0xF0, 3, 0x10000⟩
  else none

/-- The bits collected so far, followed by the six bits of each of the next
continuation octets; and the octets behind those. -/
def continue? (bits : Nat) : Nat → Octets → Option (Nat × Octets)
  | 0, rest => some (bits, rest)
  | _ + 1, [] => none
  | following + 1, octet :: rest =>
    if 0x80 ≤ octet.toNat ∧ octet.toNat < 0xC0 then
      continue? (bits * 0x40 + (octet.toNat - 0x80)) following rest
    else none

/-- The code point of a number that is in range, is no surrogate, and is at
least what its form is needed for. -/
def point? (least number : Nat) : Option CodePoint :=
  if inRange : number < 0x110000 then
    let point : CodePoint := ⟨number, inRange⟩
    if least ≤ number ∧ ¬ point.IsSurrogate then some point else none
  else none

/-- The first code point that some octets spell, and the octets behind it. -/
def decodePoint? : Octets → Option (CodePoint × Octets)
  | [] => none
  | first :: others =>
    (lead? first).bind fun lead =>
      (continue? lead.bits lead.following others).bind fun (number, rest) =>
        (point? lead.least number).map fun point => (point, rest)

theorem length_le_of_continue? {bits following number : Nat} {octets rest : Octets}
    (continued : continue? bits following octets = some (number, rest)) :
    rest.length ≤ octets.length := by
  induction following generalizing bits octets with
  | zero =>
      simp only [continue?, Option.some.injEq, Prod.mk.injEq] at continued
      simp [continued.2]
  | succ following ih =>
      cases octets with
      | nil => simp [continue?] at continued
      | cons octet others =>
          simp only [continue?] at continued
          split at continued
          · have shorter := ih continued
            simp only [List.length_cons]
            omega
          · cases continued

/-- Every code point takes at least one octet. -/
theorem length_lt_of_decodePoint? {octets rest : Octets} {point : CodePoint}
    (decoded : decodePoint? octets = some (point, rest)) : rest.length < octets.length := by
  cases octets with
  | nil => simp [decodePoint?] at decoded
  | cons first others =>
      simp only [decodePoint?, Option.bind_eq_some_iff, Option.map_eq_some_iff, Prod.mk.injEq,
        Prod.exists] at decoded
      obtain ⟨lead, _, number, behind, continued, _, _, _, rfl⟩ := decoded
      have shorter := length_le_of_continue? continued
      simp only [List.length_cons]
      omega

/-- The text that some octets spell, if they spell one. -/
def decode? (octets : Octets) : Option Text :=
  match octets with
  | [] => some []
  | first :: others =>
    match _decoded : decodePoint? (first :: others) with
    | none => none
    | some (point, rest) => (decode? rest).map (point :: ·)
termination_by octets.length
decreasing_by exact length_lt_of_decodePoint? _decoded

end Missive.Utf8
