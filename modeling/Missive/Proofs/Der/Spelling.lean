import Mathlib
import Missive.Proofs.Der.PublicKey

/-!
# Loose spellings

Basic encodings leave choices that distinguished ones do not: a length may be spelled
with idle digits, or with digits where it needs none, and a number with idle octets.
An element that is spelled so is no element to an exact reader, and a key that is
spelled loosely anywhere around its numbers is no key.
-/

set_option autoImplicit false

namespace Missive.Der

/-- The spellings of a length in basic encodings: one octet below 128, or any digits
behind a count of them. -/
inductive LengthSpelling : Nat → Octets → Prop where
  | short {length : Nat} (small : length < 128) : LengthSpelling length [UInt8.ofNat length]
  | long {digits : Octets} (nonempty : digits ≠ []) (few : digits.length < 127) :
      LengthSpelling digits.value (UInt8.ofNat (128 + digits.length) :: digits)

/-- The spellings of an element: any of its length. -/
inductive ElementSpelling (identifier : UInt8) (contents : Octets) : Octets → Prop where
  | mk {length : Octets} (spelled : LengthSpelling contents.length length) :
      ElementSpelling identifier contents (identifier :: (length ++ contents))

variable {octets rest otherRest : Octets}

theorem ElementSpelling.of_short {identifier : UInt8} {contents : Octets}
    (short : contents.length < 128) :
    ElementSpelling identifier contents (element identifier contents) := by
  rw [element, lengthOctets, if_pos short]
  exact .mk (.short short)

private theorem LengthSpelling.announcedLength_eq {length : Nat}
    (spelled : LengthSpelling length octets) (rest : Octets) :
    announcedLength (octets ++ rest) = length := by
  cases spelled with
  | short small =>
      have digit := UInt8.toNat_ofNat_of_lt' (show length < 2 ^ 8 by omega)
      simp [announcedLength, digit, small]
  | @long digits _ few =>
      have count := UInt8.toNat_ofNat_of_lt' (show 128 + digits.length < 2 ^ 8 by omega)
      simp only [List.cons_append, announcedLength, count]
      rw [if_neg (by omega), if_pos (by omega), Nat.add_sub_cancel_left, List.take_left]

/-- The first octet tells how many follow, so only digits of the right number are left
to compare. -/
private theorem LengthSpelling.eq_of_starts {length : Nat} (spelled : LengthSpelling length octets)
    (same : octets ++ rest = lengthOctets length ++ otherRest) : octets = lengthOctets length := by
  cases spelled with
  | short small => rw [lengthOctets, if_pos small]
  | @long digits _ few =>
      have count := UInt8.toNat_ofNat_of_lt' (show 128 + digits.length < 2 ^ 8 by omega)
      rw [lengthOctets] at same ⊢
      dsimp only at same ⊢
      split_ifs at same ⊢ with small brief
      -- No length of one octet looks like a count of digits.
      · have starts := congrArg UInt8.toNat (List.cons.inj same).1
        rw [count, UInt8.toNat_ofNat'] at starts
        omega
      -- The counts agree, and digits are determined by their number and their value.
      · have starts := congrArg UInt8.toNat (List.cons.inj same).1
        rw [count, UInt8.toNat_ofNat'] at starts
        have counts : octetsForBits (bitLength digits.value) = digits.length := by omega
        rw [counts, Octets.ofValue_value]
      -- A count of fewer than 127 digits is no mark of a longer one.
      · have starts := congrArg UInt8.toNat (List.cons.inj same).1
        rw [count] at starts
        have mark : (0xFF : UInt8).toNat = 255 := rfl
        omega

/-- A spelling of a length that starts like the written form of one is that form. -/
private theorem LengthSpelling.eq_lengthOctets {length other : Nat}
    (spelled : LengthSpelling length octets)
    (same : octets ++ rest = lengthOctets other ++ otherRest) :
    length = other ∧ octets = lengthOctets other ∧ rest = otherRest := by
  obtain rfl : length = other := by
    rw [← spelled.announcedLength_eq rest, same, announcedLength_lengthOctets]
  have strict := spelled.eq_of_starts same
  rw [strict] at same
  exact ⟨rfl, strict, List.append_cancel_left same⟩

/-- A spelling of an element that starts like a written one is that one. -/
private theorem ElementSpelling.eq_element {identifier other : UInt8}
    {contents otherContents : Octets} (spelled : ElementSpelling identifier contents octets)
    (same : octets ++ rest = element other otherContents ++ otherRest) :
    identifier = other ∧ contents = otherContents ∧ rest = otherRest := by
  obtain ⟨lengthSpelled⟩ := spelled
  simp only [element, List.cons_append, List.append_assoc, List.cons.injEq] at same
  obtain ⟨rfl, same⟩ := same
  obtain ⟨lengths, rfl, behind⟩ := lengthSpelled.eq_lengthOctets same
  obtain ⟨rfl, rfl⟩ := List.append_inj behind lengths
  exact ⟨rfl, rfl, rfl⟩

/-- Two numbers in a sequence, loose wherever they can be: each length in any spelling, the
numbers in any octets, and octets left over behind them. -/
structure LooseNumbers (octets : Octets) where
  modulus : Octets
  publicExponent : Octets
  first : Octets
  second : Octets
  leftOver : Octets
  modulus_spelled : ElementSpelling integerIdentifier modulus first
  publicExponent_spelled : ElementSpelling integerIdentifier publicExponent second
  spelled : ElementSpelling sequenceIdentifier (first ++ (second ++ leftOver)) octets

/-- Nothing about the numbers is loose. -/
structure LooseNumbers.Strict (loose : LooseNumbers octets) (modulus publicExponent : Nat) :
    Prop where
  modulus_eq : loose.modulus = naturalContents modulus
  publicExponent_eq : loose.publicExponent = naturalContents publicExponent
  leftOver_eq : loose.leftOver = []
  octets_eq : octets = PublicKey.numbers modulus publicExponent

/-- A frame, loose wherever it can be: each length in any spelling, octets left over behind
the key, and a string of bits of any octets, of which the first counts the idle bits. -/
structure LooseFrame (octets : Octets) where
  algorithm : Octets
  parameters : Octets
  contents : Octets
  name : Octets
  identifier : Octets
  bits : Octets
  leftOver : Octets
  name_spelled : ElementSpelling ObjectIdentifier.identifier algorithm name
  identifier_spelled : ElementSpelling sequenceIdentifier (name ++ parameters) identifier
  bits_spelled : ElementSpelling bitStringIdentifier contents bits
  spelled : ElementSpelling sequenceIdentifier (identifier ++ (bits ++ leftOver)) octets

/-- Nothing in a frame is loose but the parameters, which are taken as they stand. -/
structure LooseFrame.Strict (frame : LooseFrame octets) (modulus publicExponent : Nat) :
    Prop where
  rsa : frame.algorithm = ObjectIdentifier.rsaEncryption ∨
    frame.algorithm = ObjectIdentifier.rsassaPss
  contents_eq : frame.contents = 0 :: PublicKey.numbers modulus publicExponent
  leftOver_eq : frame.leftOver = []
  octets_eq : octets =
    PublicKey.framed frame.algorithm frame.parameters modulus publicExponent

variable {modulus publicExponent : Nat}

/-- Two written numbers that start with a loose spelling of two end with it, and nothing
about it is loose. -/
theorem LooseNumbers.strict (loose : LooseNumbers octets)
    (same : octets ++ rest = PublicKey.numbers modulus publicExponent) :
    rest = [] ∧ loose.Strict modulus publicExponent := by
  obtain ⟨_, bodies, nothing⟩ :=
    loose.spelled.eq_element (same.trans (List.append_nil _).symm)
  obtain ⟨_, modulusSame, seconds⟩ := loose.modulus_spelled.eq_element bodies
  obtain ⟨_, exponentSame, leftOver⟩ := loose.publicExponent_spelled.eq_element
    (seconds.trans (List.append_nil _).symm)
  rw [nothing, List.append_nil] at same
  exact ⟨nothing, modulusSame, exponentSame, leftOver, same⟩

/-- No two numbers start a written frame: they have the first of them where it has its
algorithm. -/
private theorem LooseNumbers.ne_framed (loose : LooseNumbers octets)
    {algorithm parameters : Octets} :
    octets ++ rest ≠ PublicKey.framed algorithm parameters modulus publicExponent := by
  intro same
  obtain ⟨_, bodies, _⟩ := loose.spelled.eq_element (same.trans (List.append_nil _).symm)
  obtain ⟨identifiers, _⟩ := loose.modulus_spelled.eq_element bodies
  exact absurd identifiers (by decide)

/-- A written key that starts with two loose numbers ends with them, and nothing about
them is loose. -/
theorem LooseNumbers.strict_of_written (loose : LooseNumbers octets)
    (written : PublicKey.Written modulus publicExponent (octets ++ rest)) :
    rest = [] ∧ loose.Strict modulus publicExponent := by
  obtain ⟨_, _, _, same⟩ | same := written.framed_or_numbers
  · exact absurd same loose.ne_framed
  · exact loose.strict same

/-- No frame starts two written numbers: it has its algorithm where they have the first
of them. -/
private theorem LooseFrame.ne_numbers (frame : LooseFrame octets) :
    octets ++ rest ≠ PublicKey.numbers modulus publicExponent := by
  intro same
  obtain ⟨_, bodies, _⟩ := frame.spelled.eq_element (same.trans (List.append_nil _).symm)
  obtain ⟨identifiers, _⟩ := frame.identifier_spelled.eq_element bodies
  exact absurd identifiers (by decide)

/-- A written key that starts with a loose frame ends with it, and nothing in the frame is
loose. -/
theorem LooseFrame.strict (frame : LooseFrame octets)
    (written : PublicKey.Written modulus publicExponent (octets ++ rest)) :
    rest = [] ∧ frame.Strict modulus publicExponent := by
  obtain ⟨algorithm, parameters, rsa, same⟩ | same := written.framed_or_numbers
  · obtain ⟨_, bodies, nothing⟩ :=
      frame.spelled.eq_element (same.trans (List.append_nil _).symm)
    obtain ⟨_, insides, keys⟩ := frame.identifier_spelled.eq_element bodies
    obtain ⟨_, algorithmSame, parametersSame⟩ := frame.name_spelled.eq_element insides
    obtain ⟨_, contents, leftOver⟩ := frame.bits_spelled.eq_element
      (keys.trans (List.append_nil _).symm)
    rw [nothing, List.append_nil] at same
    refine ⟨nothing, algorithmSame ▸ rsa, contents, leftOver, same.trans ?_⟩
    rw [algorithmSame, parametersSame]
  · exact absurd same frame.ne_numbers

end Missive.Der
