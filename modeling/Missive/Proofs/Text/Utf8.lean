import Mathlib
import Missive.Text.Utf8

/-!
# Exact reading of texts

Reading and writing are inverse to each other: octets are read to a text exactly
when the text is written as those octets. A text has octets unless a surrogate
stands in it.
-/

set_option autoImplicit false

namespace Missive

theorem Text.surrogateRun?_eq_none_iff {text : Text} :
    text.surrogateRun? = none ↔ ∀ point ∈ text, ¬ point.IsSurrogate := by
  unfold Text.surrogateRun?
  constructor
  · intro found
    split at found
    · rename_i empty
      simpa using List.dropWhile_eq_nil_iff.1 empty
    · cases found
  · intro plain
    have empty : (text.dropWhile fun point => !decide point.IsSurrogate) = [] :=
      List.dropWhile_eq_nil_iff.2 (by simpa using plain)
    rw [empty]

namespace Utf8

theorem encode_eq_ok_iff {text : Text} {octets : Octets} :
    encode text = .ok octets ↔
      (∀ point ∈ text, ¬ point.IsSurrogate) ∧ octets = text.flatMap encodePoint := by
  rw [← Text.surrogateRun?_eq_none_iff]
  unfold encode
  constructor
  · intro written
    split at written
    · cases written
    · rename_i plain
      cases written
      exact ⟨plain, rfl⟩
  · intro ⟨plain, spelled⟩
    rw [plain, spelled]

private theorem ofNat_eq (octet : UInt8) {number : Nat} (value : octet.toNat = number) :
    UInt8.ofNat number = octet := by
  rw [← value, UInt8.ofNat_toNat]

private theorem toNat_ofNat (number : Nat) (small : number < 256) :
    (UInt8.ofNat number).toNat = number := by
  rw [UInt8.toNat_ofNat', Nat.mod_eq_of_lt small]

/-- The continuation octets that carry so many last digits of a number to base 64. -/
def continuation (number : Nat) : Nat → Octets
  | 0 => []
  | following + 1 =>
    UInt8.ofNat (0x80 + number / 0x40 ^ following % 0x40) :: continuation number following

theorem continue?_eq_some_iff {bits following number : Nat} {octets rest : Octets} :
    continue? bits following octets = some (number, rest) ↔
      bits = number / 0x40 ^ following ∧ octets = continuation number following ++ rest := by
  -- What is collected are the digits in front of those that still follow.
  induction following generalizing bits octets with
  | zero => simp [continue?, continuation]
  | succ following ih =>
      have digits : number / 0x40 ^ (following + 1) = number / 0x40 ^ following / 0x40 := by
        rw [Nat.pow_succ, Nat.div_div_eq_div_mul]
      cases octets with
      | nil => simp [continue?, continuation]
      | cons octet octets =>
          simp only [continue?, continuation, digits, List.cons_append, List.cons.injEq]
          constructor
          · intro continued
            split at continued
            · rename_i marked
              obtain ⟨collected, tail⟩ := ih.1 continued
              refine ⟨by omega, ?_, tail⟩
              exact (ofNat_eq octet (by omega)).symm
            · cases continued
          · intro shape
            obtain ⟨collected, head, tail⟩ := shape
            have value : octet.toNat = 0x80 + number / 0x40 ^ following % 0x40 := by
              rw [head]
              exact toNat_ofNat _ (by omega)
            rw [if_pos (by omega)]
            exact ih.2 ⟨by omega, tail⟩

/-- A leading octet that carries the first digits of a code point, which has no
shorter form, starts the form that is written. -/
private theorem encodePoint_of_lead? {point : CodePoint} {first : UInt8} {lead : Lead}
    (announced : lead? first = some lead)
    (bits : lead.bits = point.val / 0x40 ^ lead.following) (least : lead.least ≤ point.val) :
    encodePoint point = first :: continuation point.val lead.following := by
  have range := point.isLt
  simp only [lead?] at announced
  simp only [encodePoint]
  split at announced
  · obtain rfl := Option.some.inj announced
    simp only [Nat.pow_zero, Nat.div_one] at bits
    rw [if_pos (by omega), ofNat_eq first bits]
    rfl
  split at announced
  · cases announced
  split at announced
  · obtain rfl := Option.some.inj announced
    simp only [Nat.pow_one] at bits least
    rw [if_neg (by omega), if_pos (by omega), ofNat_eq first (by omega)]
    simp [continuation]
  split at announced
  · obtain rfl := Option.some.inj announced
    simp only [Nat.reducePow] at bits least
    rw [if_neg (by omega), if_neg (by omega), if_pos (by omega),
      ofNat_eq first (by omega)]
    simp [continuation]
  split at announced
  · obtain rfl := Option.some.inj announced
    simp only [Nat.reducePow] at bits least
    rw [if_neg (by omega), if_neg (by omega), if_neg (by omega),
      ofNat_eq first (by omega)]
    simp [continuation]
  · cases announced

/-- Every written form starts with such a leading octet. -/
theorem exists_lead? (point : CodePoint) :
    ∃ first lead, lead? first = some lead ∧ lead.bits = point.val / 0x40 ^ lead.following ∧
      lead.least ≤ point.val ∧
      encodePoint point = first :: continuation point.val lead.following := by
  have range := point.isLt
  simp only [encodePoint]
  split
  · have value := toNat_ofNat point.val (by omega)
    refine ⟨_, ⟨point.val, 0, 0⟩, ?_, by simp, by simp, rfl⟩
    simp only [lead?, value]
    rw [if_pos (by omega)]
  split
  · have value := toNat_ofNat (0xC0 + point.val / 0x40) (by omega)
    refine ⟨UInt8.ofNat (0xC0 + point.val / 0x40), ⟨point.val / 0x40, 1, 0x80⟩, ?_, by simp,
      by dsimp only; omega, by simp [continuation]⟩
    simp only [lead?, value]
    rw [if_neg (by omega), if_neg (by omega), if_pos (by omega), Nat.add_sub_cancel_left]
  split
  · have value := toNat_ofNat (0xE0 + point.val / 0x1000) (by omega)
    refine ⟨UInt8.ofNat (0xE0 + point.val / 0x1000), ⟨point.val / 0x1000, 2, 0x800⟩, ?_, by simp,
      by dsimp only; omega, by simp [continuation]⟩
    simp only [lead?, value]
    rw [if_neg (by omega), if_neg (by omega), if_neg (by omega), if_pos (by omega),
      Nat.add_sub_cancel_left]
  · have value := toNat_ofNat (0xF0 + point.val / 0x40000) (by omega)
    refine ⟨UInt8.ofNat (0xF0 + point.val / 0x40000), ⟨point.val / 0x40000, 3, 0x10000⟩, ?_, by simp,
      by dsimp only; omega, by simp [continuation]⟩
    simp only [lead?, value]
    rw [if_neg (by omega), if_neg (by omega), if_neg (by omega), if_neg (by omega),
      if_pos (by omega), Nat.add_sub_cancel_left]

theorem point?_eq_some_iff {least number : Nat} {point : CodePoint} :
    point? least number = some point ↔
      number = point.val ∧ least ≤ point.val ∧ ¬ point.IsSurrogate := by
  unfold point?
  dsimp only
  constructor
  · intro found
    split at found
    · split at found
      · rename_i suitable
        obtain rfl := Option.some.inj found
        exact ⟨rfl, suitable⟩
      · cases found
    · cases found
  · intro ⟨same, suitable⟩
    subst same
    rw [dif_pos point.isLt]
    exact if_pos suitable

/-- The first code point is read from its written form and from nothing else. -/
theorem decodePoint?_eq_some_iff {octets rest : Octets} {point : CodePoint} :
    decodePoint? octets = some (point, rest) ↔
      ¬ point.IsSurrogate ∧ octets = encodePoint point ++ rest := by
  constructor
  · intro decoded
    cases octets with
    | nil => cases decoded
    | cons first others =>
        simp only [decodePoint?, Option.bind_eq_some_iff, Option.map_eq_some_iff, Prod.mk.injEq,
          Prod.exists] at decoded
        obtain ⟨lead, announced, number, behind, continued, found, suitable, rfl, rfl⟩ := decoded
        obtain ⟨rfl, least, plain⟩ := point?_eq_some_iff.1 suitable
        obtain ⟨bits, tail⟩ := continue?_eq_some_iff.1 continued
        refine ⟨plain, ?_⟩
        rw [encodePoint_of_lead? announced bits least, tail]
        rfl
  · intro written
    obtain ⟨plain, spelled⟩ := written
    obtain ⟨first, lead, announced, bits, least, form⟩ := exists_lead? point
    have continued : continue? lead.bits lead.following
        (continuation point.val lead.following ++ rest) = some (point.val, rest) :=
      continue?_eq_some_iff.2 ⟨bits, rfl⟩
    have found : point? lead.least point.val = some point :=
      point?_eq_some_iff.2 ⟨rfl, least, plain⟩
    rw [spelled, form, List.cons_append, decodePoint?, announced]
    simp [continued, found]

theorem decode?_eq_cons_iff {octets : Octets} {point : CodePoint} {text : Text} :
    decode? octets = some (point :: text) ↔
      ∃ rest, decodePoint? octets = some (point, rest) ∧ decode? rest = some text := by
  cases octets with
  | nil => simp [decode?, decodePoint?]
  | cons first others =>
      rw [decode?]
      split
      · rename_i unread
        simp [unread]
      · rename_i found rest read
        rw [read, Option.map_eq_some_iff]
        constructor
        · intro ⟨behind, more, shape⟩
          obtain ⟨rfl, rfl⟩ := List.cons.inj shape
          exact ⟨rest, rfl, more⟩
        · intro ⟨others, same, more⟩
          cases same
          exact ⟨text, more, rfl⟩

theorem decode?_eq_nil_iff {octets : Octets} : decode? octets = some [] ↔ octets = [] := by
  cases octets with
  | nil => simp [decode?]
  | cons first others =>
      rw [decode?]
      split <;> simp

/-- Octets are read to a text exactly when that text is written as those octets. -/
theorem decode?_eq_some_iff {octets : Octets} {text : Text} :
    decode? octets = some text ↔ encode text = .ok octets := by
  rw [encode_eq_ok_iff]
  induction text generalizing octets with
  | nil => simp [decode?_eq_nil_iff]
  | cons point text ih =>
      rw [decode?_eq_cons_iff, List.forall_mem_cons, List.flatMap_cons]
      constructor
      · intro ⟨rest, read, more⟩
        obtain ⟨plain, spelled⟩ := decodePoint?_eq_some_iff.1 read
        obtain ⟨plainBehind, spelledBehind⟩ := ih.1 more
        rw [spelled, spelledBehind]
        exact ⟨⟨plain, plainBehind⟩, rfl⟩
      · intro ⟨⟨plain, plainBehind⟩, spelled⟩
        exact ⟨_, decodePoint?_eq_some_iff.2 ⟨plain, spelled⟩, ih.2 ⟨plainBehind, rfl⟩⟩

end Utf8

end Missive
