import Mathlib
import Missive.Digest
import Missive.Proofs.Text.Utf8

/-!
# Content that has octets

Only a text with surrogates has no octets, and hence no digest. All other content
is digested as the octets that it stands for.
-/

set_option autoImplicit false

namespace Missive

/-- Octets, or a text that can be written as octets. -/
def Content.Encodable : Content → Prop
  | .octets _ => True
  | .text given => ∀ point ∈ given, ¬ point.IsSurrogate

-- The points of the text are looked at, not all points there are.
instance (content : Content) : Decidable content.Encodable :=
  match content with
  | .octets _ => .isTrue trivial
  | .text given => List.decidableBAll (fun point : CodePoint => ¬ point.IsSurrogate) given

theorem Text.toOctets_eq_ok_iff {text : Text} {octets : Octets} :
    text.toOctets = .ok octets ↔ Utf8.encode text = .ok octets := by
  unfold Text.toOctets
  cases Utf8.encode text <;> simp [Except.mapError]

theorem Text.toOctets_of_surrogates {text : Text} {run : Text.SurrogateRun}
    (found : text.surrogateRun? = some run) : text.toOctets = .error (.surrogates run) := by
  rw [Text.toOctets, Utf8.encode, found]
  rfl

theorem Content.encodable_iff {content : Content} :
    content.Encodable ↔ ∃ octets, content.toOctets = .ok octets := by
  cases content with
  | octets given => exact ⟨fun _ => ⟨given, rfl⟩, fun _ => trivial⟩
  | text given =>
      simp only [Content.toOctets, Text.toOctets_eq_ok_iff, Utf8.encode_eq_ok_iff]
      constructor
      · intro plain
        exact ⟨_, plain, rfl⟩
      · intro ⟨_, plain, _⟩
        exact plain

theorem digest_eq_error_iff {content : Content} {fault : Fault} :
    digest content = .error fault ↔ content.toOctets = .error fault := by
  rw [digest]
  cases content.toOctets <;> simp [Except.map]

theorem digest_eq {content : Content} {octets : Octets} (spelled : content.toOctets = .ok octets) :
    digest content = .ok (Sha512.hash octets) := by
  rw [digest, spelled]
  rfl

end Missive
