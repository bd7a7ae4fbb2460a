import Mathlib
import Missive.Der.KeyInfo
import Missive.Proofs.Der.Reading

/-!
# Exact reading of frames

A frame is read from its written form and from nothing else, provided that its
algorithm has a name and the parameters that go with it.
-/

set_option autoImplicit false

namespace Missive.Der

/-- Reading accepts the written form of a frame whose algorithm has a name and
such parameters, and nothing else. -/
theorem KeyInfo.read?_eq_some_iff {octets : Octets} {info : KeyInfo} :
    KeyInfo.read? octets = some info ↔
      octets = info.encode ∧ (ObjectIdentifier.arcs? info.algorithm).isSome ∧
        Algorithm.hasParameters info.algorithm info.parameters = true := by
  simp only [KeyInfo.read?, bind, Option.bind_eq_some_iff, Prod.exists, readOnly?_eq_some_iff,
    readNext?_eq_some_iff, BitString.ofContents?_eq_some_iff]
  constructor
  · rintro ⟨body, rfl, algorithmAndParameters, rest, rfl, contents, rfl, algorithm, parameters,
      rfl, arcs, spelled, key, rfl, read⟩
    split at read
    · rename_i fitting
      cases read
      exact ⟨rfl, Option.isSome_iff_exists.2 ⟨arcs, spelled⟩, fitting⟩
    · cases read
  · rintro ⟨rfl, named, fitting⟩
    obtain ⟨arcs, spelled⟩ := Option.isSome_iff_exists.1 named
    exact ⟨_, rfl, _, _, rfl, _, rfl, _, _, rfl, arcs, spelled, info.key, rfl, if_pos fitting⟩

end Missive.Der
