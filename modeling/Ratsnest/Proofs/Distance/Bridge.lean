import Ratsnest.Copper
import Ratsnest.Proofs.Scalar.Order

/-!
# Bridges

When two shapes have a bridge, that its squared distance is finite and not negative, and which
layers it is on.
-/

namespace Ratsnest

universe u

variable {α : Type u}

/-! ## Layers -/

namespace Shape

variable {s t : Shape α}

/-- The first layer of the first shape that the other one has too. -/
def commonLayer? (s t : Shape α) : Option LayerId := s.layers.find? t.layers.contains

theorem isSome_commonLayer?_comm (s t : Shape α) :
    (s.commonLayer? t).isSome = (t.commonLayer? s).isSome := by
  rw [Bool.eq_iff_iff, commonLayer?, commonLayer?, List.find?_isSome, List.find?_isSome]
  simp only [List.contains_iff_mem, and_comm]

theorem mem_of_commonLayer? {l : LayerId} (h : s.commonLayer? t = some l) :
    l ∈ s.layers ∧ l ∈ t.layers :=
  ⟨List.mem_of_find?_eq_some h, List.contains_iff_mem.1 (List.find?_some h)⟩

theorem endLayers_of_common {l : LayerId} (h : s.commonLayer? t = some l) :
    s.endLayers t = (l, l) := by
  rw [commonLayer?] at h
  rw [endLayers, h]

theorem endLayers_of_apart (h : s.commonLayer? t = none) :
    s.endLayers t = (s.layers.headD 0, t.layers.headD 0) := by
  rw [commonLayer?] at h
  rw [endLayers, h]

end Shape

/-! ## Distances -/

variable [AngularScalar α]

/-- A squared distance is zero or a sum of squares. -/
theorem Copper.not_gap_lt_zero [OrderedScalar α] {c e : Copper α} {g : Gap α}
    (h : c.gap? e = some g) : ¬g.d2 < 0 := by
  obtain ⟨p, -, rfl⟩ := Option.map_eq_some_iff.1 h
  dsimp only
  split
  · exact OrderedScalar.lt_irrefl _
  · exact Point.not_distance2_lt_zero _ _

namespace Shape

variable {policy : Policy} {s t : Shape α} {b : Bridge α}

/-- Two shapes have a bridge if the policy admits their forms, both have copper, and the gap is
finite. -/
theorem bridge?_eq_some_iff : s.bridge? policy t = some b ↔
    (policy.manhattanOnly → s.manhattan ∧ t.manhattan) ∧
      ∃ c e g, s.copper? = some c ∧ t.copper? = some e ∧ c.gap? e = some g ∧
        Scalar.finite g.d2 ∧ b = ⟨g.a, g.b, (s.endLayers t).1, (s.endLayers t).2, g.d2⟩ := by
  have hform : (policy.manhattanOnly && !(s.manhattan && t.manhattan)) = true ↔
      ¬(policy.manhattanOnly → s.manhattan ∧ t.manhattan) := by
    cases policy.manhattanOnly <;> cases s.manhattan <;> cases t.manhattan <;> simp
  simp only [bridge?, Option.bind_eq_bind]
  constructor
  · intro h
    split at h
    · cases h
    · rename_i hm
      simp only [Option.bind_eq_some_iff] at h
      obtain ⟨c, hc, e, he, g, hg, h⟩ := h
      split at h
      · rename_i hfin
        exact ⟨not_not.1 (mt hform.2 hm), c, e, g, hc, he, hg, hfin, (Option.some.inj h).symm⟩
      · cases h
  · rintro ⟨hm, c, e, g, hc, he, hg, hfin, rfl⟩
    rw [if_neg (mt hform.1 (not_not.2 hm)), hc, Option.bind_some, he, Option.bind_some, hg,
      Option.bind_some, if_pos hfin]

theorem finite_of_bridge? (h : s.bridge? policy t = some b) : Scalar.finite b.d2 := by
  obtain ⟨-, c, e, g, -, -, -, hfin, rfl⟩ := bridge?_eq_some_iff.1 h
  exact hfin

theorem not_bridge_lt_zero [OrderedScalar α] (h : s.bridge? policy t = some b) : ¬b.d2 < 0 := by
  obtain ⟨-, c, e, g, -, -, hg, -, rfl⟩ := bridge?_eq_some_iff.1 h
  exact Copper.not_gap_lt_zero hg

/-- A policy only decides whether there is a bridge. -/
theorem bridge?_precise (h : s.bridge? policy t = some b) : s.bridge? .precise t = some b := by
  obtain ⟨-, hgap⟩ := bridge?_eq_some_iff.1 h
  exact bridge?_eq_some_iff.2 ⟨nofun, hgap⟩

theorem not_isRat_of_bridge? (h : s.bridge? policy t = some b) :
    s.isRat = false ∧ t.isRat = false := by
  obtain ⟨-, c, e, -, hc, he, -⟩ := bridge?_eq_some_iff.1 h
  constructor
  · cases s <;> first | rfl | cases hc
  · cases t <;> first | rfl | cases he

end Shape

end Ratsnest
