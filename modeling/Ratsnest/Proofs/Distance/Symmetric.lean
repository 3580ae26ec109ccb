import Ratsnest.Proofs.Distance.Gap
import Ratsnest.Proofs.Geometry.Symmetric

/-!
# Distances from either side

The distance of two shapes is the same whichever comes first, and so is whether it is finite
(`Shape.bridge?_comm`).  Which layers it is on is another matter: of several common layers the one
that the first shape lists first is taken, which is another one from the other side if the shapes
list them in another order (`Shape.bridge?_not_comm`).
-/

namespace Ratsnest

open Approach

theorem Approach.map_d2_swap (o : Option (Approach ℝ)) : (o.map swap).map d2 = o.map d2 := by
  rw [Option.map_map]
  exact congrArg (Option.map · o) (funext d2_swap)

/-- Curves are as far apart from either side. -/
theorem Curve.d2_approach_comm (c e : Curve ℝ) : (c.approach e).map d2 = (e.approach c).map d2 := by
  cases c with
  | segment s =>
    cases e with
    | segment t => exact Segment.d2_approach_comm s t
    | arc e => exact (map_d2_swap _).symm
  | arc c =>
    cases e with
    | segment t => exact map_d2_swap _
    | arc e => exact Arc.d2_approach_comm c e

/-- Regions are as far apart from either side. -/
theorem Outline.d2_approach_comm (o q : Outline ℝ) :
    (approach o q).map d2 = (approach q o).map d2 := by
  have hmeet : ((o.find? q.contains).or (q.find? o.contains)).isSome =
      ((q.find? o.contains).or (o.find? q.contains)).isSome := by
    rw [Option.isSome_or, Option.isSome_or, Bool.or_comm]
  have hedges (o q : Outline ℝ) (v : ℝ)
      (h : v ∈ (o.edges.flatMap fun e => q.edges.filterMap e.approach).map d2) :
      v ∈ (q.edges.flatMap fun e => o.edges.filterMap e.approach).map d2 := by
    simp only [List.mem_map, List.mem_flatMap, List.mem_filterMap] at h ⊢
    obtain ⟨p, ⟨e, he, f, hf, hp⟩, rfl⟩ := h
    have hcomm := Segment.d2_approach_comm e f
    rw [hp, Option.map_some] at hcomm
    obtain ⟨p', hp', hd2⟩ := Option.map_eq_some_iff.1 hcomm.symm
    exact ⟨p', ⟨f, hf, e, he, hp'⟩, hd2⟩
  rw [approach, approach]
  rcases found_or_not hmeet with ⟨x, y, hoq, hqo⟩ | ⟨hoq, hqo⟩
  · rw [hoq, hqo]
    exact (d2_meeting x).trans (d2_meeting y).symm
  · rw [hoq, hqo]
    exact d2_closest_eq fun v => ⟨hedges o q v, hedges q o v⟩

namespace Copper

variable (c e : Copper ℝ)

theorem d2_approach_comm : (c.approach e).map d2 = (e.approach c).map d2 := by
  cases c with
  | stroke c r =>
    cases e with
    | stroke e r' => exact Curve.d2_approach_comm c e
    | area q => exact (map_d2_swap _).symm
  | area o =>
    cases e with
    | stroke e r' => exact map_d2_swap _
    | area q => exact Outline.d2_approach_comm o q

/-- How far apart discs are: by their radii less than their centers, or not at all. -/
theorem d2_gap : (c.gap? e).map (·.d2) = ((c.approach e).map d2).map fun d =>
    if d ≤ (c.radius + e.radius) * (c.radius + e.radius) then 0
    else (√d - (c.radius + e.radius)) ^ 2 := by
  rw [gap?, Option.map_map, Option.map_map]
  refine congrArg (Option.map · _) (funext fun p => ?_)
  simp only [Function.comp_apply]
  split
  · rfl
  · rename_i hlt
    have hpos : 0 < p.d2 := (mul_self_nonneg _).trans_lt (not_le.1 hlt)
    have hroot : √p.d2 ≠ 0 := (Real.sqrt_pos.2 hpos).ne'
    have hsq : √p.d2 ^ 2 = p.a.distance2 p.b := Real.sq_sqrt hpos.le
    dsimp only
    rw [Segment.add_step, Segment.sub_step, Segment.distance2_along_along, ← hsq,
      AngularScalar.real_sqrt]
    field_simp
    ring

/-- Copper is as far apart from either side. -/
theorem d2_gap_comm : (c.gap? e).map (·.d2) = (e.gap? c).map (·.d2) := by
  rw [d2_gap, d2_gap, d2_approach_comm c e, add_comm e.radius]

end Copper

namespace Shape

variable {s t : Shape ℝ} {policy : Policy} {b : Bridge ℝ}

/-! ## Layers -/

/-- The layers are exchanged with the shapes just if these have the same common layer first. -/
theorem endLayers_eq_swap_iff :
    t.endLayers s = (s.endLayers t).swap ↔ s.commonLayer? t = t.commonLayer? s := by
  rcases found_or_not (isSome_commonLayer?_comm s t) with ⟨l, m, hst, hts⟩ | ⟨hst, hts⟩
  · rw [endLayers_of_common hst, endLayers_of_common hts, hst, hts]
    constructor
    · intro h
      exact congrArg some (Prod.mk.inj h).1.symm
    · intro h
      rw [Option.some.inj h]
      rfl
  · rw [endLayers_of_apart hst, endLayers_of_apart hts, hst, hts]
    exact iff_of_true rfl rfl

/-! ## Bridges from either side -/

/-- What the bridges of two shapes from either side have in common: `b` leads from `s` to `t` and
`b'` from `t` to `s`. -/
structure Mirrors (s t : Shape ℝ) (b b' : Bridge ℝ) : Prop where
  d2 : b'.d2 = b.d2
  /-- The layers are exchanged just if both shapes have the same common layer first. -/
  layers : (b'.layerA = b.layerB ∧ b'.layerB = b.layerA) ↔ s.commonLayer? t = t.commonLayer? s
  /-- So they are where there is at most one common layer. -/
  layers_of_single : (∀ l ∈ s.layers, ∀ m ∈ s.layers, l ∈ t.layers → m ∈ t.layers → l = m) →
    b'.layerA = b.layerB ∧ b'.layerB = b.layerA
  /-- Either bridge is on the first common layer of the shape that it leads away from. -/
  common : ∀ l, s.commonLayer? t = some l → b.layerA = l ∧ b.layerB = l
  common' : ∀ l, t.commonLayer? s = some l → b'.layerA = l ∧ b'.layerB = l

theorem exists_mirror (h : s.bridge? policy t = some b) :
    ∃ b', t.bridge? policy s = some b' ∧ Mirrors s t b b' := by
  obtain ⟨hpolicy, c, e, g, hc, he, hg, hfin, rfl⟩ := bridge?_eq_some_iff.1 h
  have hcomm := Copper.d2_gap_comm c e
  rw [hg, Option.map_some] at hcomm
  obtain ⟨g', hg', hd2⟩ := Option.map_eq_some_iff.1 hcomm.symm
  have hlayers : ((t.endLayers s).1 = (s.endLayers t).2 ∧ (t.endLayers s).2 = (s.endLayers t).1) ↔
      s.commonLayer? t = t.commonLayer? s := by
    rw [← endLayers_eq_swap_iff, Prod.ext_iff]
    rfl
  refine ⟨_, bridge?_eq_some_iff.2
    ⟨fun h => (hpolicy h).symm, e, c, g', he, hc, hg', rfl, rfl⟩, hd2, hlayers, ?_, ?_, ?_⟩
  · intro hsingle
    refine hlayers.2 ?_
    rcases found_or_not (isSome_commonLayer?_comm s t) with ⟨l, m, hst, hts⟩ | ⟨hst, hts⟩
    · obtain ⟨hls, hlt⟩ := mem_of_commonLayer? hst
      obtain ⟨hmt, hms⟩ := mem_of_commonLayer? hts
      rw [hst, hts, hsingle l hls m hms hlt hmt]
    · rw [hst, hts]
  · intro l hl
    rw [endLayers_of_common hl]
    exact ⟨rfl, rfl⟩
  · intro l hl
    rw [endLayers_of_common hl]
    exact ⟨rfl, rfl⟩

/-- Two shapes are as far apart from either side, or out of reach from both, and the layers are
exchanged unless the shapes have different common layers first. -/
theorem bridge?_comm (policy : Policy) (s t : Shape ℝ) :
    Option.Rel (Mirrors s t) (s.bridge? policy t) (t.bridge? policy s) := by
  cases hst : s.bridge? policy t with
  | some b =>
    obtain ⟨b', hts, hb⟩ := exists_mirror hst
    rw [hts]
    exact .some hb
  | none =>
    cases hts : t.bridge? policy s with
    | none => exact .none
    | some b' =>
      obtain ⟨b, hb, -⟩ := exists_mirror hts
      rw [hst] at hb
      cases hb

/-- Two pads with the same two layers, listed in another order. -/
theorem bridge?_not_comm : ∃ s t : Shape ℝ,
    s = padstack ⟨⟨0, 0⟩, .circle 5, [0, 1], 0, []⟩ ∧
      t = padstack ⟨⟨100, 0⟩, .circle 5, [1, 0], 0, []⟩ ∧
      ∃ b b', s.bridge? .precise t = some b ∧ t.bridge? .precise s = some b' ∧
        b.layerA = 0 ∧ b.layerB = 0 ∧ b'.layerA = 1 ∧ b'.layerB = 1 := by
  let near : Segment ℝ := .point ⟨0, 0⟩
  let far : Segment ℝ := .point ⟨100, 0⟩
  obtain ⟨p, hp, -⟩ := near.exists_approach far
  obtain ⟨q, hq, -⟩ := far.exists_approach near
  obtain ⟨g, hg⟩ : ∃ g, (Copper.stroke (.segment near) 5).gap? (.stroke (.segment far) 5) = some g :=
    ⟨_, congrArg (Option.map _) hp⟩
  obtain ⟨g', hg'⟩ : ∃ g, (Copper.stroke (.segment far) 5).gap? (.stroke (.segment near) 5) = some g :=
    ⟨_, congrArg (Option.map _) hq⟩
  exact ⟨_, _, rfl, rfl, _, _,
    bridge?_eq_some_iff.2 ⟨nofun, _, _, g, rfl, rfl, hg, rfl, rfl⟩,
    bridge?_eq_some_iff.2 ⟨nofun, _, _, g', rfl, rfl, hg', rfl, rfl⟩, rfl, rfl, rfl, rfl⟩

end Shape

end Ratsnest
