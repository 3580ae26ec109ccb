import Ratsnest.Copper
import Ratsnest.Proofs.Geometry.Region

/-!
# Closest approaches of areas

The approach of a segment and a region, and the one of two regions, are closest ones
(`Curve.exists_areaApproach`, `Outline.exists_approach`).  It is enough to test one end of the
segment, or the corners: if they are outside and the borders do not meet, then everything is
outside, and every way between the two sets leads across both borders.
-/

namespace Ratsnest

open Approach

variable {o q : Outline ℝ} {s : Segment ℝ} {x y : Point ℝ}

/-! ## Segments and areas -/

namespace Curve

/-- A segment that starts outside of a region is as close to its border. -/
theorem exists_border_le (hs : s.a ∉ o.region) (hx : x ∈ s.points) (hy : y ∈ o.region) :
    ∃ v ∈ s.points, ∃ w ∈ o.border, v.distance2 w ≤ x.distance2 y := by
  by_cases hxo : x ∈ o.region
  · obtain ⟨v, hv, hb⟩ := Outline.exists_mem_border hxo hs
    refine ⟨v, Segment.points_subset hx s.a_mem hv, v, hb, ?_⟩
    rw [Point.distance2_self]
    exact Point.distance2_nonneg x y
  · obtain ⟨w, hb, -, hle⟩ := Outline.exists_mem_border_le hxo hy
    exact ⟨x, hx, w, hb, hle⟩

/-- The approach of a segment and a region is a closest one. -/
theorem exists_areaApproach (s : Segment ℝ) (ho : o ≠ []) :
    ∃ p, (segment s).areaApproach o = some p ∧ p.IsClosest s.points o.region := by
  rw [areaApproach]
  split
  · rename_i h
    exact ⟨_, rfl, isClosest_of_mem s.a_mem (Outline.contains_iff.1 h).2⟩
  · rename_i h
    refine exists_isClosest ?_ ?_ ?_
    · obtain ⟨e, he⟩ := List.exists_mem_of_ne_nil _ (Outline.edges_ne_nil ho)
      obtain ⟨p, hp, -⟩ := s.exists_approach e
      exact List.ne_nil_of_mem (List.mem_filterMap.2 ⟨e, he, hp⟩)
    · intro p hp
      obtain ⟨e, he, hp⟩ := List.mem_filterMap.1 hp
      obtain ⟨p', hp', hclosest⟩ := s.exists_approach e
      obtain rfl := Option.some.inj (hp'.symm.trans hp)
      exact ⟨hclosest.a_mem, o.border_subset_region ⟨e, he, hclosest.b_mem⟩⟩
    · intro x hx y hy
      obtain ⟨v, hv, w, ⟨e, he, hw⟩, hle⟩ :
          ∃ v ∈ s.points, ∃ w ∈ o.border, v.distance2 w ≤ x.distance2 y := by
        by_cases hs : s.a ∈ o.region
        · -- The test misses regions of outlines with few corners, which are all border.
          refine ⟨s.a, s.a_mem, s.a, Outline.mem_border_of_not_contains h hs, ?_⟩
          rw [Point.distance2_self]
          exact Point.distance2_nonneg x y
        · exact exists_border_le hs hx hy
      obtain ⟨p, hp, hclosest⟩ := s.exists_approach e
      exact ⟨p, List.mem_filterMap.2 ⟨e, he, hp⟩, (hclosest.least v hv w hw).trans hle⟩

end Curve

/-! ## Two areas -/

namespace Outline

/-- A border that meets neither another one nor, in a corner, its region is outside of it. -/
theorem not_mem_region_of_border (hdisjoint : Disjoint o.border q.border)
    (hcorner : ∀ v ∈ o, ¬q.contains v = true) (hx : x ∈ o.border) : x ∉ q.region := by
  intro hxq
  obtain ⟨e, he, hxe⟩ := hx
  have ha : e.a ∉ q.region := by
    intro ha
    have hb := mem_border_of_not_contains (hcorner e.a (mem_of_mem_edges he).1) ha
    exact Set.disjoint_left.1 hdisjoint ⟨e, he, e.a_mem⟩ hb
  obtain ⟨v, hv, hb⟩ := exists_mem_border hxq ha
  exact Set.disjoint_left.1 hdisjoint ⟨e, he, Segment.points_subset hxe e.a_mem hv⟩ hb

/-- Among the points on some segments one is nearest to a given point. -/
theorem exists_nearest {es : List (Segment ℝ)} (hes : es ≠ []) (x : Point ℝ) :
    ∃ e ∈ es, ∃ v ∈ e.points, ∀ e' ∈ es, ∀ w ∈ e'.points, x.distance2 v ≤ x.distance2 w := by
  have hne : (es.map fun e => (⟨x, e.nearest x⟩ : Approach ℝ)) ≠ [] := by simpa
  obtain ⟨p, hp, -, hle⟩ := exists_closest hne
  obtain ⟨e, he, rfl⟩ := List.mem_map.1 hp
  refine ⟨e, he, e.nearest x, e.nearest_mem x, ?_⟩
  intro e' he' w hw
  exact (hle _ (List.mem_map.2 ⟨e', he', rfl⟩)).trans (Segment.distance2_nearest_le hw)

/-- A point is not in two regions at once if the border point nearest to it is outside of one. -/
theorem not_mem_of_nearest (hdisjoint : Disjoint o.border q.border) (hy : y ∈ o.border)
    (hyq : y ∉ q.region) (hle : ∀ w ∈ q.border, x.distance2 y ≤ x.distance2 w) :
    x ∉ q.region := by
  intro hx
  obtain ⟨w, hw, hb⟩ := exists_mem_border hx hyq
  have hwy : w = y := Segment.eq_b_of_distance2_le hw (hle w hb)
  exact Set.disjoint_left.1 hdisjoint hy (hwy ▸ hb)

/-- Regions of which neither border meets the other region have no common point. -/
theorem disjoint_region (ho : o ≠ []) (hdisjoint : Disjoint o.border q.border)
    (hoq : ∀ v ∈ o.border, v ∉ q.region) (hqo : ∀ v ∈ q.border, v ∉ o.region) (hx : x ∈ o.region) :
    x ∉ q.region := by
  have hne : o.edges ++ q.edges ≠ [] := List.append_ne_nil_of_left_ne_nil (edges_ne_nil ho) _
  obtain ⟨e, he, v, hv, hle⟩ := exists_nearest hne x
  rcases List.mem_append.1 he with he | he
  · refine not_mem_of_nearest hdisjoint ⟨e, he, hv⟩ (hoq v ⟨e, he, hv⟩) ?_
    rintro w ⟨e', he', hw⟩
    exact hle e' (List.mem_append_right _ he') w hw
  · refine absurd hx (not_mem_of_nearest hdisjoint.symm ⟨e, he, hv⟩ (hqo v ⟨e, he, hv⟩) ?_)
    rintro w ⟨e', he', hw⟩
    exact hle e' (List.mem_append_left _ he') w hw

/-- Regions without a corner in each other are as close as their borders. -/
theorem exists_borders_le (ho : o ≠ []) (hcorner : ∀ v ∈ o, ¬q.contains v = true)
    (hcorner' : ∀ v ∈ q, ¬o.contains v = true) (hx : x ∈ o.region) (hy : y ∈ q.region) :
    ∃ v ∈ o.border, ∃ w ∈ q.border, v.distance2 w ≤ x.distance2 y := by
  by_cases hdisjoint : Disjoint o.border q.border
  · have hoq : ∀ v ∈ o.border, v ∉ q.region := fun v hv =>
      not_mem_region_of_border hdisjoint hcorner hv
    have hqo : ∀ v ∈ q.border, v ∉ o.region := fun v hv =>
      not_mem_region_of_border hdisjoint.symm hcorner' hv
    -- First the way from `x` to `y` leads into `q`, then the way back leads into `o`.
    obtain ⟨w, hw, -, hwle⟩ := exists_mem_border_le (disjoint_region ho hdisjoint hoq hqo hx) hy
    obtain ⟨v, hv, -, hvle⟩ := exists_mem_border_le (hqo w hw) hx
    refine ⟨v, hv, w, hw, ?_⟩
    rw [Point.distance2_comm v w]
    rw [Point.distance2_comm w x] at hvle
    exact hvle.trans hwle
  · obtain ⟨v, hv, hv'⟩ := Set.not_disjoint_iff.1 hdisjoint
    refine ⟨v, hv, v, hv', ?_⟩
    rw [Point.distance2_self]
    exact Point.distance2_nonneg x y

/-- The approach of two regions is a closest one. -/
theorem exists_approach (ho : o ≠ []) (hq : q ≠ []) :
    ∃ p, o.approach q = some p ∧ p.IsClosest o.region q.region := by
  rw [approach]
  split
  · rename_i v hv
    refine ⟨⟨v, v⟩, rfl, ?_⟩
    rcases Option.or_eq_some_iff.1 hv with hv | ⟨-, hv⟩
    · exact isClosest_of_mem
        (o.border_subset_region (corner_mem_border (List.mem_of_find?_eq_some hv)))
        (contains_iff.1 (List.find?_some hv)).2
    · exact isClosest_of_mem (contains_iff.1 (List.find?_some hv)).2
        (q.border_subset_region (corner_mem_border (List.mem_of_find?_eq_some hv)))
  · rename_i hnone
    rw [Option.or_eq_none_iff, List.find?_eq_none, List.find?_eq_none] at hnone
    obtain ⟨hcorner, hcorner'⟩ := hnone
    have hmem : ∀ p, p ∈ (o.edges.flatMap fun e => q.edges.filterMap e.approach) ↔
        ∃ e ∈ o.edges, ∃ e' ∈ q.edges, e.approach e' = some p := by
      intro p
      simp only [List.mem_flatMap, List.mem_filterMap]
    refine exists_isClosest ?_ ?_ ?_
    · obtain ⟨e, he⟩ := List.exists_mem_of_ne_nil _ (edges_ne_nil ho)
      obtain ⟨e', he'⟩ := List.exists_mem_of_ne_nil _ (edges_ne_nil hq)
      obtain ⟨p, hp, -⟩ := e.exists_approach e'
      exact List.ne_nil_of_mem ((hmem p).2 ⟨e, he, e', he', hp⟩)
    · intro p hp
      obtain ⟨e, he, e', he', hp⟩ := (hmem p).1 hp
      obtain ⟨p', hp', hclosest⟩ := e.exists_approach e'
      obtain rfl := Option.some.inj (hp'.symm.trans hp)
      exact ⟨o.border_subset_region ⟨e, he, hclosest.a_mem⟩,
        q.border_subset_region ⟨e', he', hclosest.b_mem⟩⟩
    · intro x hx y hy
      obtain ⟨v, ⟨e, he, hv⟩, w, ⟨e', he', hw⟩, hle⟩ :=
        exists_borders_le ho hcorner hcorner' hx hy
      obtain ⟨p, hp, hclosest⟩ := e.exists_approach e'
      exact ⟨p, (hmem p).2 ⟨e, he, e', he', hp⟩, (hclosest.least v hv w hw).trans hle⟩

end Outline

end Ratsnest
