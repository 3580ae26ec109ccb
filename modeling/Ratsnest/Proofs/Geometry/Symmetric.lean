import Ratsnest.Proofs.Geometry.Arc
import Ratsnest.Proofs.Geometry.Segment

/-!
# Approaches from either side

Two curves are as far apart from either side: the squared distance that a search finds depends only
on which squared distances there are among its candidates (`Approach.d2_closest_eq`), and seen from
the other curve the candidates are the same pairs of points, in another order
(`Segment.d2_approach_comm`, `Arc.d2_approach_comm`).
-/

namespace Ratsnest

namespace Approach

variable {xs ys : List (Approach ℝ)} {p : Approach ℝ} {x y : Point ℝ}

@[simp] theorem d2_swap (p : Approach ℝ) : p.swap.d2 = p.d2 := Point.distance2_comm p.b p.a

theorem swap_eq_mk_iff : p.swap = ⟨x, y⟩ ↔ p = ⟨y, x⟩ := by
  constructor
  · intro h
    cases h
    rfl
  · rintro rfl
    rfl

/-- What a search finds is as close as the least of the candidates, whichever it is. -/
theorem d2_closest_eq (h : ∀ v, v ∈ xs.map d2 ↔ v ∈ ys.map d2) :
    (closest xs).map d2 = (closest ys).map d2 := by
  rcases List.eq_nil_or_concat xs with rfl | hxs
  · obtain rfl : ys = [] := by
      rw [← List.map_eq_nil_iff, List.eq_nil_iff_forall_not_mem]
      exact fun v hv => List.not_mem_nil ((h v).2 hv)
    rfl
  have hne : xs ≠ [] := by
    obtain ⟨_, _, rfl⟩ := hxs
    simp
  have hne' : ys ≠ [] := by
    rintro rfl
    obtain ⟨p, hp⟩ := List.exists_mem_of_ne_nil xs hne
    exact List.not_mem_nil ((h p.d2).1 (List.mem_map_of_mem hp))
  obtain ⟨p, hp, heq, hle⟩ := exists_closest hne
  obtain ⟨q, hq, heq', hle'⟩ := exists_closest hne'
  obtain ⟨p', hp', hqp⟩ := List.mem_map.1 ((h q.d2).2 (List.mem_map_of_mem hq))
  obtain ⟨q', hq', hpq⟩ := List.mem_map.1 ((h p.d2).1 (List.mem_map_of_mem hp))
  rw [heq, heq', Option.map_some, Option.map_some]
  exact congrArg some (le_antisymm (hqp ▸ hle p' hp') (hpq ▸ hle' q' hq'))

/-- The same pairs seen from the other side are as close. -/
theorem d2_closest_swap (h : ∀ p, p ∈ xs ↔ p.swap ∈ ys) :
    (closest xs).map d2 = (closest ys).map d2 := by
  refine d2_closest_eq fun v => ?_
  rw [List.mem_map, List.mem_map]
  constructor
  · rintro ⟨p, hp, rfl⟩
    exact ⟨p.swap, (h p).1 hp, p.d2_swap⟩
  · rintro ⟨p, hp, rfl⟩
    exact ⟨p.swap, (h p.swap).2 hp, p.d2_swap⟩

theorem d2_meeting (x : Point ℝ) : (meeting x).map d2 = some 0 := by
  change some (x.distance2 x) = some 0
  rw [Point.distance2_self]

/-- Two searches both find something, or neither does. -/
theorem found_or_not {β : Type} {o o' : Option β} (h : o.isSome = o'.isSome) :
    (∃ x y, o = some x ∧ o' = some y) ∨ o = none ∧ o' = none := by
  cases o with
  | some x => exact .inl ⟨x, (Option.isSome_iff_exists.1 h.symm).imp fun _ hy => ⟨rfl, hy⟩⟩
  | none =>
    exact .inr ⟨rfl, Option.isNone_iff_eq_none.1 (Option.isSome_eq_false_iff.1 h.symm)⟩

end Approach

open Approach

namespace Segment

/-- Segments cross each other from either side. -/
theorem isSome_crossing_comm (s t : Segment ℝ) : (s.crossing t).isSome = (t.crossing s).isSome := by
  have harea : t.direction.cross s.direction = -s.direction.cross t.direction := by
    simp only [Point.cross]
    ring
  have hoffset (v : Point ℝ) : (s.a - t.a).cross v = -(t.a - s.a).cross v := by
    simp only [Point.cross, Point.sub_x, Point.sub_y]
    ring
  rw [crossing, crossing]
  by_cases hzero : s.direction.cross t.direction = 0
  · rw [if_pos (Scalar.real_beq_iff.2 hzero),
      if_pos (Scalar.real_beq_iff.2 (by rw [harea, hzero, neg_zero]))]
  · rw [if_neg (mt Scalar.real_beq_iff.1 hzero),
      if_neg (mt Scalar.real_beq_iff.1 (by rwa [harea, neg_eq_zero]))]
    simp only [harea, hoffset, neg_div_neg_eq, Bool.and_comm]
    split <;> rfl

/-- Segments are as far apart from either side. -/
theorem d2_approach_comm (s t : Segment ℝ) : (s.approach t).map d2 = (t.approach s).map d2 := by
  rw [approach, approach]
  rcases found_or_not (isSome_crossing_comm s t) with ⟨x, y, hst, hts⟩ | ⟨hst, hts⟩
  · rw [hst, hts]
    exact (d2_meeting x).trans (d2_meeting y).symm
  · rw [hst, hts]
    refine d2_closest_swap fun p => ?_
    simp only [List.mem_cons, List.not_mem_nil, or_false, swap_eq_mk_iff]
    tauto

end Segment

namespace Arc

variable (c e : Arc ℝ)

/-- The line through the centers, with the distance of these. -/
theorem axis_comm : (c.center - e.center).scale (1 / e.center.distance c.center) =
    ((e.center - c.center).scale (1 / c.center.distance e.center)).scale (-1) := by
  rw [Point.distance_comm e.center]
  ext
  · simp only [Point.scale_x, Point.sub_x]
    ring
  · simp only [Point.scale_y, Point.sub_y]
    ring

/-- The full circles of two arcs meet in the same points from either side. -/
theorem mem_circleCrossings_comm (x : Point ℝ) :
    x ∈ c.circleCrossings e ↔ x ∈ e.circleCrossings c := by
  have hsum : e.radius + c.radius = c.radius + e.radius := add_comm _ _
  have hmagnitude : Scalar.magnitude (e.radius - c.radius) =
      Scalar.magnitude (c.radius - e.radius) := abs_sub_comm _ _
  rw [circleCrossings, circleCrossings]
  dsimp only
  rw [axis_comm c e, Point.distance_comm e.center, hsum, hmagnitude]
  split
  · rfl
  rename_i hcond
  have hd : c.center.distance e.center ≠ 0 := by
    intro hzero
    simp [hzero] at hcond
  generalize hcenter : (e.center - c.center).scale (1 / c.center.distance e.center) = u
  generalize c.center.distance e.center = d at hd hcenter
  have hx : e.center.x = c.center.x + u.x * d := by
    rw [← hcenter, Point.scale_x, Point.sub_x]
    field_simp
    ring
  have hy : e.center.y = c.center.y + u.y * d := by
    rw [← hcenter, Point.scale_y, Point.sub_y]
    field_simp
    ring
  -- The shares of the way between the centers add up to the whole way.
  have halong : (e.radius * e.radius - c.radius * c.radius + d * d) / (((2 : ℕ) : ℝ) * d) =
      d - (c.radius * c.radius - e.radius * e.radius + d * d) / (((2 : ℕ) : ℝ) * d) := by
    field_simp
    ring
  have haside : e.radius * e.radius -
      (d - (c.radius * c.radius - e.radius * e.radius + d * d) / (((2 : ℕ) : ℝ) * d)) *
        (d - (c.radius * c.radius - e.radius * e.radius + d * d) / (((2 : ℕ) : ℝ) * d)) =
      c.radius * c.radius - (c.radius * c.radius - e.radius * e.radius + d * d) /
        (((2 : ℕ) : ℝ) * d) * ((c.radius * c.radius - e.radius * e.radius + d * d) /
          (((2 : ℕ) : ℝ) * d)) := by
    field_simp
    ring
  rw [halong, haside]
  generalize (c.radius * c.radius - e.radius * e.radius + d * d) / (((2 : ℕ) : ℝ) * d) = k
  generalize AngularScalar.sqrt (max (c.radius * c.radius - k * k) 0) = l
  simp only [List.mem_cons, List.not_mem_nil, or_false]
  rw [or_comm]
  refine or_congr (Eq.congr rfl (Point.ext ?_ ?_)) (Eq.congr rfl (Point.ext ?_ ?_))
  all_goals
    simp only [Point.add_x, Point.add_y, Point.sub_x, Point.sub_y, Point.scale_x, Point.scale_y]
  · linear_combination -hx
  · linear_combination -hy
  · linear_combination -hx
  · linear_combination -hy

/-- Whether a point of the full circle is on the line through the center in the direction `u`. -/
def OnAxis (f : Arc ℝ) (u x : Point ℝ) : Prop :=
  x = f.center + u.scale (f.radius * 1) ∨ x = f.center + u.scale (f.radius * -1)

theorem onAxis_neg_iff (f : Arc ℝ) (u x : Point ℝ) : f.OnAxis (u.scale (-1)) x ↔ f.OnAxis u x := by
  have hturn (side : ℝ) : (u.scale (-1)).scale (f.radius * side) = u.scale (f.radius * -side) := by
    ext
    · simp only [Point.scale_x]
      ring
    · simp only [Point.scale_y]
      ring
  rw [OnAxis, OnAxis, hturn, hturn, neg_neg]
  exact or_comm

theorem mem_axisPairs_iff (p : Approach ℝ) : p ∈ c.axisPairs e ↔
    0 < c.center.distance e.center ∧
      (c.OnAxis ((e.center - c.center).scale (1 / c.center.distance e.center)) p.a ∧ c.faces p.a) ∧
      e.OnAxis ((e.center - c.center).scale (1 / c.center.distance e.center)) p.b ∧
        e.faces p.b := by
  rw [axisPairs]
  dsimp only
  split
  · rename_i hd
    simp only [List.mem_flatMap, List.mem_map, List.mem_filter, List.mem_cons, List.not_mem_nil,
      or_false, exists_eq_or_imp, exists_eq_left, OnAxis, hd, true_and]
    constructor
    · rintro ⟨x, hx, y, hy, rfl⟩
      exact ⟨hx.imp_left (.imp Eq.symm Eq.symm), hy.imp_left (.imp Eq.symm Eq.symm)⟩
    · rintro ⟨hx, hy⟩
      exact ⟨p.a, hx.imp_left (.imp Eq.symm Eq.symm), p.b, hy.imp_left (.imp Eq.symm Eq.symm), rfl⟩
  · rename_i hd
    simp [hd]

theorem mem_axisPairs_comm (p : Approach ℝ) : p ∈ c.axisPairs e ↔ p.swap ∈ e.axisPairs c := by
  rw [mem_axisPairs_iff, mem_axisPairs_iff, axis_comm c e, onAxis_neg_iff, onAxis_neg_iff,
    Point.distance_comm e.center]
  exact and_congr_right fun _ => and_comm

/-- Arcs are as far apart from either side. -/
theorem d2_approach_comm : (c.approach e).map d2 = (e.approach c).map d2 := by
  have hmeet : ((c.circleCrossings e).find? fun p => c.faces p && e.faces p).isSome =
      ((e.circleCrossings c).find? fun p => e.faces p && c.faces p).isSome := by
    rw [Bool.eq_iff_iff, List.find?_isSome, List.find?_isSome]
    simp only [mem_circleCrossings_comm c e, Bool.and_comm]
  rw [approach, approach]
  rcases found_or_not hmeet with ⟨x, y, hce, hec⟩ | ⟨hce, hec⟩
  · rw [hce, hec]
    exact (d2_meeting x).trans (d2_meeting y).symm
  · rw [hce, hec]
    refine d2_closest_swap fun p => ?_
    simp only [List.mem_append, List.mem_cons, List.not_mem_nil, or_false, swap_eq_mk_iff,
      mem_axisPairs_comm c e]
    tauto

end Arc

end Ratsnest
