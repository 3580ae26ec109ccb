import Ratsnest.Proofs.Geometry.Trace

/-!
# Arcs as sets of points

The points of an arc are those that searches on it find (`Arc.points_eq_trace`): an angle is covered
just if full turns lead from it into the sweep (`Arc.containsAngle_iff_exists`).  The nearest point of
an arc is nearest among all of them (`Arc.distance2_nearest_le`).
-/

namespace Ratsnest

/-! ## Full turns -/

namespace AngularScalar

theorem real_sin_add_turns (x : ℝ) (k : ℤ) : (sin (x + 360 * k) : ℝ) = sin x := by
  rw [← real_cos_sub_quarter, ← real_cos_sub_quarter, ← real_cos_add_turns (x - 90) k]
  congr 1
  ring

theorem real_cos_sq_add_sin_sq (x : ℝ) : (cos x : ℝ) ^ 2 + sin x ^ 2 = 1 :=
  Real.cos_sq_add_sin_sq _

theorem real_cos_sub (x y : ℝ) : (cos (x - y) : ℝ) = cos x * cos y + sin x * sin y := by
  rw [real_cos, sub_mul, Real.cos_sub]
  rfl

theorem real_cos_sub_comm (x y : ℝ) : (cos (x - y) : ℝ) = cos (y - x) := by
  rw [real_cos_sub, real_cos_sub]
  ring

/-- Angles in one direction differ by full turns. -/
theorem exists_turns {x y : ℝ} (hcos : (cos x : ℝ) = cos y) (hsin : (sin x : ℝ) = sin y) :
    ∃ k : ℤ, x = y + 360 * k := by
  obtain ⟨k, hk⟩ := Real.Angle.angle_eq_iff_two_pi_dvd_sub.1 (Real.Angle.cos_sin_inj hcos hsin)
  refine ⟨k, mul_right_cancel₀ (b := Real.pi / 180) (by positivity) ?_⟩
  linear_combination hk

end AngularScalar

namespace Point

open AngularScalar

/-- The unit vector in the direction of an angle. -/
noncomputable def unit (angle : ℝ) : Point ℝ := ⟨cos angle, sin angle⟩

@[simp] theorem unit_x (angle : ℝ) : (unit angle).x = cos angle := rfl
@[simp] theorem unit_y (angle : ℝ) : (unit angle).y = sin angle := rfl

theorem length_unit (angle : ℝ) : (unit angle).length = 1 := by
  have hsq := (unit angle).length_sq
  rw [unit_x, unit_y, real_cos_sq_add_sin_sq] at hsq
  nlinarith [(unit angle).length_nonneg]

theorem exists_angle_unit (angle : ℝ) : ∃ k : ℤ, (unit angle).angle = angle + 360 * k := by
  have hcos := (unit angle).length_mul_cos_angle
  have hsin := (unit angle).length_mul_sin_angle
  rw [length_unit, one_mul] at hcos hsin
  exact exists_turns hcos hsin

theorem unit_sq (angle : ℝ) : (unit angle).x ^ 2 + (unit angle).y ^ 2 = 1 :=
  real_cos_sq_add_sin_sq angle

theorem length_unit_scale {x k : ℝ} (hk : 0 ≤ k) : ((unit x).scale k).length = k := by
  rw [← sq_eq_sq₀ (length_nonneg _) hk, length_sq, scale_x, scale_y]
  linear_combination k ^ 2 * unit_sq x

/-- A point lies in its direction from another one. -/
theorem eq_add_unit (p q : Point ℝ) : p = q + (unit (p - q).angle).scale (p - q).length := by
  have hx := (p - q).length_mul_cos_angle
  have hy := (p - q).length_mul_sin_angle
  rw [sub_x] at hx
  rw [sub_y] at hy
  ext
  · rw [add_x, scale_x, unit_x]
    linear_combination -hx
  · rw [add_y, scale_y, unit_y]
    linear_combination -hy

/-- The law of cosines. -/
theorem distance2_add_unit (p : Point ℝ) (x y a b : ℝ) :
    (p + (unit x).scale a).distance2 (p + (unit y).scale b) =
      a ^ 2 + b ^ 2 - 2 * a * b * cos (x - y) := by
  have hx := real_cos_sq_add_sin_sq x
  have hy := real_cos_sq_add_sin_sq y
  rw [real_cos_sub, distance2_eq]
  simp only [add_x, add_y, scale_x, scale_y, unit_x, unit_y]
  linear_combination a ^ 2 * hx + b ^ 2 * hy

end Point

namespace Arc

open AngularScalar

variable {c : Arc ℝ} {p q : Point ℝ} {angle k : ℝ}

/-- The sweep covers the angles from which full turns lead to a share of it. -/
theorem containsAngle_iff_exists : c.containsAngle angle ↔
    ∃ n : ℤ, ∃ k ∈ Set.Icc (0 : ℝ) 1, c.startAngle + k * c.sweep = angle + 360 * n := by
  have hshare (x : ℝ) : x ∈ Set.uIcc c.startAngle (c.startAngle + c.sweep) ↔
      ∃ k ∈ Set.Icc (0 : ℝ) 1, c.startAngle + k * c.sweep = x := by
    rw [← segment_eq_uIcc, segment_eq_image']
    simp
  simp only [← hshare]
  rw [containsAngle_iff]
  refine ⟨?_, .inr⟩
  rintro (hfull | h)
  · -- The first angle from the lower end up that differs by full turns.
    have hlength := max_sub_min_eq_abs c.startAngle (c.startAngle + c.sweep)
    rw [add_sub_cancel_left] at hlength
    have hle := Int.le_ceil ((min c.startAngle (c.startAngle + c.sweep) - angle) / 360)
    have hlt := Int.ceil_lt_add_one ((min c.startAngle (c.startAngle + c.sweep) - angle) / 360)
    refine ⟨⌈(min c.startAngle (c.startAngle + c.sweep) - angle) / 360⌉, ?_, ?_⟩
    · rw [div_le_iff₀ (by norm_num)] at hle
      change min c.startAngle (c.startAngle + c.sweep) ≤ _
      linarith
    · rw [← sub_lt_iff_lt_add, lt_div_iff₀ (by norm_num)] at hlt
      change _ ≤ max c.startAngle (c.startAngle + c.sweep)
      linarith
  · exact h

theorem containsAngle_share (h0 : 0 ≤ k) (h1 : k ≤ 1) :
    c.containsAngle (c.startAngle + k * c.sweep) :=
  containsAngle_iff_exists.2 ⟨0, k, ⟨h0, h1⟩, by simp⟩

theorem containsAngle_add_turns (n : ℤ) (h : c.containsAngle angle) :
    c.containsAngle (angle + 360 * n) := by
  obtain ⟨m, k, hk, heq⟩ := containsAngle_iff_exists.1 h
  refine containsAngle_iff_exists.2 ⟨m - n, k, hk, heq.trans ?_⟩
  push_cast
  ring

/-! ## Points -/

theorem pointAt_eq (c : Arc ℝ) (angle : ℝ) :
    c.pointAt angle = c.center + (Point.unit angle).scale c.radius := by
  ext
  · rw [pointAt_x, Point.add_x, Point.scale_x, Point.unit_x, mul_comm]
  · rw [pointAt_y, Point.add_y, Point.scale_y, Point.unit_y, mul_comm]

theorem pointAt_add_turns (c : Arc ℝ) (angle : ℝ) (n : ℤ) :
    c.pointAt (angle + 360 * n) = c.pointAt angle := by
  ext
  · rw [pointAt_x, real_cos_add_turns, pointAt_x]
  · rw [pointAt_y, real_sin_add_turns, pointAt_y]

theorem pointAt_of_radius (h : c.radius = 0) (angle : ℝ) : c.pointAt angle = c.center := by
  ext
  · rw [pointAt_x, h, zero_mul, add_zero]
  · rw [pointAt_y, h, zero_mul, add_zero]

/-- The point a share `k` of the way along the sweep. -/
noncomputable def along (c : Arc ℝ) (k : ℝ) : Point ℝ := c.pointAt (c.startAngle + k * c.sweep)

@[simp] theorem along_zero (c : Arc ℝ) : c.along 0 = c.start := by
  rw [along, start, zero_mul, add_zero]

@[simp] theorem along_one (c : Arc ℝ) : c.along 1 = c.stop := by
  rw [along, stop, one_mul]

theorem along_mem (h0 : 0 ≤ k) (h1 : k ≤ 1) : c.along k ∈ c.points := ⟨k, ⟨h0, h1⟩, rfl⟩

theorem start_mem_points (c : Arc ℝ) : c.start ∈ c.points :=
  c.along_zero ▸ along_mem le_rfl zero_le_one

theorem stop_mem_points (c : Arc ℝ) : c.stop ∈ c.points :=
  c.along_one ▸ along_mem zero_le_one le_rfl

theorem pointAt_mem_points (h : c.containsAngle angle) : c.pointAt angle ∈ c.points := by
  obtain ⟨n, k, hk, heq⟩ := containsAngle_iff_exists.1 h
  exact ⟨k, hk, (congrArg c.pointAt heq).trans (c.pointAt_add_turns angle n)⟩

/-- An arc faces what lies in a direction that its sweep covers. -/
theorem faces_of_unit {k : ℝ} (hk : 0 < k) (hp : p - c.center = (Point.unit angle).scale k)
    (h : c.containsAngle angle) : c.faces p := by
  obtain ⟨n, hn⟩ := Point.exists_angle_unit angle
  rw [faces, hp, Point.angle_scale _ hk, hn]
  exact containsAngle_add_turns n h

theorem pointAt_sub_center (c : Arc ℝ) (angle : ℝ) :
    c.pointAt angle - c.center = (Point.unit angle).scale c.radius := by
  rw [pointAt_eq]
  ext <;> simp

theorem distance2_pointAt_center (c : Arc ℝ) (angle : ℝ) :
    (c.pointAt angle).distance2 c.center = c.radius * c.radius := by
  rw [pointAt_eq, Point.distance2_add_scale, Point.length_unit, one_mul, sq]

/-- The points of an arc are those that searches on it find. -/
theorem points_eq_trace (hr : 0 ≤ c.radius) : c.points = c.trace := by
  refine Set.Subset.antisymm ?_ ?_
  · rintro _ ⟨k, ⟨h0, h1⟩, rfl⟩
    rcases hr.eq_or_lt with hzero | hpos
    · exact .inl ((pointAt_of_radius hzero.symm _).trans (pointAt_of_radius hzero.symm _).symm)
    · exact mem_trace_of_faces (c.distance2_pointAt_center _)
        (faces_of_unit hpos (c.pointAt_sub_center _) (containsAngle_share h0 h1))
  · rintro p (rfl | rfl | ⟨hcircle, hfaces⟩)
    · exact c.start_mem_points
    · exact c.stop_mem_points
    · rw [← pointAt_angle hr hcircle]
      exact pointAt_mem_points hfaces

/-! ## The nearest point -/

/-- How far a point is from one of the circle. -/
theorem distance2_pointAt (c : Arc ℝ) (p : Point ℝ) (angle : ℝ) :
    p.distance2 (c.pointAt angle) = (p - c.center).length ^ 2 + c.radius ^ 2 -
      2 * (p - c.center).length * c.radius * cos (angle - (p - c.center).angle) := by
  rw [pointAt_eq, ← real_cos_sub_comm, ← Point.distance2_add_unit c.center, ← Point.eq_add_unit]

/-- How far the point of the circle is that lies in the direction of `p`. -/
theorem distance2_toward (hlength : 0 < (p - c.center).length) :
    p.distance2 (c.toward (p - c.center)) = ((p - c.center).length - c.radius) ^ 2 := by
  have hstep : c.toward (p - c.center) =
      p + (p - c.center).scale (c.radius / (p - c.center).length - 1) := by
    ext
    · simp only [toward, Point.add_x, Point.scale_x, Point.sub_x]
      ring
    · simp only [toward, Point.add_y, Point.scale_y, Point.sub_y]
      ring
  rw [hstep, Point.distance2_comm, Point.distance2_add_scale, mul_sub, mul_div_cancel₀ _ hlength.ne']
  ring

/-- No point of the arc is nearer than the nearest one. -/
theorem distance2_nearest_le (hr : 0 ≤ c.radius) (hq : q ∈ c.points) :
    p.distance2 (c.nearest p) ≤ p.distance2 q := by
  obtain ⟨k, ⟨h0, h1⟩, rfl⟩ := hq
  unfold nearest
  dsimp only
  split
  · -- From the center all points of the circle are equally far.
    rename_i hcenter
    rw [Bool.and_eq_true, Scalar.real_beq_iff, Scalar.real_beq_iff] at hcenter
    have hp : p = c.center := Point.ext (sub_eq_zero.1 hcenter.1) (sub_eq_zero.1 hcenter.2)
    rw [hp, start, Point.distance2_comm, Point.distance2_comm c.center, distance2_pointAt_center,
      distance2_pointAt_center]
  · rename_i hne
    rw [Bool.and_eq_true, Scalar.real_beq_iff, Scalar.real_beq_iff] at hne
    have hlength := Point.length_pos hne
    have hstep := mul_nonneg hr hlength.le
    split
    · rw [distance2_toward hlength, distance2_pointAt]
      nlinarith [real_cos_le_one (c.startAngle + k * c.sweep - (p - c.center).angle)]
    · rename_i hfaces
      rw [faces, containsAngle_iff, not_or] at hfaces
      have hends : p.distance2 c.start ≤ p.distance2 (c.pointAt (c.startAngle + k * c.sweep)) ∨
          p.distance2 c.stop ≤ p.distance2 (c.pointAt (c.startAngle + k * c.sweep)) := by
        obtain ⟨n, hn⟩ := (containsAngle_iff.1 (containsAngle_share (c := c) h0 h1)).resolve_left
          hfaces.1
        have hmax := (real_cos_sub_le_max_or (p - c.center).angle hn).resolve_left hfaces.2
        rw [add_sub_right_comm, real_cos_add_turns, le_max_iff] at hmax
        rw [start, stop, distance2_pointAt, distance2_pointAt, distance2_pointAt]
        refine hmax.imp (fun h => ?_) fun h => ?_
        · nlinarith [mul_le_mul_of_nonneg_left h hstep]
        · nlinarith [mul_le_mul_of_nonneg_left h hstep]
      split
      · rename_i hle
        exact hends.elim id hle.trans
      · rename_i hlt
        exact hends.elim (le_of_not_ge hlt).trans id

end Arc

end Ratsnest
