import Ratsnest.Geometry.Arc
import Ratsnest.Proofs.Geometry.Box

/-!
# Arcs and their boxes

The box of an arc surrounds every point of its circle that the sweep faces, and both ends
(`Arc.surrounds_of_mem_trace`).  In each of the four directions of the axes a point of the sweep is
either not beyond both ends, or the sweep covers that direction itself: between two angles the
cosine is greatest at one of them, unless a full turn lies between.
-/

namespace Ratsnest

/-! ## Angles in degrees -/

namespace AngularScalar

theorem real_sqrt (x : ℝ) : sqrt x = Real.sqrt x := rfl

theorem real_cos (x : ℝ) : cos x = Real.cos (x * (Real.pi / 180)) := rfl

theorem real_sin (x : ℝ) : sin x = Real.sin (x * (Real.pi / 180)) := rfl

theorem real_cos_add_turns (x : ℝ) (k : ℤ) : (cos (x + 360 * k) : ℝ) = cos x := by
  rw [real_cos, real_cos, ← Real.cos_add_int_mul_two_pi (x * (Real.pi / 180)) k]
  congr 1
  ring

theorem real_cos_sub_quarter (x : ℝ) : (cos (x - 90) : ℝ) = sin x := by
  rw [real_cos, real_sin, ← Real.cos_sub_pi_div_two]
  congr 1
  ring

theorem real_cos_sub_half (x : ℝ) : (cos (x - 180) : ℝ) = -cos x := by
  rw [real_cos, real_cos, ← Real.cos_sub_pi]
  congr 1
  ring

theorem real_cos_le_one (x : ℝ) : (cos x : ℝ) ≤ 1 := Real.cos_le_one _

/-- The remainder is the least angle from zero up among those that differ by full turns. -/
theorem real_turnRemainder_le_iff {x t : ℝ} :
    Scalar.turnRemainder x ≤ t ↔ ∃ k : ℤ, 0 ≤ x + 360 * k ∧ x + 360 * k ≤ t := by
  have hdef : Scalar.turnRemainder x = x - 360 * ⌊x / 360⌋ := rfl
  rw [hdef]
  constructor
  · intro h
    refine ⟨-⌊x / 360⌋, ?_, ?_⟩
    · have := Int.floor_le (x / 360)
      rw [le_div_iff₀ (by norm_num)] at this
      push_cast
      linarith
    · push_cast
      linarith
  · rintro ⟨k, h0, ht⟩
    have hk : -k ≤ ⌊x / 360⌋ := by
      rw [Int.le_floor, le_div_iff₀ (by norm_num)]
      push_cast
      linarith
    have hk' : -(k : ℝ) ≤ ⌊x / 360⌋ := by exact_mod_cast hk
    linarith

/-- Within a turn the cosine is greatest at an end. -/
theorem real_cos_le_max {a b x : ℝ} (h0 : 0 ≤ a) (hax : a ≤ x) (hxb : x ≤ b) (h1 : b ≤ 360) :
    (cos x : ℝ) ≤ max (cos a) (cos b) := by
  have hpi := Real.pi_pos
  rcases le_total x 180 with hx | hx
  · refine le_max_of_le_left ?_
    rw [real_cos, real_cos]
    refine Real.cos_le_cos_of_nonneg_of_le_pi (by positivity) ?_ (by gcongr)
    calc x * (Real.pi / 180) ≤ 180 * (Real.pi / 180) := by gcongr
      _ = Real.pi := by ring
  · refine le_max_of_le_right ?_
    rw [real_cos, real_cos, ← Real.cos_two_pi_sub, ← Real.cos_two_pi_sub (b * _)]
    refine Real.cos_le_cos_of_nonneg_of_le_pi ?_ ?_ (by gcongr)
    · have : b * (Real.pi / 180) ≤ 360 * (Real.pi / 180) := by gcongr
      linarith
    · have : 180 * (Real.pi / 180) ≤ x * (Real.pi / 180) := by gcongr
      linarith

/-- Between two angles the cosine of the distance to a direction is greatest at one of them, unless
the direction lies between them. -/
theorem real_cos_sub_le_max_or {a b x : ℝ} (s : ℝ) (hx : x ∈ Set.uIcc a b) :
    (∃ k : ℤ, s + 360 * k ∈ Set.uIcc a b) ∨
      (cos (x - s) : ℝ) ≤ max (cos (a - s)) (cos (b - s)) := by
  wlog hab : a ≤ b generalizing a b
  · rw [Set.uIcc_comm] at hx ⊢
    rw [max_comm]
    exact this hx (le_of_not_ge hab)
  rw [Set.uIcc_of_le hab] at hx ⊢
  obtain ⟨hax, hxb⟩ := hx
  -- The last occurrence of the direction not beyond `b`.
  let k : ℤ := ⌊(b - s) / 360⌋
  have hle : s + 360 * k ≤ b := by
    have := Int.floor_le ((b - s) / 360)
    rw [le_div_iff₀ (by norm_num)] at this
    linarith
  have hlt : b < s + 360 * k + 360 := by
    have := Int.lt_floor_add_one ((b - s) / 360)
    rw [div_lt_iff₀ (by norm_num)] at this
    linarith
  by_cases ha : a ≤ s + 360 * k
  · exact .inl ⟨k, ha, hle⟩
  · refine .inr ?_
    rw [← real_cos_add_turns (x - s) (-k), ← real_cos_add_turns (a - s) (-k),
      ← real_cos_add_turns (b - s) (-k), Int.cast_neg]
    exact real_cos_le_max (by linarith) (by linarith) (by linarith) (by linarith)

end AngularScalar

namespace Point

theorem length_eq_norm (v : Point ℝ) : v.length = ‖v.toComplex‖ := by
  rw [Complex.norm_def, Complex.normSq_apply]
  rfl

theorem angle_eq (v : Point ℝ) : v.angle = Complex.arg v.toComplex * (180 / Real.pi) := rfl

/-- The direction of a vector in radians. -/
theorem angle_radians (v : Point ℝ) : v.angle * (Real.pi / 180) = Complex.arg v.toComplex := by
  rw [angle_eq]
  field_simp [Real.pi_ne_zero]

theorem length_mul_cos_angle (v : Point ℝ) : v.length * AngularScalar.cos v.angle = v.x := by
  rw [length_eq_norm, AngularScalar.real_cos, angle_radians]
  exact Complex.norm_mul_cos_arg _

theorem length_mul_sin_angle (v : Point ℝ) : v.length * AngularScalar.sin v.angle = v.y := by
  rw [length_eq_norm, AngularScalar.real_sin, angle_radians]
  exact Complex.norm_mul_sin_arg _

/-- A vector that is stretched keeps its direction. -/
theorem angle_scale (v : Point ℝ) {k : ℝ} (hk : 0 < k) : (v.scale k).angle = v.angle := by
  have hmul : (v.scale k).toComplex = k * v.toComplex := by
    apply Complex.ext <;> simp [toComplex, mul_comm]
  rw [angle_eq, angle_eq, hmul, Complex.arg_real_mul _ hk]

end Point

namespace Arc

open AngularScalar

variable {c : Arc ℝ} {p q : Point ℝ}

/-! ## The sweep -/

/-- The sweep covers the angles between its ends, up to full turns. -/
theorem containsAngle_iff {angle : ℝ} : c.containsAngle angle ↔ 360 ≤ |c.sweep| ∨
    ∃ k : ℤ, angle + 360 * k ∈ Set.uIcc c.startAngle (c.startAngle + c.sweep) := by
  have hfull : ((360 : ℕ) : ℝ) ≤ Scalar.magnitude c.sweep ↔ 360 ≤ |c.sweep| := by
    norm_num [Scalar.magnitude]
  rw [containsAngle]
  by_cases h : 360 ≤ |c.sweep|
  · rw [if_pos (hfull.2 h)]
    exact iff_of_true rfl (.inl h)
  · rw [if_neg (mt hfull.1 h), or_iff_right h]
    by_cases hneg : c.sweep < 0
    · simp only [if_pos hneg, decide_eq_true_iff, real_turnRemainder_le_iff]
      rw [Set.uIcc_of_ge (by linarith)]
      refine exists_congr fun k => ?_
      rw [Set.mem_Icc]
      constructor <;> rintro ⟨h0, h1⟩ <;> constructor <;> linarith
    · simp only [if_neg hneg, decide_eq_true_iff, real_turnRemainder_le_iff]
      rw [Set.uIcc_of_le (by linarith)]
      refine exists_congr fun k => ?_
      rw [Set.mem_Icc]
      constructor <;> rintro ⟨h0, h1⟩ <;> constructor <;> linarith

/-! ## Points of the circle -/

theorem pointAt_x (c : Arc ℝ) (angle : ℝ) :
    (c.pointAt angle).x = c.center.x + c.radius * cos angle := rfl

theorem pointAt_y (c : Arc ℝ) (angle : ℝ) :
    (c.pointAt angle).y = c.center.y + c.radius * sin angle := rfl

/-- A point of the circle lies where its direction from the center leads. -/
theorem pointAt_angle (hr : 0 ≤ c.radius) (hp : p.distance2 c.center = c.radius * c.radius) :
    c.pointAt (p - c.center).angle = p := by
  have hlength : (p - c.center).length = c.radius := by
    rw [← Real.sqrt_mul_self hr, ← hp]
    rfl
  ext
  · rw [pointAt_x, ← hlength, Point.length_mul_cos_angle, Point.sub_x, add_sub_cancel]
  · rw [pointAt_y, ← hlength, Point.length_mul_sin_angle, Point.sub_y, add_sub_cancel]

/-- The points of an arc. -/
def points (c : Arc ℝ) : Set (Point ℝ) :=
  (fun k => c.pointAt (c.startAngle + k * c.sweep)) '' Set.Icc 0 1

/-! ## The box -/

theorem surrounds_start (c : Arc ℝ) : c.box.Surrounds c.start 0 :=
  .foldl_union (.inl ((Box.surrounds_point c.start).union_left _))

theorem surrounds_stop (c : Arc ℝ) : c.box.Surrounds c.stop 0 :=
  .foldl_union (.inl ((Box.surrounds_point c.stop).union_right _))

/-- The box surrounds the extreme points of the circle that the sweep covers. -/
theorem surrounds_extreme (c : Arc ℝ) {n : ℕ} (hn : n ∈ [0, 90, 180, 270])
    (h : c.containsAngle n) : c.box.Surrounds (c.pointAt n) 0 :=
  .foldl_union (.inr (List.mem_map_of_mem (List.mem_filter.2 ⟨List.mem_map_of_mem hn, h⟩)))

/-- In the direction of an axis no point of the sweep is beyond all that the box surrounds. -/
theorem exists_beyond (c : Arc ℝ) {n : ℕ} (hn : n ∈ [0, 90, 180, 270]) {angle : ℝ}
    (h : c.containsAngle angle) : ∃ other, c.box.Surrounds (c.pointAt other) 0 ∧
      (cos (angle - n) : ℝ) ≤ cos (other - n) := by
  by_cases hextreme : c.containsAngle n
  · refine ⟨n, c.surrounds_extreme hn hextreme, ?_⟩
    rw [sub_self, real_cos 0, zero_mul, Real.cos_zero]
    exact real_cos_le_one _
  · rw [containsAngle_iff, not_or] at hextreme
    obtain ⟨k, hk⟩ := (containsAngle_iff.1 h).resolve_left hextreme.1
    have hmax := (real_cos_sub_le_max_or n hk).resolve_left hextreme.2
    have hshift : angle + 360 * k - n = angle - n + 360 * k := by ring
    rw [hshift, real_cos_add_turns, le_max_iff] at hmax
    rcases hmax with hmax | hmax
    · exact ⟨c.startAngle, c.surrounds_start, hmax⟩
    · exact ⟨c.startAngle + c.sweep, c.surrounds_stop, hmax⟩

/-- The box surrounds the points of the sweep. -/
theorem surrounds_pointAt (hr : 0 ≤ c.radius) {angle : ℝ} (h : c.containsAngle angle) :
    c.box.Surrounds (c.pointAt angle) 0 := by
  have hcos : ∀ x : ℝ, (cos (x - (270 : ℕ)) : ℝ) = -sin x := fun x => by
    rw [← real_cos_sub_quarter, ← real_cos_sub_half]
    congr 1
    push_cast
    ring
  refine ⟨?_, ?_, ?_, ?_⟩
  · obtain ⟨other, hother, hle⟩ := c.exists_beyond (n := 180) (by decide) h
    rw [Nat.cast_ofNat, real_cos_sub_half, real_cos_sub_half] at hle
    have := hother.left
    rw [pointAt_x] at this ⊢
    nlinarith
  · obtain ⟨other, hother, hle⟩ := c.exists_beyond (n := 0) (by decide) h
    rw [Nat.cast_zero, sub_zero, sub_zero] at hle
    have := hother.right
    rw [pointAt_x] at this ⊢
    nlinarith
  · obtain ⟨other, hother, hle⟩ := c.exists_beyond (n := 270) (by decide) h
    rw [hcos, hcos] at hle
    have := hother.below
    rw [pointAt_y] at this ⊢
    nlinarith
  · obtain ⟨other, hother, hle⟩ := c.exists_beyond (n := 90) (by decide) h
    rw [Nat.cast_ofNat, real_cos_sub_quarter, real_cos_sub_quarter] at hle
    have := hother.above
    rw [pointAt_y] at this ⊢
    nlinarith

/-- The points that searches on an arc find: its ends, and the points of the circle that the sweep
faces. -/
def trace (c : Arc ℝ) : Set (Point ℝ) :=
  {p | p = c.start ∨ p = c.stop ∨ p.distance2 c.center = c.radius * c.radius ∧ c.faces p}

/-- The box surrounds what searches on the arc find. -/
theorem surrounds_of_mem_trace (hr : 0 ≤ c.radius) (hp : p ∈ c.trace) : c.box.Surrounds p 0 := by
  obtain rfl | rfl | ⟨hcircle, hfaces⟩ := hp
  · exact c.surrounds_start
  · exact c.surrounds_stop
  · rw [← pointAt_angle hr hcircle]
    exact surrounds_pointAt hr hfaces

end Arc

end Ratsnest
