import Ratsnest.Proofs.Geometry.Sweep

/-!
# Closest approaches of arcs

The approach of a segment and an arc, and the one of two arcs, are closest ones
(`Arc.exists_approaches`).  Tracks have closest points (`Track.exists_least`).  Where these can be
moved to an end of a track without coming farther apart, a candidate from that end is as close
(`Track.exists_closest_le`).  Otherwise the way from one to the other is perpendicular to both
tracks, so it leads through the centers of the circles (`Arc.exists_radial`).
-/

namespace Ratsnest

open AngularScalar

/-! ## Least distances -/

namespace Approach

variable {A B : Set (Point ℝ)} {p : Approach ℝ} {f : ℝ → Point ℝ} {k : ℝ}

/-- The points of a closest approach are one just if the sets meet. -/
theorem IsClosest.d2_eq_zero_iff (h : p.IsClosest A B) : p.d2 = 0 ↔ (A ∩ B).Nonempty := by
  constructor
  · intro hzero
    have heq : p.a = p.b := Point.distance2_eq_zero_iff.1 hzero
    exact ⟨p.a, h.a_mem, heq ▸ h.b_mem⟩
  · rintro ⟨x, hA, hB⟩
    have hle := h.least x hA x hB
    rw [Point.distance2_self] at hle
    exact hle.antisymm (Point.distance2_nonneg p.a p.b)

/-- The way from a point to the nearest one of a curve, unless that is an end, is perpendicular to
the curve. -/
theorem dot_eq_zero_of_least {q v : Point ℝ} (hk : k ∈ Set.Ioo 0 1)
    (hx : HasDerivAt (fun l => (f l).x) v.x k) (hy : HasDerivAt (fun l => (f l).y) v.y k)
    (hleast : ∀ l ∈ Set.Icc (0 : ℝ) 1, q.distance2 (f k) ≤ q.distance2 (f l)) :
    (f k - q).dot v = 0 := by
  have hmin : IsLocalMin (fun l => ((f l).x - q.x) ^ 2 + ((f l).y - q.y) ^ 2) k := by
    refine IsMinOn.isLocalMin (s := Set.Icc 0 1) (fun l hl => ?_) (Icc_mem_nhds hk.1 hk.2)
    have hle := hleast l hl
    rw [Point.distance2_comm, Point.distance2_comm q, Point.distance2_eq, Point.distance2_eq] at hle
    exact hle
  have hderiv := hmin.hasDerivAt_eq_zero (((hx.sub_const q.x).pow 2).add ((hy.sub_const q.y).pow 2))
  rw [Point.dot, Point.sub_x, Point.sub_y]
  simp only [Nat.add_one_sub_one, pow_one, Nat.cast_ofNat] at hderiv
  linarith

end Approach

/-! ## Tracks -/

/-- A curve that is run through in unit time, and a search for its point nearest to another one. -/
structure Track where
  along : ℝ → Point ℝ
  nearest : Point ℝ → Point ℝ
  continuous_x : Continuous fun k => (along k).x
  continuous_y : Continuous fun k => (along k).y
  nearest_le : ∀ p : Point ℝ, ∀ k ∈ Set.Icc (0 : ℝ) 1,
    p.distance2 (nearest p) ≤ p.distance2 (along k)

namespace Track

open Approach

variable {f g : Track} {ys : List (Approach ℝ)} {k m : ℝ}

/-- The points of a track. -/
def points (f : Track) : Set (Point ℝ) := f.along '' Set.Icc 0 1

/-- From each end of two tracks to the nearest point of the other one. -/
def fromEnds (f g : Track) : List (Approach ℝ) :=
  [⟨f.along 0, g.nearest (f.along 0)⟩, ⟨f.along 1, g.nearest (f.along 1)⟩,
    ⟨f.nearest (g.along 0), g.along 0⟩, ⟨f.nearest (g.along 1), g.along 1⟩]

/-- Whether points of two tracks can be moved, without coming farther apart, until one of them is an
end. -/
def Slides (f g : Track) (k m : ℝ) : Prop := ∃ k' ∈ Set.Icc 0 1, ∃ m' ∈ Set.Icc 0 1,
  (k' = 0 ∨ k' = 1 ∨ m' = 0 ∨ m' = 1) ∧
    (f.along k').distance2 (g.along m') ≤ (f.along k).distance2 (g.along m)

theorem slides_left (hm : m ∈ Set.Icc 0 1) (h : (f.along 0).distance2 (g.along m) ≤
    (f.along k).distance2 (g.along m)) : Slides f g k m :=
  ⟨0, ⟨le_rfl, zero_le_one⟩, m, hm, .inl rfl, h⟩

theorem slides_right (hk : k ∈ Set.Icc 0 1) (h : (f.along k).distance2 (g.along 0) ≤
    (f.along k).distance2 (g.along m)) : Slides f g k m :=
  ⟨k, hk, 0, ⟨le_rfl, zero_le_one⟩, .inr (.inr (.inl rfl)), h⟩

/-- Two tracks have closest points. -/
theorem exists_least (f g : Track) : ∃ k ∈ Set.Icc (0 : ℝ) 1, ∃ m ∈ Set.Icc (0 : ℝ) 1,
    IsClosest f.points g.points ⟨f.along k, g.along m⟩ := by
  have hcontinuous : Continuous fun e : ℝ × ℝ => (f.along e.1).distance2 (g.along e.2) := by
    simp only [Point.distance2_eq]
    exact (((f.continuous_x.comp continuous_fst).sub (g.continuous_x.comp continuous_snd)).pow 2).add
      (((f.continuous_y.comp continuous_fst).sub (g.continuous_y.comp continuous_snd)).pow 2)
  have hcompact : IsCompact (Set.Icc (0 : ℝ) 1 ×ˢ Set.Icc (0 : ℝ) 1) :=
    isCompact_Icc.prod isCompact_Icc
  have hne : (Set.Icc (0 : ℝ) 1 ×ˢ Set.Icc (0 : ℝ) 1).Nonempty :=
    ⟨(0, 0), ⟨le_rfl, zero_le_one⟩, le_rfl, zero_le_one⟩
  obtain ⟨⟨k, m⟩, ⟨hk, hm⟩, hmin⟩ := hcompact.exists_isMinOn hne hcontinuous.continuousOn
  refine ⟨k, hk, m, hm, ⟨k, hk, rfl⟩, ⟨m, hm, rfl⟩, ?_⟩
  rintro _ ⟨k', hk', rfl⟩ _ ⟨m', hm', rfl⟩
  exact hmin (show (k', m') ∈ _ from ⟨hk', hm'⟩)

/-- The approaches from the ends bound the distances of points that can be moved to an end. -/
theorem exists_fromEnds_le (h : Slides f g k m) :
    ∃ p ∈ f.fromEnds g, p.d2 ≤ (f.along k).distance2 (g.along m) := by
  obtain ⟨k', hk, m', hm, hend, hle⟩ := h
  have hback : ∀ q, (f.nearest q).distance2 q ≤ (f.along k').distance2 q := by
    intro q
    rw [Point.distance2_comm, Point.distance2_comm _ q]
    exact f.nearest_le q k' hk
  suffices ∃ p ∈ f.fromEnds g, p.d2 ≤ (f.along k').distance2 (g.along m') from
    this.imp fun p hp => ⟨hp.1, hp.2.trans hle⟩
  rcases hend with rfl | rfl | rfl | rfl
  · exact ⟨⟨f.along 0, g.nearest (f.along 0)⟩, by simp [fromEnds], g.nearest_le (f.along 0) m' hm⟩
  · exact ⟨⟨f.along 1, g.nearest (f.along 1)⟩, by simp [fromEnds], g.nearest_le (f.along 1) m' hm⟩
  · exact ⟨⟨f.nearest (g.along 0), g.along 0⟩, by simp [fromEnds], hback (g.along 0)⟩
  · exact ⟨⟨f.nearest (g.along 1), g.along 1⟩, by simp [fromEnds], hback (g.along 1)⟩

/-- A search among the approaches from the ends and some more bounds all distances, if closest
points inside both tracks can be moved to an end without coming farther apart, or are no closer than
one of the other approaches. -/
theorem exists_closest_le (h : ∀ k ∈ Set.Ioo (0 : ℝ) 1, ∀ m ∈ Set.Ioo (0 : ℝ) 1,
      IsClosest f.points g.points ⟨f.along k, g.along m⟩ →
        Slides f g k m ∨ ∃ p ∈ ys, p.d2 ≤ (f.along k).distance2 (g.along m)) :
    ∃ p, closest (f.fromEnds g ++ ys) = some p ∧
      ∀ x ∈ f.points, ∀ y ∈ g.points, p.d2 ≤ x.distance2 y := by
  obtain ⟨k, hk, m, hm, hleast⟩ := exists_least f g
  have hcases : Slides f g k m ∨ ∃ p ∈ ys, p.d2 ≤ (f.along k).distance2 (g.along m) := by
    by_cases hend : k = 0 ∨ k = 1 ∨ m = 0 ∨ m = 1
    · exact .inl ⟨k, hk, m, hm, hend, le_rfl⟩
    · simp only [not_or] at hend
      obtain ⟨hk0, hk1, hm0, hm1⟩ := hend
      exact h k ⟨hk.1.lt_of_ne' hk0, hk.2.lt_of_ne hk1⟩ m ⟨hm.1.lt_of_ne' hm0, hm.2.lt_of_ne hm1⟩
        hleast
  have hcandidate : ∃ p ∈ f.fromEnds g ++ ys, p.d2 ≤ (f.along k).distance2 (g.along m) := by
    rcases hcases with hslides | ⟨p, hp, hle⟩
    · obtain ⟨p, hp, hle⟩ := exists_fromEnds_le hslides
      exact ⟨p, List.mem_append_left ys hp, hle⟩
    · exact ⟨p, List.mem_append_right _ hp, hle⟩
  obtain ⟨p, hp, hple⟩ := hcandidate
  obtain ⟨q, -, hclosest, hqle⟩ := exists_closest (List.ne_nil_of_mem hp)
  refine ⟨q, hclosest, fun x hx y hy => ?_⟩
  exact (hqle p hp).trans (hple.trans (hleast.least x hx y hy))

end Track

/-! ## Parallel unit vectors -/

namespace Point

variable {u w : Point ℝ} {a b : ℝ}

/-- Of two parallel unit vectors one is the other or its opposite. -/
theorem exists_side (hu : u.x ^ 2 + u.y ^ 2 = 1) (hw : w.x ^ 2 + w.y ^ 2 = 1)
    (h : u.scale a = w.scale b) (ha : a ≠ 0) : ∃ side, (side = 1 ∨ side = -1) ∧ w = u.scale side := by
  have hx : u.x * a = w.x * b := congrArg Point.x h
  have hy : u.y * a = w.y * b := congrArg Point.y h
  have hsq : a ^ 2 = b ^ 2 := by
    linear_combination -a ^ 2 * hu + b ^ 2 * hw + (u.x * a + w.x * b) * hx +
      (u.y * a + w.y * b) * hy
  rcases sq_eq_sq_iff_eq_or_eq_neg.1 hsq with rfl | rfl
  · refine ⟨1, .inl rfl, Point.ext ?_ ?_⟩
    · rw [scale_x, mul_one, mul_right_cancel₀ ha hx]
    · rw [scale_y, mul_one, mul_right_cancel₀ ha hy]
  · have hb : b ≠ 0 := neg_ne_zero.1 ha
    refine ⟨-1, .inr rfl, Point.ext ?_ ?_⟩
    · refine mul_right_cancel₀ hb ?_
      rw [scale_x]
      linear_combination -hx
    · refine mul_right_cancel₀ hb ?_
      rw [scale_y]
      linear_combination -hy

theorem scale_scale (v : Point ℝ) (a b : ℝ) : (v.scale a).scale b = v.scale (a * b) := by
  ext <;> simp [mul_assoc]

/-- Two points, each of which is in the direction `u` from `p` as well as in the direction `w` from
`q`, are on the line through `p` and `q`. -/
theorem exists_sides {p q v : Point ℝ} {r r' d : ℝ} (hu : u.x ^ 2 + u.y ^ 2 = 1)
    (hw : w.x ^ 2 + w.y ^ 2 = 1) (hv : v.x ^ 2 + v.y ^ 2 = 1) (hd : d ≠ 0)
    (hq : q = p + v.scale d) (hfirst : p + u.scale r = q + w.scale b)
    (hsecond : q + w.scale r' = p + u.scale a) (hne : p + u.scale r ≠ q + w.scale r') :
    ∃ side side', (side = 1 ∨ side = -1) ∧ (side' = 1 ∨ side' = -1) ∧ u = v.scale side ∧
      w = v.scale side' := by
  have hx := congrArg Point.x hfirst
  have hy := congrArg Point.y hfirst
  have hx' := congrArg Point.x hsecond
  have hy' := congrArg Point.y hsecond
  simp only [add_x, add_y, scale_x, scale_y] at hx hy hx' hy'
  have hra : r - a ≠ 0 := by
    intro hzero
    rw [sub_eq_zero] at hzero
    exact hne (hzero ▸ hsecond.symm)
  obtain ⟨side, hside, rfl⟩ := exists_side hu hw (a := r - a) (b := b - r')
    (Point.ext (by simp only [scale_x]; linarith) (by simp only [scale_y]; linarith)) hra
  subst hq
  simp only [add_x, add_y, scale_x, scale_y] at hx' hy'
  obtain ⟨side', hside', rfl⟩ := exists_side hv hu (a := d) (b := a - side * r')
    (Point.ext (by simp only [scale_x]; linarith) (by simp only [scale_y]; linarith)) hd
  refine ⟨side', side' * side, hside', ?_, rfl, scale_scale v side' side⟩
  rcases hside with rfl | rfl <;> rcases hside' with rfl | rfl <;> simp

/-- Coordinates along a unit vector and across it. -/
theorem exists_coordinates (hu : u.x ^ 2 + u.y ^ 2 = 1) (q p : Point ℝ) :
    ∃ x y, p = q + u.scale x + (⟨-u.y, u.x⟩ : Point ℝ).scale y := by
  refine ⟨(p - q).dot u, u.cross (p - q), Point.ext ?_ ?_⟩
  · simp only [dot, cross, add_x, sub_x, sub_y, scale_x]
    linear_combination -(p.x - q.x) * hu
  · simp only [dot, cross, add_y, sub_x, sub_y, scale_y]
    linear_combination -(p.y - q.y) * hu

end Point

/-! ## Perpendicular ways -/

namespace Segment

variable {s : Segment ℝ} {p : Point ℝ} {k : ℝ}

theorem continuous_along_x (s : Segment ℝ) : Continuous fun k => (s.along k).x := by
  simp only [along_x]
  fun_prop

theorem continuous_along_y (s : Segment ℝ) : Continuous fun k => (s.along k).y := by
  simp only [along_y]
  fun_prop

/-- The way to the nearest point of a segment, unless that is an end, is perpendicular to it. -/
theorem dot_direction_of_least (hk : k ∈ Set.Ioo 0 1)
    (hleast : ∀ l ∈ Set.Icc (0 : ℝ) 1, p.distance2 (s.along k) ≤ p.distance2 (s.along l)) :
    (s.along k - p).dot s.direction = 0 := by
  refine Approach.dot_eq_zero_of_least hk ?_ ?_ hleast
  · simpa using ((hasDerivAt_id k).const_mul s.direction.x).const_add s.a.x
  · simpa using ((hasDerivAt_id k).const_mul s.direction.y).const_add s.a.y

/-- The foot of a perpendicular inside the segment is the nearest point. -/
theorem nearest_eq_along (hd : s.direction.dot s.direction ≠ 0) (h0 : 0 ≤ k) (h1 : k ≤ 1)
    (h : (s.along k - p).dot s.direction = 0) : s.nearest p = s.along k := by
  have hshare : (p - s.a).dot s.direction / s.direction.dot s.direction = k := by
    rw [div_eq_iff hd]
    simp only [Point.dot, Point.sub_x, Point.sub_y, along_x, along_y, direction_x,
      direction_y] at h ⊢
    linear_combination -h
  have hclamp : Scalar.clampUnit k = k := by
    rw [Scalar.clampUnit, if_neg (not_lt.2 h0), if_neg (not_lt.2 h1)]
  have hne : ¬(s.direction.dot s.direction == 0) = true := mt Scalar.real_beq_iff.1 hd
  simp only [nearest, if_neg hne, hshare, hclamp]

/-- A segment as a track. -/
noncomputable def track (s : Segment ℝ) : Track where
  along := s.along
  nearest := s.nearest
  continuous_x := s.continuous_along_x
  continuous_y := s.continuous_along_y
  nearest_le _ k hk := distance2_nearest_le ⟨k, hk, rfl⟩

end Segment

namespace Arc

variable {c e : Arc ℝ} {s : Segment ℝ} {p q : Point ℝ} {k m : ℝ}

theorem continuous_along_x (c : Arc ℝ) : Continuous fun k => (c.along k).x := by
  simp only [along, pointAt_x, real_cos]
  fun_prop

theorem continuous_along_y (c : Arc ℝ) : Continuous fun k => (c.along k).y := by
  simp only [along, pointAt_y, real_sin]
  fun_prop

theorem along_eq (c : Arc ℝ) (k : ℝ) :
    c.along k = c.center + (Point.unit (c.startAngle + k * c.sweep)).scale c.radius :=
  c.pointAt_eq _

/-- An arc without a radius or without a sweep is one point. -/
theorem along_eq_start (h : c.radius = 0 ∨ c.sweep = 0) (k : ℝ) : c.along k = c.start := by
  rcases h with hradius | hsweep
  · exact (pointAt_of_radius hradius _).trans (pointAt_of_radius hradius _).symm
  · rw [along, start, hsweep, mul_zero, add_zero]

/-- The way to the nearest point of an arc, unless that is an end, leads through the center. -/
theorem exists_radial (hradius : c.radius ≠ 0) (hsweep : c.sweep ≠ 0) (hk : k ∈ Set.Ioo 0 1)
    (hleast : ∀ l ∈ Set.Icc (0 : ℝ) 1, p.distance2 (c.along k) ≤ p.distance2 (c.along l)) :
    ∃ a, p = c.center + (Point.unit (c.startAngle + k * c.sweep)).scale a := by
  have hangle : HasDerivAt (fun l => (c.startAngle + l * c.sweep) * (Real.pi / 180))
      (c.sweep * (Real.pi / 180)) k := by
    simpa using (((hasDerivAt_id k).mul_const c.sweep).const_add c.startAngle).mul_const
      (Real.pi / 180)
  have hdot := Approach.dot_eq_zero_of_least (f := c.along)
    (v := ⟨c.radius * (-sin (c.startAngle + k * c.sweep) * (c.sweep * (Real.pi / 180))),
      c.radius * (cos (c.startAngle + k * c.sweep) * (c.sweep * (Real.pi / 180)))⟩) hk
    ((hangle.cos.const_mul c.radius).const_add c.center.x)
    ((hangle.sin.const_mul c.radius).const_add c.center.y) hleast
  have hcross : (p - c.center).cross (Point.unit (c.startAngle + k * c.sweep)) = 0 := by
    have hfactor : c.radius * (c.sweep * (Real.pi / 180)) ≠ 0 :=
      mul_ne_zero hradius (mul_ne_zero hsweep (by positivity))
    refine mul_left_cancel₀ hfactor ?_
    rw [along_eq] at hdot
    simp only [Point.dot, Point.cross, Point.sub_x, Point.sub_y, Point.add_x, Point.add_y,
      Point.scale_x, Point.scale_y, Point.unit_x, Point.unit_y] at hdot ⊢
    linear_combination hdot
  have hunit := Point.unit_sq (c.startAngle + k * c.sweep)
  refine ⟨(p - c.center).dot (Point.unit (c.startAngle + k * c.sweep)), ?_⟩
  generalize Point.unit (c.startAngle + k * c.sweep) = u at hcross hunit ⊢
  simp only [Point.cross, Point.dot, Point.sub_x, Point.sub_y] at hcross ⊢
  ext
  · rw [Point.add_x, Point.scale_x]
    linear_combination -(p.x - c.center.x) * hunit + u.y * hcross
  · rw [Point.add_y, Point.scale_y]
    linear_combination -(p.y - c.center.y) * hunit - u.x * hcross

/-! ## Segments and arcs -/

/-- Every point of a segment on the circle is at one of the shares found. -/
theorem mem_circleShares (hd : s.direction.dot s.direction ≠ 0) (h0 : 0 ≤ k) (h1 : k ≤ 1)
    (h : (s.along k).distance2 c.center = c.radius * c.radius) : k ∈ c.circleShares s := by
  have hquadratic : s.direction.dot s.direction * (k * k) +
      2 * (s.a - c.center).dot s.direction * k +
        ((s.a - c.center).dot (s.a - c.center) - c.radius * c.radius) = 0 := by
    rw [Point.distance2_eq, Segment.along_x, Segment.along_y] at h
    simp only [Point.dot, Point.sub_x, Point.sub_y, Segment.direction_x, Segment.direction_y]
    linear_combination h
  have hdisc := discrim_eq_sq_of_quadratic_eq_zero hquadratic
  rw [discrim, sq] at hdisc
  have hnonneg := sq_nonneg (2 * s.direction.dot s.direction * k +
    2 * (s.a - c.center).dot s.direction)
  rw [← hdisc] at hnonneg
  have hroot := (quadratic_eq_zero_iff hd
    (by rw [discrim, sq, Real.mul_self_sqrt hnonneg]) k).1 hquadratic
  have hne : ¬(s.direction.dot s.direction == 0) = true := mt Scalar.real_beq_iff.1 hd
  unfold circleShares
  dsimp only
  simp only [Nat.cast_ofNat]
  rw [if_neg hne, if_neg (not_lt.2 hnonneg)]
  refine List.mem_filter.2 ⟨?_, Scalar.real_inUnit_iff.2 ⟨h0, h1⟩⟩
  simp only [List.mem_cons, List.not_mem_nil, or_false]
  exact hroot.symm

/-- The points of the circle that are opposite to a point are farthest from it, so the start of the
arc is as close. -/
theorem start_le_of_opposite {x a : ℝ} (hr : 0 ≤ c.radius) (ha : a ≤ 0) :
    (c.center + (Point.unit x).scale a).distance2 c.start ≤
      (c.center + (Point.unit x).scale a).distance2
        (c.center + (Point.unit x).scale c.radius) := by
  rw [start, pointAt_eq, Point.distance2_add_unit, Point.distance2_add_unit, sub_self]
  have hcos := real_cos_le_one (x - c.startAngle)
  have hself : (cos 0 : ℝ) = 1 := by rw [real_cos, zero_mul, Real.cos_zero]
  rw [hself]
  nlinarith [mul_nonneg hr (neg_nonneg.2 ha)]

/-- An arc as a track. -/
noncomputable def track (c : Arc ℝ) (hr : 0 ≤ c.radius) : Track where
  along := c.along
  nearest := c.nearest
  continuous_x := c.continuous_along_x
  continuous_y := c.continuous_along_y
  nearest_le _ k hk := distance2_nearest_le hr ⟨k, hk, rfl⟩

theorem nearest_of_faces (hlength : 0 < (p - c.center).length) (h : c.faces p) :
    c.nearest p = c.toward (p - c.center) := by
  have hne : ¬((p - c.center).x == 0 && (p - c.center).y == 0) = true := by
    rw [Bool.and_eq_true, Scalar.real_beq_iff, Scalar.real_beq_iff]
    rintro ⟨hx, hy⟩
    have hsq := (p - c.center).length_sq
    rw [hx, hy] at hsq
    nlinarith
  rw [nearest]
  exact (if_neg hne).trans (if_pos h)

/-- Where the way to a point of the circle other than this one is perpendicular to the segment, the
foot of the perpendicular from the center is. -/
theorem nearest_center_eq {u : Point ℝ} {a : ℝ} (hd : s.direction.dot s.direction ≠ 0)
    (hk : k ∈ Set.Icc 0 1) (ha : s.along k = c.center + u.scale a) (hne : a ≠ c.radius)
    (hdot : (s.along k - (c.center + u.scale c.radius)).dot s.direction = 0) :
    s.nearest c.center = s.along k := by
  refine Segment.nearest_eq_along hd hk.1 hk.2 (mul_left_cancel₀ (sub_ne_zero.2 hne) ?_)
  rw [ha] at hdot ⊢
  simp only [Point.dot, Point.sub_x, Point.sub_y, Point.add_x, Point.add_y, Point.scale_x,
    Point.scale_y] at hdot ⊢
  linear_combination a * hdot

/-- The foot of the perpendicular from the center and the point of the arc beyond it. -/
noncomputable def feet (c : Arc ℝ) (s : Segment ℝ) : List (Approach ℝ) :=
  if 0 < (s.nearest c.center - c.center).length && c.faces (s.nearest c.center) then
    [⟨s.nearest c.center, c.toward (s.nearest c.center - c.center)⟩]
  else []

/-- Points inside a segment and an arc that are closest can be moved to an end, or they are the foot
of the perpendicular from the center and the point of the arc beyond it. -/
theorem slides_or_feet (hr : 0 ≤ c.radius)
    (hnone : ((c.circleShares s).map s.along).find? c.faces = none) (hk : k ∈ Set.Ioo 0 1)
    (hm : m ∈ Set.Ioo 0 1) (h : Approach.IsClosest s.points c.points ⟨s.along k, c.along m⟩) :
    s.track.Slides (c.track hr) k m ∨
      ∃ p ∈ c.feet s, p.d2 ≤ (s.along k).distance2 (c.along m) := by
  have hk' := Set.Ioo_subset_Icc_self hk
  have hm' := Set.Ioo_subset_Icc_self hm
  by_cases hd : s.direction.dot s.direction = 0
  · refine .inl (Track.slides_left hm' (le_of_eq ?_))
    exact congrArg (Point.distance2 · _) ((Segment.along_eq_of_dot_direction hd 0).trans
      (Segment.along_eq_of_dot_direction hd k).symm)
  by_cases hflat : c.radius = 0 ∨ c.sweep = 0
  · refine .inl (Track.slides_right hk' (le_of_eq ?_))
    exact congrArg _ ((along_eq_start hflat 0).trans (along_eq_start hflat m).symm)
  rw [not_or] at hflat
  obtain ⟨a, ha⟩ := exists_radial hflat.1 hflat.2 hm (p := s.along k)
    fun l hl => h.least _ ⟨k, hk', rfl⟩ _ ⟨l, hl, rfl⟩
  rcases le_or_gt a 0 with hneg | hpos
  · refine .inl (Track.slides_right hk' ?_)
    show (s.along k).distance2 (c.along 0) ≤ (s.along k).distance2 (c.along m)
    rw [along_zero, along_eq, ha]
    exact start_le_of_opposite hr hneg
  have hway : s.along k - c.center = (Point.unit (c.startAngle + m * c.sweep)).scale a := by
    rw [ha]
    ext <;> simp
  have hlength : (s.along k - c.center).length = a := hway ▸ Point.length_unit_scale hpos.le
  have hfaces : c.faces (s.along k) :=
    faces_of_unit hpos hway (containsAngle_share hm'.1 hm'.2)
  have hne : a ≠ c.radius := by
    rintro rfl
    have hcircle : (s.along k).distance2 c.center = c.radius * c.radius := by
      rw [ha, ← pointAt_eq, distance2_pointAt_center]
    exact List.find?_eq_none.1 hnone _
      (List.mem_map_of_mem (mem_circleShares hd hk'.1 hk'.2 hcircle)) hfaces
  have hdot := Segment.dot_direction_of_least hk (p := c.along m) fun l hl => by
    rw [Point.distance2_comm, Point.distance2_comm (c.along m)]
    exact h.least _ ⟨l, hl, rfl⟩ _ ⟨m, hm', rfl⟩
  have hfoot : s.nearest c.center = s.along k :=
    nearest_center_eq hd hk' ha hne (c.along_eq m ▸ hdot)
  refine .inr ?_
  rw [feet, hfoot, hlength, if_pos (by simp [hpos, hfaces])]
  refine ⟨_, List.mem_singleton_self _, ?_⟩
  rw [Approach.d2, ← nearest_of_faces (hlength ▸ hpos) hfaces]
  exact distance2_nearest_le hr ⟨m, hm', rfl⟩

/-- The approach of a segment and an arc is a closest one. -/
theorem exists_segmentApproach (s : Segment ℝ) (hr : 0 ≤ c.radius) :
    ∃ p, c.segmentApproach s = some p ∧ p.IsClosest s.points c.points := by
  cases hfind : ((c.circleShares s).map s.along).find? c.faces with
  | some x =>
    obtain ⟨k, hk, rfl⟩ := List.mem_map.1 (List.mem_of_find?_eq_some hfind)
    obtain ⟨hs, hcircle⟩ := of_mem_circleShares hk
    refine ⟨⟨s.along k, s.along k⟩, ?_, Approach.isClosest_of_mem hs ?_⟩
    · rw [segmentApproach, hfind]
      rfl
    · rw [points_eq_trace hr]
      exact mem_trace_of_faces hcircle (List.find?_some hfind)
  | none =>
    have happroach : c.segmentApproach s =
        Approach.closest (s.track.fromEnds (c.track hr) ++ c.feet s) := by
      rw [segmentApproach, hfind]
      simp only [feet, Track.fromEnds, Segment.track, track, Segment.along_zero, Segment.along_one,
        along_zero, along_one]
    obtain ⟨p, hp, hleast⟩ := Track.exists_closest_le (f := s.track) (g := c.track hr)
      fun k hk m hm hinner => slides_or_feet hr hfind hk hm hinner
    have hmem := of_segmentApproach hr (happroach.trans hp)
    exact ⟨p, happroach.trans hp, hmem.1, points_eq_trace hr ▸ hmem.2, hleast⟩

/-! ## Two arcs -/

/-- Every common point of two circles with different centers is among the crossings found. -/
theorem mem_circleCrossings (hc : 0 ≤ c.radius) (he : 0 ≤ e.radius)
    (hne : c.center.distance e.center ≠ 0) (hpc : p.distance2 c.center = c.radius * c.radius)
    (hpe : p.distance2 e.center = e.radius * e.radius) : p ∈ c.circleCrossings e := by
  have hdc : c.center.distance p = c.radius := by
    rw [Point.distance_comm, ← Real.sqrt_mul_self hc, ← hpc]
    rfl
  have hde : p.distance e.center = e.radius := by
    rw [← Real.sqrt_mul_self he, ← hpe]
    rfl
  have hsum := Point.distance_triangle c.center p e.center
  have hleft := Point.distance_triangle c.center e.center p
  have hright := Point.distance_triangle p c.center e.center
  rw [Point.distance_comm e.center] at hleft
  rw [Point.distance_comm p c.center] at hright
  rw [hdc, hde] at hsum hleft hright
  have hdiff : |c.radius - e.radius| ≤ c.center.distance e.center :=
    abs_le.2 ⟨by linarith, by linarith⟩
  have hd : 0 < c.center.distance e.center := (Point.distance_nonneg _ _).lt_of_ne' hne
  obtain ⟨hcenter, hunit⟩ := exists_unit c.center e.center hne
  have hguard : ¬(c.center.distance e.center == 0 ||
      decide (c.radius + e.radius < c.center.distance e.center) ||
        decide (c.center.distance e.center < Scalar.magnitude (c.radius - e.radius))) = true := by
    simp only [Bool.or_eq_true, Scalar.real_beq_iff, decide_eq_true_iff, not_or, not_lt]
    exact ⟨⟨hne, hsum⟩, hdiff⟩
  unfold circleCrossings
  dsimp only
  rw [if_neg hguard]
  generalize (e.center - c.center).scale (1 / c.center.distance e.center) = u at *
  generalize c.center.distance e.center = d at *
  obtain ⟨x, y, rfl⟩ := Point.exists_coordinates hunit c.center p
  rw [hcenter] at hpe
  simp only [Point.distance2_eq, Point.add_x, Point.add_y, Point.scale_x, Point.scale_y]
    at hpc hpe
  have halong : (c.radius * c.radius - e.radius * e.radius + d * d) / (((2 : ℕ) : ℝ) * d) = x := by
    rw [Nat.cast_ofNat, div_eq_iff (by positivity), ← hpc, ← hpe]
    linear_combination (2 * x * d - d ^ 2) * hunit
  have haside : c.radius * c.radius - x * x = y * y := by
    rw [← hpc]
    linear_combination (x ^ 2 + y ^ 2) * hunit
  rw [halong, haside, max_eq_left (mul_self_nonneg y), real_sqrt, Real.sqrt_mul_self_eq_abs]
  simp only [List.mem_cons, List.not_mem_nil, or_false]
  rcases abs_choice y with hy | hy
  · exact .inl (by rw [hy])
  · refine .inr (Point.ext ?_ ?_)
    · simp [hy, sub_eq_add_neg]
    · simp [hy]

/-- The points of two arcs on the line through the centers are among the pairs found. -/
theorem mem_axisPairs (hd : 0 < c.center.distance e.center) {u : Point ℝ} {side side' : ℝ}
    (hcenter : (e.center - c.center).scale (1 / c.center.distance e.center) = u)
    (hside : side = 1 ∨ side = -1) (hside' : side' = 1 ∨ side' = -1)
    (hp : p = c.center + u.scale (c.radius * side)) (hq : q = e.center + u.scale (e.radius * side'))
    (hpc : c.faces p) (hqe : e.faces q) : ⟨p, q⟩ ∈ c.axisPairs e := by
  have hend : ∀ f : Arc ℝ, ∀ side : ℝ, side = 1 ∨ side = -1 →
      f.faces (f.center + u.scale (f.radius * side)) →
        f.center + u.scale (f.radius * side) ∈ ([1, -1].map fun side =>
          f.center + u.scale (f.radius * side)).filter f.faces := by
    intro f side hside hfaces
    exact List.mem_filter.2 ⟨List.mem_map.2 ⟨side, by simpa using hside, rfl⟩, hfaces⟩
  unfold axisPairs
  dsimp only
  rw [if_pos hd, hcenter, hp, hq]
  exact List.mem_flatMap.2 ⟨_, hend c side hside (hp ▸ hpc),
    List.mem_map.2 ⟨_, hend e side' hside' (hq ▸ hqe), rfl⟩⟩

/-- Points of arcs with one center can be turned around it, staying as far apart, until one of them
is an end. -/
theorem slides_of_center_eq (hc : 0 ≤ c.radius) (he : 0 ≤ e.radius) (hcenter : c.center = e.center)
    (hsweep : e.sweep ≠ 0) (hk : k ∈ Set.Icc 0 1) (hm : m ∈ Set.Icc 0 1) :
    (c.track hc).Slides (e.track he) k m := by
  have hout : ¬(k + 2 ∈ Set.Icc (0 : ℝ) 1 ∧ m + 2 * (c.sweep / e.sweep) ∈ Set.Icc (0 : ℝ) 1) := by
    intro hin
    have := hin.1.2
    have := hk.1
    linarith
  obtain ⟨l, -, hkl, hml, hend⟩ := Segment.exists_exit hk hm hout
  refine ⟨_, hkl, _, hml, hend, le_of_eq ?_⟩
  show (c.along _).distance2 (e.along _) = (c.along k).distance2 (e.along m)
  rw [along_eq, along_eq, along_eq, along_eq, hcenter, Point.distance2_add_unit,
    Point.distance2_add_unit]
  congr 3
  field_simp
  ring

/-- Points inside two arcs that are closest can be moved to an end, or they are on the line through
the centers. -/
theorem slides_or_axis (hc : 0 ≤ c.radius) (he : 0 ≤ e.radius)
    (hnone : (c.circleCrossings e).find? (fun p => c.faces p && e.faces p) = none)
    (hk : k ∈ Set.Ioo 0 1) (hm : m ∈ Set.Ioo 0 1)
    (h : Approach.IsClosest c.points e.points ⟨c.along k, e.along m⟩) :
    (c.track hc).Slides (e.track he) k m ∨
      ∃ p ∈ c.axisPairs e, p.d2 ≤ (c.along k).distance2 (e.along m) := by
  have hk' := Set.Ioo_subset_Icc_self hk
  have hm' := Set.Ioo_subset_Icc_self hm
  by_cases hflatc : c.radius = 0 ∨ c.sweep = 0
  · refine .inl (Track.slides_left hm' (le_of_eq ?_))
    exact congrArg (Point.distance2 · _)
      ((along_eq_start hflatc 0).trans (along_eq_start hflatc k).symm)
  by_cases hflate : e.radius = 0 ∨ e.sweep = 0
  · refine .inl (Track.slides_right hk' (le_of_eq ?_))
    exact congrArg _ ((along_eq_start hflate 0).trans (along_eq_start hflate m).symm)
  rw [not_or] at hflatc hflate
  rcases (Point.distance_nonneg c.center e.center).eq_or_lt with hcenter | hd
  · refine .inl (slides_of_center_eq hc he ?_ hflate.2 hk' hm')
    rw [← Point.distance2_eq_zero_iff, ← Point.distance_sq, ← hcenter, zero_pow two_ne_zero]
  obtain ⟨a, ha⟩ := exists_radial hflatc.1 hflatc.2 hk (p := e.along m) fun l hl => by
    rw [Point.distance2_comm, Point.distance2_comm (e.along m)]
    exact h.least _ ⟨l, hl, rfl⟩ _ ⟨m, hm', rfl⟩
  obtain ⟨b, hb⟩ := exists_radial hflate.1 hflate.2 hm (p := c.along k) fun l hl =>
    h.least _ ⟨k, hk', rfl⟩ _ ⟨l, hl, rfl⟩
  have hfacesc : c.faces (c.along k) := faces_of_unit (hc.lt_of_ne' hflatc.1)
    (c.pointAt_sub_center _) (containsAngle_share hk'.1 hk'.2)
  have hfacese : e.faces (e.along m) := faces_of_unit (he.lt_of_ne' hflate.1)
    (e.pointAt_sub_center _) (containsAngle_share hm'.1 hm'.2)
  have hmeet : c.along k ≠ e.along m := by
    intro heq
    have hcrossing : c.along k ∈ c.circleCrossings e :=
      mem_circleCrossings hc he hd.ne' (c.distance2_pointAt_center _)
        (heq ▸ e.distance2_pointAt_center _)
    have hfaced := List.find?_eq_none.1 hnone _ hcrossing
    rw [Bool.and_eq_true] at hfaced
    exact hfaced ⟨hfacesc, heq ▸ hfacese⟩
  obtain ⟨hstep, hunit⟩ := exists_unit c.center e.center hd.ne'
  rw [along_eq] at hb
  rw [along_eq] at ha
  rw [along_eq, along_eq] at hmeet
  obtain ⟨side, side', hside, hside', hu, hw⟩ :=
    Point.exists_sides (Point.unit_sq _) (Point.unit_sq _) hunit hd.ne' hstep hb ha hmeet
  refine .inr ⟨⟨c.along k, e.along m⟩, ?_, le_rfl⟩
  refine mem_axisPairs hd rfl hside hside' ?_ ?_ hfacesc hfacese
  · rw [along_eq, hu, Point.scale_scale, mul_comm]
  · rw [along_eq, hw, Point.scale_scale, mul_comm]

/-- The approach of two arcs is a closest one. -/
theorem exists_approach (hc : 0 ≤ c.radius) (he : 0 ≤ e.radius) :
    ∃ p, c.approach e = some p ∧ p.IsClosest c.points e.points := by
  cases hfind : (c.circleCrossings e).find? fun p => c.faces p && e.faces p with
  | some x =>
    have hfaces := List.find?_some hfind
    rw [Bool.and_eq_true] at hfaces
    obtain ⟨hxc, hxe⟩ := of_mem_circleCrossings (List.mem_of_find?_eq_some hfind)
    refine ⟨⟨x, x⟩, ?_, Approach.isClosest_of_mem ?_ ?_⟩
    · rw [approach, hfind]
      rfl
    · rw [points_eq_trace hc]
      exact mem_trace_of_faces hxc hfaces.1
    · rw [points_eq_trace he]
      exact mem_trace_of_faces hxe hfaces.2
  | none =>
    have happroach : c.approach e = Approach.closest
        ((c.track hc).fromEnds (e.track he) ++ c.axisPairs e) := by
      rw [approach, hfind]
      simp only [Track.fromEnds, track, along_zero, along_one]
    obtain ⟨p, hp, hleast⟩ := Track.exists_closest_le (f := c.track hc) (g := e.track he)
      fun k hk m hm hinner => slides_or_axis hc he hfind hk hm hinner
    have hmem := of_approach hc he (happroach.trans hp)
    exact ⟨p, happroach.trans hp, points_eq_trace hc ▸ hmem.1, points_eq_trace he ▸ hmem.2, hleast⟩

/-- The approach of a segment and an arc, and the one of two arcs, is from a point of the one to a
point of the other, and no other points of them are closer.  It is a meeting just if they have a
common point. -/
theorem exists_approaches (s : Segment ℝ) (hc : 0 ≤ c.radius) (he : 0 ≤ e.radius) :
    (∃ p, c.segmentApproach s = some p ∧ p.a ∈ s.points ∧ p.b ∈ c.points ∧
        p.d2 = p.a.distance2 p.b ∧ (∀ x ∈ s.points, ∀ y ∈ c.points, p.d2 ≤ x.distance2 y) ∧
        (p.d2 = 0 ↔ (s.points ∩ c.points).Nonempty)) ∧
      ∃ p, c.approach e = some p ∧ p.a ∈ c.points ∧ p.b ∈ e.points ∧
        p.d2 = p.a.distance2 p.b ∧ (∀ x ∈ c.points, ∀ y ∈ e.points, p.d2 ≤ x.distance2 y) ∧
        (p.d2 = 0 ↔ (c.points ∩ e.points).Nonempty) := by
  constructor
  · obtain ⟨p, hp, h⟩ := exists_segmentApproach s hc
    exact ⟨p, hp, h.a_mem, h.b_mem, rfl, h.least, h.d2_eq_zero_iff⟩
  · obtain ⟨p, hp, h⟩ := exists_approach hc he
    exact ⟨p, hp, h.a_mem, h.b_mem, rfl, h.least, h.d2_eq_zero_iff⟩

/-- A quarter of a circle, a clockwise sweep beyond a full turn around the same center, and a
segment through it. -/
theorem exists_approaches_concentric : ∃ c e : Arc ℝ, ∃ s : Segment ℝ,
    c = ⟨⟨0, 0⟩, 5, 0, 90⟩ ∧ e = ⟨⟨0, 0⟩, 7, 30, -400⟩ ∧ s = ⟨⟨-1, -1⟩, ⟨2, 2⟩⟩ ∧
      0 ≤ c.radius ∧ 0 ≤ e.radius ∧
      (∃ p, c.segmentApproach s = some p ∧ p.a ∈ s.points ∧ p.b ∈ c.points ∧
        p.d2 = p.a.distance2 p.b ∧ (∀ x ∈ s.points, ∀ y ∈ c.points, p.d2 ≤ x.distance2 y) ∧
        (p.d2 = 0 ↔ (s.points ∩ c.points).Nonempty)) ∧
      ∃ p, c.approach e = some p ∧ p.a ∈ c.points ∧ p.b ∈ e.points ∧
        p.d2 = p.a.distance2 p.b ∧ (∀ x ∈ c.points, ∀ y ∈ e.points, p.d2 ≤ x.distance2 y) ∧
        (p.d2 = 0 ↔ (c.points ∩ e.points).Nonempty) := by
  have hc : (0 : ℝ) ≤ 5 := by norm_num
  have he : (0 : ℝ) ≤ 7 := by norm_num
  exact ⟨⟨⟨0, 0⟩, 5, 0, 90⟩, ⟨⟨0, 0⟩, 7, 30, -400⟩, ⟨⟨-1, -1⟩, ⟨2, 2⟩⟩, rfl, rfl, rfl, hc, he,
    exists_approaches ⟨⟨-1, -1⟩, ⟨2, 2⟩⟩ hc he⟩

end Arc

end Ratsnest
