import Ratsnest.Proofs.Geometry.Arc

/-!
# What searches on arcs find

Every candidate that the search for a closest approach offers lies on its curve: on the segment, or
in the trace of the arc.  So the approach found does.
-/

namespace Ratsnest

namespace Point

theorem length_sq (v : Point ℝ) : v.length ^ 2 = v.x ^ 2 + v.y ^ 2 := by
  have hdot : v.dot v = v.x ^ 2 + v.y ^ 2 := by
    rw [dot]
    ring
  rw [← hdot]
  exact Real.sq_sqrt (hdot ▸ by positivity)

theorem length_nonneg (v : Point ℝ) : 0 ≤ v.length := Real.sqrt_nonneg _

theorem length_pos {v : Point ℝ} (h : ¬(v.x = 0 ∧ v.y = 0)) : 0 < v.length := by
  refine v.length_nonneg.lt_of_ne fun hzero => h ?_
  have hsq := v.length_sq
  rw [← hzero] at hsq
  constructor <;> nlinarith [sq_nonneg v.x, sq_nonneg v.y]

/-- How far a step leads. -/
theorem distance2_add_scale (p v : Point ℝ) (k : ℝ) :
    (p + v.scale k).distance2 p = (v.length * k) ^ 2 := by
  rw [mul_pow, length_sq, distance2_eq]
  simp only [add_x, add_y, scale_x, scale_y]
  ring

end Point

namespace Arc

variable {c e : Arc ℝ} {s : Segment ℝ} {p q : Point ℝ}

theorem start_mem_trace (c : Arc ℝ) : c.start ∈ c.trace := .inl rfl

theorem stop_mem_trace (c : Arc ℝ) : c.stop ∈ c.trace := .inr (.inl rfl)

theorem mem_trace_of_faces (hp : p.distance2 c.center = c.radius * c.radius) (h : c.faces p) :
    p ∈ c.trace := .inr (.inr ⟨hp, h⟩)

/-- The point of the circle in a direction that the sweep covers is on the arc. -/
theorem toward_mem_trace (hr : 0 ≤ c.radius) (hlength : 0 < (p - c.center).length)
    (h : c.faces p) : c.toward (p - c.center) ∈ c.trace := by
  rcases hr.eq_or_lt with hzero | hpos
  · refine .inl ?_
    ext <;> simp [toward, start, pointAt, ← hzero]
  · refine mem_trace_of_faces ?_ ?_
    · rw [toward, Point.distance2_add_scale, mul_div_cancel₀ _ hlength.ne', sq]
    · have hdirection : c.toward (p - c.center) - c.center =
          (p - c.center).scale (c.radius / (p - c.center).length) := by
        ext <;> simp [toward]
      rw [faces, hdirection, Point.angle_scale _ (div_pos hpos hlength)]
      exact h

theorem nearest_mem_trace (hr : 0 ≤ c.radius) (p : Point ℝ) : c.nearest p ∈ c.trace := by
  unfold nearest
  dsimp only
  split
  · exact c.start_mem_trace
  · rename_i hne
    rw [Bool.and_eq_true, Scalar.real_beq_iff, Scalar.real_beq_iff] at hne
    split
    · rename_i hfaces
      exact toward_mem_trace hr (Point.length_pos hne) hfaces
    · split
      · exact c.start_mem_trace
      · exact c.stop_mem_trace

/-! ## Segments and arcs -/

/-- The solutions of a quadratic equation. -/
theorem quadratic_root {a b k t root : ℝ} (ha : a ≠ 0) (hroot : root * root = b * b - 4 * a * k)
    (ht : t = (-b - root) / (2 * a) ∨ t = (-b + root) / (2 * a)) : a * (t * t) + b * t + k = 0 :=
  (quadratic_eq_zero_iff ha (by rw [hroot, discrim, sq]) t).2 ht.symm

/-- At the shares found a segment meets the circle. -/
theorem of_mem_circleShares {t : ℝ} (h : t ∈ c.circleShares s) :
    s.along t ∈ s.points ∧ (s.along t).distance2 c.center = c.radius * c.radius := by
  unfold circleShares at h
  dsimp only at h
  split at h
  · cases h
  · rename_i hqa
    rw [Scalar.real_beq_iff] at hqa
    split at h
    · cases h
    · rename_i hdisc
      obtain ⟨ht, hunit⟩ := List.mem_filter.1 h
      rw [Scalar.real_inUnit_iff] at hunit
      refine ⟨Segment.along_mem hunit.1 hunit.2, ?_⟩
      have hquadratic := quadratic_root hqa (Real.mul_self_sqrt (not_lt.1 hdisc))
        (by simpa [AngularScalar.real_sqrt] using ht)
      simp only [Point.dot, Point.sub_x, Point.sub_y, Segment.direction_x, Segment.direction_y,
        Nat.cast_ofNat] at hquadratic
      rw [Point.distance2_eq, Segment.along_x, Segment.along_y]
      linear_combination hquadratic

/-- The approach of a segment and an arc is from a point of the segment to one of the arc. -/
theorem of_segmentApproach (hr : 0 ≤ c.radius) {a : Approach ℝ}
    (h : c.segmentApproach s = some a) : a.a ∈ s.points ∧ a.b ∈ c.trace := by
  unfold segmentApproach at h
  split at h
  · rename_i x hx
    obtain rfl := Approach.eq_of_meeting h
    obtain ⟨t, ht, rfl⟩ := List.mem_map.1 (List.mem_of_find?_eq_some hx)
    obtain ⟨hs, hc⟩ := of_mem_circleShares ht
    exact ⟨hs, mem_trace_of_faces hc (List.find?_some hx)⟩
  · dsimp only at h
    rcases List.mem_append.1 (Approach.mem_of_closest h) with hmem | hmem
    · simp only [List.mem_cons, List.not_mem_nil, or_false] at hmem
      obtain rfl | rfl | rfl | rfl := hmem
      · exact ⟨s.a_mem, nearest_mem_trace hr s.a⟩
      · exact ⟨s.b_mem, nearest_mem_trace hr s.b⟩
      · exact ⟨s.nearest_mem _, c.start_mem_trace⟩
      · exact ⟨s.nearest_mem _, c.stop_mem_trace⟩
    · split at hmem
      · rename_i hinner
        rw [Bool.and_eq_true, decide_eq_true_iff] at hinner
        obtain rfl := List.mem_singleton.1 hmem
        exact ⟨s.nearest_mem _, toward_mem_trace hr hinner.1 hinner.2⟩
      · cases hmem

/-! ## Two arcs -/

/-- The unit vector from one point to another one at distance `d`. -/
theorem exists_unit (p q : Point ℝ) (h : p.distance q ≠ 0) :
    q = p + ((q - p).scale (1 / p.distance q)).scale (p.distance q) ∧
      ((q - p).scale (1 / p.distance q)).x ^ 2 + ((q - p).scale (1 / p.distance q)).y ^ 2 = 1 := by
  have hsq := Point.distance_sq p q
  rw [Point.distance2_eq] at hsq
  constructor
  · ext <;> simp [h]
  · simp only [Point.scale_x, Point.scale_y, Point.sub_x, Point.sub_y]
    field_simp
    linear_combination -hsq

/-- Two circles meet as far along the line through their centers as `circleCrossings` goes. -/
theorem along_sq_le {r r' d : ℝ} (hd : 0 < d) (hsum : d ≤ r + r') (hdiff : |r - r'| ≤ d) :
    (r * r - r' * r' + d * d) / (2 * d) * ((r * r - r' * r' + d * d) / (2 * d)) ≤ r * r := by
  obtain ⟨hlow, hhigh⟩ := abs_le.1 hdiff
  have hr : 0 ≤ r := by linarith
  rw [← sq, ← sq r]
  refine sq_le_sq' ?_ ?_
  · rw [le_div_iff₀ (by positivity)]
    nlinarith
  · rw [div_le_iff₀ (by positivity)]
    nlinarith

/-- The crossings found are on both circles. -/
theorem of_mem_circleCrossings (h : p ∈ c.circleCrossings e) :
    p.distance2 c.center = c.radius * c.radius ∧ p.distance2 e.center = e.radius * e.radius := by
  unfold circleCrossings at h
  dsimp only at h
  split at h
  · cases h
  · rename_i hapart
    simp only [Bool.or_eq_true, Scalar.real_beq_iff, decide_eq_true_iff, not_or, not_lt] at hapart
    obtain ⟨⟨hne, hsum⟩, hdiff⟩ := hapart
    have hd : 0 < c.center.distance e.center := (Point.distance_nonneg _ _).lt_of_ne' hne
    obtain ⟨hcenter, hunit⟩ := exists_unit c.center e.center hne
    have halong := along_sq_le hd hsum hdiff
    generalize (e.center - c.center).scale (1 / c.center.distance e.center) = u at *
    generalize c.center.distance e.center = d at *
    have haside := Real.mul_self_sqrt (sub_nonneg.2 halong)
    rw [Nat.cast_ofNat, max_eq_left (sub_nonneg.2 halong), AngularScalar.real_sqrt] at h
    generalize √(c.radius * c.radius - _) = w at *
    have halong' : (c.radius * c.radius - e.radius * e.radius + d * d) / (2 * d) * (2 * d) =
        c.radius * c.radius - e.radius * e.radius + d * d := div_mul_cancel₀ _ (by positivity)
    generalize (c.radius * c.radius - e.radius * e.radius + d * d) / (2 * d) = t at *
    rw [hcenter]
    simp only [List.mem_cons, List.not_mem_nil, or_false] at h
    rcases h with rfl | rfl
    · simp only [Point.distance2_eq, Point.add_x, Point.add_y, Point.scale_x, Point.scale_y]
      constructor
      · linear_combination (t ^ 2 + w ^ 2) * hunit + haside
      · linear_combination ((t - d) ^ 2 + w ^ 2) * hunit + haside - halong'
    · simp only [Point.distance2_eq, Point.add_x, Point.add_y, Point.sub_x, Point.sub_y,
        Point.scale_x, Point.scale_y]
      constructor
      · linear_combination (t ^ 2 + w ^ 2) * hunit + haside
      · linear_combination ((t - d) ^ 2 + w ^ 2) * hunit + haside - halong'

/-- The points found on the line through the centers are on the arcs. -/
theorem of_mem_axisPairs {a : Approach ℝ} (h : a ∈ c.axisPairs e) :
    a.a ∈ c.trace ∧ a.b ∈ e.trace := by
  unfold axisPairs at h
  dsimp only at h
  split at h
  · rename_i hpos
    obtain ⟨-, hunit⟩ := exists_unit c.center e.center hpos.ne'
    generalize (e.center - c.center).scale (1 / c.center.distance e.center) = u at *
    have hends : ∀ f : Arc ℝ, ∀ p ∈ ([1, -1].map fun side =>
        f.center + u.scale (f.radius * side)).filter f.faces, p ∈ f.trace := by
      intro f p hp
      obtain ⟨hp, hfaces⟩ := List.mem_filter.1 hp
      obtain ⟨side, hside, rfl⟩ := List.mem_map.1 hp
      have hsquare : side ^ 2 = 1 := by
        simp only [List.mem_cons, List.not_mem_nil, or_false] at hside
        rcases hside with rfl | rfl <;> norm_num
      refine mem_trace_of_faces ?_ hfaces
      rw [Point.distance2_add_scale, mul_pow, Point.length_sq, hunit, mul_pow, hsquare]
      ring
    obtain ⟨p, hp, ha⟩ := List.mem_flatMap.1 h
    obtain ⟨q, hq, rfl⟩ := List.mem_map.1 ha
    exact ⟨hends c p hp, hends e q hq⟩
  · cases h

/-- The approach of two arcs is from a point of the one to a point of the other. -/
theorem of_approach (hc : 0 ≤ c.radius) (he : 0 ≤ e.radius) {a : Approach ℝ}
    (h : c.approach e = some a) : a.a ∈ c.trace ∧ a.b ∈ e.trace := by
  unfold approach at h
  split at h
  · rename_i x hx
    obtain rfl := Approach.eq_of_meeting h
    obtain ⟨hcx, hex⟩ := of_mem_circleCrossings (List.mem_of_find?_eq_some hx)
    have hfaces := List.find?_some hx
    rw [Bool.and_eq_true] at hfaces
    exact ⟨mem_trace_of_faces hcx hfaces.1, mem_trace_of_faces hex hfaces.2⟩
  · rcases List.mem_append.1 (Approach.mem_of_closest h) with hmem | hmem
    · simp only [List.mem_cons, List.not_mem_nil, or_false] at hmem
      obtain rfl | rfl | rfl | rfl := hmem
      · exact ⟨c.start_mem_trace, nearest_mem_trace he c.start⟩
      · exact ⟨c.stop_mem_trace, nearest_mem_trace he c.stop⟩
      · exact ⟨nearest_mem_trace hc e.start, e.start_mem_trace⟩
      · exact ⟨nearest_mem_trace hc e.stop, e.stop_mem_trace⟩
    · exact of_mem_axisPairs hmem

end Arc

end Ratsnest
