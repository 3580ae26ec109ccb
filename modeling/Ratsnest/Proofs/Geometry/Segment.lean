import Ratsnest.Proofs.Geometry.Approach

/-!
# Segments as sets of points

The foot of the perpendicular, moved to the nearer end, is the nearest point of a segment
(`Segment.distance2_nearest_le`), and the approach of two segments is a closest one
(`Segment.exists_approach`): if they do not cross, two of their points can be moved along the
segments without coming farther apart until one of them is an end.
-/

namespace Ratsnest

namespace Segment

variable {s t : Segment ℝ} {p q : Point ℝ}

/-- The points of a segment. -/
def points (s : Segment ℝ) : Set (Point ℝ) := s.along '' Set.Icc 0 1

@[simp] theorem direction_x (s : Segment ℝ) : s.direction.x = s.b.x - s.a.x := rfl
@[simp] theorem direction_y (s : Segment ℝ) : s.direction.y = s.b.y - s.a.y := rfl

@[simp] theorem along_x (s : Segment ℝ) (k : ℝ) :
    (s.along k).x = s.a.x + (s.b.x - s.a.x) * k := rfl

@[simp] theorem along_y (s : Segment ℝ) (k : ℝ) :
    (s.along k).y = s.a.y + (s.b.y - s.a.y) * k := rfl

@[simp] theorem along_zero (s : Segment ℝ) : s.along 0 = s.a := by
  ext <;> simp

@[simp] theorem along_one (s : Segment ℝ) : s.along 1 = s.b := by
  ext <;> simp

theorem along_mem {k : ℝ} (h0 : 0 ≤ k) (h1 : k ≤ 1) : s.along k ∈ s.points := ⟨k, ⟨h0, h1⟩, rfl⟩

theorem a_mem (s : Segment ℝ) : s.a ∈ s.points := s.along_zero ▸ along_mem le_rfl zero_le_one

theorem b_mem (s : Segment ℝ) : s.b ∈ s.points := s.along_one ▸ along_mem zero_le_one le_rfl

/-! ## The nearest point -/

theorem nearest_mem (s : Segment ℝ) (p : Point ℝ) : s.nearest p ∈ s.points := by
  rw [nearest]
  split
  · exact s.a_mem
  · obtain ⟨h0, h1⟩ := Scalar.clampUnit_mem ((p - s.a).dot s.direction / s.direction.dot s.direction)
    exact along_mem h0 h1

/-- Along a line the squared distance grows with the distance from the foot of the
perpendicular. -/
theorem distance2_along {f : ℝ} (hf : s.direction.dot s.direction * f = (p - s.a).dot s.direction)
    (k : ℝ) : p.distance2 (s.along k) =
      p.distance2 (s.along f) + s.direction.dot s.direction * (k - f) ^ 2 := by
  simp only [Point.dot, Point.sub_x, Point.sub_y, direction_x, direction_y] at hf
  simp only [Point.distance2_eq, Point.dot, direction_x, direction_y, along_x, along_y]
  linear_combination (2 * k - 2 * f) * hf

theorem dot_direction_nonneg (s : Segment ℝ) : 0 ≤ s.direction.dot s.direction :=
  add_nonneg (mul_self_nonneg _) (mul_self_nonneg _)

theorem along_eq_of_dot_direction (h : s.direction.dot s.direction = 0) (k : ℝ) :
    s.along k = s.a := by
  rw [Point.dot] at h
  have hx : s.direction.x = 0 := by
    nlinarith [mul_self_nonneg s.direction.x, mul_self_nonneg s.direction.y]
  have hy : s.direction.y = 0 := by
    nlinarith [mul_self_nonneg s.direction.x, mul_self_nonneg s.direction.y]
  rw [direction_x] at hx
  rw [direction_y] at hy
  ext <;> simp [hx, hy]

theorem distance2_nearest_le (hq : q ∈ s.points) : p.distance2 (s.nearest p) ≤ p.distance2 q := by
  obtain ⟨k, ⟨h0, h1⟩, rfl⟩ := hq
  rw [nearest]
  split
  · rename_i h
    rw [along_eq_of_dot_direction (Scalar.real_beq_iff.1 h)]
  · rename_i h
    rw [Scalar.real_beq_iff] at h
    have hfoot := (mul_comm _ _).trans (div_mul_cancel₀ ((p - s.a).dot s.direction) h)
    rw [distance2_along hfoot, distance2_along hfoot k]
    have hsq := sq_le_sq.2 (Scalar.abs_clampUnit_sub_le
      (x := (p - s.a).dot s.direction / s.direction.dot s.direction) h0 h1)
    exact add_le_add_right (mul_le_mul_of_nonneg_left hsq s.dot_direction_nonneg) _

/-! ## Crossings -/

/-- Two lines that are not parallel meet. -/
theorem along_eq_along (h : s.direction.cross t.direction ≠ 0) :
    s.along ((t.a - s.a).cross t.direction / s.direction.cross t.direction) =
      t.along ((t.a - s.a).cross s.direction / s.direction.cross t.direction) := by
  have hk := div_mul_cancel₀ ((t.a - s.a).cross t.direction) h
  have hm := div_mul_cancel₀ ((t.a - s.a).cross s.direction) h
  generalize (t.a - s.a).cross t.direction / s.direction.cross t.direction = k at hk ⊢
  generalize (t.a - s.a).cross s.direction / s.direction.cross t.direction = m at hm ⊢
  simp only [Point.cross, Point.sub_x, Point.sub_y, direction_x, direction_y] at h hk hm
  ext
  · apply mul_right_cancel₀ h
    rw [along_x, along_x]
    linear_combination (s.b.x - s.a.x) * hk - (t.b.x - t.a.x) * hm
  · apply mul_right_cancel₀ h
    rw [along_y, along_y]
    linear_combination (s.b.y - s.a.y) * hk - (t.b.y - t.a.y) * hm

/-- Segments have a crossing, or they are parallel, or their lines meet outside of them. -/
theorem crossing_cases (s t : Segment ℝ) :
    (∃ k ∈ Set.Icc 0 1, ∃ m ∈ Set.Icc 0 1, s.along k = t.along m ∧ s.crossing t = some (s.along k)) ∨
      s.crossing t = none ∧ (s.direction.cross t.direction = 0 ∨
        ∃ k m, s.along k = t.along m ∧ ¬(k ∈ Set.Icc 0 1 ∧ m ∈ Set.Icc 0 1)) := by
  by_cases harea : s.direction.cross t.direction = 0
  · refine .inr ⟨?_, .inl harea⟩
    rw [crossing, if_pos (Scalar.real_beq_iff.2 harea)]
  · have hmeet := along_eq_along harea
    have hcrossing : s.crossing t =
        if Scalar.inUnit ((t.a - s.a).cross t.direction / s.direction.cross t.direction) &&
            Scalar.inUnit ((t.a - s.a).cross s.direction / s.direction.cross t.direction) then
          some (s.along ((t.a - s.a).cross t.direction / s.direction.cross t.direction))
        else none := by
      rw [crossing, if_neg (mt Scalar.real_beq_iff.1 harea)]
    rw [hcrossing]
    split
    · rename_i hunit
      rw [Bool.and_eq_true, Scalar.real_inUnit_iff, Scalar.real_inUnit_iff] at hunit
      exact .inl ⟨_, hunit.1, _, hunit.2, hmeet, rfl⟩
    · rename_i hunit
      rw [Bool.and_eq_true, Scalar.real_inUnit_iff, Scalar.real_inUnit_iff] at hunit
      exact .inr ⟨rfl, .inr ⟨_, _, hmeet, hunit⟩⟩

/-! ## The closest approach -/

/-- On the way from a number in `[0, 1]` to another one there is a last one up to which all are
in `[0, 1]`: it is the end of the way, or an end of `[0, 1]`. -/
theorem exists_last {k : ℝ} (hk : k ∈ Set.Icc 0 1) (k' : ℝ) : ∃ l ∈ Set.Icc (0 : ℝ) 1,
    (∀ n, 0 ≤ n → n ≤ l → k + n * (k' - k) ∈ Set.Icc 0 1) ∧
      (l = 1 ∨ k + l * (k' - k) = 0 ∨ k + l * (k' - k) = 1) := by
  obtain ⟨hk0, hk1⟩ := hk
  rcases lt_or_ge k' 0 with h0 | h0
  · have hpos : 0 < k - k' := by linarith
    refine ⟨k / (k - k'), ⟨by positivity, (div_le_one hpos).2 (by linarith)⟩, ?_, .inr (.inl ?_)⟩
    · intro n hn hnl
      rw [le_div_iff₀ hpos] at hnl
      constructor
      · nlinarith
      · nlinarith
    · field_simp
      ring
  · rcases le_or_gt k' 1 with h1 | h1
    · refine ⟨1, ⟨zero_le_one, le_rfl⟩, ?_, .inl rfl⟩
      intro n hn hn1
      constructor
      · nlinarith
      · nlinarith
    · have hpos : 0 < k' - k := by linarith
      refine ⟨(1 - k) / (k' - k), ⟨div_nonneg (by linarith) hpos.le,
        (div_le_one hpos).2 (by linarith)⟩, ?_, .inr (.inr ?_)⟩
      · intro n hn hnl
        rw [le_div_iff₀ hpos] at hnl
        constructor
        · nlinarith
        · nlinarith
      · field_simp
        ring

/-- A way that leads out of the unit square passes its border. -/
theorem exists_exit {k m k' m' : ℝ} (hk : k ∈ Set.Icc 0 1) (hm : m ∈ Set.Icc 0 1)
    (hout : ¬(k' ∈ Set.Icc 0 1 ∧ m' ∈ Set.Icc 0 1)) : ∃ l ∈ Set.Icc (0 : ℝ) 1,
      k + l * (k' - k) ∈ Set.Icc 0 1 ∧ m + l * (m' - m) ∈ Set.Icc 0 1 ∧
        (k + l * (k' - k) = 0 ∨ k + l * (k' - k) = 1 ∨
          m + l * (m' - m) = 0 ∨ m + l * (m' - m) = 1) := by
  obtain ⟨l, ⟨hl0, hl1⟩, hin, hend⟩ := exists_last hk k'
  obtain ⟨l', ⟨hl0', hl1'⟩, hin', hend'⟩ := exists_last hm m'
  rcases le_or_gt l l' with hle | hlt
  · refine ⟨l, ⟨hl0, hl1⟩, hin l hl0 le_rfl, hin' l hl0 hle, ?_⟩
    rcases hend with rfl | hend | hend
    · have hk' := hin 1 zero_le_one le_rfl
      have hm' := hin' 1 zero_le_one hle
      rw [one_mul, add_sub_cancel] at hk' hm'
      exact absurd ⟨hk', hm'⟩ hout
    · exact .inl hend
    · exact .inr (.inl hend)
  · refine ⟨l', ⟨hl0', hl1'⟩, hin l' hl0' hlt.le, hin' l' hl0' le_rfl, ?_⟩
    rcases hend' with rfl | hend' | hend'
    · exact absurd hlt (not_lt.2 hl1)
    · exact .inr (.inr (.inl hend'))
    · exact .inr (.inr (.inr hend'))

/-- A way along two lines that shortens their distance vector without turning it brings their
points no farther apart. -/
theorem distance2_along_le {k m k' m' c : ℝ} (hc : 0 ≤ c) (hc' : c ≤ 1)
    (hx : (s.along k').x - (t.along m').x = c * ((s.along k).x - (t.along m).x))
    (hy : (s.along k').y - (t.along m').y = c * ((s.along k).y - (t.along m).y)) :
    (s.along k').distance2 (t.along m') ≤ (s.along k).distance2 (t.along m) := by
  rw [Point.distance2_eq, hx, hy, Point.distance2_eq, mul_pow, mul_pow, ← mul_add]
  have hsq : c ^ 2 ≤ 1 := by nlinarith
  exact mul_le_of_le_one_left (by positivity) hsq

/-- Of two parallel vectors one is a multiple of the other, unless that is zero. -/
theorem exists_multiple (h : s.direction.cross t.direction = 0)
    (hs : ¬(s.b.x - s.a.x = 0 ∧ s.b.y - s.a.y = 0)) : ∃ c,
      t.b.x - t.a.x = c * (s.b.x - s.a.x) ∧ t.b.y - t.a.y = c * (s.b.y - s.a.y) := by
  simp only [Point.cross, direction_x, direction_y] at h
  by_cases hx : s.b.x - s.a.x = 0
  · have hy : s.b.y - s.a.y ≠ 0 := fun hy => hs ⟨hx, hy⟩
    refine ⟨(t.b.y - t.a.y) / (s.b.y - s.a.y), ?_, (div_mul_cancel₀ _ hy).symm⟩
    rw [hx, zero_mul, zero_sub, neg_eq_zero] at h
    rw [hx, mul_zero]
    exact (mul_eq_zero.1 h).resolve_left hy
  · refine ⟨(t.b.x - t.a.x) / (s.b.x - s.a.x), (div_mul_cancel₀ _ hx).symm, ?_⟩
    rw [div_mul_eq_mul_div, eq_div_iff hx]
    linarith

/-- Points of segments without a crossing can be moved along the lines out of the segments,
without coming farther apart. -/
theorem exists_way_out (h : s.direction.cross t.direction = 0 ∨
    ∃ k m, s.along k = t.along m ∧ ¬(k ∈ Set.Icc 0 1 ∧ m ∈ Set.Icc 0 1)) {k m : ℝ}
    (hk : k ∈ Set.Icc 0 1) (hm : m ∈ Set.Icc 0 1) : ∃ k' m',
      ¬(k' ∈ Set.Icc 0 1 ∧ m' ∈ Set.Icc 0 1) ∧ ∀ l ∈ Set.Icc (0 : ℝ) 1,
        (s.along (k + l * (k' - k))).distance2 (t.along (m + l * (m' - m))) ≤
          (s.along k).distance2 (t.along m) := by
  rcases h with harea | ⟨k', m', hmeet, hout⟩
  · by_cases hd : s.b.x - s.a.x = 0 ∧ s.b.y - s.a.y = 0
    · -- The first segment is a point, so it does not matter how far along it one is.
      refine ⟨k + 2, m, fun hin => ?_, fun l _ => ?_⟩
      · have := hin.1.2
        have := hk.1
        linarith
      · refine distance2_along_le zero_le_one le_rfl ?_ ?_
        · rw [along_x, along_x, along_x, along_x, hd.1]
          ring
        · rw [along_y, along_y, along_y, along_y, hd.2]
          ring
    · obtain ⟨c, hx, hy⟩ := exists_multiple harea hd
      -- Both points move the same way, so their distance stays.
      refine ⟨k + 2 * c, m + 2, fun hin => ?_, fun l _ => ?_⟩
      · have := hin.2.2
        have := hm.1
        linarith
      · refine distance2_along_le zero_le_one le_rfl ?_ ?_
        · rw [along_x, along_x, along_x, along_x, hx]
          ring
        · rw [along_y, along_y, along_y, along_y, hy]
          ring
  · -- Both points move towards the common point of the lines.
    refine ⟨k', m', hout, fun l ⟨hl0, hl1⟩ => ?_⟩
    have hx := congrArg Point.x hmeet
    have hy := congrArg Point.y hmeet
    rw [along_x, along_x] at hx
    rw [along_y, along_y] at hy
    refine distance2_along_le (c := 1 - l) (by linarith) (by linarith) ?_ ?_
    · rw [along_x, along_x, along_x, along_x]
      linear_combination l * hx
    · rw [along_y, along_y, along_y, along_y]
      linear_combination l * hy

/-- The approach of two segments is a closest one. -/
theorem exists_approach (s t : Segment ℝ) :
    ∃ p, s.approach t = some p ∧ p.IsClosest s.points t.points := by
  rcases s.crossing_cases t with ⟨k, hk, m, hm, hmeet, hcrossing⟩ | ⟨hcrossing, hout⟩
  · rw [approach, hcrossing]
    exact ⟨_, rfl, Approach.isClosest_of_mem ⟨k, hk, rfl⟩ ⟨m, hm, hmeet.symm⟩⟩
  · rw [approach, hcrossing]
    refine Approach.exists_isClosest (by simp) ?_ ?_
    · simp only [List.forall_mem_cons]
      refine ⟨⟨s.a_mem, t.nearest_mem _⟩, ⟨s.b_mem, t.nearest_mem _⟩,
        ⟨s.nearest_mem _, t.a_mem⟩, ⟨s.nearest_mem _, t.b_mem⟩, nofun⟩
    · rintro x ⟨k, hk, rfl⟩ y ⟨m, hm, rfl⟩
      obtain ⟨k', m', hsquare, hway⟩ := exists_way_out hout hk hm
      obtain ⟨l, hl, hkl, hml, hend⟩ := exists_exit hk hm hsquare
      have hle := hway l hl
      rcases hend with hend | hend | hend | hend
      · rw [hend, along_zero] at hle
        exact ⟨_, List.mem_cons_self, (distance2_nearest_le ⟨_, hml, rfl⟩).trans hle⟩
      · rw [hend, along_one] at hle
        exact ⟨_, List.mem_cons_of_mem _ List.mem_cons_self,
          (distance2_nearest_le ⟨_, hml, rfl⟩).trans hle⟩
      · rw [hend, along_zero, Point.distance2_comm] at hle
        refine ⟨⟨s.nearest t.a, t.a⟩, by simp, ?_⟩
        rw [Approach.d2, Point.distance2_comm]
        exact (distance2_nearest_le ⟨_, hkl, rfl⟩).trans hle
      · rw [hend, along_one, Point.distance2_comm] at hle
        refine ⟨⟨s.nearest t.b, t.b⟩, by simp, ?_⟩
        rw [Approach.d2, Point.distance2_comm]
        exact (distance2_nearest_le ⟨_, hkl, rfl⟩).trans hle

end Segment

end Ratsnest
