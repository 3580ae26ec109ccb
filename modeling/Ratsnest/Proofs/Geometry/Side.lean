import Ratsnest.Proofs.Geometry.Segment

/-!
# Sides of segments

On which side of a segment a point lies (`Segment.side`) changes along another segment as an
affine function, and it is zero just for the points in line with the segment.
-/

namespace Ratsnest

namespace Segment

variable {s e : Segment ℝ} {v : Point ℝ} {k : ℝ}

/-- The segment run backwards. -/
def reverse (s : Segment ℝ) : Segment ℝ := ⟨s.b, s.a⟩

@[simp] theorem reverse_a (s : Segment ℝ) : s.reverse.a = s.b := rfl
@[simp] theorem reverse_b (s : Segment ℝ) : s.reverse.b = s.a := rfl

theorem reverse_along (s : Segment ℝ) (k : ℝ) : s.reverse.along k = s.along (1 - k) := by
  ext
  · rw [along_x, along_x, reverse_a, reverse_b]
    ring
  · rw [along_y, along_y, reverse_a, reverse_b]
    ring

theorem reverse_points (s : Segment ℝ) : s.reverse.points = s.points := by
  ext v
  constructor
  · rintro ⟨k, ⟨h0, h1⟩, rfl⟩
    rw [reverse_along]
    exact along_mem (by linarith) (by linarith)
  · rintro ⟨k, ⟨h0, h1⟩, rfl⟩
    refine ⟨1 - k, ⟨by linarith, by linarith⟩, ?_⟩
    rw [reverse_along, sub_sub_cancel]

/-- How far a point lies to the left of a segment, times its length. -/
noncomputable def side (s : Segment ℝ) (v : Point ℝ) : ℝ := s.direction.cross (v - s.a)

theorem side_eq (s : Segment ℝ) (v : Point ℝ) :
    s.side v = (s.b.x - s.a.x) * (v.y - s.a.y) - (s.b.y - s.a.y) * (v.x - s.a.x) := rfl

theorem side_along (s e : Segment ℝ) (k : ℝ) :
    s.side (e.along k) = s.side e.a + (s.side e.b - s.side e.a) * k := by
  rw [side_eq, side_eq, side_eq, along_x, along_y]
  ring

theorem side_eq_zero_of_mem (h : v ∈ s.points) : s.side v = 0 := by
  obtain ⟨k, -, rfl⟩ := h
  rw [side_eq, along_x, along_y]
  ring

/-- A point level with a segment that rises lies on it if it lies on neither side. -/
theorem mem_of_side_eq_zero (hs : s.a.y < s.b.y) (ha : s.a.y ≤ v.y) (hb : v.y ≤ s.b.y)
    (h : s.side v = 0) : v ∈ s.points := by
  have hpos : 0 < s.b.y - s.a.y := by linarith
  have hk := div_mul_cancel₀ (v.y - s.a.y) hpos.ne'
  refine ⟨(v.y - s.a.y) / (s.b.y - s.a.y),
    ⟨div_nonneg (by linarith) hpos.le, (div_le_one hpos).2 (by linarith)⟩, ?_⟩
  generalize (v.y - s.a.y) / (s.b.y - s.a.y) = k at hk ⊢
  rw [side_eq] at h
  ext
  · apply mul_left_cancel₀ hpos.ne'
    rw [along_x]
    linear_combination h + (s.b.x - s.a.x) * hk
  · rw [along_y]
    linarith

/-- The points of a segment have heights between those of its ends. -/
theorem y_mem_of_mem (h : v ∈ s.points) : v.y ∈ Set.uIcc s.a.y s.b.y := by
  obtain ⟨k, ⟨h0, h1⟩, rfl⟩ := h
  rw [along_y, Set.mem_uIcc]
  rcases le_total s.a.y s.b.y with h | h
  · exact .inl ⟨by nlinarith, by nlinarith⟩
  · exact .inr ⟨by nlinarith, by nlinarith⟩

theorem y_mem_of_rises (hs : s.a.y ≤ s.b.y) (h : v ∈ s.points) : s.a.y ≤ v.y ∧ v.y ≤ s.b.y := by
  have hy := y_mem_of_mem h
  rwa [Set.uIcc_of_le hs] at hy

theorem mem_of_level (hs : s.a.y = s.b.y) :
    v ∈ s.points ↔ v.y = s.a.y ∧ v.x ∈ Set.uIcc s.a.x s.b.x := by
  constructor
  · rintro ⟨k, ⟨h0, h1⟩, rfl⟩
    rw [along_x, along_y, hs, Set.mem_uIcc]
    refine ⟨by ring, ?_⟩
    rcases le_total s.a.x s.b.x with h | h
    · exact .inl ⟨by nlinarith, by nlinarith⟩
    · exact .inr ⟨by nlinarith, by nlinarith⟩
  · rintro ⟨hy, hx⟩
    rw [← segment_eq_uIcc, segment_eq_image'] at hx
    obtain ⟨k, hk, hkx⟩ := hx
    dsimp only at hkx
    refine ⟨k, hk, ?_⟩
    ext
    · rw [along_x, ← hkx, smul_eq_mul]
      ring
    · rw [along_y, hy, hs]
      ring

/-- Whether no end of one of the segments lies on the other. -/
structure Apart (s e : Segment ℝ) : Prop where
  a_off : s.a ∉ e.points
  b_off : s.b ∉ e.points
  off_a : e.a ∉ s.points
  off_b : e.b ∉ s.points

theorem Apart.reverse_left (h : s.Apart e) : s.reverse.Apart e where
  a_off := h.b_off
  b_off := h.a_off
  off_a := s.reverse_points ▸ h.off_a
  off_b := s.reverse_points ▸ h.off_b

theorem Apart.reverse_right (h : s.Apart e) : s.Apart e.reverse where
  a_off := e.reverse_points ▸ h.a_off
  b_off := e.reverse_points ▸ h.b_off
  off_a := h.off_b
  off_b := h.off_a

end Segment

end Ratsnest
