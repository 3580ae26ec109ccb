import Ratsnest.Proofs.Geometry.Region
import Ratsnest.SpatialIndex

/-!
# Boxes around points

A box surrounds a point by a margin if the disc of that radius around the point lies in it.  The
boxes of the geometry surround what they are built from, and they surround a whole region with the
corners of its outline.  Boxes that surround two points meet when the points are no farther apart
than the margins allow (`Box.Surrounds.intersects`).
-/

namespace Ratsnest

namespace Point

theorem abs_sub_x_le_distance (p q : Point ℝ) : |p.x - q.x| ≤ p.distance q := by
  refine Real.abs_le_sqrt ?_
  rw [distance2_eq]
  nlinarith [sq_nonneg (p.y - q.y)]

theorem abs_sub_y_le_distance (p q : Point ℝ) : |p.y - q.y| ≤ p.distance q := by
  refine Real.abs_le_sqrt ?_
  rw [distance2_eq]
  nlinarith [sq_nonneg (p.x - q.x)]

end Point

namespace Box

/-- Whether a point is in a box and at least `r` away from each side. -/
structure Surrounds (b : Box ℝ) (p : Point ℝ) (r : ℝ) : Prop where
  left : b.lo.x + r ≤ p.x
  right : p.x + r ≤ b.hi.x
  below : b.lo.y + r ≤ p.y
  above : p.y + r ≤ b.hi.y

variable {b d : Box ℝ} {p q : Point ℝ} {r k : ℝ}

/-- A box that grows surrounds by so much more. -/
theorem Surrounds.inflate (h : b.Surrounds p r) (k : ℝ) : (b.inflate k).Surrounds p (r + k) where
  left := by
    have := h.left
    simp only [Box.inflate, Point.translate]
    linarith
  right := by
    have := h.right
    simp only [Box.inflate, Point.translate]
    linarith
  below := by
    have := h.below
    simp only [Box.inflate, Point.translate]
    linarith
  above := by
    have := h.above
    simp only [Box.inflate, Point.translate]
    linarith

theorem Surrounds.union_left (h : b.Surrounds p r) (d : Box ℝ) : (b.union d).Surrounds p r where
  left := (add_le_add_left (min_le_left _ _) r).trans h.left
  right := h.right.trans (le_max_left _ _)
  below := (add_le_add_left (min_le_left _ _) r).trans h.below
  above := h.above.trans (le_max_left _ _)

theorem Surrounds.union_right (h : d.Surrounds p r) (b : Box ℝ) : (b.union d).Surrounds p r where
  left := (add_le_add_left (min_le_right _ _) r).trans h.left
  right := h.right.trans (le_max_right _ _)
  below := (add_le_add_left (min_le_right _ _) r).trans h.below
  above := h.above.trans (le_max_right _ _)

theorem surrounds_point (p : Point ℝ) : Surrounds ⟨p, p⟩ p 0 :=
  ⟨(add_zero _).le, (add_zero _).le, (add_zero _).le, (add_zero _).le⟩

/-- The least box around some points surrounds each of them. -/
theorem Surrounds.foldl_union {ps : List (Point ℝ)} (h : b.Surrounds p 0 ∨ p ∈ ps) :
    (ps.foldl (fun b q => b.union ⟨q, q⟩) b).Surrounds p 0 := by
  induction ps generalizing b with
  | nil => exact h.resolve_right List.not_mem_nil
  | cons q ps ih =>
    refine ih ?_
    rcases h with h | h
    · exact .inl (h.union_left _)
    · rcases List.mem_cons.1 h with rfl | h
      · exact .inl ((surrounds_point p).union_right b)
      · exact .inr h

theorem surrounds_around_left (p q : Point ℝ) : (around p q).Surrounds p 0 :=
  (surrounds_point p).union_left ⟨q, q⟩

theorem surrounds_around_right (p q : Point ℝ) : (around p q).Surrounds q 0 :=
  (surrounds_point q).union_right ⟨p, p⟩

/-- Boxes are convex. -/
theorem Surrounds.of_mem_points {s : Segment ℝ} (ha : b.Surrounds s.a r) (hb : b.Surrounds s.b r)
    (hp : p ∈ s.points) : b.Surrounds p r := by
  obtain ⟨k, ⟨h0, h1⟩, rfl⟩ := hp
  obtain ⟨hal, har, hab, haa⟩ := ha
  obtain ⟨hbl, hbr, hbb, hba⟩ := hb
  constructor <;> simp only [Segment.along_x, Segment.along_y] <;> nlinarith

/-- A box around the corners of an outline surrounds its region. -/
theorem Surrounds.of_mem_region {o : Outline ℝ} (h : ∀ v ∈ o, b.Surrounds v 0)
    (hp : p ∈ o.region) : b.Surrounds p 0 := by
  rcases Outline.mem_region_iff.1 hp with ⟨e, he, hpe⟩ | hodd
  · obtain ⟨ha, hb⟩ := Outline.mem_of_mem_edges he
    exact (h _ ha).of_mem_points (h _ hb) hpe
  · -- A point outside of the box has a side of the box between it and all corners.
    have hbeyond : ∀ u : Point ℝ, ¬∀ v ∈ o, u.dot (v - p) < 0 := fun u hu =>
      Nat.not_even_iff_odd.2 hodd (Outline.even_passes_of_beyond hu)
    refine ⟨?_, ?_, ?_, ?_⟩ <;> by_contra hlt <;> rw [not_le] at hlt
    · refine hbeyond ⟨-1, 0⟩ fun v hv => ?_
      have := (h v hv).left
      simp only [Point.dot, Point.sub_x, Point.sub_y]
      linarith
    · refine hbeyond ⟨1, 0⟩ fun v hv => ?_
      have := (h v hv).right
      simp only [Point.dot, Point.sub_x, Point.sub_y]
      linarith
    · refine hbeyond ⟨0, -1⟩ fun v hv => ?_
      have := (h v hv).below
      simp only [Point.dot, Point.sub_x, Point.sub_y]
      linarith
    · refine hbeyond ⟨0, 1⟩ fun v hv => ?_
      have := (h v hv).above
      simp only [Point.dot, Point.sub_x, Point.sub_y]
      linarith

/-- A box that surrounds a point has its corners in order. -/
theorem Surrounds.ordered_eq (h : b.Surrounds p r) (hr : 0 ≤ r) : SpatialIndex.ordered b = b := by
  obtain ⟨hleft, hright, hbelow, habove⟩ := h
  have hx : b.lo.x ≤ b.hi.x := by linarith
  have hy : b.lo.y ≤ b.hi.y := by linarith
  rw [SpatialIndex.ordered, around, min_eq_left hx, min_eq_left hy, max_eq_right hx,
    max_eq_right hy]

/-- Boxes that surround close points meet. -/
theorem Surrounds.intersects (hb : b.Surrounds p r) (hd : d.Surrounds q k)
    (h : p.distance q ≤ r + k) : b.intersects d := by
  obtain ⟨hx, hx'⟩ := abs_le.1 ((Point.abs_sub_x_le_distance p q).trans h)
  obtain ⟨hy, hy'⟩ := abs_le.1 ((Point.abs_sub_y_le_distance p q).trans h)
  obtain ⟨hbl, hbr, hbb, hba⟩ := hb
  obtain ⟨hdl, hdr, hdb, hda⟩ := hd
  simp only [Box.intersects, Bool.and_eq_true, decide_eq_true_iff]
  refine ⟨⟨⟨?_, ?_⟩, ?_⟩, ?_⟩ <;> linarith

end Box

end Ratsnest
