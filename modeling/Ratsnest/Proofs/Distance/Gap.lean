import Ratsnest.Proofs.Distance.Area
import Ratsnest.Proofs.Distance.Bridge
import Ratsnest.Proofs.Geometry.Arc

/-!
# The gap between copper

The copper of a shape as a set of points (`Shape.region`), and that the bridge of two straight
shapes is a closest approach of their copper (`Shape.exists_bridge`).  The approach of two curves
or outlines is a closest one; moving its ends to the border of the discs keeps it a closest one by
the triangle inequality (`Copper.exists_gap`).
-/

namespace Ratsnest

open Approach

/-! ## Copper as a set of points -/

/-- The points that a disc covers while its center moves over a set. -/
def swept (A : Set (Point ℝ)) (r : ℝ) : Set (Point ℝ) := {p | ∃ c ∈ A, p.distance c ≤ r}

/-- The copper of a padstack on one of its layers. -/
def Padstack.region (p : Padstack ℝ) : Set (Point ℝ) :=
  match p.shape with
  | .circle r => swept {p.center} r
  | .rect w h => Outline.region
      [⟨p.center.x - w / 2, p.center.y - h / 2⟩, ⟨p.center.x + w / 2, p.center.y - h / 2⟩,
        ⟨p.center.x + w / 2, p.center.y + h / 2⟩, ⟨p.center.x - w / 2, p.center.y + h / 2⟩]

/-- The copper of a shape: a centerline swept by a disc, or the region of an outline. -/
def Shape.region : Shape ℝ → Set (Point ℝ)
  | line t => swept t.segment.points (t.thickness / 2)
  | arc t => swept t.arc.points (t.thickness / 2)
  | polygon p => p.outline.region
  | padstack p => p.region
  | rat _ => ∅

/-- Whether a shape is copper without arcs, of a size that is not negative. -/
def Shape.Straight : Shape ℝ → Prop
  | line t => 0 ≤ t.thickness
  | arc _ => False
  | polygon p => p.outline ≠ []
  | padstack p => ∀ r, p.shape = .circle r → 0 ≤ r
  | rat _ => False

theorem swept_zero (A : Set (Point ℝ)) : swept A 0 = A := by
  ext p
  constructor
  · rintro ⟨c, hc, hle⟩
    rw [Point.distance_le_iff le_rfl, mul_zero] at hle
    have heq := Point.distance2_eq_zero_iff.1 (hle.antisymm (Point.distance2_nonneg p c))
    exact heq ▸ hc
  · intro hp
    refine ⟨p, hp, ?_⟩
    rw [Point.distance_le_iff le_rfl, Point.distance2_self, mul_zero]

theorem Segment.points_point (p : Point ℝ) : (Segment.point p).points = {p} := by
  ext v
  constructor
  · rintro ⟨k, -, rfl⟩
    ext <;> simp [Segment.point]
  · rintro rfl
    exact Segment.a_mem (Segment.point v)

/-! ## Ways between the centers of discs -/

namespace Segment

variable {k l : ℝ}

theorem distance_along_along (s : Segment ℝ) (h : k ≤ l) :
    (s.along k).distance (s.along l) = (l - k) * s.a.distance s.b := by
  have hnonneg : 0 ≤ (l - k) * s.a.distance s.b :=
    mul_nonneg (sub_nonneg.2 h) (Point.distance_nonneg _ _)
  rw [← sq_eq_sq₀ (Point.distance_nonneg _ _) hnonneg, mul_pow, Point.distance_sq,
    Point.distance_sq, distance2_along_along]

theorem distance_a_along (s : Segment ℝ) (h : 0 ≤ k) :
    (s.along k).distance s.a = k * s.a.distance s.b := by
  have heq := s.distance_along_along h
  rwa [along_zero, sub_zero, Point.distance_comm] at heq

theorem distance_b_along (s : Segment ℝ) (h : k ≤ 1) :
    (s.along k).distance s.b = (1 - k) * s.a.distance s.b := by
  have heq := s.distance_along_along h
  rwa [along_one] at heq

/-- A step of length `r` along a segment of length `d`. -/
theorem add_step (p q : Point ℝ) (d r : ℝ) :
    p + ((q - p).scale (1 / d)).scale r = along ⟨p, q⟩ (r / d) := by
  ext
  · simp only [Point.add_x, Point.scale_x, Point.sub_x, along_x]
    ring
  · simp only [Point.add_y, Point.scale_y, Point.sub_y, along_y]
    ring

/-- A step of length `r` back from the far end of a segment of length `d`. -/
theorem sub_step (p q : Point ℝ) (d r : ℝ) :
    q - ((q - p).scale (1 / d)).scale r = along ⟨p, q⟩ (1 - r / d) := by
  ext
  · simp only [Point.scale_x, Point.sub_x, along_x]
    ring
  · simp only [Point.scale_y, Point.sub_y, along_y]
    ring

end Segment

namespace Approach

variable {A B : Set (Point ℝ)} {p : Approach ℝ} {x y : Point ℝ} {r r' : ℝ}

/-- Discs bring points closer by their radii at most. -/
theorem IsClosest.distance_le (h : p.IsClosest A B) (hx : x ∈ swept A r) (hy : y ∈ swept B r') :
    p.a.distance p.b ≤ x.distance y + (r + r') := by
  obtain ⟨c, hc, hxc⟩ := hx
  obtain ⟨e, he, hye⟩ := hy
  have hle : p.a.distance p.b ≤ c.distance e := by
    rw [Point.distance_le_iff (Point.distance_nonneg c e), ← sq, Point.distance_sq]
    exact h.least c hc e he
  have hce := Point.distance_triangle c x e
  have hxe := Point.distance_triangle x y e
  rw [Point.distance_comm c x] at hce
  linarith

/-- Discs that reach each other have a common point on the way between their centers. -/
theorem IsClosest.meet (h : p.IsClosest A B) (hr : 0 ≤ r) (hr' : 0 ≤ r') (hpos : 0 < p.d2)
    (hle : p.d2 ≤ (r + r') * (r + r')) :
    (⟨p.a, p.b⟩ : Segment ℝ).along (r / (r + r')) ∈ swept A r ∩ swept B r' := by
  have hsum : 0 < r + r' := by nlinarith
  have hD : p.a.distance p.b ≤ r + r' := (Point.distance_le_iff hsum.le).2 hle
  have hshare : r / (r + r') ≤ 1 := (div_le_one hsum).2 (by linarith)
  constructor
  · refine ⟨p.a, h.a_mem, ?_⟩
    rw [Segment.distance_a_along ⟨p.a, p.b⟩ (by positivity)]
    calc r / (r + r') * p.a.distance p.b ≤ r / (r + r') * (r + r') :=
          mul_le_mul_of_nonneg_left hD (by positivity)
      _ = r := div_mul_cancel₀ r hsum.ne'
  · refine ⟨p.b, h.b_mem, ?_⟩
    rw [Segment.distance_b_along ⟨p.a, p.b⟩ hshare]
    calc (1 - r / (r + r')) * p.a.distance p.b ≤ (1 - r / (r + r')) * (r + r') :=
          mul_le_mul_of_nonneg_left hD (by linarith)
      _ = r' := by rw [sub_mul, div_mul_cancel₀ r hsum.ne', one_mul, add_sub_cancel_left]

/-- Where discs do not reach each other the closest points are on the way between the centers. -/
theorem IsClosest.apart (h : p.IsClosest A B) (hr : 0 ≤ r) (hr' : 0 ≤ r')
    (hlt : (r + r') * (r + r') < p.d2) : IsClosest (swept A r) (swept B r')
      ⟨(⟨p.a, p.b⟩ : Segment ℝ).along (r / p.a.distance p.b),
        (⟨p.a, p.b⟩ : Segment ℝ).along (1 - r' / p.a.distance p.b)⟩ := by
  have hD : r + r' < p.a.distance p.b := by
    rw [← not_le, Point.distance_le_iff (add_nonneg hr hr')]
    exact not_le.2 hlt
  have hpos : 0 < p.a.distance p.b := by linarith
  have hshare : r / p.a.distance p.b ≤ 1 - r' / p.a.distance p.b := by
    rw [le_sub_iff_add_le, ← add_div, div_le_one hpos]
    exact hD.le
  refine ⟨⟨p.a, h.a_mem, ?_⟩, ⟨p.b, h.b_mem, ?_⟩, fun x hx y hy => ?_⟩
  · rw [Segment.distance_a_along ⟨p.a, p.b⟩ (by positivity), div_mul_cancel₀ r hpos.ne']
  · have hle : 1 - r' / p.a.distance p.b ≤ 1 := sub_le_self 1 (by positivity)
    rw [Segment.distance_b_along ⟨p.a, p.b⟩ hle, sub_sub_cancel, div_mul_cancel₀ r' hpos.ne']
  · have hxy := h.distance_le hx hy
    rw [d2, ← Point.distance_sq, ← Point.distance_sq x y,
      sq_le_sq₀ (Point.distance_nonneg _ _) (Point.distance_nonneg _ _),
      Segment.distance_along_along ⟨p.a, p.b⟩ hshare]
    calc (1 - r' / p.a.distance p.b - r / p.a.distance p.b) * p.a.distance p.b
        = p.a.distance p.b - (r + r') := by
          rw [sub_mul, sub_mul, one_mul, div_mul_cancel₀ r' hpos.ne', div_mul_cancel₀ r hpos.ne']
          ring
      _ ≤ x.distance y := by linarith

end Approach

/-! ## Gaps -/

namespace Copper

/-- The points that the disc sweeps over, for a stroke, and the region of an area. -/
def core : Copper ℝ → Set (Point ℝ)
  | stroke (.segment s) _ => s.points
  | stroke (.arc c) _ => c.points
  | area o => o.region

/-- Whether copper has no arcs and a size that is not negative. -/
def Straight : Copper ℝ → Prop
  | stroke (.segment _) r => 0 ≤ r
  | stroke (.arc _) _ => False
  | area o => o ≠ []

variable {c e : Copper ℝ} {A B : Set (Point ℝ)} {p : Approach ℝ}

theorem Straight.radius_nonneg (h : c.Straight) : 0 ≤ c.radius := by
  rcases c with ⟨s | c, r⟩ | o
  · exact h
  · exact h.elim
  · exact le_rfl

/-- The approach of straight copper is a closest one of what the discs sweep over. -/
theorem exists_approach (hc : c.Straight) (he : e.Straight) :
    ∃ p, c.approach e = some p ∧ p.IsClosest c.core e.core := by
  rcases c with ⟨s | c, r⟩ | o
  · rcases e with ⟨t | c, r'⟩ | q
    · exact s.exists_approach t
    · exact he.elim
    · exact Curve.exists_areaApproach s he
  · exact hc.elim
  · rcases e with ⟨t | c, r'⟩ | q
    · obtain ⟨p, hp, hclosest⟩ := Curve.exists_areaApproach t hc
      refine ⟨p.swap, ?_, hclosest.swap⟩
      rw [approach, hp, Option.map_some]
    · exact he.elim
    · exact Outline.exists_approach hc he

/-- The gap is a closest approach once more when the discs are put on a closest approach. -/
theorem exists_gap (hp : c.approach e = some p) (h : p.IsClosest A B) (hc : 0 ≤ c.radius)
    (he : 0 ≤ e.radius) : ∃ g, c.gap? e = some g ∧
      IsClosest (swept A c.radius) (swept B e.radius) ⟨g.a, g.b⟩ ∧ g.d2 = g.a.distance2 g.b := by
  rw [gap?, hp, Option.map_some]
  refine ⟨_, rfl, ?_⟩
  dsimp only
  by_cases hle : p.d2 ≤ (c.radius + e.radius) * (c.radius + e.radius)
  · rw [if_pos hle]
    have hcontact : ∀ x, x ∈ swept A c.radius ∩ swept B e.radius →
        IsClosest (swept A c.radius) (swept B e.radius) ⟨x, x⟩ ∧ 0 = x.distance2 x := by
      rintro x ⟨hA, hB⟩
      exact ⟨isClosest_of_mem hA hB, (Point.distance2_self x).symm⟩
    refine hcontact _ ?_
    by_cases hpos : 0 < p.d2
    · rw [if_pos hpos]
      exact h.meet hc he hpos hle
    · rw [if_neg hpos]
      have hzero : p.d2 = 0 := le_antisymm (not_lt.1 hpos) (Point.distance2_nonneg _ _)
      have heq : p.a = p.b := Point.distance2_eq_zero_iff.1 hzero
      refine ⟨⟨p.a, h.a_mem, ?_⟩, ⟨p.b, h.b_mem, ?_⟩⟩
      · rw [Point.distance_le_iff hc, Point.distance2_self]
        exact mul_self_nonneg _
      · rw [heq, Point.distance_le_iff he, Point.distance2_self]
        exact mul_self_nonneg _
  · rw [if_neg hle]
    refine ⟨?_, rfl⟩
    have hapart := h.apart hc he (not_le.1 hle)
    have hroot : AngularScalar.sqrt p.d2 = p.a.distance p.b := rfl
    rw [hroot]
    rwa [Segment.add_step, Segment.sub_step]

end Copper

/-! ## Bridges -/

namespace Shape

variable {s t : Shape ℝ}

theorem exists_copper (h : s.Straight) :
    ∃ c, s.copper? = some c ∧ c.Straight ∧ s.region = swept c.core c.radius := by
  cases s with
  | line trace =>
    refine ⟨_, rfl, ?_, ?_⟩
    · rw [Copper.Straight, Scalar.real_half]
      exact div_nonneg h zero_le_two
    · rw [Copper.radius, Scalar.real_half]
      rfl
  | arc _ => exact h.elim
  | polygon polygon =>
    refine ⟨_, rfl, h, ?_⟩
    rw [Copper.radius, swept_zero]
    rfl
  | padstack pad =>
    rcases pad with ⟨center, r | ⟨w, k⟩, layers, clearance, thermals⟩
    · refine ⟨_, rfl, h r rfl, ?_⟩
      rw [Copper.radius, Copper.core, Segment.points_point]
      rfl
    · refine ⟨_, rfl, List.cons_ne_nil _ _, ?_⟩
      rw [Copper.radius, swept_zero]
      have hcorners : Padstack.outline? ⟨center, .rect w k, layers, clearance, thermals⟩ =
          some [⟨center.x - w / 2, center.y - k / 2⟩, ⟨center.x + w / 2, center.y - k / 2⟩,
            ⟨center.x + w / 2, center.y + k / 2⟩, ⟨center.x - w / 2, center.y + k / 2⟩] := by
        simp only [Padstack.outline?, Point.translate, Scalar.real_half, sub_eq_add_neg]
      rw [hcorners]
      rfl
  | rat _ => exact h.elim

/-- Between straight shapes there is a bridge from the copper of the one to the copper of the
other, as long as it says, and none of their points are closer.  It touches just if the copper has
a common point. -/
theorem exists_bridge (hs : s.Straight) (ht : t.Straight) :
    ∃ b, s.bridge? .precise t = some b ∧ b.a ∈ s.region ∧ b.b ∈ t.region ∧
      b.d2 = b.a.distance2 b.b ∧ (∀ p ∈ s.region, ∀ q ∈ t.region, b.d2 ≤ p.distance2 q) ∧
      (b.touching = true ↔ (s.region ∩ t.region).Nonempty) := by
  obtain ⟨c, hc, hcs, hregion⟩ := exists_copper hs
  obtain ⟨e, he, het, hregion'⟩ := exists_copper ht
  obtain ⟨p, hp, hclosest⟩ := Copper.exists_approach hcs het
  obtain ⟨g, hg, ⟨ha, hb, hleast⟩, hd2⟩ :=
    Copper.exists_gap hp hclosest hcs.radius_nonneg het.radius_nonneg
  rw [← hregion] at ha hleast
  rw [← hregion'] at hb hleast
  have hd2le : ∀ p ∈ s.region, ∀ q ∈ t.region, g.d2 ≤ p.distance2 q := fun p hp q hq =>
    hd2 ▸ hleast p hp q hq
  refine ⟨_, bridge?_eq_some_iff.2 ⟨nofun, c, e, g, hc, he, hg, rfl, rfl⟩, ha, hb, hd2, hd2le, ?_⟩
  rw [Bridge.touching, Scalar.real_beq_iff]
  constructor
  · intro hzero
    have heq : g.a = g.b := Point.distance2_eq_zero_iff.1 (hd2.symm.trans hzero)
    exact ⟨g.a, ha, heq ▸ hb⟩
  · rintro ⟨x, hxs, hxt⟩
    have hle := hd2le x hxs x hxt
    rw [Point.distance2_self] at hle
    exact hle.antisymm (hd2 ▸ Point.distance2_nonneg g.a g.b)

/-- A trace and a triangle above it. -/
theorem exists_bridge_trace_triangle : ∃ s t : Shape ℝ,
    s = line ⟨0, ⟨⟨0, 0⟩, ⟨4, 0⟩⟩, 2, 0⟩ ∧ t = polygon ⟨0, [⟨0, 3⟩, ⟨4, 3⟩, ⟨2, 5⟩], false⟩ ∧
      ∃ b, s.bridge? .precise t = some b ∧ b.a ∈ s.region ∧ b.b ∈ t.region ∧
        b.d2 = b.a.distance2 b.b ∧ (∀ p ∈ s.region, ∀ q ∈ t.region, b.d2 ≤ p.distance2 q) ∧
        (b.touching = true ↔ (s.region ∩ t.region).Nonempty) :=
  ⟨_, _, rfl, rfl, exists_bridge (s := line ⟨0, ⟨⟨0, 0⟩, ⟨4, 0⟩⟩, 2, 0⟩)
    (t := polygon ⟨0, [⟨0, 3⟩, ⟨4, 3⟩, ⟨2, 5⟩], false⟩) zero_le_two (List.cons_ne_nil _ _)⟩

end Shape

end Ratsnest
