import Ratsnest.Crawl.Joins
import Ratsnest.Proofs.Crawl.Component
import Ratsnest.Proofs.Distance.Gap
import Ratsnest.Proofs.Geometry.Trace

/-!
# The box of a shape reaches as far as its copper

A gap comes from an approach between points of the two curves or outlines, and the box of a shape
surrounds each such point by the radius of its copper (`Shape.exists_box`).  So shapes that touch
have boxes that meet once one of them is grown by the bloat (`JoinRules.boxesMeet_of_touches`), and
the box of a shape holds every point that its copper covers.
-/

namespace Ratsnest

/-! ## Where approaches are found -/

namespace Curve

/-- The points of a curve that searches find. -/
def trace : Curve ℝ → Set (Point ℝ)
  | segment s => s.points
  | arc c => c.trace

/-- Whether the radius of an arc is not negative. -/
def Sized : Curve ℝ → Prop
  | segment _ => True
  | arc c => 0 ≤ c.radius

variable {c e : Curve ℝ} {o : Outline ℝ} {p : Approach ℝ}

theorem start_mem_trace (c : Curve ℝ) : c.start ∈ c.trace := by
  cases c with
  | segment s => exact s.a_mem
  | arc c => exact c.start_mem_trace

theorem of_approach (hc : c.Sized) (he : e.Sized) (h : c.approach e = some p) :
    p.a ∈ c.trace ∧ p.b ∈ e.trace := by
  rcases c with s | c <;> rcases e with t | e
  · obtain ⟨q, hq, hclosest⟩ := s.exists_approach t
    obtain rfl := Option.some.inj (hq.symm.trans h)
    exact ⟨hclosest.a_mem, hclosest.b_mem⟩
  · exact Arc.of_segmentApproach he h
  · obtain ⟨q, hq, rfl⟩ := Option.map_eq_some_iff.1 h
    exact (Arc.of_segmentApproach hc hq).symm
  · exact Arc.of_approach hc he h

theorem of_areaApproach (hc : c.Sized) (h : c.areaApproach o = some p) :
    p.a ∈ c.trace ∧ p.b ∈ o.region := by
  unfold areaApproach at h
  split at h
  · rename_i hstart
    obtain rfl := Approach.eq_of_meeting h
    exact ⟨c.start_mem_trace, (Outline.contains_iff.1 hstart).2⟩
  · obtain ⟨e, he, hp⟩ := List.mem_filterMap.1 (Approach.mem_of_closest h)
    obtain ⟨ha, hb⟩ := of_approach (e := segment e) hc trivial hp
    exact ⟨ha, o.border_subset_region ⟨e, he, hb⟩⟩

end Curve

theorem Outline.of_approach {o q : Outline ℝ} {p : Approach ℝ} (h : o.approach q = some p) :
    p.a ∈ o.region ∧ p.b ∈ q.region := by
  have hcorner : ∀ {o : Outline ℝ} {v : Point ℝ}, v ∈ o → v ∈ o.region := fun hv =>
    border_subset_region _ (corner_mem_border hv)
  unfold approach at h
  split at h
  · rename_i v hv
    obtain rfl := Approach.eq_of_meeting h
    rcases Option.or_eq_some_iff.1 hv with hv | ⟨-, hv⟩
    · exact ⟨hcorner (List.mem_of_find?_eq_some hv), (contains_iff.1 (List.find?_some hv)).2⟩
    · exact ⟨(contains_iff.1 (List.find?_some hv)).2, hcorner (List.mem_of_find?_eq_some hv)⟩
  · obtain ⟨e, he, hp⟩ := List.mem_flatMap.1 (Approach.mem_of_closest h)
    obtain ⟨e', he', hp⟩ := List.mem_filterMap.1 hp
    obtain ⟨r, hr, hclosest⟩ := e.exists_approach e'
    obtain rfl := Option.some.inj (hr.symm.trans hp)
    exact ⟨o.border_subset_region ⟨e, he, hclosest.a_mem⟩,
      q.border_subset_region ⟨e', he', hclosest.b_mem⟩⟩

namespace Copper

/-- The points of the curve or outline that searches find. -/
def trace : Copper ℝ → Set (Point ℝ)
  | stroke c _ => c.trace
  | area o => o.region

/-- Whether no radius is negative. -/
def Sized : Copper ℝ → Prop
  | stroke c r => c.Sized ∧ 0 ≤ r
  | area _ => True

variable {c e : Copper ℝ} {p : Approach ℝ} {g : Gap ℝ} {k : ℝ}

theorem Sized.radius_nonneg (h : c.Sized) : 0 ≤ c.radius := by
  cases c with
  | stroke c r => exact h.2
  | area o => exact le_rfl

theorem of_approach (hc : c.Sized) (he : e.Sized) (h : c.approach e = some p) :
    p.a ∈ c.trace ∧ p.b ∈ e.trace := by
  rcases c with ⟨c, r⟩ | o <;> rcases e with ⟨e, r'⟩ | q
  · exact Curve.of_approach hc.1 he.1 h
  · exact Curve.of_areaApproach hc.1 h
  · obtain ⟨q, hq, rfl⟩ := Option.map_eq_some_iff.1 h
    exact (Curve.of_areaApproach he.1 hq).symm
  · exact Outline.of_approach h

/-- Copper with a gap of at most `k` has points of its curves or outlines that are no farther apart
than `k` and the radii together. -/
theorem exists_distance_le (hc : c.Sized) (he : e.Sized) (hk : 0 ≤ k) (h : c.gap? e = some g)
    (hle : g.d2 ≤ k * k) : ∃ p ∈ c.trace, ∃ q ∈ e.trace,
      p.distance q ≤ c.radius + e.radius + k := by
  obtain ⟨p, hp, rfl⟩ := Option.map_eq_some_iff.1 h
  obtain ⟨ha, hb⟩ := of_approach hc he hp
  refine ⟨p.a, ha, p.b, hb, ?_⟩
  have hreach : 0 ≤ c.radius + e.radius := add_nonneg hc.radius_nonneg he.radius_nonneg
  dsimp only at hle
  split at hle
  · rename_i hmeet
    have := (Point.distance_le_iff hreach).2 hmeet
    linarith
  · rename_i hapart
    have hlt : c.radius + e.radius < p.a.distance p.b := by
      rw [← not_le, Point.distance_le_iff hreach]
      exact hapart
    have hpos : 0 < p.a.distance p.b := hreach.trans_lt hlt
    have hroot : AngularScalar.sqrt p.d2 = p.a.distance p.b := rfl
    have hstep : (1 - e.radius / p.a.distance p.b - c.radius / p.a.distance p.b) *
        p.a.distance p.b = p.a.distance p.b - (c.radius + e.radius) := by
      field_simp
      ring
    rw [hroot, Segment.add_step, Segment.sub_step, Segment.distance2_along_along,
      ← Point.distance_sq, ← mul_pow, hstep, ← sq] at hle
    linarith [abs_le_of_sq_le_sq' hle hk]

end Copper

/-! ## Boxes of shapes -/

namespace Shape

/-- Whether no thickness, radius, width or height is negative. -/
def Sized : Shape ℝ → Prop
  | line t => 0 ≤ t.thickness
  | arc t => 0 ≤ t.thickness ∧ 0 ≤ t.arc.radius
  | polygon _ => True
  | padstack p =>
    match p.shape with
    | .circle r => 0 ≤ r
    | .rect w h => 0 ≤ w ∧ 0 ≤ h
  | rat _ => True

variable {s t : Shape ℝ} {c : Copper ℝ} {p : Point ℝ}

theorem Sized.copper (hs : s.Sized) (h : s.copper? = some c) : c.Sized := by
  cases s with
  | line t =>
    obtain rfl := Option.some.inj h
    exact ⟨trivial, Scalar.real_half t.thickness ▸ div_nonneg hs zero_le_two⟩
  | arc t =>
    obtain rfl := Option.some.inj h
    exact ⟨hs.2, Scalar.real_half t.thickness ▸ div_nonneg hs.1 zero_le_two⟩
  | polygon p =>
    obtain rfl := Option.some.inj h
    exact trivial
  | padstack p =>
    obtain ⟨center, r | ⟨w, k⟩, layers, clearance, thermals⟩ := p
    · obtain rfl := Option.some.inj h
      exact ⟨trivial, hs⟩
    · obtain rfl := Option.some.inj h
      exact trivial
  | rat r => cases h

/-- The corners of a rectangular pad are in its box. -/
theorem surrounds_corner {pad : Padstack ℝ} {w h : ℝ} (hpad : pad.shape = .rect w h) (hw : 0 ≤ w)
    (hh : 0 ≤ h) {v : Point ℝ} (hv : v ∈ pad.outline?.getD []) : pad.box.Surrounds v 0 := by
  have hw' : 0 ≤ Scalar.half w := Scalar.real_half w ▸ div_nonneg hw zero_le_two
  have hh' : 0 ≤ Scalar.half h := Scalar.real_half h ▸ div_nonneg hh zero_le_two
  simp only [Padstack.outline?, hpad, Option.getD_some, List.mem_cons, List.not_mem_nil,
    or_false] at hv
  rw [Padstack.box, Padstack.reach, hpad]
  rcases hv with rfl | rfl | rfl | rfl
  all_goals
    constructor <;> simp only [Point.translate] <;> linarith

/-- The box of a shape surrounds the points of its curve or outline by the radius. -/
theorem exists_box (hs : s.Sized) (h : s.copper? = some c) (hp : p ∈ c.trace) :
    ∃ b, s.box? = some b ∧ b.Surrounds p c.radius := by
  cases s with
  | line t =>
    obtain rfl := Option.some.inj h
    have haround := (Box.surrounds_around_left t.segment.a t.segment.b).of_mem_points
      (Box.surrounds_around_right t.segment.a t.segment.b) hp
    have hbox := haround.inflate (Scalar.half t.thickness)
    rw [zero_add] at hbox
    exact ⟨_, rfl, hbox⟩
  | arc t =>
    obtain rfl := Option.some.inj h
    have hbox := (Arc.surrounds_of_mem_trace hs.2 hp).inflate (Scalar.half t.thickness)
    rw [zero_add] at hbox
    exact ⟨_, rfl, hbox⟩
  | polygon polygon =>
    obtain rfl := Option.some.inj h
    obtain ⟨layer, _ | ⟨v, vs⟩, clears⟩ := polygon
    · rcases Outline.mem_region_iff.1 hp with ⟨e, he, -⟩ | hodd
      · cases he
      · exact absurd hodd (Nat.not_odd_zero)
    · refine ⟨_, rfl, Box.Surrounds.of_mem_region (fun w hw => .foldl_union ?_) hp⟩
      rcases List.mem_cons.1 hw with rfl | hw
      · exact .inl (Box.surrounds_point w)
      · exact .inr hw
  | padstack pad =>
    obtain ⟨center, r | ⟨w, k⟩, layers, clearance, thermals⟩ := pad
    · obtain rfl := Option.some.inj h
      have hpoint : p ∈ (Segment.point center).points := hp
      rw [Segment.points_point] at hpoint
      obtain rfl := Set.mem_singleton_iff.1 hpoint
      have hbox := (Box.surrounds_point p).inflate r
      rw [zero_add] at hbox
      exact ⟨_, rfl, hbox⟩
    · obtain rfl := Option.some.inj h
      exact ⟨_, rfl, Box.Surrounds.of_mem_region (fun v => surrounds_corner rfl hs.1 hs.2) hp⟩
  | rat r => cases h

/-- The boxes of two shapes whose gap is at most `k` meet once the first is grown by `k`. -/
theorem exists_boxes_intersect (hs : s.Sized) (ht : t.Sized) {e : Copper ℝ} {g : Gap ℝ} {k : ℝ}
    (hk : 0 ≤ k) (hc : s.copper? = some c) (he : t.copper? = some e) (hg : c.gap? e = some g)
    (hle : g.d2 ≤ k * k) : ∃ b, s.box? = some b ∧ ∃ d, t.box? = some d ∧
      (SpatialIndex.ordered d).intersects (SpatialIndex.ordered (b.inflate k)) ∧
      (SpatialIndex.ordered b).intersects (SpatialIndex.ordered (d.inflate k)) := by
  obtain ⟨p, hp, q, hq, hpq⟩ :=
    Copper.exists_distance_le (hs.copper hc) (ht.copper he) hk hg hle
  obtain ⟨b, hb, hbp⟩ := exists_box hs hc hp
  obtain ⟨d, hd, hdq⟩ := exists_box ht he hq
  have hrc := (hs.copper hc).radius_nonneg
  have hre := (ht.copper he).radius_nonneg
  refine ⟨b, hb, d, hd, ?_, ?_⟩
  · rw [hdq.ordered_eq hre, (hbp.inflate k).ordered_eq (add_nonneg hrc hk)]
    refine hdq.intersects (hbp.inflate k) ?_
    rw [Point.distance_comm]
    linarith
  · rw [hbp.ordered_eq hrc, (hdq.inflate k).ordered_eq (add_nonneg hre hk)]
    refine hbp.intersects (hdq.inflate k) ?_
    linarith

/-- The box of a shape holds the points that its copper covers. -/
theorem exists_box_of_covers (hs : s.Sized) (h : s.covers p) : ∃ b, s.box? = some b ∧
    (SpatialIndex.ordered b).intersects (SpatialIndex.ordered ⟨p, p⟩) := by
  rw [covers, Option.any_eq_true] at h
  obtain ⟨d2, hd2, hzero⟩ := h
  obtain ⟨c, hc, hd2⟩ := Option.bind_eq_some_iff.1 hd2
  obtain ⟨g, hg, hd2⟩ := Option.bind_eq_some_iff.1 hd2
  have hle : g.d2 ≤ 0 * 0 := by
    rw [Option.some.inj hd2, Scalar.real_beq_iff.1 hzero, mul_zero]
  obtain ⟨x, hx, q, hq, hxq⟩ := Copper.exists_distance_le (hs.copper hc)
    (e := .stroke (.segment (.point p)) 0) ⟨trivial, le_rfl⟩ le_rfl hg hle
  have hpoint : q ∈ (Segment.point p).points := hq
  rw [Segment.points_point] at hpoint
  obtain rfl := Set.mem_singleton_iff.1 hpoint
  obtain ⟨b, hb, hbx⟩ := exists_box hs hc hx
  refine ⟨b, hb, ?_⟩
  rw [hbx.ordered_eq (hs.copper hc).radius_nonneg, (Box.surrounds_point q).ordered_eq le_rfl]
  refine hbx.intersects (Box.surrounds_point q) ?_
  rwa [add_zero] at hxq

end Shape

/-- Shapes that touch have boxes that meet, from either one. -/
theorem JoinRules.boxesMeet_of_touches {r : JoinRules ℝ} {s t : Shape ℝ} (hs : s.Sized)
    (ht : t.Sized) (hbloat : 0 ≤ r.bloat) (h : r.touches s t) :
    r.boxesMeet s t ∧ r.boxesMeet t s := by
  obtain ⟨bridge, hbridge, hle⟩ := exists_bridge_of_touches h
  obtain ⟨-, c, e, g, hc, he, hg, -, rfl⟩ := Shape.bridge?_eq_some_iff.1 hbridge
  obtain ⟨b, hb, d, hd, hst, hts⟩ :=
    Shape.exists_boxes_intersect hs ht hbloat hc he hg hle
  exact ⟨boxesMeet_iff.2 ⟨b, hb, d, hd, hst⟩, boxesMeet_iff.2 ⟨d, hd, b, hb, hts⟩⟩

end Ratsnest
