import Ratsnest.Proofs.Geometry.Passes

/-!
# Regions of outlines

The region of an outline is its border together with the points from which a ray meets an odd
number of edges (`Outline.region`).  It does not matter which ray that is, as long as it misses
the corners (`Outline.odd_meetings_ray_iff`), and the edges that pass to the right of a point
count the same (`Outline.mem_region_iff`).  No way leads into a region or out of it except across
its border (`Outline.exists_mem_border`).
-/

namespace Ratsnest

namespace Point

/-- The points on the ray from `p` in the direction of the vector `u`. -/
def ray (p u : Point ℝ) : Set (Point ℝ) := {v | ∃ k, 0 ≤ k ∧ v = p + u.scale k}

theorem dot_add_scale (p u q : Point ℝ) (k : ℝ) :
    u.dot (p + u.scale k - q) = u.dot (p - q) + u.dot u * k := by
  simp only [dot, sub_x, sub_y, add_x, add_y, scale_x, scale_y]
  ring

theorem dot_sub_add_scale (p u q : Point ℝ) (k : ℝ) :
    u.dot (q - (p + u.scale k)) = u.dot (q - p) - u.dot u * k := by
  simp only [dot, sub_x, sub_y, add_x, add_y, scale_x, scale_y]
  ring

theorem dot_sub_self (p u : Point ℝ) : u.dot (p - p) = 0 := by
  simp [dot]

end Point

namespace Segment

variable {s : Segment ℝ} {p q v : Point ℝ}

theorem covers_iff : s.covers p = true ↔ p ∈ s.points := by
  rw [covers, Point.real_beq_iff]
  constructor
  · intro h
    exact h ▸ s.nearest_mem p
  · intro h
    have hle := distance2_nearest_le (p := p) h
    rw [Point.distance2_self] at hle
    exact (Point.distance2_eq_zero_iff.1 (hle.antisymm (Point.distance2_nonneg _ _))).symm

/-- The points of a segment are on the same side of a bound as its ends. -/
theorem dot_lt_of_mem {u : Point ℝ} {c : ℝ} (ha : u.dot (s.a - p) < c) (hb : u.dot (s.b - p) < c)
    (h : v ∈ s.points) : u.dot (v - p) < c := by
  obtain ⟨k, ⟨h0, h1⟩, rfl⟩ := h
  have hdot : u.dot (s.along k - p) = (1 - k) * u.dot (s.a - p) + k * u.dot (s.b - p) := by
    simp only [Point.dot, Point.sub_x, Point.sub_y, along_x, along_y]
    ring
  rw [hdot]
  rcases h0.eq_or_lt with rfl | h0
  · linarith
  · nlinarith

/-- The first part of a ray as a segment. -/
theorem along_of_ray (p u : Point ℝ) (t k : ℝ) :
    along ⟨p, p + u.scale t⟩ k = p + u.scale (t * k) := by
  ext
  · rw [along_x, Point.add_x, Point.add_x, Point.scale_x, Point.scale_x]
    ring
  · rw [along_y, Point.add_y, Point.add_y, Point.scale_y, Point.scale_y]
    ring

theorem points_subset_ray {u : Point ℝ} {t : ℝ} (ht : 0 ≤ t) :
    points ⟨p, p + u.scale t⟩ ⊆ p.ray u := by
  rintro v ⟨k, ⟨h0, -⟩, rfl⟩
  exact ⟨t * k, mul_nonneg ht h0, along_of_ray p u t k⟩

/-- A ray meets a segment before it comes beyond both ends. -/
theorem meets_ray_iff {u : Point ℝ} {t : ℝ} (ht : 0 < t) (ha : u.dot (s.a - p) < u.dot u * t)
    (hb : u.dot (s.b - p) < u.dot u * t) : (points ⟨p, p + u.scale t⟩ ∩ s.points).Nonempty ↔
      (p.ray u ∩ s.points).Nonempty := by
  constructor
  · rintro ⟨v, hv, hvs⟩
    exact ⟨v, points_subset_ray ht.le hv, hvs⟩
  · rintro ⟨v, ⟨k, hk, rfl⟩, hvs⟩
    have hdot := dot_lt_of_mem ha hb hvs
    rw [Point.dot_add_scale, Point.dot_sub_self, zero_add] at hdot
    have hpos : 0 ≤ u.dot u := add_nonneg (mul_self_nonneg _) (mul_self_nonneg _)
    have hkt : k < t := lt_of_mul_lt_mul_left hdot hpos
    refine ⟨_, ⟨k / t, ⟨div_nonneg hk ht.le, (div_le_one ht).2 hkt.le⟩, ?_⟩, hvs⟩
    rw [along_of_ray, mul_div_cancel₀ _ ht.ne']

/-- A segment between two points of a segment is a part of it. -/
theorem points_subset (hp : p ∈ s.points) (hq : q ∈ s.points) :
    points ⟨p, q⟩ ⊆ s.points := by
  obtain ⟨k, ⟨hk0, hk1⟩, rfl⟩ := hp
  obtain ⟨l, ⟨hl0, hl1⟩, rfl⟩ := hq
  rintro v ⟨m, ⟨hm0, hm1⟩, rfl⟩
  refine ⟨k + (l - k) * m, ⟨by nlinarith, by nlinarith⟩, ?_⟩
  ext
  · simp only [along_x]
    ring
  · simp only [along_y]
    ring

theorem distance2_along_along (s : Segment ℝ) (k l : ℝ) :
    (s.along k).distance2 (s.along l) = (l - k) ^ 2 * s.a.distance2 s.b := by
  simp only [Point.distance2_eq, along_x, along_y]
  ring

theorem distance2_a_along (s : Segment ℝ) (k : ℝ) :
    s.a.distance2 (s.along k) = k ^ 2 * s.a.distance2 s.b := by
  have h := s.distance2_along_along 0 k
  rwa [along_zero, sub_zero] at h

theorem distance2_a_le (h : v ∈ s.points) : s.a.distance2 v ≤ s.a.distance2 s.b := by
  obtain ⟨k, ⟨h0, h1⟩, rfl⟩ := h
  rw [distance2_a_along]
  exact mul_le_of_le_one_left (Point.distance2_nonneg _ _) (pow_le_one₀ h0 h1)

/-- Only the far end of a segment is as far away as it. -/
theorem eq_b_of_distance2_le (h : v ∈ s.points) (hle : s.a.distance2 s.b ≤ s.a.distance2 v) :
    v = s.b := by
  obtain ⟨k, ⟨h0, h1⟩, rfl⟩ := h
  rw [distance2_a_along] at hle
  rcases h1.eq_or_lt with rfl | h1
  · exact s.along_one
  · have hsq : k ^ 2 < 1 := by nlinarith
    have hzero : s.a.distance2 s.b = 0 := by nlinarith [Point.distance2_nonneg s.a s.b]
    rw [Point.distance2_eq_zero_iff] at hzero
    ext
    · rw [along_x, hzero]
      ring
    · rw [along_y, hzero]
      ring

end Segment

namespace Outline

variable {o : Outline ℝ} {p q u v : Point ℝ}

/-! ## Borders and regions -/

/-- The points on the edges. -/
def border (o : Outline ℝ) : Set (Point ℝ) := {v | ∃ e ∈ o.edges, v ∈ e.points}

/-- The points from which some ray misses the corners and meets an odd number of edges. -/
def interior (o : Outline ℝ) : Set (Point ℝ) :=
  {p | ∃ u, u ≠ ⟨0, 0⟩ ∧ (∀ v ∈ o, v ∉ p.ray u) ∧ Odd (o.meetings (p.ray u))}

/-- The border together with the interior by the even-odd rule. -/
def region (o : Outline ℝ) : Set (Point ℝ) := o.border ∪ o.interior

theorem border_subset_region (o : Outline ℝ) : o.border ⊆ o.region := Set.subset_union_left

theorem corner_mem_border (h : v ∈ o) : v ∈ o.border := by
  obtain ⟨e, he, rfl⟩ := exists_edge h
  exact ⟨e, he, e.a_mem⟩

/-! ## Rays -/

/-- Beyond all corners, in any direction, an even number of edges passes to the right. -/
theorem even_passes_of_beyond (h : ∀ v ∈ o, u.dot (v - q) < 0) :
    Even (o.edges.countP (passesRight q)) := by
  have hlevel : ∀ e ∈ o.edges, ¬(q.y < e.a.y ↔ q.y < e.b.y) →
      ∃ x, u.x * (x - q.x) < 0 ∧ (passesRight q e = true ↔ q.x < x) := by
    intro e he hiff
    obtain ⟨ha, hb⟩ := mem_of_mem_edges he
    obtain ⟨k, hk, hky, hpass⟩ := Segment.exists_level hiff
    refine ⟨(e.along k).x, ?_, hpass⟩
    have hdot := Segment.dot_lt_of_mem (h _ ha) (h _ hb) ⟨k, hk, rfl⟩
    rwa [Point.dot, Point.sub_y, hky, sub_self, mul_zero, add_zero] at hdot
  rcases le_or_gt 0 u.x with hu | hu
  · have hzero : o.edges.countP (passesRight q) = 0 := by
      rw [List.countP_eq_zero]
      intro e he hpass
      obtain ⟨x, hx, hiff⟩ := hlevel e he (Segment.passesRight_iff.1 hpass).1
      have := hiff.1 hpass
      nlinarith
    exact hzero ▸ Even.zero
  · have hchange := even_countP_change (fun v => decide (q.y < v.y)) o
    have hcount : (o.edges.countP fun e => decide (q.y < e.a.y) != decide (q.y < e.b.y)) =
        o.edges.countP (passesRight q) := by
      apply List.countP_congr
      intro e he
      rw [bne_iff_ne, ne_eq, decide_eq_decide]
      constructor
      · intro hiff
        obtain ⟨x, hx, hpass⟩ := hlevel e he hiff
        exact hpass.2 (by nlinarith)
      · intro hpass
        exact (Segment.passesRight_iff.1 hpass).1
    rwa [hcount] at hchange

/-- Along a ray one comes beyond all corners. -/
theorem exists_beyond (o : Outline ℝ) (p : Point ℝ) (hu : u ≠ ⟨0, 0⟩) :
    ∃ k, 0 < k ∧ ∀ v ∈ o, u.dot (v - p) < u.dot u * k := by
  have hpos : 0 < u.dot u := by
    rw [Point.dot]
    by_contra hle
    have hx : u.x = 0 := by nlinarith [mul_self_nonneg u.x, mul_self_nonneg u.y]
    have hy : u.y = 0 := by nlinarith [mul_self_nonneg u.x, mul_self_nonneg u.y]
    exact hu (Point.ext hx hy)
  obtain ⟨c, hc⟩ := ((List.finite_toSet o).image fun v => u.dot (v - p)).bddAbove
  refine ⟨(|c| + 1) / u.dot u, by positivity, ?_⟩
  intro v hv
  rw [mul_div_cancel₀ _ hpos.ne']
  have hle : u.dot (v - p) ≤ c := hc ⟨v, hv, rfl⟩
  linarith [le_abs_self c]

/-- A ray that misses the corners meets as many edges, up to parity, as pass to the right. -/
theorem even_meetings_ray (hp : p ∉ o.border) (hu : u ≠ ⟨0, 0⟩) (hray : ∀ v ∈ o, v ∉ p.ray u) :
    Even (o.meetings (p.ray u)) ↔ Even (o.edges.countP (passesRight p)) := by
  obtain ⟨t, ht, hbeyond⟩ := exists_beyond o p hu
  -- The part of the ray up to a point beyond all corners meets the same edges.
  have hmeet : o.meetings (Segment.points ⟨p, p + u.scale t⟩) = o.meetings (p.ray u) := by
    apply meetings_congr
    intro e he
    obtain ⟨ha, hb⟩ := mem_of_mem_edges he
    exact Segment.meets_ray_iff ht (hbeyond _ ha) (hbeyond _ hb)
  have hapart : ∀ e ∈ o.edges, Segment.Apart ⟨p, p + u.scale t⟩ e := by
    intro e he
    obtain ⟨ha, hb⟩ := mem_of_mem_edges he
    constructor
    · intro h
      exact hp ⟨e, he, h⟩
    · intro h
      have hdot := Segment.dot_lt_of_mem (hbeyond _ ha) (hbeyond _ hb) h
      rw [Point.dot_add_scale, Point.dot_sub_self, zero_add] at hdot
      exact lt_irrefl _ hdot
    · intro h
      exact hray _ ha (Segment.points_subset_ray ht.le h)
    · intro h
      exact hray _ hb (Segment.points_subset_ray ht.le h)
  have hfar : Even (o.edges.countP (passesRight (p + u.scale t))) := by
    apply even_passes_of_beyond (u := u)
    intro v hv
    rw [Point.dot_sub_add_scale]
    exact sub_neg.2 (hbeyond v hv)
  rw [← hmeet, even_passes hapart, iff_true_right hfar]

/-- Some ray from a point that is not a corner misses all corners. -/
theorem exists_ray (h : p ∉ o) : ∃ u : Point ℝ, u ≠ ⟨0, 0⟩ ∧ ∀ v ∈ o, v ∉ p.ray u := by
  obtain ⟨k, hk⟩ := Infinite.exists_notMem_finset
    (o.map fun v => (v.y - p.y) / (v.x - p.x)).toFinset
  refine ⟨⟨1, k⟩, fun h0 => one_ne_zero (congrArg Point.x h0), ?_⟩
  rintro v hv ⟨l, -, rfl⟩
  rw [List.mem_toFinset] at hk
  by_cases hl : l = 0
  · refine h ?_
    have hsame : p + (⟨1, k⟩ : Point ℝ).scale l = p := by
      ext <;> simp [hl]
    rwa [hsame] at hv
  · refine hk (List.mem_map.2 ⟨_, hv, ?_⟩)
    rw [Point.add_x, Point.add_y, Point.scale_x, Point.scale_y, one_mul, add_sub_cancel_left,
      add_sub_cancel_left, mul_div_cancel_right₀ k hl]

/-- A point is in the region if it is on the border, or if an odd number of edges passes to its
right. -/
theorem mem_region_iff :
    p ∈ o.region ↔ p ∈ o.border ∨ Odd (o.edges.countP (passesRight p)) := by
  by_cases hp : p ∈ o.border
  · exact iff_of_true (.inl hp) (.inl hp)
  · rw [region, Set.mem_union, or_iff_right hp, or_iff_right hp, ← Nat.not_even_iff_odd]
    constructor
    · rintro ⟨u, hu, hray, hodd⟩
      rwa [← even_meetings_ray hp hu hray, Nat.not_even_iff_odd]
    · intro hodd
      obtain ⟨u, hu, hray⟩ := exists_ray fun h => hp (corner_mem_border h)
      rw [← even_meetings_ray hp hu hray, Nat.not_even_iff_odd] at hodd
      exact ⟨u, hu, hray, hodd⟩

/-- Off the border every ray that misses the corners tells whether a point is in the region. -/
theorem odd_meetings_ray_iff (hp : p ∉ o.border) (hu : u ≠ ⟨0, 0⟩)
    (hray : ∀ v ∈ o, v ∉ p.ray u) : Odd (o.meetings (p.ray u)) ↔ p ∈ o.region := by
  rw [mem_region_iff, or_iff_right hp, ← Nat.not_even_iff_odd, even_meetings_ray hp hu hray,
    Nat.not_even_iff_odd]

/-! ## The test for the region -/

/-- An outline of fewer than three corners goes every way back and forth. -/
theorem even_passes_of_length_lt (h : o.length < 3) (p : Point ℝ) :
    Even (o.edges.countP (passesRight p)) := by
  match o, h with
  | [], _ => exact Even.zero
  | [v], _ => simp [edges, passesRight]
  | [v, w], _ =>
    have hback : passesRight p ⟨w, v⟩ = passesRight p ⟨v, w⟩ :=
      Segment.passesRight_reverse p ⟨v, w⟩
    cases hpass : passesRight p ⟨v, w⟩ <;> simp [edges, hback, hpass]

/-- The test finds the points of the region, for outlines of at least three corners. -/
theorem contains_iff : o.contains p = true ↔ 3 ≤ o.length ∧ p ∈ o.region := by
  rw [contains, Bool.and_eq_true, decide_eq_true_iff, mem_region_iff, Bool.or_eq_true,
    List.any_eq_true, beq_iff_eq, ← Nat.odd_iff]
  simp only [Segment.covers_iff]
  rfl

/-- A point of the region that the test misses is on the border. -/
theorem mem_border_of_not_contains (h : ¬o.contains p = true) (hp : p ∈ o.region) :
    p ∈ o.border := by
  rw [contains_iff, not_and] at h
  have hlt : o.length < 3 := by
    by_contra hle
    exact h (not_lt.1 hle) hp
  rw [mem_region_iff] at hp
  exact hp.resolve_right (Nat.not_odd_iff_even.2 (even_passes_of_length_lt hlt p))

/-! ## Ways across the border -/

/-- A way from a point of the region to a point outside meets the border. -/
theorem exists_mem_border (hp : p ∈ o.region) (hq : q ∉ o.region) :
    ∃ v ∈ Segment.points ⟨p, q⟩, v ∈ o.border := by
  by_contra hnone
  have hclear : ∀ v ∈ Segment.points ⟨p, q⟩, v ∉ o.border := fun v hv hb => hnone ⟨v, hv, hb⟩
  have hp' : p ∉ o.border := hclear p (Segment.a_mem _)
  have hq' : q ∉ o.border := hclear q (Segment.b_mem _)
  have hapart : ∀ e ∈ o.edges, Segment.Apart ⟨p, q⟩ e := by
    intro e he
    exact ⟨fun h => hp' ⟨e, he, h⟩, fun h => hq' ⟨e, he, h⟩, fun h => hclear _ h ⟨e, he, e.a_mem⟩,
      fun h => hclear _ h ⟨e, he, e.b_mem⟩⟩
  have hmeet : o.meetings (Segment.points ⟨p, q⟩) = 0 := by
    refine meetings_eq_zero ?_
    rintro e he ⟨v, hv, hve⟩
    exact hclear v hv ⟨e, he, hve⟩
  have hpass := even_passes hapart
  rw [hmeet, iff_true_left Even.zero] at hpass
  rw [mem_region_iff, or_iff_right hp', ← Nat.not_even_iff_odd] at hp
  rw [mem_region_iff, or_iff_right hq', ← Nat.not_even_iff_odd, not_not] at hq
  exact hp (hpass.2 hq)

/-- Seen from outside, no point of a region is closer than the border. -/
theorem exists_mem_border_le (hp : p ∉ o.region) (hq : q ∈ o.region) :
    ∃ v ∈ o.border, v ∈ Segment.points ⟨p, q⟩ ∧ p.distance2 v ≤ p.distance2 q := by
  obtain ⟨v, hv, hb⟩ := exists_mem_border hq hp
  have hv' : v ∈ Segment.points ⟨p, q⟩ := Segment.reverse_points ⟨p, q⟩ ▸ hv
  exact ⟨v, hb, hv', Segment.distance2_a_le hv'⟩

end Outline

end Ratsnest
